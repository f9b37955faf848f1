import SexprQuery.Pattern.Positional

/-!
# Siblings

A sibling pattern asks for two slots in order, and the look for them can be read as a
statement about positions (`Pattern.hasPair_iff`): `i < j`, at least `gap` places apart,
the first with what the subject asks for and the second with what the follower asks for.

The other facts come from there. The test by listed positions gives the same answer and
always gives one (`Pattern.pairByPositions?_eq`): the unsigned difference of two
positions is formed only where the second is the larger one.
-/

namespace SexprQuery.Pattern

/-! ## Pairs of slots -/

section
variable {first second : Datum → Bool}

/-- Two positions of a row of slots that a pair may stand at: in order, at least `gap`
places apart, and each with a slot that passes its test. -/
def IsPair (first second : Datum → Bool) (gap : Nat) (slots : List Datum) (i j : Nat) : Prop :=
  i < j ∧ gap ≤ j - i ∧ (∃ d, slots[i]? = some d ∧ first d = true) ∧
    ∃ e, slots[j]? = some e ∧ second e = true

/-- Some slot from position `k` on passes a test. -/
theorem any_drop_iff (test : Datum → Bool) (k : Nat) (slots : List Datum) :
    (slots.drop k).any test = true ↔ ∃ j e, k ≤ j ∧ slots[j]? = some e ∧ test e = true := by
  rw [List.any_eq_true]
  constructor
  · rintro ⟨e, he, htest⟩
    obtain ⟨j, hj⟩ := List.mem_iff_getElem?.mp he
    rw [List.getElem?_drop] at hj
    exact ⟨k + j, e, by omega, hj, htest⟩
  · rintro ⟨j, e, hk, hj, htest⟩
    refine ⟨e, List.mem_iff_getElem?.mpr ⟨j - k, ?_⟩, htest⟩
    rw [List.getElem?_drop, show k + (j - k) = j by omega]
    exact hj

/-- A pair is found exactly if there are two positions for it. -/
theorem hasPair_iff (gap : Nat) (slots : List Datum) :
    hasPair first second gap slots = true ↔ ∃ i j, IsPair first second gap slots i j := by
  induction slots with
  | nil =>
    constructor
    · rintro ⟨⟩
    · rintro ⟨i, j, -, -, ⟨d, hd, -⟩, -⟩
      simp at hd
  | cons d ds ih =>
    rw [hasPair, Bool.or_eq_true, Bool.and_eq_true, any_drop_iff, ih]
    constructor
    · rintro (⟨hfirst, j, e, hk, hj, hsecond⟩ | ⟨i, j, hlt, hgap, ⟨c, hi, hfirst⟩, e, hj, hsecond⟩)
      · -- the pair begins at the front slot
        exact ⟨0, j + 1, by omega, by omega, ⟨d, rfl, hfirst⟩, e, hj, hsecond⟩
      · exact ⟨i + 1, j + 1, by omega, by omega, ⟨c, hi, hfirst⟩, e, hj, hsecond⟩
    · rintro ⟨i, j, hlt, hgap, ⟨c, hi, hfirst⟩, e, hj, hsecond⟩
      obtain ⟨k, rfl⟩ : ∃ k, j = k + 1 := ⟨j - 1, by omega⟩
      rw [List.getElem?_cons_succ] at hj
      cases i with
      | zero =>
        cases hi
        exact .inl ⟨hfirst, k, e, by omega, hj, hsecond⟩
      | succ i =>
        rw [List.getElem?_cons_succ] at hi
        exact .inr ⟨i, k, by omega, by omega, ⟨c, hi, hfirst⟩, e, hj, hsecond⟩

/-- A slot that is put into a row moves the slots behind it by one and no other. -/
theorem getElem?_insert (front back : List Datum) (x : Datum) (i : Nat) :
    (front ++ x :: back)[if i < front.length then i else i + 1]? = (front ++ back)[i]? := by
  split
  · next h => rw [List.getElem?_append_left h, List.getElem?_append_left h]
  · next h =>
    rw [List.getElem?_append_right (by omega), List.getElem?_append_right (by omega),
      show i + 1 - front.length = (i - front.length) + 1 by omega, List.getElem?_cons_succ]

/-- A pair is still one when a slot is put in anywhere: its positions do not come closer
to each other. -/
theorem IsPair.insert {gap i j : Nat} {front back : List Datum}
    (h : IsPair first second gap (front ++ back) i j) (x : Datum) :
    ∃ i' j', IsPair first second gap (front ++ x :: back) i' j' := by
  obtain ⟨hlt, hgap, ⟨d, hi, hfirst⟩, e, hj, hsecond⟩ := h
  refine ⟨if i < front.length then i else i + 1, if j < front.length then j else j + 1, ?_, ?_,
    ⟨d, (getElem?_insert front back x i).trans hi, hfirst⟩,
    e, (getElem?_insert front back x j).trans hj, hsecond⟩
  all_goals split <;> split <;> omega

/-! ## The test by positions -/

theorem mem_positions (test : Datum → Bool) (slots : List Datum) (i : Nat) :
    i ∈ positions test slots ↔ ∃ d, slots[i]? = some d ∧ test d = true := by
  rw [positions, List.mem_map]
  constructor
  · rintro ⟨⟨d, _⟩, hslot, rfl⟩
    obtain ⟨hmem, htest⟩ := List.mem_filter.mp hslot
    exact ⟨d, List.mem_zipIdx_iff_getElem?.mp hmem, htest⟩
  · rintro ⟨d, hi, htest⟩
    exact ⟨(d, i), List.mem_filter.mpr ⟨List.mem_zipIdx_iff_getElem?.mpr hi, htest⟩, rfl⟩

/-- The comparison with the gap has an answer, since it forms a difference only behind
the check that there is one. -/
theorem isBehind?_eq (gap i j : Nat) :
    isBehind? gap i j = some (decide (i < j ∧ gap ≤ j - i)) := by
  unfold isBehind? distance?
  by_cases hlt : i < j
  · rw [if_pos hlt, if_pos (Nat.le_of_lt hlt), Option.map_some, decide_eq_decide.mpr]
    exact (and_iff_right hlt).symm
  · rw [if_neg hlt, decide_eq_false fun h => hlt h.1]

theorem anyM_eq_some_any {α : Type} {test : α → Option Bool} {answer : α → Bool}
    (h : ∀ a, test a = some (answer a)) (as : List α) :
    as.anyM test = some (as.any answer) := by
  induction as with
  | nil => rfl
  | cons a as ih =>
    rw [List.anyM, h a, List.any_cons]
    cases answer a with
    | true => rfl
    | false => exact ih

/-- **By positions.** The test that lists the positions of both sides and compares their
differences always has an answer, which is the one of `hasPair`. -/
theorem pairByPositions?_eq (first second : Datum → Bool) (gap : Nat) (slots : List Datum) :
    pairByPositions? first second gap slots = some (hasPair first second gap slots) := by
  have hpairs : ((positions first slots).any fun i => (positions second slots).any fun j =>
      decide (i < j ∧ gap ≤ j - i)) = hasPair first second gap slots := by
    rw [Bool.eq_iff_iff, hasPair_iff]
    simp only [List.any_eq_true, decide_eq_true_eq, mem_positions]
    constructor
    · rintro ⟨i, hfirst, j, hsecond, hlt, hgap⟩
      exact ⟨i, j, hlt, hgap, hfirst, hsecond⟩
    · rintro ⟨i, j, hlt, hgap, hfirst, hsecond⟩
      exact ⟨i, hfirst, j, hsecond, hlt, hgap⟩
  rw [pairByPositions?]
  by_cases hempty : (positions first slots).isEmpty = true
  · rw [if_pos hempty, ← hpairs, List.isEmpty_iff.mp hempty]
    rfl
  · rw [if_neg hempty, ← hpairs]
    exact anyM_eq_some_any
      (fun i => anyM_eq_some_any (fun j => isBehind?_eq gap i j) (positions second slots)) _

end

/-! ## What sibling patterns are satisfied by -/

/-- A sibling pattern looks at the slots of a list, and an atom has none. -/
theorem satisfies_sibling_iff (a b : Pattern) (gap : Nat) (d : Datum) :
    (sibling a b gap).satisfies d = true ↔
      ∃ i j, IsPair a.satisfies b.satisfies gap d.slots i j := by
  rw [satisfies, hasPair_iff]

/-- **Siblings.** A sibling pattern is satisfied by the lists with positions `i < j` at
least `gap` places apart, of which the first has a slot for the subject and the second
one for the follower. So a gap of 0 is one of 1, a larger gap is harder to satisfy, a
list needs more slots than the gap, and a slot that is put in anywhere does not hurt.
The test by positions gives the same answer, and no difference of positions that it forms
is below zero. -/
theorem sibling_laws (a b : Pattern) :
    (∀ gap d, (sibling a b gap).satisfies d = true ↔ ∃ n : Node, d.node? = some n ∧
      ∃ i j x y, i < j ∧ gap ≤ j - i ∧ n.slots[i]? = some x ∧ n.slots[j]? = some y ∧
        a.satisfies x = true ∧ b.satisfies y = true) ∧
    (∀ d, (sibling a b 0).satisfies d = (sibling a b 1).satisfies d) ∧
    (∀ gap gap' d, gap ≤ gap' → (sibling a b gap').satisfies d = true →
      (sibling a b gap).satisfies d = true) ∧
    (∀ gap (n : Node), 1 ≤ gap → n.slots.length ≤ gap →
      (sibling a b gap).satisfiesNode n = false) ∧
    (∀ gap line front back x, (sibling a b gap).satisfiesNode ⟨line, front ++ back⟩ = true →
      (sibling a b gap).satisfiesNode ⟨line, front ++ x :: back⟩ = true) ∧
    ∀ gap (n : Node), pairByPositions? a.satisfies b.satisfies gap n.slots =
      some ((sibling a b gap).satisfiesNode n) := by
  refine ⟨?_, ?_, ?_, ?_, ?_, ?_⟩
  · intro gap d
    rw [satisfies_sibling_iff]
    constructor
    · rintro ⟨i, j, hlt, hgap, ⟨x, hi, hx⟩, y, hj, hy⟩
      cases d with
      | list line slots => exact ⟨⟨line, slots⟩, rfl, i, j, x, y, hlt, hgap, hi, hj, hx, hy⟩
      | _ => simp [Datum.slots] at hi
    · rintro ⟨n, hn, i, j, x, y, hlt, hgap, hi, hj, hx, hy⟩
      cases d with
      | list line slots =>
        cases hn
        exact ⟨i, j, hlt, hgap, ⟨x, hi, hx⟩, y, hj, hy⟩
      | _ => cases hn
  · intro d
    rw [Bool.eq_iff_iff, satisfies_sibling_iff, satisfies_sibling_iff]
    constructor
    · rintro ⟨i, j, hlt, -, hslots⟩
      exact ⟨i, j, hlt, by omega, hslots⟩
    · rintro ⟨i, j, hlt, -, hslots⟩
      exact ⟨i, j, hlt, Nat.zero_le _, hslots⟩
  · intro gap gap' d hle h
    rw [satisfies_sibling_iff] at h ⊢
    obtain ⟨i, j, hlt, hgap, hslots⟩ := h
    exact ⟨i, j, hlt, Nat.le_trans hle hgap, hslots⟩
  · intro gap n hpos hlength
    rw [Bool.eq_false_iff]
    intro h
    obtain ⟨i, j, hlt, hgap, -, y, hj, -⟩ := (satisfies_sibling_iff a b gap n.toDatum).mp h
    -- the second position lies at or behind the gap, so behind the end
    have hbound : j < n.slots.length := (List.getElem?_eq_some_iff.mp hj).1
    omega
  · intro gap line front back x h
    obtain ⟨i, j, hpair⟩ := (satisfies_sibling_iff a b gap _).mp h
    exact (satisfies_sibling_iff a b gap _).mpr (hpair.insert x)
  · intro gap n
    exact pairByPositions?_eq a.satisfies b.satisfies gap n.slots

/-- One slot stands for both sides of other pairs, and a slot put between them is no
harm. -/
theorem sibling_laws_same_slot :
    let p : Pattern := sibling .atom .atom 2
    let slots : List Datum := [.sym "a", .sym "b", .sym "c"]
    1 ≤ 2 ∧ 2 ≤ 2 ∧ p.satisfiesNode ⟨none, [.sym "a", .sym "b"] ++ [.sym "c"]⟩ = true ∧
      (sibling .atom .atom 1).satisfiesNode ⟨none, slots⟩ = true ∧
      p.satisfiesNode ⟨none, [.sym "a", .sym "b"]⟩ = false ∧
      p.satisfiesNode ⟨none, [.sym "a", .sym "b"] ++ .list none [] :: [.sym "c"]⟩ = true := by
  intro p slots
  obtain ⟨-, -, hless, hshort, hinsert, -⟩ := sibling_laws .atom .atom
  have hfound : p.satisfiesNode ⟨none, [.sym "a", .sym "b"] ++ [.sym "c"]⟩ = true := by decide
  refine ⟨by decide, by decide, hfound, hless 1 2 _ (by decide) hfound,
    hshort 2 _ (by decide) (by decide), hinsert 2 none _ _ _ hfound⟩

end SexprQuery.Pattern
