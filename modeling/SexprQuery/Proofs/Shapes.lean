import SexprQuery.Pattern.Positional
import SexprQuery.Proofs.PatternMeaning

/-!
# How many slots a shape takes

A shape is tested by going through its elements and the slots together
(`Pattern.fits`), and only a `remaining` at the very end stops that. The laws about
counts follow from the other way to put the test (`Pattern.fits_eq_fitsByCount`): the
last element decides how many slots there must be, and in front of it elements and slots
pair up. Pairing up ends silently with the shorter side (`List.zip`), which is why the
count has to be asked for.
-/

namespace SexprQuery

namespace Pattern

/-! ## Pairing up -/

theorem pairsUp_cons_cons (p : Pattern) (ps : List Pattern) (d : Datum) (ds : List Datum) :
    pairsUp (p :: ps) (d :: ds) = (p.satisfies d && pairsUp ps ds) := rfl

theorem pairsUp_nil (ps : List Pattern) : pairsUp ps [] = true := by
  cases ps <;> rfl

/-- Elements in two parts pair up with the slots in front and those behind. -/
theorem pairsUp_append (ps qs : List Pattern) (ds : List Datum) :
    pairsUp (ps ++ qs) ds = (pairsUp ps ds && pairsUp qs (ds.drop ps.length)) := by
  induction ps generalizing ds with
  | nil => exact (Bool.true_and _).symm
  | cons p ps ih =>
    cases ds with
    | nil => simp [pairsUp_nil]
    | cons d ds =>
      rw [List.cons_append, pairsUp_cons_cons, pairsUp_cons_cons, ih, Bool.and_assoc]
      rfl

/-- Slots that no element is left for do not matter. -/
theorem pairsUp_append_slots {ps : List Pattern} {ds : List Datum} (h : ps.length ≤ ds.length)
    (more : List Datum) : pairsUp ps (ds ++ more) = pairsUp ps ds := by
  induction ps generalizing ds with
  | nil => rfl
  | cons p ps ih =>
    cases ds with
    | nil => simp at h
    | cons d ds =>
      rw [List.cons_append, pairsUp_cons_cons, pairsUp_cons_cons, ih (Nat.le_of_succ_le_succ h)]

theorem pairsUp_replicate_wild (k : Nat) (ds : List Datum) :
    pairsUp (List.replicate k .wild) ds = true := by
  induction k generalizing ds with
  | zero => rfl
  | succ k ih =>
    cases ds with
    | nil => exact pairsUp_nil _
    | cons d ds =>
      rw [List.replicate_succ, pairsUp_cons_cons, ih]
      rfl

/-! ## Open ends -/

theorem isOpenEnded_iff (es : List Pattern) :
    isOpenEnded es = true ↔ es.getLast? = some .remaining := by
  unfold isOpenEnded
  split
  · next h => simp [h]
  · next h => exact ⟨fun hfalse => absurd hfalse Bool.false_ne_true, fun hlast => absurd hlast h⟩

theorem isOpenEnded_append_singleton (es : List Pattern) (p : Pattern) :
    isOpenEnded (es ++ [p]) = true ↔ p = .remaining := by
  rw [isOpenEnded_iff, List.getLast?_concat, Option.some.injEq]

/-- The last element is the same whatever stands in front of it. -/
theorem isOpenEnded_append {ps : List Pattern} (hps : ps ≠ []) (es : List Pattern) :
    isOpenEnded (es ++ ps) = isOpenEnded ps := by
  obtain ⟨front, p, rfl⟩ := (List.eq_nil_or_concat ps).resolve_left hps
  rw [List.concat_eq_append, ← List.append_assoc, Bool.eq_iff_iff, isOpenEnded_append_singleton,
    isOpenEnded_append_singleton]

theorem isGreedy_shape (es : List Pattern) : (shape es).isGreedy = isOpenEnded es := rfl

/-- An open end takes any number of slots. -/
theorem fits_append_remaining (es : List Pattern) (ds : List Datum) :
    fits (es ++ [.remaining]) ds = (decide (es.length ≤ ds.length) && pairsUp es ds) := by
  induction es generalizing ds with
  | nil => simp [fits, pairsUp]
  | cons e es ih =>
    have hmore : e = .remaining → es ++ [Pattern.remaining] ≠ [] := fun _ => by simp
    cases ds with
    | nil =>
      rw [List.cons_append, fits_cons_nil hmore]
      rfl
    | cons d ds =>
      rw [List.cons_append, fits_cons_cons hmore, ih, pairsUp_cons_cons, Bool.and_left_comm]
      simp

/-- Without one there is a slot for each element. -/
theorem fits_of_not_isOpenEnded {es : List Pattern} (h : isOpenEnded es = false)
    (ds : List Datum) : fits es ds = (ds.length == es.length && pairsUp es ds) := by
  induction es generalizing ds with
  | nil => cases ds <;> rfl
  | cons e es ih =>
    -- the last element is no `remaining`, so the first is none that stands alone
    have hmore : e = .remaining → es ≠ [] := by
      rintro rfl rfl
      cases h
    cases ds with
    | nil =>
      rw [fits_cons_nil hmore]
      rfl
    | cons d ds =>
      have hrest : isOpenEnded es = false := by
        cases es with
        | nil => rfl
        | cons e' es => rwa [← isOpenEnded_append (List.cons_ne_nil e' es) [e]]
      rw [fits_cons_cons hmore, ih hrest, pairsUp_cons_cons, Bool.and_left_comm]
      simp

/-- **By count.** Going through elements and slots together comes to the same as asking
for the right count first and pairing up then. -/
theorem fits_eq_fitsByCount (es : List Pattern) (ds : List Datum) :
    fits es ds = fitsByCount es ds := by
  cases hopen : isOpenEnded es with
  | false =>
    rw [fits_of_not_isOpenEnded hopen]
    simp only [fitsByCount, hopen, Bool.false_eq_true, if_false, List.take_length]
  | true =>
    obtain ⟨front, rfl⟩ := List.getLast?_eq_some_iff.mp ((isOpenEnded_iff es).mp hopen)
    rw [fits_append_remaining]
    simp [fitsByCount, hopen]

/-! ## Laws of arity -/

/-- A `remaining` in front of other elements is tested like `wild`. -/
theorem fits_remaining_inside {ys : List Pattern} (hys : ys ≠ []) (xs : List Pattern)
    (ds : List Datum) : fits (xs ++ .remaining :: ys) ds = fits (xs ++ .wild :: ys) ds := by
  induction xs generalizing ds with
  | nil =>
    cases ds with
    | nil =>
      rw [List.nil_append, List.nil_append, fits_cons_nil fun _ => hys, fits_cons_nil fun _ => hys]
    | cons d ds =>
      rw [List.nil_append, List.nil_append, fits_cons_cons fun _ => hys,
        fits_cons_cons fun _ => hys]
      rfl
  | cons x xs ih =>
    cases ds with
    | nil =>
      rw [List.cons_append, List.cons_append, fits_cons_nil (by simp), fits_cons_nil (by simp)]
    | cons d ds =>
      rw [List.cons_append, List.cons_append, fits_cons_cons (by simp), fits_cons_cons (by simp),
        ih]

/-- An open end is worth some number of `wild`. -/
theorem fits_append_remaining_iff {es : List Pattern} (h : isOpenEnded es = false)
    (ds : List Datum) : fits (es ++ [.remaining]) ds = true ↔
      ∃ k, fits (es ++ List.replicate k .wild) ds = true := by
  have hclosed : ∀ k, isOpenEnded (es ++ List.replicate k .wild) = false := by
    intro k
    cases k with
    | zero => rwa [List.replicate_zero, List.append_nil]
    | succ k =>
      rw [List.replicate_succ', ← List.append_assoc, Bool.eq_false_iff, Ne,
        isOpenEnded_append_singleton]
      exact nofun
  have hwild : ∀ k, fits (es ++ List.replicate k .wild) ds =
      (ds.length == es.length + k && pairsUp es ds) := by
    intro k
    rw [fits_of_not_isOpenEnded (hclosed k), pairsUp_append, pairsUp_replicate_wild, Bool.and_true,
      List.length_append, List.length_replicate]
  rw [fits_append_remaining, Bool.and_eq_true, decide_eq_true_eq]
  simp only [hwild, Bool.and_eq_true, beq_iff_eq]
  constructor
  · rintro ⟨hcount, hpairs⟩
    exact ⟨ds.length - es.length, by omega, hpairs⟩
  · rintro ⟨k, hcount, hpairs⟩
    exact ⟨by omega, hpairs⟩

theorem fits_append_slots {es : List Pattern} (hopen : isOpenEnded es = true) {ds : List Datum}
    (h : fits es ds = true) (more : List Datum) : fits es (ds ++ more) = true := by
  obtain ⟨front, rfl⟩ := List.getLast?_eq_some_iff.mp ((isOpenEnded_iff es).mp hopen)
  rw [fits_append_remaining, Bool.and_eq_true, decide_eq_true_eq] at h ⊢
  obtain ⟨hcount, hpairs⟩ := h
  rw [List.length_append]
  exact ⟨by omega, (pairsUp_append_slots hcount more).trans hpairs⟩

theorem length_eq_of_fits {es : List Pattern} (hopen : isOpenEnded es = false) {ds : List Datum}
    (h : fits es ds = true) : ds.length = es.length := by
  rw [fits_of_not_isOpenEnded hopen, Bool.and_eq_true, beq_iff_eq] at h
  exact h.1

end Pattern

/-! ## Data spelled out -/

namespace Datum

mutual
/-- A pattern that asks for a datum slot by slot, down to parts of it that are compared
as a whole. Each list in the datum may be spelled out or not. -/
inductive SpelledOut : Datum → Pattern → Prop
  | whole (value : Datum) : SpelledOut value (.equals value)
  | shape (line : Option Nat) {values : List Datum} {elements : List Pattern} :
      SlotsSpelledOut values elements → SpelledOut (.list line values) (.shape elements)

/-- The same for a row of slots. -/
inductive SlotsSpelledOut : List Datum → List Pattern → Prop
  | nil : SlotsSpelledOut [] []
  | cons {value : Datum} {element : Pattern} {values : List Datum} {elements : List Pattern} :
      SpelledOut value element → SlotsSpelledOut values elements →
        SlotsSpelledOut (value :: values) (element :: elements)
end

theorem SpelledOut.ne_remaining {value : Datum} {p : Pattern} (h : SpelledOut value p) :
    p ≠ .remaining := by
  cases h <;> exact nofun

mutual
/-- Spelled out or not, a datum is asked for by equality. -/
theorem SpelledOut.satisfies_eq {value : Datum} {p : Pattern} (h : SpelledOut value p)
    (d : Datum) : p.satisfies d = (d == value) := by
  cases h with
  | whole => rfl
  | shape line hslots =>
    cases d with
    | list l ds => exact hslots.fits_eq ds
    | _ => rfl

theorem SlotsSpelledOut.fits_eq {values : List Datum} {ps : List Pattern}
    (h : SlotsSpelledOut values ps) (ds : List Datum) :
    Pattern.fits ps ds = beqSlots ds values := by
  cases h with
  | nil => cases ds <;> rfl
  | @cons value element values elements hvalue hvalues =>
    -- no element of a datum is a `remaining`, so the shape is never open
    have hfront : element = .remaining → elements ≠ [] := fun hp => absurd hp hvalue.ne_remaining
    cases ds with
    | nil =>
      rw [Pattern.fits_cons_nil hfront]
      rfl
    | cons d ds =>
      rw [Pattern.fits_cons_cons hfront, hvalue.satisfies_eq d, hvalues.fits_eq ds]
      rfl
end

/-- One level spelled out. -/
theorem slotsSpelledOut_map_equals (values : List Datum) :
    SlotsSpelledOut values (values.map .equals) := by
  induction values with
  | nil => exact .nil
  | cons value values ih => exact .cons (.whole value) ih

mutual
/-- All levels spelled out. -/
theorem spelledOut_structural (value : Datum) : SpelledOut value value.structural := by
  cases value with
  | list line slots => exact .shape line (slotsSpelledOut_structural slots)
  | _ => exact .whole _
termination_by structural value

theorem slotsSpelledOut_structural (values : List Datum) :
    SlotsSpelledOut values (slotsStructural values) := by
  cases values with
  | nil => exact .nil
  | cons value values =>
    exact .cons (spelledOut_structural value) (slotsSpelledOut_structural values)
termination_by structural values
end

end Datum

/-- **Arity.** A shape with `remaining` at its end is satisfied where the same shape is
with some number of `wild` in that place. Anywhere else, `remaining` is tested like
`wild`. A shape that is greedy keeps being satisfied when slots are put behind, and one
that is not asks for as many slots as it has elements. A list that a datum is compared
with may be spelled out slot by slot, at one level, at all of them or at any. -/
theorem Pattern.shape_laws :
    (∀ es : List Pattern, es.getLast? ≠ some .remaining → ∀ d,
      (shape (es ++ [.remaining])).satisfies d = true ↔
        ∃ k, (shape (es ++ List.replicate k .wild)).satisfies d = true) ∧
    (∀ xs ys : List Pattern, ys ≠ [] → ∀ d,
      (shape (xs ++ .remaining :: ys)).satisfies d = (shape (xs ++ .wild :: ys)).satisfies d) ∧
    (∀ es : List Pattern, (shape es).isGreedy = true → ∀ (n : Node) (more : List Datum),
      (shape es).satisfiesNode n = true →
        (shape es).satisfiesNode { n with slots := n.slots ++ more } = true) ∧
    (∀ es : List Pattern, (shape es).isGreedy = false → ∀ n : Node,
      (shape es).satisfiesNode n = true → n.slots.length = es.length) ∧
    (∀ (line : Option Nat) (slots : List Datum) (d : Datum),
      (shape (slots.map equals)).satisfies d = (equals (.list line slots)).satisfies d) ∧
    (∀ value d : Datum, value.structural.satisfies d = (equals value).satisfies d) ∧
    (∀ (value : Datum) (p : Pattern), value.SpelledOut p →
      ∀ d, p.satisfies d = (equals value).satisfies d) ∧
    ∀ (es : List Pattern) (n : Node), (shape es).satisfiesNode n = fitsByCount es n.slots := by
  refine ⟨?_, ?_, ?_, ?_, ?_, ?_, fun value p h d => h.satisfies_eq d, ?_⟩
  · intro es hlast d
    have hclosed : isOpenEnded es = false := by
      rw [Bool.eq_false_iff, Ne, isOpenEnded_iff]
      exact hlast
    simp only [satisfies, Bool.and_eq_true, exists_and_left]
    exact and_congr_right fun _ => fits_append_remaining_iff hclosed d.slots
  · intro xs ys hys d
    rw [satisfies, satisfies, fits_remaining_inside hys]
  · intro es hgreedy n more h
    rw [isGreedy_shape] at hgreedy
    exact fits_append_slots hgreedy h more
  · intro es hgreedy n h
    rw [isGreedy_shape] at hgreedy
    exact length_eq_of_fits hgreedy h
  · intro line slots d
    exact (Datum.SpelledOut.shape line (Datum.slotsSpelledOut_map_equals slots)).satisfies_eq d
  · intro value d
    exact (Datum.spelledOut_structural value).satisfies_eq d
  · intro es n
    exact fits_eq_fitsByCount es n.slots

/-- Two `remaining`, of which only the second is open, and a list that is spelled out at
its second level only. -/
theorem Pattern.shape_laws_two_remaining :
    let a : Pattern := equals (.sym "a")
    let slots : List Datum := [.sym "a", .nil, .int 3]
    let nested : Datum := .list none [.nil, .list none [.sym "a"]]
    (∃ k, (shape ([a, .wild] ++ List.replicate k .wild)).satisfies (.list none slots) = true) ∧
      (shape [a, .remaining, .remaining]).satisfies (.list none slots) =
        (shape [a, .wild, .remaining]).satisfies (.list none slots) ∧
      (shape [a, .remaining, .remaining]).satisfiesNode ⟨none, slots ++ slots⟩ = true ∧
      slots.length = [a, .remaining, .wild].length ∧
      (shape [.equals .nil, .shape [a]]).satisfies nested = (equals nested).satisfies nested := by
  intro a slots nested
  obtain ⟨hopen, hinside, hmore, hcount, -, -, hspelled, -⟩ := Pattern.shape_laws
  have hlast : [a, .wild].getLast? ≠ some Pattern.remaining := nofun
  have hfound : (shape ([a, .wild] ++ [.remaining])).satisfies (.list none slots) = true := by
    decide
  have hout : nested.SpelledOut (.shape [.equals .nil, .shape [a]]) :=
    .shape none (.cons (.whole .nil) (.cons (.shape none (.cons (.whole (.sym "a")) .nil)) .nil))
  refine ⟨(hopen [a, .wild] hlast _).mp hfound, hinside [a] [.remaining] (List.cons_ne_nil _ _) _,
    ?_, ?_, hspelled nested _ hout nested⟩
  · exact hmore [a, .remaining, .remaining] rfl ⟨none, slots⟩ slots (by decide)
  · exact hcount [a, .remaining, .wild] rfl ⟨none, slots⟩ (by decide)

end SexprQuery
