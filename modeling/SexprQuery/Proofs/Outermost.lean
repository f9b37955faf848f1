import SexprQuery.Search.Substitute
import SexprQuery.Proofs.Walk

/-!
# Outermost matches

`Node.outermost` filters the walk of a tree and compares every match with the last one
that it kept. `Datum.selected` finds nodes by recursion from the top and does not look
into a node that it has found. Both give the same nodes, and these are pinned down by
`Node.IsOutermost` and by the order of their paths.

* `outermostAfter_walkFrom` — the matches that are kept, found by recursion;
* `Node.mem_outermost` — a match is kept exactly if no other one lies around it;
* `Node.outermost_pairwise` — the kept paths increase.
-/

namespace SexprQuery

/-- A node that satisfies the pattern and lies in no other one that does. -/
structure Node.IsOutermost (n : Node) (p : Pattern) (q : Path) (m : Node) : Prop where
  located : n.at? q = some m
  satisfied : p.satisfiesNode m = true
  exposed : ∀ r k, r <+: q → r ≠ q → n.at? r = some k → p.satisfiesNode k = false

/-! ## The selected nodes -/

mutual
/-- The nodes that a walk from the top selects. -/
def Datum.selected (selects : Path → Node → Bool) : Path → Datum → List (Path × Node)
  | q, .list line slots =>
    if selects q ⟨line, slots⟩ then [(q, ⟨line, slots⟩)] else slotsSelected selects q 0 slots
  | _, _ => []
termination_by structural _ d => d

/-- The same for a row of slots that are numbered from `i`. -/
def slotsSelected (selects : Path → Node → Bool) : Path → Nat → List Datum → List (Path × Node)
  | _, _, [] => []
  | q, i, d :: ds => d.selected selects (q ++ [i]) ++ slotsSelected selects q (i + 1) ds
termination_by structural _ _ ds => ds
end

mutual
/-- A node is selected if it passes and no node above it does. -/
theorem Datum.mem_selected (selects : Path → Node → Bool) (q : Path) (d : Datum) (r : Path)
    (m : Node) :
    (r, m) ∈ d.selected selects q ↔
      ∃ p, r = q ++ p ∧ d.at? p = some m ∧ selects r m = true ∧
        ∀ u k, u <+: p → u ≠ p → d.at? u = some k → selects (q ++ u) k = false := by
  cases d with
  | list line slots =>
    rw [Datum.selected]
    by_cases hs : selects q ⟨line, slots⟩ = true
    · rw [if_pos hs, List.mem_singleton]
      constructor
      · intro h
        cases h
        refine ⟨[], by simp, rfl, hs, ?_⟩
        intro u k hu hne
        exact absurd (List.prefix_nil.mp hu) hne
      · rintro ⟨_ | ⟨i, p⟩, rfl, hp, -, habove⟩
        · cases hp
          rw [List.append_nil]
        · have := habove [] ⟨line, slots⟩ List.nil_prefix (List.cons_ne_nil i p).symm rfl
          rw [List.append_nil, hs] at this
          cases this
    · rw [if_neg hs, slotsMem_selected selects q 0 slots]
      constructor
      · rintro ⟨j, p, d, rfl, hd, hp, hsel, habove⟩
        rw [Nat.zero_add] at hsel habove ⊢
        refine ⟨j :: p, rfl, by simp [hd, hp], hsel, ?_⟩
        rintro (_ | ⟨i, u⟩) k hu hne hk
        · cases hk
          rw [List.append_nil]
          exact Bool.eq_false_iff.mpr hs
        · obtain ⟨rfl, hup⟩ := List.cons_prefix_cons.mp hu
          rw [Datum.at?_cons_list, hd] at hk
          exact habove u k hup (fun h => hne (by rw [h])) hk
      · rintro ⟨_ | ⟨j, p⟩, rfl, hp, hsel, habove⟩
        · cases hp
          rw [List.append_nil] at hsel
          exact absurd hsel hs
        · obtain ⟨d, hd, hp⟩ := Option.bind_eq_some_iff.mp hp
          refine ⟨j, p, d, by simp, hd, hp, hsel, ?_⟩
          intro u k hu hne hk
          rw [Nat.zero_add]
          refine habove (j :: u) k (List.cons_prefix_cons.mpr ⟨rfl, hu⟩) ?_ (by simp [hd, hk])
          exact fun h => hne (List.cons.inj h).2
  | _ =>
    simp only [Datum.selected, List.not_mem_nil, false_iff, not_exists, not_and]
    rintro p _ h
    exact absurd (Datum.isList_of_at? h) (by simp [Datum.isList])
termination_by structural d

/-- The same for a row of slots. -/
theorem slotsMem_selected (selects : Path → Node → Bool) (q : Path) (i : Nat)
    (ds : List Datum) (r : Path) (m : Node) :
    (r, m) ∈ slotsSelected selects q i ds ↔
      ∃ j p d, r = q ++ (i + j) :: p ∧ ds[j]? = some d ∧ d.at? p = some m ∧
        selects r m = true ∧
        ∀ u k, u <+: p → u ≠ p → d.at? u = some k → selects (q ++ (i + j) :: u) k = false := by
  cases ds with
  | nil => simp [slotsSelected]
  | cons d ds =>
    rw [slotsSelected, List.mem_append, Datum.mem_selected selects (q ++ [i]) d,
      slotsMem_selected selects q (i + 1) ds]
    simp only [List.append_assoc, List.singleton_append]
    constructor
    · rintro (⟨p, rfl, h⟩ | ⟨j, p, e, rfl, he, h⟩)
      · exact ⟨0, p, d, rfl, by simp, h⟩
      · have hj : i + 1 + j = i + (j + 1) := by omega
        rw [hj] at h ⊢
        exact ⟨j + 1, p, e, rfl, by simpa using he, h⟩
    · rintro ⟨_ | j, p, e, rfl, he, h⟩
      · rw [List.getElem?_cons_zero, Option.some.injEq] at he
        subst he
        exact .inl ⟨p, rfl, h⟩
      · have hj : i + (j + 1) = i + 1 + j := by omega
        rw [hj] at h ⊢
        exact .inr ⟨j, p, e, rfl, by simpa using he, h⟩
termination_by structural ds
end

/-! ## The matches that are kept

The walk lists what lies inside a match directly behind it, so comparing with the
last kept match is enough. The invariant is that the last kept path leads to no
node that is still to come. -/

/-- What lies inside the match before is left out. -/
theorem outermostAfter_inside {q : Path} {found : List (Path × Node)}
    (h : ∀ f ∈ found, q <+: f.1) (rest : List (Path × Node)) :
    outermostAfter (some q) (found ++ rest) = outermostAfter (some q) rest := by
  induction found with
  | nil => rfl
  | cons f found ih =>
    have hf : q.isPrefixOf f.1 = true := List.isPrefixOf_iff_prefix.mpr (h f List.mem_cons_self)
    rw [List.cons_append, outermostAfter, Option.any_some, hf, if_pos rfl]
    exact ih fun g hg => h g (List.mem_cons_of_mem f hg)

mutual
/-- From a datum, the matches that are kept are the ones selected from the top. -/
theorem outermostAfter_walkFrom (selects : Path → Node → Bool) (q : Path) (d : Datum)
    (last : Option Path) (rest : List (Path × Node))
    (hlast : ∀ l ∈ last, ∀ r, ¬ l <+: q ++ r) :
    ∃ last', (last' = last ∨ ∃ r, last' = some (q ++ r)) ∧
      outermostAfter last (((walkFrom q d).filter fun f => selects f.1 f.2) ++ rest) =
        d.selected selects q ++ outermostAfter last' rest := by
  cases d with
  | list line slots =>
    have houter : ∀ l ∈ last, ¬ l <+: q := fun l hl h => hlast l hl [] (by rwa [List.append_nil])
    rw [walkFrom, Datum.selected]
    by_cases hs : selects q ⟨line, slots⟩ = true
    · refine ⟨some q, .inr ⟨[], by rw [List.append_nil]⟩, ?_⟩
      have hkept : (last.any fun l => l.isPrefixOf q) = false := by
        cases last with
        | none => rfl
        | some l =>
          exact Bool.eq_false_iff.mpr fun h => houter l rfl (List.isPrefixOf_iff_prefix.mp h)
      rw [List.filter_cons, if_pos hs, List.cons_append, outermostAfter, hkept,
        if_neg Bool.false_ne_true, if_pos hs, List.singleton_append, outermostAfter_inside]
      intro f hf
      obtain ⟨j, p, _, hp, _⟩ := (mem_walkSlots q 0 slots f.1 f.2).mp (List.mem_filter.mp hf).1
      exact ⟨_, hp.symm⟩
    · rw [List.filter_cons, if_neg hs, if_neg hs]
      obtain ⟨last', hcases, heq⟩ := outermostAfter_walkSlots selects q 0 slots last rest
        fun l hl j _ r => hlast l hl (j :: r)
      refine ⟨last', ?_, heq⟩
      rcases hcases with h | ⟨j, _, r, h⟩
      · exact .inl h
      · exact .inr ⟨j :: r, h⟩
  | _ => exact ⟨last, .inl rfl, rfl⟩
termination_by structural d

/-- The same for a row of slots: the last kept path may lead into earlier ones only. -/
theorem outermostAfter_walkSlots (selects : Path → Node → Bool) (q : Path) (i : Nat)
    (ds : List Datum) (last : Option Path) (rest : List (Path × Node))
    (hlast : ∀ l ∈ last, ∀ j, i ≤ j → ∀ r, ¬ l <+: q ++ j :: r) :
    ∃ last', (last' = last ∨ ∃ j, i ≤ j ∧ ∃ r, last' = some (q ++ j :: r)) ∧
      outermostAfter last (((walkSlots q i ds).filter fun f => selects f.1 f.2) ++ rest) =
        slotsSelected selects q i ds ++ outermostAfter last' rest := by
  cases ds with
  | nil => exact ⟨last, .inl rfl, rfl⟩
  | cons d ds =>
    rw [walkSlots, List.filter_append, List.append_assoc, slotsSelected]
    obtain ⟨mid, hmid, hhead⟩ := outermostAfter_walkFrom selects (q ++ [i]) d last
      (((walkSlots q (i + 1) ds).filter fun f => selects f.1 f.2) ++ rest)
      fun l hl r => by simpa using hlast l hl i (Nat.le_refl i) r
    have hnext : ∀ l ∈ mid, ∀ j, i + 1 ≤ j → ∀ r, ¬ l <+: q ++ j :: r := by
      intro l hl j hj r
      rcases hmid with rfl | ⟨u, rfl⟩
      · exact hlast l hl j (by omega) r
      · -- a path into slot `i` begins no path into a later slot
        cases hl
        rw [List.append_assoc, List.prefix_append_right_inj]
        intro h
        have := (List.cons_prefix_cons.mp h).1
        omega
    obtain ⟨last', hcases, htail⟩ :=
      outermostAfter_walkSlots selects q (i + 1) ds mid rest hnext
    refine ⟨last', ?_, by rw [hhead, htail, List.append_assoc]⟩
    rcases hcases with rfl | ⟨j, hj, r, h⟩
    · rcases hmid with h | ⟨r, h⟩
      · exact .inl h
      · exact .inr ⟨i, Nat.le_refl i, r, by simpa using h⟩
    · exact .inr ⟨j, by omega, r, h⟩
termination_by structural ds
end

/-- What a walk from the top selects is what is kept of the selected nodes of the whole
walk. -/
theorem Node.selected_eq (n : Node) (selects : Path → Node → Bool) :
    n.toDatum.selected selects [] =
      outermostAfter none (n.walk.filter fun f => selects f.1 f.2) := by
  obtain ⟨last, -, h⟩ := outermostAfter_walkFrom selects [] n.toDatum none [] (by simp)
  rw [Node.walk]
  simpa [outermostAfter] using h.symm

/-- The outermost matches of a pattern are the nodes that a walk from the top selects
by it. -/
theorem Node.outermost_eq_selected (n : Node) (p : Pattern) :
    n.outermost p = n.toDatum.selected (fun _ m => p.satisfiesNode m) [] := by
  rw [n.selected_eq, Node.outermost, Node.search]

/-- They are the nodes that satisfy the pattern and lie in no other one that does. -/
theorem Node.mem_outermost (n : Node) (p : Pattern) (q : Path) (m : Node) :
    (q, m) ∈ n.outermost p ↔ n.IsOutermost p q m := by
  rw [n.outermost_eq_selected p, Datum.mem_selected]
  constructor
  · rintro ⟨_, rfl, hat, hsat, habove⟩
    exact ⟨hat, hsat, habove⟩
  · rintro ⟨hat, hsat, habove⟩
    exact ⟨q, rfl, hat, hsat, habove⟩

theorem outermostAfter_sublist (last : Option Path) (found : List (Path × Node)) :
    (outermostAfter last found).Sublist found := by
  induction found generalizing last with
  | nil => exact List.Sublist.refl []
  | cons f found ih =>
    rw [outermostAfter]
    split
    · exact (ih last).cons f
    · exact (ih (some f.1)).cons_cons f

/-- The paths of selected nodes increase. -/
theorem Node.selected_pairwise (n : Node) (selects : Path → Node → Bool) :
    (n.toDatum.selected selects []).Pairwise fun a b => a.1 < b.1 := by
  rw [n.selected_eq]
  exact n.walk_pairwise.sublist ((outermostAfter_sublist none _).trans List.filter_sublist)

/-- The paths of outermost matches increase. -/
theorem Node.outermost_pairwise (n : Node) (p : Pattern) :
    (n.outermost p).Pairwise fun a b => a.1 < b.1 := by
  rw [n.outermost_eq_selected]
  exact n.selected_pairwise _

/-- Rows of nodes in the order of their paths are told by what is in them. -/
theorem eq_of_paths_increase {found others : List (Path × Node)}
    (hfound : found.Pairwise fun a b => a.1 < b.1) (hothers : others.Pairwise fun a b => a.1 < b.1)
    (h : ∀ f, f ∈ found ↔ f ∈ others) : found = others := by
  have hnodup : ∀ {fs : List (Path × Node)}, (fs.Pairwise fun a b => a.1 < b.1) → fs.Nodup := by
    intro fs hfs
    refine hfs.imp ?_
    rintro f _ hlt rfl
    exact List.lt_irrefl f.1 hlt
  have hperm := (List.perm_ext_iff_of_nodup (hnodup hfound) (hnodup hothers)).mpr h
  refine hperm.eq_of_pairwise ?_ hfound hothers
  intro a b _ _ hab hba
  exact absurd (List.lt_trans hab hba) (List.lt_irrefl a.1)

/-- No outermost match lies in another one. -/
theorem Node.IsOutermost.eq_of_prefix {n : Node} {p : Pattern} {q r : Path} {m k : Node}
    (hq : n.IsOutermost p q m) (hr : n.IsOutermost p r k) (h : q <+: r) : q = r := by
  by_cases heq : q = r
  · exact heq
  · have := hr.exposed q m h heq hq.located
    rw [hq.satisfied] at this
    cases this

end SexprQuery
