import SexprQuery.Proofs.LineBlindness
import SexprQuery.Proofs.ValidRules

/-!
# Running a rule twice

A run of a rule can be read off what it replaces: `Rule.Replaces` names each thing that
stands in a datum and what the rule puts in its place. The run leaves the datum as it is,
but for lines, exactly if each of them is like what is put in its place
(`Rule.run_snd_sameButLines_iff`).

So a second run changes nothing if nothing else is left to be replaced behind the first
one, and it does not depend on the guard whether that is so: what a first run puts in, and
what lies around it, can satisfy the pattern again.
-/

namespace SexprQuery

/-! ## Putting what stands there already -/

namespace Datum

theorem get?_unlined (p : Path) (d : Datum) : d.unlined.get? p = (d.get? p).map unlined := by
  induction p generalizing d with
  | nil => rw [get?_nil, get?_nil, Option.map_some]
  | cons i p ih =>
    cases d with
    | list line slots =>
      rw [unlined_list, get?_cons_list, get?_cons_list, List.getElem?_map]
      cases slots[i]? with
      | none => rfl
      | some c => exact ih c
    | _ => rfl

/-- Data that are put at paths of nodes, none of which leads into another one. -/
structure FitsPuts (d : Datum) (puts : List (Path × Datum)) : Prop where
  apart : (puts.map Prod.fst).Pairwise Path.Apart
  located : ∀ r ∈ puts, ∃ m, d.at? r.1 = some m

variable {d : Datum} {puts : List (Path × Datum)} {r : Path × Datum}

theorem putBelow_cons (d : Datum) (r : Path × Datum) (puts : List (Path × Datum)) :
    putBelow 0 d (r :: puts) = putBelow 0 (put r.2 r.1 d) puts := rfl

/-- The first one can be put, and then the others. -/
theorem FitsPuts.of_cons (h : d.FitsPuts (r :: puts)) :
    (∀ u ∈ puts, Path.Apart r.1 u.1) ∧ (∃ m, d.at? r.1 = some m) ∧
      (put r.2 r.1 d).FitsPuts puts := by
  obtain ⟨hhead, htail⟩ := List.pairwise_cons.mp h.apart
  have hfirst : ∀ u ∈ puts, Path.Apart r.1 u.1 := fun u hu => hhead u.1 (List.mem_map_of_mem hu)
  refine ⟨hfirst, h.located r List.mem_cons_self, htail, ?_⟩
  intro u hu
  rw [at?_put_of_apart r.2 (hfirst u hu).1 (hfirst u hu).2]
  exact h.located u (List.mem_cons_of_mem r hu)

/-- At a path apart from all of them stands what stood there before. -/
theorem get?_putBelow_of_apart {q : Path} (h : ∀ r ∈ puts, Path.Apart r.1 q) (d : Datum) :
    (putBelow 0 d puts).get? q = d.get? q := by
  induction puts generalizing d with
  | nil => rfl
  | cons r puts ih =>
    obtain ⟨hrq, hqr⟩ := h r List.mem_cons_self
    rw [putBelow_cons, ih fun u hu => h u (List.mem_cons_of_mem r hu),
      get?_put_of_apart r.2 hrq hqr]

/-- Each of them stands at its path. -/
theorem FitsPuts.get?_putBelow (h : d.FitsPuts puts) (hr : r ∈ puts) :
    (putBelow 0 d puts).get? r.1 = some r.2 := by
  induction puts generalizing d with
  | nil => cases hr
  | cons u puts ih =>
    obtain ⟨hapart, ⟨m, hm⟩, hrest⟩ := h.of_cons
    rw [putBelow_cons]
    rcases List.mem_cons.mp hr with rfl | hr
    · rw [get?_putBelow_of_apart fun u hu => (hapart u hu).symm, get?_put r.2 hm]
    · exact ih hrest hr

/-- A node of the result lies above a path, or in what was put there, or it is a node that
was there before, apart from all of them. -/
theorem FitsPuts.of_at?_putBelow (h : d.FitsPuts puts) {q : Path} {k : Node}
    (hq : (putBelow 0 d puts).at? q = some k) :
    (∃ r ∈ puts, q <+: r.1 ∧ q ≠ r.1) ∨
      (∃ r ∈ puts, ∃ s, q = r.1 ++ s ∧ r.2.at? s = some k) ∨
      ((∀ r ∈ puts, Path.Apart r.1 q) ∧ d.at? q = some k) := by
  by_cases hapart : ∀ r ∈ puts, Path.Apart r.1 q
  · -- no put reaches `q`, from above or from below
    rw [at?_eq_get?, get?_putBelow_of_apart hapart, ← at?_eq_get?] at hq
    exact .inr (.inr ⟨hapart, hq⟩)
  · simp only [not_forall, Path.Apart, not_and_or, not_not] at hapart
    obtain ⟨r, hr, hinto⟩ := hapart
    by_cases hinside : r.1 <+: q
    · obtain ⟨s, rfl⟩ := hinside
      rw [at?_eq_get?, get?_append, h.get?_putBelow hr, Option.bind_some, ← at?_eq_get?] at hq
      exact .inr (.inl ⟨r, hr, s, rfl, hq⟩)
    · refine .inl ⟨r, hr, hinto.resolve_left hinside, ?_⟩
      rintro rfl
      exact hinside (List.prefix_refl r.1)

/-- Putting what is like the nodes there changes lines only. -/
theorem putBelow_sameButLines {tree : Datum} (htree : tree.SameButLines d)
    (h : ∀ r ∈ puts, ∃ m, d.at? r.1 = some m ∧ r.2.SameButLines m.toDatum) :
    (putBelow 0 tree puts).SameButLines d := by
  induction puts generalizing tree with
  | nil => exact htree
  | cons r puts ih =>
    rw [putBelow_cons]
    refine ih ?_ fun u hu => h u (List.mem_cons_of_mem r hu)
    obtain ⟨m, hm, hlike⟩ := h r List.mem_cons_self
    calc (put r.2 r.1 tree).unlined = put r.2.unlined r.1 tree.unlined := (put_unlined ..).symm
      _ = put m.toDatum.unlined r.1 d.unlined := by rw [hlike, htree]
      _ = (put m.toDatum r.1 d).unlined := put_unlined ..
      _ = d.unlined := by rw [put_toDatum hm]

/-- And nothing else changes lines only. -/
theorem FitsPuts.putBelow_sameButLines_iff (h : d.FitsPuts puts) :
    (putBelow 0 d puts).SameButLines d ↔
      ∀ r ∈ puts, ∀ m, d.at? r.1 = some m → r.2.SameButLines m.toDatum := by
  constructor
  · intro hsame r hr m hm
    have hstands := congrArg (get? r.1) hsame
    rw [get?_unlined, get?_unlined, h.get?_putBelow hr, Option.map_some] at hstands
    rw [at?_eq_get?] at hm
    obtain ⟨c, hc, hnode⟩ := Option.bind_eq_some_iff.mp hm
    rw [hc, Option.map_some, eq_toDatum_of_node? hnode] at hstands
    exact Option.some.inj hstands
  · intro hlike
    refine putBelow_sameButLines rfl ?_
    intro r hr
    obtain ⟨m, hm⟩ := h.located r hr
    exact ⟨m, hm, hlike r hr m hm⟩

end Datum

/-! ## Renaming -/

section
variable (old new : Datum)

mutual
/-- Renaming changes lines only if every atom that is renamed is like the new one. -/
theorem Datum.replaceAtoms_sameButLines_iff (d : Datum) :
    (Datum.replaceAtoms old new d).1.SameButLines d ↔
      ∀ a ∈ d.atoms, (a == old) = true → new.SameButLines a := by
  cases d with
  | list line slots =>
    rw [Datum.replaceAtoms, Datum.atoms, Datum.SameButLines, Datum.unlined_list,
      Datum.unlined_list, Datum.list.injEq, slotsReplaceAtoms_sameButLines_iff slots]
    exact and_iff_right rfl
  | _ =>
    rw [Datum.replaceAtoms_of_atom old new rfl, Datum.atoms_of_atom rfl]
    simp only [List.mem_singleton, forall_eq]
    split
    · next heq => exact ⟨fun h _ => h, fun h => h heq⟩
    · next hne => exact ⟨fun _ heq => absurd heq hne, fun _ => rfl⟩
termination_by structural d

/-- The same for a row of slots. -/
theorem slotsReplaceAtoms_sameButLines_iff (ds : List Datum) :
    (slotsReplaceAtoms old new ds).1.map Datum.unlined = ds.map Datum.unlined ↔
      ∀ a ∈ slotsAtoms ds, (a == old) = true → new.SameButLines a := by
  cases ds with
  | nil => simp [slotsReplaceAtoms, slotsAtoms]
  | cons d ds =>
    have hhead := Datum.replaceAtoms_sameButLines_iff d
    have htail := slotsReplaceAtoms_sameButLines_iff ds
    rw [Datum.SameButLines] at hhead
    rw [slotsReplaceAtoms, slotsAtoms, List.map_cons, List.map_cons, List.cons.injEq, hhead,
      htail, List.forall_mem_append]
termination_by structural ds
end

/-- The atoms behind a renaming: those that were not renamed, and those of the new datum. -/
theorem Datum.mem_atoms_replaceAtoms {a d : Datum}
    (h : a ∈ (Datum.replaceAtoms old new d).1.atoms) :
    a ∈ new.atoms ∨ (a ∈ d.atoms ∧ (a == old) = false) := by
  rw [Datum.replaceAtoms_eq, Datum.atoms_substAtoms] at h
  obtain ⟨b, hb, ha⟩ := List.mem_flatMap.mp h
  rw [renamed] at ha
  split at ha
  · exact .inl ha
  · next hne =>
    rw [Datum.atoms_of_atom (Datum.isList_of_mem_atoms d hb), List.mem_singleton] at ha
    subst ha
    exact .inr ⟨hb, Bool.eq_false_iff.mpr hne⟩

end

/-- Renaming in a datum is renaming its atoms, also where it is the atom itself. -/
theorem Rule.renameIn_eq (old new d : Datum) :
    renameIn old new d =
      (.ofCount (d.atoms.countP (· == old)), (Datum.replaceAtoms old new d).1) := by
  cases d with
  | list line slots =>
    show (Verdict.ofCount (Node.replaceAtoms ⟨line, slots⟩ old new).2,
      (Node.replaceAtoms ⟨line, slots⟩ old new).1.toDatum) = _
    rw [Node.replaceAtoms_eq, Node.toDatum_substAtoms, Datum.replaceAtoms_eq]
    rfl
  | _ =>
    rw [Datum.replaceAtoms_of_atom old new rfl, Datum.atoms_of_atom rfl, List.countP_singleton,
      renameIn]
    dsimp only [Datum.node?]
    split <;> rfl

/-! ## Replacing matches -/

namespace Node

/-- Every match lies in an outermost one. -/
theorem exists_isOutermost {n m : Node} {p : Pattern} {q : Path} (hat : n.at? q = some m)
    (hsat : p.satisfiesNode m = true) : ∃ u k, u <+: q ∧ n.IsOutermost p u k := by
  by_cases habove : ∃ r k, r <+: q ∧ r ≠ q ∧ n.at? r = some k ∧ p.satisfiesNode k = true
  · obtain ⟨r, k, hr, hne, hk, hsatk⟩ := habove
    have hshorter : r.length < q.length :=
      lt_of_le_of_ne hr.length_le fun hlength => hne (hr.eq_of_length hlength)
    obtain ⟨u, v, hu, hv⟩ := exists_isOutermost hk hsatk
    exact ⟨u, v, hu.trans hr, hv⟩
  · refine ⟨q, m, List.prefix_refl q, hat, hsat, ?_⟩
    intro r k hr hne hk
    exact Bool.eq_false_iff.mpr fun hsatk => habove ⟨r, k, hr, hne, hk, hsatk⟩
termination_by q.length

/-- The matches in whose place a replacement puts something. -/
def targets (n : Node) (firstOnly : Bool) (p : Pattern) : List (Path × Node) :=
  if firstOnly then (n.outermost p).take 1 else n.outermost p

theorem targets_sublist (n : Node) (firstOnly : Bool) (p : Pattern) :
    (n.targets firstOnly p).Sublist (n.outermost p) := by
  cases firstOnly
  · exact List.Sublist.refl _
  · exact List.take_sublist 1 _

/-- A datum in the place of each of them. -/
def putsAt (found : List (Path × Node)) (new : Datum) : List (Path × Datum) :=
  found.map fun f => (f.1, new)

theorem fitsPuts_targets (n : Node) (firstOnly : Bool) (p : Pattern) (new : Datum) :
    n.toDatum.FitsPuts (putsAt (n.targets firstOnly p) new) := by
  have hsub := n.targets_sublist firstOnly p
  constructor
  · rw [putsAt, List.map_map]
    exact (n.outermost_apart p).sublist (hsub.map Prod.fst)
  · intro r hr
    obtain ⟨f, hf, rfl⟩ := List.mem_map.mp hr
    exact ⟨f.2, ((n.mem_outermost p f.1 f.2).mp (hsub.subset hf)).located⟩

end Node

/-- A replacement puts the datum at each of them, and counts them. -/
theorem Rule.replaceIn_eq (firstOnly : Bool) (p : Pattern) (new : Datum) {d : Datum} {n : Node}
    (hd : d.node? = some n) :
    replaceIn firstOnly p new d =
      (.ofCount (n.targets firstOnly p).length,
        putBelow 0 d (Node.putsAt (n.targets firstOnly p) new)) := by
  rw [replaceIn, hd]
  show (if (n.targets firstOnly p).isEmpty then _ else _ : Verdict × Datum) = _
  split
  · next hempty =>
    rw [List.isEmpty_iff.mp hempty]
    rfl
  · next hsome =>
    have hne : (n.targets firstOnly p).length ≠ 0 :=
      fun h => hsome (List.isEmpty_iff_length_eq_zero.mpr h)
    rw [Verdict.ofCount, if_neg hne, Datum.eq_toDatum_of_node? hd]
    refine Prod.ext rfl ?_
    exact n.putAll_eq _ (n.fitsPuts_targets firstOnly p new).apart

/-! ## What a run replaces -/

/-- What a replacement puts in, as text, and whether it does so only once. -/
def Action.replacement? : Action → Option (Bool × String)
  | .replace text => some (false, text)
  | .replaceFirst text => some (true, text)
  | .rename _ _ | .expect _ => none

namespace Rule

/-- The rule renames an atom. -/
inductive Renames (r : Rule) (o n : Datum) : Prop
  | intro (old new : String) (haction : r.action = .rename old new) (hold : readText old = .ok o)
    (hnew : readText new = .ok n)

/-- On this datum, the rule puts another one in the place of these matches. -/
inductive Fills (r : Rule) (d : Datum) : List (Path × Node) → Datum → Prop
  | intro {firstOnly : Bool} {text : String} {p : Pattern} {new : Datum} {n : Node}
    (haction : r.action.replacement? = some (firstOnly, text)) (hp : r.parsePattern = .ok p)
    (hguard : r.skip? (d.countMatches p) = none) (hnew : readText text = .ok new)
    (hd : d.node? = some n) : Fills r d (n.targets firstOnly p) new

/-- In a run on `d`, the rule puts the second datum in the place of the first one. -/
inductive Replaces (r : Rule) (d : Datum) : Datum → Datum → Prop
  | atom {o n a : Datum} (h : r.Renames o n) (ha : a ∈ d.atoms) (heq : (a == o) = true) :
    Replaces r d a n
  | node {found : List (Path × Node)} {new : Datum} {f : Path × Node} (h : r.Fills d found new)
      (hf : f ∈ found) : Replaces r d f.2.toDatum new

variable {r : Rule} {d : Datum}

theorem run_snd_of_apply {result : RuleResult × Datum} (h : r.apply d = result) :
    (r.run d).2 = result.2 :=
  congrArg Prod.snd h

theorem apply_of_replacement? {firstOnly : Bool} {text : String}
    (h : r.action.replacement? = some (firstOnly, text)) (d : Datum) :
    r.apply d = r.applyGuarded d fun p _ => applyReplace firstOnly text p d := by
  unfold apply
  cases haction : r.action with
  | replace | replaceFirst =>
    rw [haction] at h
    cases h
    rfl
  | rename | expect =>
    rw [haction] at h
    cases h

theorem Renames.apply {o n : Datum} (h : r.Renames o n) (d : Datum) :
    r.apply d =
      (.ok (.ofCount (d.atoms.countP (· == o))), (Datum.replaceAtoms o n d).1) := by
  obtain ⟨old, new, haction, hold, hnew⟩ := h
  rw [apply_rename haction hold hnew, renameIn_eq]

theorem Renames.run_snd {o n : Datum} (h : r.Renames o n) (d : Datum) :
    (r.run d).2 = (Datum.replaceAtoms o n d).1 :=
  run_snd_of_apply (h.apply d)

theorem Fills.apply {found : List (Path × Node)} {new : Datum} (h : r.Fills d found new) :
    r.apply d = (.ok (.ofCount found.length), putBelow 0 d (Node.putsAt found new)) := by
  obtain @⟨firstOnly, text, p, _, n, haction, hp, hguard, hnew, hd⟩ := h
  rw [apply_of_replacement? haction, applyGuarded_of_ok hp, hguard]
  show applyReplace firstOnly text p d = _
  rw [applyReplace, hnew]
  dsimp only
  rw [replaceIn_eq firstOnly p new hd]

theorem Fills.run_snd {found : List (Path × Node)} {new : Datum} (h : r.Fills d found new) :
    (r.run d).2 = putBelow 0 d (Node.putsAt found new) :=
  run_snd_of_apply h.apply

theorem Fills.fitsPuts {found : List (Path × Node)} {new : Datum} (h : r.Fills d found new) :
    d.FitsPuts (Node.putsAt found new) := by
  obtain @⟨firstOnly, -, p, _, n, -, -, -, -, hd⟩ := h
  rw [Datum.eq_toDatum_of_node? hd]
  exact n.fitsPuts_targets firstOnly p new

theorem Fills.located {found : List (Path × Node)} {new : Datum} (h : r.Fills d found new)
    {f : Path × Node} (hf : f ∈ found) : d.at? f.1 = some f.2 := by
  obtain @⟨firstOnly, -, p, _, n, -, -, -, -, hd⟩ := h
  rw [Datum.eq_toDatum_of_node? hd]
  have hmatch := (n.targets_sublist firstOnly p).subset hf
  exact ((n.mem_outermost p f.1 f.2).mp hmatch).located

theorem Fills.run_snd_sameButLines_iff {found : List (Path × Node)} {new : Datum}
    (h : r.Fills d found new) :
    (r.run d).2.SameButLines d ↔ ∀ f ∈ found, new.SameButLines f.2.toDatum := by
  rw [h.run_snd, h.fitsPuts.putBelow_sameButLines_iff]
  constructor
  · intro hlike f hf
    exact hlike (f.1, new) (List.mem_map_of_mem hf) f.2 (h.located hf)
  · intro hlike r hr m hm
    obtain ⟨f, hf, rfl⟩ := List.mem_map.mp hr
    cases (h.located hf).symm.trans hm
    exact hlike f hf

/-- A guarded rule that is applied has a pattern and is not skipped. -/
theorem exists_of_applyGuarded_eq_applied {count : Nat} {e : Datum}
    {act : Pattern → Nat → RuleResult × Datum}
    (h : r.applyGuarded d act = (.ok (.applied count), e)) :
    ∃ p, r.parsePattern = .ok p ∧ r.skip? (d.countMatches p) = none ∧
      act p (d.countMatches p) = (.ok (.applied count), e) := by
  cases hp : r.parsePattern with
  | error fault =>
    rw [applyGuarded_of_error hp] at h
    cases h
  | ok p =>
    rw [applyGuarded_of_ok hp] at h
    cases hguard : r.skip? (d.countMatches p) with
    | some reason =>
      rw [hguard] at h
      cases h
    | none =>
      rw [hguard] at h
      exact ⟨p, rfl, hguard, h⟩

/-- A rule that is applied to something is a renaming or puts a datum in the place of matches. -/
theorem cases_of_apply_eq_applied {count : Nat} {e : Datum}
    (h : r.apply d = (.ok (.applied count), e)) :
    (∃ o n, r.Renames o n) ∨ ∃ found new, r.Fills d found new := by
  have hreplaces : ∀ firstOnly text, r.action.replacement? = some (firstOnly, text) →
      ∃ found new, r.Fills d found new := by
    intro firstOnly text haction
    rw [apply_of_replacement? haction] at h
    obtain ⟨p, hp, hguard, hact⟩ := exists_of_applyGuarded_eq_applied h
    unfold applyReplace at hact
    split at hact
    · cases hact
    · next new hnew =>
      cases hd : d.node? with
      | some n => exact ⟨_, new, .intro haction hp hguard hnew hd⟩
      | none =>
        -- a datum that is no node holds no match
        rw [replaceIn, hd] at hact
        cases hact
  cases haction : r.action with
  | replace text => exact .inr (hreplaces false text (by rw [haction]; rfl))
  | replaceFirst text => exact .inr (hreplaces true text (by rw [haction]; rfl))
  | rename old new =>
    rw [Rule.apply, haction] at h
    dsimp only at h
    unfold applyRename at h
    split at h
    · cases h
    · next o hold =>
      split at h
      · cases h
      · next n hnew => exact .inl ⟨o, n, old, new, haction, hold, hnew⟩
  | expect _ =>
    rw [Rule.apply, haction] at h
    obtain ⟨p, -, -, hact⟩ := exists_of_applyGuarded_eq_applied h
    split at hact <;> cases hact

/-- All that a run can do. -/
theorem run_snd_cases (r : Rule) (d : Datum) :
    (r.run d).2 = d ∨ (∃ o n, r.Renames o n) ∨ ∃ found new, r.Fills d found new := by
  cases hidle : (r.run d).1.isIdle with
  | true => exact .inl (run_snd_of_isIdle hidle)
  | false =>
    obtain ⟨count, e, happly⟩ := exists_apply_of_isIdle_eq_false hidle
    exact .inr (cases_of_apply_eq_applied happly)

/-- A run changes lines only if it replaces nothing but by its like. -/
theorem run_snd_sameButLines_iff (r : Rule) (d : Datum) :
    (r.run d).2.SameButLines d ↔ ∀ a e, r.Replaces d a e → e.SameButLines a := by
  constructor
  · intro hsame a e h
    cases h with
    | atom h ha heq =>
      rw [h.run_snd, Datum.replaceAtoms_sameButLines_iff] at hsame
      exact hsame a ha heq
    | node h hf => exact h.run_snd_sameButLines_iff.mp hsame _ hf
  · intro hlike
    rcases r.run_snd_cases d with hsame | ⟨o, n, h⟩ | ⟨found, new, h⟩
    · rw [hsame, Datum.SameButLines]
    · rw [h.run_snd, Datum.replaceAtoms_sameButLines_iff]
      exact fun a ha heq => hlike a n (.atom h ha heq)
    · exact h.run_snd_sameButLines_iff.mpr fun f hf => hlike _ new (.node h hf)

/-! ## The second run -/

/-- A rule that is to be skipped where something matches never puts in anything. -/
theorem Fills.found_eq_nil {found : List (Path × Node)} {new : Datum} (h : r.Fills d found new)
    {g : Guard} (hg : r.guard = some g) (hpresent : g.ensurePresent = true) : found = [] := by
  obtain @⟨firstOnly, -, p, _, n, -, -, hguard, -, hd⟩ := h
  by_contra hne
  obtain ⟨f, hf⟩ := List.exists_mem_of_ne_nil _ hne
  have hsearch : f ∈ n.search p :=
    ((n.targets_sublist firstOnly p).trans (outermostAfter_sublist none _)).subset hf
  have hmatch : 0 < d.countMatches p := by
    rw [Datum.countMatches, hd]
    exact List.length_pos_of_mem hsearch
  rw [skip?_of_ensurePresent hg hpresent hmatch] at hguard
  cases hguard

/-- The atoms that a second renaming finds stood in the new datum. -/
theorem Renames.mem_atoms {o n : Datum} (h : r.Renames o n) {a : Datum}
    (ha : a ∈ (r.run d).2.atoms) (heq : (a == o) = true) : a ∈ n.atoms := by
  rw [h.run_snd] at ha
  rcases Datum.mem_atoms_replaceAtoms o n ha with hnew | ⟨-, hne⟩
  · exact hnew
  · rw [heq] at hne
    cases hne

/-- A match in what a run leaves lies around a place that was filled or in what was put there,
or it was there before and the rule replaces only one match. -/
theorem Fills.of_match {found : List (Path × Node)} {new : Datum} (h : r.Fills d found new)
    {p : Pattern} (hp : r.parsePattern = .ok p) {q : Path} {k : Node}
    (hq : (r.run d).2.at? q = some k) (hk : p.satisfiesNode k = true) :
    (∃ f ∈ found, q <+: f.1 ∧ q ≠ f.1) ∨
      (∃ f ∈ found, ∃ s, q = f.1 ++ s ∧ new.at? s = some k) ∨
      ((∃ text, r.action = .replaceFirst text) ∧ d.at? q = some k) := by
  rw [h.run_snd] at hq
  rcases h.fitsPuts.of_at?_putBelow hq with
    ⟨u, hu, habove⟩ | ⟨u, hu, s, rfl, hs⟩ | ⟨hapart, hbefore⟩
  · obtain ⟨f, hf, rfl⟩ := List.mem_map.mp hu
    exact .inl ⟨f, hf, habove⟩
  · obtain ⟨f, hf, rfl⟩ := List.mem_map.mp hu
    exact .inr (.inl ⟨f, hf, s, rfl, hs⟩)
  · refine .inr (.inr ⟨?_, hbefore⟩)
    obtain @⟨firstOnly, text, p', _, n, haction, hp', -, -, hd⟩ := h
    cases hp.symm.trans hp'
    cases haction' : r.action with
    | replaceFirst text => exact ⟨text, rfl⟩
    | rename | expect =>
      rw [haction'] at haction
      cases haction
    | replace text' =>
      -- every match lies in one that was replaced
      rw [haction'] at haction
      cases haction
      rw [Datum.eq_toDatum_of_node? hd] at hbefore
      obtain ⟨u, v, hu, hv⟩ := Node.exists_isOutermost hbefore hk
      have hmem : (u, v) ∈ n.targets false p := (n.mem_outermost p u v).mpr hv
      exact absurd hu (hapart (u, new) (List.mem_map_of_mem hmem)).1

/-- **Running a rule twice.** The second run leaves what the first one has left, but for
lines, exactly if everything that it replaces is replaced by its like. A guard has a part
in that only where the rule is to be skipped if something matches: then nothing is replaced
in any run. Otherwise what is replaced in the second run lies around a place that the first
run has filled or in the datum that it has put there, or the rule replaces one match at
a time. And a renaming to an atom has nothing left to rename. -/
theorem run_twice (r : Rule) (d : Datum) :
    ((r.run (r.run d).2).2.SameButLines (r.run d).2 ↔
      ∀ a e, r.Replaces (r.run d).2 a e → e.SameButLines a) ∧
    (∀ g, r.guard = some g → g.ensurePresent = true → (∀ o n, ¬ r.Renames o n) →
      (r.run d).2 = d) ∧
    (∀ o n, r.Renames o n → n.isList = false →
      (r.run (r.run d).2).2.SameButLines (r.run d).2) ∧
    ∀ found new p q k, r.Fills d found new → r.parsePattern = .ok p →
      (r.run d).2.at? q = some k → p.satisfiesNode k = true →
        (∃ f ∈ found, q <+: f.1 ∧ q ≠ f.1) ∨
        (∃ f ∈ found, ∃ s, q = f.1 ++ s ∧ new.at? s = some k) ∨
        ((∃ text, r.action = .replaceFirst text) ∧ d.at? q = some k) := by
  refine ⟨r.run_snd_sameButLines_iff _, ?_, ?_, ?_⟩
  · intro g hg hpresent hno
    rcases r.run_snd_cases d with hsame | ⟨o, n, h⟩ | ⟨found, new, h⟩
    · exact hsame
    · exact absurd h (hno o n)
    · rw [h.run_snd, h.found_eq_nil hg hpresent]
      rfl
  · intro o n h hatom
    rw [h.run_snd (r.run d).2, Datum.replaceAtoms_sameButLines_iff]
    intro a ha heq
    have hnew := h.mem_atoms ha heq
    rw [Datum.atoms_of_atom hatom, List.mem_singleton] at hnew
    rw [hnew, Datum.SameButLines]
  · intro found new p q k h hp hq hk
    exact h.of_match hp hq hk

/-- A rule that is skipped where its pattern is absent, and whose pattern is in what it puts
in. The rule set is valid, and the second run nests the datum once more. -/
theorem run_twice_nested :
    ∃ (r : Rule) (d : Datum),
      r = ⟨"again", some "(a ___)", .replace "(b (a))", some ⟨true, false⟩⟩ ∧
      (⟨"", none, [r]⟩ : RuleSet).IsValid ∧ readDatum "(a)" = .ok d ∧
      (r.run d).2.source = "(b (a))" ∧ (r.run (r.run d).2).2.source = "(b (b (a)))" ∧
      ((r.run (r.run d).2).2 == (r.run d).2) = false := by
  refine ⟨_, .list (some 1) [.sym "a"], rfl, ?_, rfl, ?_⟩
  all_goals decide +kernel

end Rule

end SexprQuery
