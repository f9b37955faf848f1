import SexprQuery.Proofs.PathUpdates
import SexprQuery.Proofs.Renaming
import SexprQuery.Proofs.RepeatedRuns

/-!
# Counting what is replaced

A rule that is applied says how many places it has replaced, and that many it has
(`Rule.apply_counts`). The places are paths, none of which leads into another one: a new datum
stands at each of them afterwards, and apart from them nothing has changed
(`Datum.FilledAt`).

Two numbers of matches are in play. A guard and an expectation count all of them, a
replacement the outermost ones only, and these numbers are equal exactly if no match lies in
another one (`Node.length_outermost_eq_iff`).
-/

namespace SexprQuery

/-! ## Filled places -/

namespace Datum

/-- One datum is another one with a new datum in the place of what stood at some paths. The
nodes above these paths have their lines and as many slots as before. -/
structure FilledAt (d e new : Datum) (places : List Path) : Prop where
  apart : places.Pairwise Path.Apart
  stood : ∀ q ∈ places, ∃ c, d.get? q = some c
  filled : ∀ q ∈ places, e.get? q = some new
  untouched : ∀ q, (∀ r ∈ places, Path.Apart r q) → e.get? q = d.get? q
  above : ∀ q m, (∀ r ∈ places, ¬ r <+: q) → d.at? q = some m →
    ∃ m', e.at? q = some m' ∧ m'.line = m.line ∧ m'.slots.length = m.slots.length

/-- Putting something elsewhere or further down leaves a node with its line and as many slots. -/
theorem exists_at?_put (e : Datum) {q r : Path} {d : Datum} {m : Node} (hr : ¬ r <+: q)
    (h : d.at? q = some m) :
    ∃ m', (put e r d).at? q = some m' ∧ m'.line = m.line ∧
      m'.slots.length = m.slots.length := by
  by_cases hq : q <+: r
  · -- the node lies above, and only one of its slots changes
    obtain ⟨_ | ⟨i, s⟩, rfl⟩ := hq
    · exact absurd (by rw [List.append_nil]) hr
    · refine ⟨⟨m.line, m.slots.modify i (put e s)⟩, ?_, rfl, List.length_modify ..⟩
      rw [at?_eq_get?, get?_put_append, get?_of_at? h]
      rfl
  · rw [at?_put_of_apart e hr hq]
    exact ⟨m, h, rfl, rfl⟩

theorem exists_at?_putBelow {puts : List (Path × Datum)} {q : Path} {d : Datum} {m : Node}
    (hputs : ∀ r ∈ puts, ¬ r.1 <+: q) (h : d.at? q = some m) :
    ∃ m', (putBelow 0 d puts).at? q = some m' ∧ m'.line = m.line ∧
      m'.slots.length = m.slots.length := by
  induction puts generalizing d m with
  | nil => exact ⟨m, h, rfl, rfl⟩
  | cons r puts ih =>
    obtain ⟨k, hk, hline, hlength⟩ := exists_at?_put r.2 (hputs r List.mem_cons_self) h
    obtain ⟨m', hm', hline', hlength'⟩ :=
      ih (fun u hu => hputs u (List.mem_cons_of_mem r hu)) hk
    exact ⟨m', hm', hline'.trans hline, hlength'.trans hlength⟩

/-- Nothing stands further down than an atom. -/
theorem HasAtomAt.eq_of_prefix {d old : Datum} {q r : Path} (hq : d.HasAtomAt old q)
    (hr : d.HasAtomAt old r) (h : q <+: r) : q = r := by
  obtain ⟨a, ha, hatom, -⟩ := hq
  obtain ⟨b, hb, -, -⟩ := hr
  obtain ⟨s, rfl⟩ := h
  rw [get?_append, ha, Option.bind_some, get?_of_atom hatom] at hb
  split at hb
  · next hnil => rw [hnil, List.append_nil]
  · cases hb

theorem places_apart (d old : Datum) : (d.places old).Pairwise Path.Apart := by
  refine Path.pairwise_apart (d.places_pairwise old) ?_
  intro q hq r hr
  have hq := mem_places.mp hq
  exact hq.eq_of_prefix (mem_places.mp hr)

/-- Apart from the atoms that are renamed, everything stays. -/
theorem get?_renamed_of_apart {old d : Datum} {q : Path} (new : Datum)
    (h : ∀ r, d.HasAtomAt old r → Path.Apart r q) :
    (d.substAtoms (renamed old new)).get? q = d.get? q := by
  induction q generalizing d with
  | nil =>
    -- the root is apart from nothing
    have hnone := forall_not_hasAtomAt_iff.mp fun r hr => (h r hr).2 List.nil_prefix
    rw [substAtoms_eq_self d fun a ha => renamed_of_ne (hnone a ha)]
  | cons i q ih =>
    cases hlist : d.isList with
    | false =>
      rw [substAtoms_of_atom _ hlist, renamed_of_ne]
      refine Bool.eq_false_iff.mpr fun hequal => ?_
      exact (h [] ⟨d, get?_nil d, hlist, hequal⟩).1 List.nil_prefix
    | true =>
      cases d with
      | list line slots =>
        rw [substAtoms_list, get?_cons_list, get?_cons_list, List.getElem?_map]
        cases hc : slots[i]? with
        | none => rfl
        | some c =>
          refine ih fun r hr => ?_
          obtain ⟨a, ha, hequal⟩ := hr
          have hbelow : (Datum.list line slots).get? (i :: r) = some a := by
            rw [get?_cons_list, hc]
            exact ha
          exact Path.Apart.of_cons (h (i :: r) ⟨a, hbelow, hequal⟩)
      | _ => cases hlist

/-- A datum that is an atom is the one place for it. -/
theorem places_of_atom {d : Datum} (hatom : d.isList = false) (old : Datum) :
    d.places old = if d == old then [[]] else [] := by
  rw [places, atomsFrom_of_atom hatom, List.filter_singleton]
  cases d == old <;> rfl

/-- Renaming fills the places of the old atom. -/
theorem filledAt_renamed (d old new : Datum) :
    d.FilledAt (d.substAtoms (renamed old new)) new (d.places old) where
  apart := d.places_apart old
  stood q hq := by
    obtain ⟨a, ha, -, -⟩ := mem_places.mp hq
    exact ⟨a, ha⟩
  filled q hq := by
    obtain ⟨a, ha, hatom, hequal⟩ := mem_places.mp hq
    rw [get?_substAtoms_of_atom _ ha hatom, renamed_of_beq hequal]
  untouched q hq := get?_renamed_of_apart new fun r hr => hq r (mem_places.mpr hr)
  above q m _ hm := by
    refine ⟨m.substAtoms (renamed old new), ?_, rfl, List.length_map _⟩
    rw [at?_eq_get?, get?_substAtoms _ (get?_of_at? hm), ← m.toDatum_substAtoms]
    rfl

/-- So where an atom is renamed that is the whole datum, the new one is all that is left. -/
theorem FilledAt.of_atom {d e old new : Datum} (h : d.FilledAt e new (d.places old))
    (hatom : d.isList = false) (hpos : 1 ≤ (d.places old).length) :
    (d.places old).length = 1 ∧ e = new := by
  have hplaces : d.places old = [[]] := by
    rw [places_of_atom hatom] at hpos ⊢
    split at hpos
    · next hequal => exact if_pos hequal
    · cases hpos
  rw [hplaces] at h ⊢
  have hroot := h.filled [] List.mem_cons_self
  rw [get?_nil, Option.some.injEq] at hroot
  exact ⟨rfl, hroot⟩

end Datum

/-- A replacement fills the places of its matches. -/
theorem Rule.Fills.filledAt {r : Rule} {d new : Datum} {found : List (Path × Node)}
    (h : r.Fills d found new) :
    d.FilledAt (putBelow 0 d (Node.putsAt found new)) new (found.map Prod.fst) := by
  have hpaths : (Node.putsAt found new).map Prod.fst = found.map Prod.fst := by
    rw [Node.putsAt, List.map_map]
    rfl
  constructor
  · rw [← hpaths]
    exact h.fitsPuts.apart
  · intro q hq
    obtain ⟨f, hf, rfl⟩ := List.mem_map.mp hq
    exact ⟨_, Datum.get?_of_at? (h.located hf)⟩
  · intro q hq
    obtain ⟨f, hf, rfl⟩ := List.mem_map.mp hq
    exact h.fitsPuts.get?_putBelow (r := (f.1, new)) (List.mem_map_of_mem hf)
  · intro q hq
    rw [← hpaths, List.forall_mem_map] at hq
    exact Datum.get?_putBelow_of_apart hq d
  · intro q m hq hm
    rw [← hpaths, List.forall_mem_map] at hq
    exact Datum.exists_at?_putBelow hq hm

/-! ## Matches in matches -/

namespace Node

variable {n : Node} {p : Pattern}

/-- No match lies in another one. -/
def MatchesApart (n : Node) (p : Pattern) : Prop :=
  ∀ q m u k, n.at? q = some m → p.satisfiesNode m = true → n.at? u = some k →
    p.satisfiesNode k = true → q <+: u → q = u

theorem length_outermost_le (n : Node) (p : Pattern) :
    (n.outermost p).length ≤ (n.search p).length :=
  (outermostAfter_sublist none _).length_le

/-- All matches are outermost if and only if none lies in another one. -/
theorem length_outermost_eq_iff (n : Node) (p : Pattern) :
    (n.outermost p).length = (n.search p).length ↔ n.MatchesApart p := by
  have hsub : (n.outermost p).Sublist (n.search p) := outermostAfter_sublist none _
  constructor
  · intro hlength q m u k hm hsatm hk hsatk h
    have heq := hsub.eq_of_length hlength
    have houter : ∀ r v, n.at? r = some v → p.satisfiesNode v = true → n.IsOutermost p r v := by
      intro r v hv hsat
      rw [← n.mem_outermost, heq, n.mem_search]
      exact ⟨hv, hsat⟩
    have hq := houter q m hm hsatm
    exact hq.eq_of_prefix (houter u k hk hsatk) h
  · intro hapart
    have heq : n.outermost p = n.search p := by
      refine eq_of_paths_increase (n.outermost_pairwise p) (n.search_pairwise p) ?_
      rintro ⟨q, m⟩
      rw [n.mem_outermost, n.mem_search]
      constructor
      · exact fun h => ⟨h.located, h.satisfied⟩
      · rintro ⟨hm, hsat⟩
        refine ⟨hm, hsat, fun u k hu hne hk => ?_⟩
        exact Bool.eq_false_iff.mpr fun hsatk => hne (hapart u k q m hk hsatk hm hsat hu)
    rw [heq]

/-- The first match is outermost: no other one lies around it. -/
theorem targets_first (n : Node) (p : Pattern) : n.targets true p = (n.search p).take 1 := by
  show (n.outermost p).take 1 = _
  rw [outermost]
  cases n.search p <;> rfl

/-- Where something matches there is something to replace. -/
theorem targets_ne_nil {q : Path} {m : Node} (hm : n.at? q = some m)
    (hsat : p.satisfiesNode m = true) (firstOnly : Bool) : n.targets firstOnly p ≠ [] := by
  obtain ⟨u, k, -, hk⟩ := exists_isOutermost hm hsat
  have hne : n.outermost p ≠ [] := List.ne_nil_of_mem ((n.mem_outermost p u k).mpr hk)
  cases firstOnly with
  | false => exact hne
  | true =>
    show (n.outermost p).take 1 ≠ []
    simpa using hne

end Node

/-! ## Rules -/

namespace Rule

variable {r : Rule} {d e new : Datum} {count : Nat}

/-- A rule that fills places has replaced as many as there are, and at least one. -/
theorem Fills.of_apply_eq_applied {found : List (Path × Node)} (h : r.Fills d found new)
    (happly : r.apply d = (.ok (.applied count), e)) :
    found.length = count ∧ 1 ≤ count ∧ d.FilledAt e new (found.map Prod.fst) := by
  rw [h.apply] at happly
  obtain ⟨hverdict, rfl⟩ := Prod.mk.inj happly
  obtain ⟨hcount, hpos⟩ := Verdict.ofCount_eq_applied.mp (Except.ok.inj hverdict)
  exact ⟨hcount, hpos, h.filledAt⟩

/-- A renaming has replaced the atoms that equal the old one, and at least one. -/
theorem Renames.of_apply_eq_applied {o : Datum} (h : r.Renames o new)
    (happly : r.apply d = (.ok (.applied count), e)) :
    (d.places o).length = count ∧ 1 ≤ count ∧ d.FilledAt e new (d.places o) := by
  rw [h.apply, Datum.replaceAtoms_eq, ← Datum.length_places] at happly
  obtain ⟨hverdict, rfl⟩ := Prod.mk.inj happly
  obtain ⟨hcount, hpos⟩ := Verdict.ofCount_eq_applied.mp (Except.ok.inj hverdict)
  exact ⟨hcount, hpos, d.filledAt_renamed o new⟩

/-- What a rule fills are the matches of its pattern that are to be replaced, with the datum
that it has as a text. -/
theorem Fills.of_replacement? {found : List (Path × Node)} {firstOnly : Bool} {text : String}
    (h : r.Fills d found new) (haction : r.action.replacement? = some (firstOnly, text)) :
    readText text = .ok new ∧
      ∃ n p, d.node? = some n ∧ r.parsePattern = .ok p ∧ found = n.targets firstOnly p := by
  obtain @⟨firstOnly', text', p, _, n, haction', hp, -, hnew, hd⟩ := h
  cases haction.symm.trans haction'
  exact ⟨hnew, n, p, hd, hp, rfl⟩

/-- A rule that fills some places is applied. -/
theorem Fills.exists_apply {found : List (Path × Node)} (h : r.Fills d found new)
    (hfound : found ≠ []) : ∃ count e, r.apply d = (.ok (.applied count), e) := by
  refine ⟨found.length, putBelow 0 d (Node.putsAt found new), ?_⟩
  rw [h.apply, Verdict.ofCount_eq_applied.mpr ⟨rfl, List.length_pos_of_ne_nil hfound⟩]

/-- So is a renaming of an atom that is there. -/
theorem Renames.exists_apply {o : Datum} {q : Path} (h : r.Renames o new)
    (hq : d.HasAtomAt o q) : ∃ count e, r.apply d = (.ok (.applied count), e) := by
  have hpos : 1 ≤ (d.places o).length := List.length_pos_of_mem (Datum.mem_places.mpr hq)
  refine ⟨(d.places o).length, (Datum.replaceAtoms o new d).1, ?_⟩
  rw [h.apply, ← Datum.length_places, Verdict.ofCount_eq_applied.mpr ⟨rfl, hpos⟩]

/-- **Counting what is replaced.** An applied rule has replaced at least one place, and as many
as it says: a new datum stands at each of them, and apart from them the datum is what it was.
The places of a replacement are the outermost matches, which are as many as an expectation with
the same pattern counts if no match lies in another one, and fewer otherwise. Replacing the
first match is one place, and the places of a renaming are the atoms that equal the old one,
be it the whole datum. A rule without anything in its way is applied where it finds a
match or the atom. -/
theorem apply_counts (r : Rule) (d : Datum) :
    (∀ count e, r.apply d = (.ok (.applied count), e) →
      1 ≤ count ∧ ∃ new places, places.length = count ∧ d.FilledAt e new places ∧
        match r.action with
        | .replace text => readText text = .ok new ∧
          ∃ n p, d.node? = some n ∧ r.parsePattern = .ok p ∧
            (∀ q, q ∈ places ↔ ∃ m, n.IsOutermost p q m) ∧
            (∀ expected, apply { r with action := .expect expected, guard := none } d =
              if d.countMatches p = expected then (.ok .unchanged, d)
              else (.error (.countMismatch expected (d.countMatches p)), d)) ∧
            count ≤ d.countMatches p ∧ (count = d.countMatches p ↔ n.MatchesApart p)
        | .replaceFirst text => readText text = .ok new ∧ count = 1 ∧
          ∃ n p f rest, d.node? = some n ∧ r.parsePattern = .ok p ∧ n.search p = f :: rest ∧
            places = [f.1]
        | .rename old text => readText text = .ok new ∧
          ∃ o, readText old = .ok o ∧ (∀ q, q ∈ places ↔ d.HasAtomAt o q) ∧
            (d.isList = false → count = 1 ∧ e = new)
        | .expect _ => False) ∧
    (∀ firstOnly text n p new q m, r.action.replacement? = some (firstOnly, text) →
      d.node? = some n → r.parsePattern = .ok p → readText text = .ok new →
      r.skip? (d.countMatches p) = none → n.at? q = some m → p.satisfiesNode m = true →
        ∃ count e, r.apply d = (.ok (.applied count), e)) ∧
    ∀ old text o new q, r.action = .rename old text → readText old = .ok o →
      readText text = .ok new → d.HasAtomAt o q →
        ∃ count e, r.apply d = (.ok (.applied count), e) := by
  refine ⟨?_, ?_, ?_⟩
  · intro count e happly
    rcases cases_of_apply_eq_applied happly with ⟨o, new, h⟩ | ⟨found, new, h⟩
    · -- a renaming: the places are those of the old atom
      obtain ⟨hcount, hpos, hfilled⟩ := h.of_apply_eq_applied happly
      obtain ⟨old, text, haction, hold, hnew⟩ := h
      refine ⟨hpos, new, d.places o, hcount, hfilled, ?_⟩
      rw [haction]
      refine ⟨hnew, o, hold, fun q => Datum.mem_places, ?_⟩
      intro hatom
      subst hcount
      exact hfilled.of_atom hatom hpos
    · -- a replacement: the places are those of its matches
      obtain ⟨hcount, hpos, hfilled⟩ := h.of_apply_eq_applied happly
      refine ⟨hpos, new, found.map Prod.fst, by rw [List.length_map, hcount], hfilled, ?_⟩
      cases haction : r.action with
      | replace text =>
        obtain ⟨hnew, n, p, hd, hp, rfl⟩ := h.of_replacement? (by rw [haction]; rfl)
        have hall : d.countMatches p = (n.search p).length := by rw [Datum.countMatches, hd]
        refine ⟨hnew, n, p, hd, hp, ?_, fun expected => apply_expect rfl hp rfl, ?_, ?_⟩
        · intro q
          show q ∈ (n.outermost p).map Prod.fst ↔ _
          simp only [List.mem_map, Prod.exists, exists_and_right, exists_eq_right,
            n.mem_outermost]
        · rw [← hcount, hall]
          exact n.length_outermost_le p
        · rw [← hcount, hall]
          exact n.length_outermost_eq_iff p
      | replaceFirst text =>
        obtain ⟨hnew, n, p, hd, hp, rfl⟩ := h.of_replacement? (by rw [haction]; rfl)
        rw [n.targets_first] at hcount ⊢
        cases hsearch : n.search p with
        | nil =>
          -- without a match nothing would have been replaced
          rw [hsearch] at hcount
          subst hcount
          cases hpos
        | cons f rest =>
          rw [hsearch] at hcount
          exact ⟨hnew, hcount.symm, n, p, f, rest, hd, hp, hsearch, rfl⟩
      | rename | expect =>
        obtain ⟨hreplacement, -⟩ := h
        rw [haction] at hreplacement
        cases hreplacement
  · intro firstOnly text n p new q m haction hd hp hnew hguard hm hsat
    exact Fills.exists_apply (.intro haction hp hguard hnew hd) (Node.targets_ne_nil hm hsat _)
  · intro old text o new q haction hold hnew hq
    exact Renames.exists_apply ⟨old, text, haction, hold, hnew⟩ hq

/-- Every node matches the first pattern, and the root takes the others along. The nodes that
match the second one lie apart. -/
example :
    let d : Datum := .list (some 1)
      [.sym "f", .list (some 2) [.sym "a", .list (some 2) [.sym "b"]], .list (some 3) [.sym "a"]]
    let replace (text : String) : Rule := ⟨"all", some text, .replace "x", none⟩
    let expect (text : String) (count : Nat) : Rule := ⟨"all", some text, .expect count, none⟩
    ((replace "(___)").run d).1.display = "Applied all (1 replaced)" ∧
      ((expect "(___)" 4).run d).1.display = "Unchanged all" ∧
      ((replace "(a ___)").run d).1.display = "Applied all (2 replaced)" ∧
      ((replace "(a ___)").run d).2.source = "(f x x)" ∧
      ((expect "(a ___)" 2).run d).1.display = "Unchanged all" := by
  decide +kernel

end Rule

end SexprQuery
