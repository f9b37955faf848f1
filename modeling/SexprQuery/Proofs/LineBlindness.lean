import SexprQuery.Proofs.Equality
import SexprQuery.Proofs.Lines

/-!
# Lines have no influence

Two data that are one without their lines are `SameButLines`, and so are nodes and
patterns. Every operation goes as well without lines as with them, so two runs whose inputs
differ in lines only go alike: they find the same paths, call a transformation at the same
places, report the same counts and outcomes, and what they give differs in lines at most
(`Node.lines_without_influence`). Such data have one text, and they are equal unless
there is a NaN in them.

The transformation of a substitution has to be blind to lines itself (`IsLineBlind`).
-/

namespace SexprQuery

/-! ## Differences in lines only -/

/-- Two data that differ in lines only. -/
def Datum.SameButLines (d e : Datum) : Prop := d.unlined = e.unlined

/-- Two nodes that differ in lines only. -/
def Node.SameButLines (n m : Node) : Prop := n.unlined = m.unlined

/-- Two patterns whose tags and data to compare with differ in lines only. -/
def Pattern.SameButLines (p q : Pattern) : Prop := p.unlined = q.unlined

theorem Node.SameButLines.toDatum {n m : Node} (h : n.SameButLines m) :
    n.toDatum.SameButLines m.toDatum := by
  rw [Datum.SameButLines, ← n.toDatum_unlined, ← m.toDatum_unlined, h]

namespace Datum.SameButLines
variable {d e : Datum}

theorem source_eq (h : d.SameButLines e) : d.source = e.source := by
  rw [source, source, ← d.sourceChars_unlined, ← e.sourceChars_unlined, h]

/-- Data that differ in lines only are equal, but for a NaN in them. -/
theorem beq_eq (h : d.SameButLines e) : (d == e) = !d.hasNan := by
  calc (d == e) = (d == e.unlined) := (beq_unlined d e).symm
    _ = (d == d.unlined) := by rw [h]
    _ = (d == d) := beq_unlined d d
    _ = !d.hasNan := d.beq_self_eq

/-- They are one atom or two nodes. -/
theorem eq_or_exists_nodes (h : d.SameButLines e) :
    (d = e ∧ d.node? = none) ∨
      ∃ n m : Node, d = n.toDatum ∧ e = m.toDatum ∧ n.SameButLines m := by
  have hnode := congrArg node? h
  rw [node?_unlined, node?_unlined] at hnode
  cases hd : d.node? with
  | none =>
    have hatom : ∀ {c : Datum}, c.node? = none → c.unlined = c := by
      intro c hc
      cases c with
      | list => cases hc
      | _ => exact unlined_of_atom rfl
    rw [hd, Option.map_none, eq_comm, Option.map_eq_none_iff] at hnode
    exact .inl ⟨(hatom hd).symm.trans (h.trans (hatom hnode)), rfl⟩
  | some n =>
    rw [hd, Option.map_some, eq_comm, Option.map_eq_some_iff] at hnode
    obtain ⟨m, he, hm⟩ := hnode
    exact .inr ⟨n, m, eq_toDatum_of_node? hd, eq_toDatum_of_node? he, hm.symm⟩

end Datum.SameButLines

namespace Pattern

mutual
/-- Equality of patterns sees no lines either. -/
theorem beq_unlined (p q : Pattern) : Pattern.beq p q.unlined = Pattern.beq p q := by
  cases p <;> cases q <;> try rfl
  case tagged.tagged a b => exact a.beq_unlined b
  case includes.includes a b => exact beq_unlined a b
  case within.within a b => exact beq_unlined a b
  case sibling.sibling a b g c d h =>
    show (Pattern.beq a c.unlined && Pattern.beq b d.unlined && g == h) = _
    rw [beq_unlined a c, beq_unlined b d, Pattern.beq]
  case not.not a b => exact beq_unlined a b
  case any.any as bs => exact beqList_unlined as bs
  case all.all as bs => exact beqList_unlined as bs
  case shape.shape as bs => exact beqList_unlined as bs
  case equals.equals a b => exact a.beq_unlined b
termination_by structural p

theorem beqList_unlined (ps qs : List Pattern) :
    beqList ps (listMapData Datum.unlined (fun value => .equals value.unlined) qs) =
      beqList ps qs := by
  cases ps <;> cases qs <;> try rfl
  case cons.cons p ps q qs =>
    show (Pattern.beq p q.unlined && beqList ps _) = _
    rw [beq_unlined p q, beqList_unlined ps qs, beqList]
termination_by structural ps
end

/-- Patterns that differ in lines only are equal, but for a NaN in them. -/
theorem SameButLines.beq_eq {p q : Pattern} (h : p.SameButLines q) : (p == q) = !p.hasNan := by
  calc (p == q) = (p == q.unlined) := (beq_unlined p q).symm
    _ = (p == p.unlined) := by rw [h]
    _ = (p == p) := beq_unlined p p
    _ = !p.hasNan := p.beq_self_eq

end Pattern

/-! ## Searches -/

namespace Node

/-- A search asks what satisfies the pattern and nothing else. -/
theorem search_congr (n : Node) {p q : Pattern} (h : p.satisfies = q.satisfies) :
    n.search p = n.search q := by
  have hnode : p.satisfiesNode = q.satisfiesNode := by
    funext m
    rw [Pattern.satisfiesNode, Pattern.satisfiesNode, h]
  rw [search, search, hnode]

theorem outermost_congr (n : Node) {p q : Pattern} (h : p.satisfies = q.satisfies) :
    n.outermost p = n.outermost q := by
  rw [outermost, outermost, n.search_congr h]

theorem divideInTurn_congr (n : Node) {p q : Pattern} {ps qs : List Pattern}
    (h : p.satisfies = q.satisfies)
    (hs : List.Forall₂ (fun p q => p.satisfies = q.satisfies) ps qs) :
    n.divideInTurn p ps = n.divideInTurn q qs := by
  rw [divideInTurn, divideInTurn, divide, divide, n.search_congr h]
  generalize (n.search q).map Match.ofFound = ms
  induction hs generalizing ms with
  | nil => rfl
  | cons hpq _ ih =>
    rw [List.foldl_cons, List.foldl_cons, divideAgain, divideAgain]
    simp only [search_congr _ hpq]
    exact ih _

end Node

namespace Node.SameButLines
variable {n m : Node} {p q : Pattern}

theorem search (hn : n.SameButLines m) (hp : p.SameButLines q) :
    (n.search p).map (Prod.map id Node.unlined) = (m.search q).map (Prod.map id Node.unlined) := by
  rw [← n.search_unlined, ← m.search_unlined, hn,
    m.unlined.search_congr (Pattern.satisfies_eq_of_unlined_eq hp)]

theorem outermost (hn : n.SameButLines m) (hp : p.SameButLines q) :
    (n.outermost p).map (Prod.map id Node.unlined) =
      (m.outermost q).map (Prod.map id Node.unlined) := by
  rw [← n.outermost_unlined, ← m.outermost_unlined, hn,
    m.unlined.outermost_congr (Pattern.satisfies_eq_of_unlined_eq hp)]

theorem foundPaths_eq (hn : n.SameButLines m) (hp : p.SameButLines q) :
    n.foundPaths p = m.foundPaths q := by
  have hpaths := congrArg (List.map Prod.fst) (hn.search hp)
  rwa [List.map_map, List.map_map] at hpaths

theorem divideInTurn_paths (hn : n.SameButLines m) (hp : p.SameButLines q) {ps qs : List Pattern}
    (hs : List.Forall₂ Pattern.SameButLines ps qs) :
    (n.divideInTurn p ps).map Match.path = (m.divideInTurn q qs).map Match.path := by
  have hsatisfies := hs.imp fun _ _ => Pattern.satisfies_eq_of_unlined_eq
  have hsame : (n.divideInTurn p ps).map Match.unlined =
      (m.divideInTurn q qs).map Match.unlined := by
    rw [← n.divideInTurn_unlined, ← m.divideInTurn_unlined, hn,
      m.unlined.divideInTurn_congr (Pattern.satisfies_eq_of_unlined_eq hp) hsatisfies]
  have hpaths := congrArg (List.map Match.path) hsame
  rwa [List.map_map, List.map_map] at hpaths

/-! ## Substitutions -/

theorem putAll (hn : n.SameButLines m) {puts others : List (Path × Datum)}
    (h : puts.map (Prod.map id Datum.unlined) = others.map (Prod.map id Datum.unlined)) :
    (n.putAll puts).SameButLines (m.putAll others) := by
  rw [Datum.SameButLines, ← n.putAll_unlined, ← m.putAll_unlined, h, hn]

end Node.SameButLines

/-- One datum at the paths of nodes, where neither depends on the lines of the nodes. -/
theorem map_unlined_puts {found others : List (Path × Node)} {d e : Datum}
    (h : found.map (Prod.map id Node.unlined) = others.map (Prod.map id Node.unlined))
    (hd : d.SameButLines e) :
    (found.map fun f => (f.1, d)).map (Prod.map id Datum.unlined) =
      (others.map fun f => (f.1, e)).map (Prod.map id Datum.unlined) := by
  have hputs := congrArg (List.map fun f : Path × Node => (f.1, d.unlined)) h
  rw [List.map_map, List.map_map] at hputs ⊢
  show (found.map fun f => (f.1, d.unlined)) = others.map fun f => (f.1, e.unlined)
  rw [← show d.unlined = e.unlined from hd]
  exact hputs

/-- A transformation that does not look at lines: of nodes that differ in lines only it
makes data that differ in lines only, and leaves the same state. -/
def IsLineBlind {σ : Type} (transform : Match → StateM σ Datum) : Prop :=
  ∀ (r : Path) (k l : Node), k.SameButLines l → ∀ s : σ,
    ((transform (Match.ofFound (r, k))).run s).1.SameButLines
        ((transform (Match.ofFound (r, l))).run s).1 ∧
      ((transform (Match.ofFound (r, k))).run s).2 = ((transform (Match.ofFound (r, l))).run s).2

section
variable {σ : Type} {transform : Match → StateM σ Datum}

/-- Calls on nodes that differ in lines only are answered alike, one after the other. -/
theorem IsLineBlind.callAll (h : IsLineBlind transform) {found others : List (Path × Node)}
    (hsame : found.map (Prod.map id Node.unlined) = others.map (Prod.map id Node.unlined)) (s : σ) :
    (callAll transform found s).1.map (Prod.map id Datum.unlined) =
        (callAll transform others s).1.map (Prod.map id Datum.unlined) ∧
      (callAll transform found s).2 = (callAll transform others s).2 := by
  induction found generalizing others s with
  | nil =>
    obtain rfl := List.map_eq_nil_iff.mp hsame.symm
    exact ⟨rfl, rfl⟩
  | cons f found ih =>
    cases others with
    | nil => cases hsame
    | cons g others =>
      obtain ⟨hhead, htail⟩ := List.cons.inj hsame
      obtain ⟨hpath, hnode⟩ := Prod.mk.inj hhead
      obtain ⟨r, k⟩ := f
      obtain ⟨u, l⟩ := g
      obtain rfl : r = u := hpath
      obtain ⟨hmade, hstate⟩ := h r k l hnode s
      obtain ⟨hothers, hend⟩ := ih htail ((transform (Match.ofFound (r, k))).run s).2
      rw [SexprQuery.callAll, SexprQuery.callAll, ← hstate]
      refine ⟨?_, hend⟩
      rw [List.map_cons, List.map_cons, hothers]
      congr 1
      exact Prod.ext rfl hmade

variable {n m : Node} {p q : Pattern}

theorem Node.SameButLines.replaceWith (hn : n.SameButLines m) (hp : p.SameButLines q)
    (h : IsLineBlind transform) (s : σ) :
    ((n.replaceWith p transform).run s).1.SameButLines ((m.replaceWith q transform).run s).1 ∧
      ((n.replaceWith p transform).run s).2 = ((m.replaceWith q transform).run s).2 := by
  obtain ⟨hmade, hstate⟩ := h.callAll (hn.outermost hp) s
  rw [Node.replaceWith, Node.replaceWith, Node.replaceFound_run, Node.replaceFound_run]
  exact ⟨hn.putAll hmade, hstate⟩

/-- The transformation is called at the same paths. -/
theorem Node.SameButLines.recorded_paths (hn : n.SameButLines m) (hp : p.SameButLines q) (s : σ) :
    ((n.replaceWith p (recorded transform)).run (s, [])).2.2.map Match.path =
      ((m.replaceWith q (recorded transform)).run (s, [])).2.2.map Match.path := by
  rw [Node.replaceWith, Node.replaceWith, Node.replaceFound_run, Node.replaceFound_run,
    callAll_recorded, callAll_recorded]
  have hpaths := congrArg (List.map Prod.fst) (hn.outermost hp)
  rw [List.map_map, List.map_map] at hpaths
  rw [List.nil_append, List.nil_append, List.map_map, List.map_map]
  exact hpaths

end

namespace Node.SameButLines
variable {n m : Node} {p q : Pattern}

theorem replaceAll (hn : n.SameButLines m) (hp : p.SameButLines q) {d e : Datum}
    (hd : d.SameButLines e) : (n.replaceAll p d).SameButLines (m.replaceAll q e) :=
  hn.putAll (map_unlined_puts (hn.outermost hp) hd)

theorem take_outermost (hn : n.SameButLines m) (hp : p.SameButLines q) (k : Nat) :
    ((n.outermost p).take k).map (Prod.map id Node.unlined) =
      ((m.outermost q).take k).map (Prod.map id Node.unlined) := by
  rw [List.map_take, List.map_take, hn.outermost hp]

theorem replaceFirst (hn : n.SameButLines m) (hp : p.SameButLines q) {d e : Datum}
    (hd : d.SameButLines e) : (n.replaceFirst p d).SameButLines (m.replaceFirst q e) :=
  hn.putAll (map_unlined_puts (hn.take_outermost hp 1) hd)

theorem replaceAtoms (hn : n.SameButLines m) {old old' new new' : Datum}
    (hold : old.SameButLines old') (hnew : new.SameButLines new') :
    (n.replaceAtoms old new).1.SameButLines (m.replaceAtoms old' new').1 ∧
      (n.replaceAtoms old new).2 = (m.replaceAtoms old' new').2 := by
  have hsame : (n.replaceAtoms old new).map Node.unlined id =
      (m.replaceAtoms old' new').map Node.unlined id := by
    rw [← n.replaceAtoms_unlined, ← m.replaceAtoms_unlined, hn, hold, hnew]
  exact Prod.mk.inj hsame

end Node.SameButLines

/-! ## Rules -/

theorem Datum.SameButLines.countMatches_eq {d e : Datum} {p : Pattern} (hd : d.SameButLines e) :
    d.countMatches p = e.countMatches p := by
  obtain ⟨rfl, -⟩ | ⟨n, m, rfl, rfl, hn⟩ := hd.eq_or_exists_nodes
  · rfl
  · have hlength := congrArg List.length (hn.search (p := p) rfl)
    rwa [List.length_map, List.length_map] at hlength

namespace Rule
variable {d e : Datum}

/-- Two results of a rule that differ in lines only, with their data. -/
structure SameResult {α : Type} (result other : α × Datum) : Prop where
  fst_eq : result.1 = other.1
  snd : result.2.SameButLines other.2

/-- Renaming replaces as many atoms in either datum, or the datum as a whole. -/
theorem sameResult_renameIn (old new : Datum) (hd : d.SameButLines e) :
    SameResult (renameIn old new d) (renameIn old new e) := by
  obtain ⟨rfl, -⟩ | ⟨n, m, rfl, rfl, hn⟩ := hd.eq_or_exists_nodes
  · exact ⟨rfl, rfl⟩
  · obtain ⟨hrenamed, hcount⟩ :=
      hn.replaceAtoms (rfl : old.SameButLines old) (rfl : new.SameButLines new)
    rw [renameIn, renameIn, Node.node?_toDatum, Node.node?_toDatum]
    dsimp only
    rw [hcount]
    exact ⟨rfl, hrenamed.toDatum⟩

/-- As many matches are replaced in either datum. -/
theorem sameResult_replaceIn (firstOnly : Bool) (p : Pattern) (new : Datum)
    (hd : d.SameButLines e) :
    SameResult (replaceIn firstOnly p new d) (replaceIn firstOnly p new e) := by
  obtain ⟨rfl, -⟩ | ⟨n, m, rfl, rfl, hn⟩ := hd.eq_or_exists_nodes
  · exact ⟨rfl, rfl⟩
  · have hfound := show
        (if firstOnly then (n.outermost p).take 1 else n.outermost p).map
            (Prod.map _ Node.unlined) =
          (if firstOnly then (m.outermost p).take 1 else m.outermost p).map
            (Prod.map _ Node.unlined) by
      cases firstOnly
      · exact hn.outermost rfl
      · exact hn.take_outermost rfl 1
    unfold replaceIn
    rw [Node.node?_toDatum, Node.node?_toDatum]
    dsimp only
    generalize (if firstOnly then (n.outermost p).take 1 else n.outermost p) = found at hfound ⊢
    generalize (if firstOnly then (m.outermost p).take 1 else m.outermost p) = others at hfound ⊢
    have hlength := congrArg List.length hfound
    rw [List.length_map, List.length_map] at hlength
    have hempty : found.isEmpty = others.isEmpty := by
      rw [Bool.eq_iff_iff, List.isEmpty_iff_length_eq_zero, List.isEmpty_iff_length_eq_zero,
        hlength]
    rw [hempty, hlength]
    split
    · exact ⟨rfl, hd⟩
    · exact ⟨rfl, hn.putAll (map_unlined_puts hfound rfl)⟩

theorem sameResult_applyRename (old new : String) (hd : d.SameButLines e) :
    SameResult (applyRename old new d) (applyRename old new e) := by
  unfold applyRename
  split
  · exact ⟨rfl, hd⟩
  split
  · exact ⟨rfl, hd⟩
  · obtain ⟨hverdict, hrenamed⟩ := sameResult_renameIn _ _ hd
    exact ⟨congrArg Except.ok hverdict, hrenamed⟩

theorem sameResult_applyReplace (firstOnly : Bool) (text : String) (p : Pattern)
    (hd : d.SameButLines e) :
    SameResult (applyReplace firstOnly text p d) (applyReplace firstOnly text p e) := by
  unfold applyReplace
  split
  · exact ⟨rfl, hd⟩
  · obtain ⟨hverdict, hreplaced⟩ := sameResult_replaceIn firstOnly p _ hd
    exact ⟨congrArg Except.ok hverdict, hreplaced⟩

/-- A guard counts the same matches in either datum. -/
theorem sameResult_applyGuarded (r : Rule) (hd : d.SameButLines e)
    {act other : Pattern → Nat → RuleResult × Datum}
    (hact : ∀ p found, SameResult (act p found) (other p found)) :
    SameResult (r.applyGuarded d act) (r.applyGuarded e other) := by
  cases hp : r.parsePattern with
  | error fault =>
    rw [applyGuarded_of_error hp, applyGuarded_of_error hp]
    exact ⟨rfl, hd⟩
  | ok p =>
    rw [applyGuarded_of_ok hp, applyGuarded_of_ok hp, hd.countMatches_eq]
    split
    · exact ⟨rfl, hd⟩
    · exact hact p _

theorem sameResult_apply (r : Rule) (hd : d.SameButLines e) :
    SameResult (r.apply d) (r.apply e) := by
  unfold apply
  split
  · exact sameResult_applyRename _ _ hd
  · refine r.sameResult_applyGuarded hd ?_
    intro p found
    split <;> exact ⟨rfl, hd⟩
  · exact r.sameResult_applyGuarded hd fun p _ => sameResult_applyReplace false _ p hd
  · exact r.sameResult_applyGuarded hd fun p _ => sameResult_applyReplace true _ p hd

theorem run_sameButLines (r : Rule) (hd : d.SameButLines e) :
    (r.run d).1 = (r.run e).1 ∧ (r.run d).2.SameButLines (r.run e).2 := by
  obtain ⟨hresult, hleft⟩ := r.sameResult_apply hd
  exact ⟨congrArg (Outcome.mk r.id) hresult, hleft⟩

end Rule

/-- Every rule of a row has the same outcome on either datum. -/
theorem applyRules_sameButLines (rules : List Rule) {d e : Datum} (hd : d.SameButLines e) :
    (applyRules rules d).1 = (applyRules rules e).1 ∧
      (applyRules rules d).2.SameButLines (applyRules rules e).2 := by
  induction rules generalizing d e with
  | nil => exact ⟨rfl, hd⟩
  | cons r rest ih =>
    obtain ⟨houtcome, hleft⟩ := r.run_sameButLines hd
    obtain ⟨houtcomes, hend⟩ := ih hleft
    rw [applyRules, applyRules, houtcome, houtcomes]
    exact ⟨rfl, hend⟩

/-! ## Everything together -/

/-- **Lines have no influence.** Two runs on nodes that differ in lines only, with patterns,
data to put in and atoms to rename that differ in lines at most, go alike: a search and a
row of searches find the same paths, a transformation that is blind to lines is called at
the same paths and leaves the same state, a renaming counts the same atoms, and every rule
has the same outcome. What they give differs in lines only, and that means that it has
one text and is equal. Only a NaN in it is in the way of that, as a NaN is unequal to itself,
and so is a datum that holds one, with the same lines or with others. -/
theorem Node.lines_without_influence {n m : Node} {p q : Pattern} (hn : n.SameButLines m)
    (hp : p.SameButLines q) :
    n.foundPaths p = m.foundPaths q ∧
    (∀ ps qs, List.Forall₂ Pattern.SameButLines ps qs →
      (n.divideInTurn p ps).map Match.path = (m.divideInTurn q qs).map Match.path) ∧
    (∀ (σ : Type) (transform : Match → StateM σ Datum), IsLineBlind transform → ∀ s,
      ((n.replaceWith p transform).run s).1.SameButLines ((m.replaceWith q transform).run s).1 ∧
      ((n.replaceWith p transform).run s).2 = ((m.replaceWith q transform).run s).2 ∧
      ((n.replaceWith p (recorded transform)).run (s, [])).2.2.map Match.path =
        ((m.replaceWith q (recorded transform)).run (s, [])).2.2.map Match.path) ∧
    (∀ d e : Datum, d.SameButLines e →
      (n.replaceAll p d).SameButLines (m.replaceAll q e) ∧
      (n.replaceFirst p d).SameButLines (m.replaceFirst q e)) ∧
    (∀ old old' new new' : Datum, old.SameButLines old' → new.SameButLines new' →
      (n.replaceAtoms old new).1.SameButLines (m.replaceAtoms old' new').1 ∧
      (n.replaceAtoms old new).2 = (m.replaceAtoms old' new').2) ∧
    (∀ (s : RuleSet) (d e : Datum), d.SameButLines e →
      (s.apply d).1 = (s.apply e).1 ∧ (s.apply d).2.SameButLines (s.apply e).2) ∧
    ∀ d e : Datum, d.SameButLines e → d.source = e.source ∧ (d == e) = !d.hasNan := by
  refine ⟨hn.foundPaths_eq hp, ?_, ?_, ?_, ?_, ?_, ?_⟩
  · exact fun ps qs hs => hn.divideInTurn_paths hp hs
  · intro σ transform h s
    obtain ⟨hmade, hstate⟩ := hn.replaceWith hp h s
    exact ⟨hmade, hstate, hn.recorded_paths hp s⟩
  · exact fun d e hd => ⟨hn.replaceAll hp hd, hn.replaceFirst hp hd⟩
  · exact fun old old' new new' hold hnew => hn.replaceAtoms hold hnew
  · exact fun s d e hd => applyRules_sameButLines s.rules hd
  · exact fun d e hd => ⟨hd.source_eq, hd.beq_eq⟩

/-- The same forms read from other places, a pattern with a line in it, and a
transformation that counts and puts the match into what it makes. -/
theorem Node.lines_without_influence_moved :
    ∃ (n m : Node) (p q : Pattern) (wrap : Match → StateM Nat Datum) (s : RuleSet),
      n ≠ m ∧ n.SameButLines m ∧ p.SameButLines q ∧ IsLineBlind wrap ∧
      n.foundPaths p = m.foundPaths q ∧ m.foundPaths q = [[1], [2]] ∧
      ((n.replaceWith p wrap).run 0).1.SameButLines ((m.replaceWith q wrap).run 0).1 ∧
      ((n.replaceWith p wrap).run 0).2 = ((m.replaceWith q wrap).run 0).2 ∧
      ((m.replaceWith q wrap).run 0).1.source = "(defn (wrapped (args)) (wrapped (args)))" ∧
      (s.apply n.toDatum).1 = (s.apply m.toDatum).1 ∧
      (s.apply m.toDatum).1.map Outcome.display = ["Applied gone (2 replaced)"] := by
  let n : Node :=
    ⟨some 1, [.sym "defn", .list (some 1) [.sym "args"], .list (some 2) [.sym "args"]]⟩
  let m : Node := ⟨some 7, [.sym "defn", .list (some 9) [.sym "args"], .list none [.sym "args"]]⟩
  let p : Pattern := .equals (.list (some 3) [.sym "args"])
  let q : Pattern := .equals (.list none [.sym "args"])
  let wrap : Match → StateM Nat Datum := fun k s =>
    (.list none [.sym "wrapped", k.node.toDatum], s + 1)
  let s : RuleSet := ⟨"", none, [⟨"gone", some "(args)", .replace "nil", none⟩]⟩
  have hn : n.SameButLines m := rfl
  have hp : p.SameButLines q := rfl
  have hwrap : IsLineBlind wrap := fun _ _ _ hk _ =>
    ⟨congrArg (fun d => Datum.list none [.sym "wrapped", d]) hk.toDatum, rfl⟩
  have hruns := Node.lines_without_influence hn hp
  obtain ⟨hpaths, -, hreplace, -, -, hrules, -⟩ := hruns
  obtain ⟨hmade, hstate, -⟩ := hreplace Nat wrap hwrap 0
  refine ⟨n, m, p, q, wrap, s, ?_, hn, hp, hwrap, hpaths, ?_, hmade, hstate, ?_,
    (hrules s _ _ hn.toDatum).1, ?_⟩
  · intro h
    cases congrArg Node.line h
  all_goals decide +kernel

end SexprQuery
