import SexprQuery.Proofs.Division
import SexprQuery.Proofs.Equality
import SexprQuery.Proofs.PatternMeaning
import SexprQuery.Proofs.RuleRuns
import SexprQuery.Proofs.SearchAlgebra
import SexprQuery.Proofs.Substitution

/-!
# Data without lines

The lines of a datum say where it was read and nothing else. `Datum.unlined` takes them
off, and every operation commutes with that: a test gives the same answer, a search finds
the same paths, and what a substitution makes of a datum without lines is what it makes of
the datum, without lines.

The lemmas follow the definitions: first data and their text, then tests, walks and
searches, then single replacements and rows of them.
-/

namespace SexprQuery

/-! ## Lines taken off -/

namespace Datum

theorem slotsUnlined_eq_map (ds : List Datum) : slotsUnlined ds = ds.map unlined := by
  induction ds with
  | nil => rfl
  | cons d ds ih => rw [slotsUnlined, ih, List.map_cons]

theorem unlined_list (line : Option Nat) (slots : List Datum) :
    (list line slots).unlined = list none (slots.map unlined) := by
  rw [unlined, slotsUnlined_eq_map]

theorem unlined_of_atom {d : Datum} (h : d.isList = false) : d.unlined = d := by
  cases d with
  | list => cases h
  | _ => rfl

theorem isList_unlined (d : Datum) : d.unlined.isList = d.isList := by
  cases d <;> rfl

theorem slots_unlined (d : Datum) : d.unlined.slots = d.slots.map unlined := by
  cases d with
  | list line slots => exact slotsUnlined_eq_map slots
  | _ => rfl

mutual
theorem sourceChars_unlined (d : Datum) : d.unlined.sourceChars = d.sourceChars := by
  cases d with
  | list line slots => rw [unlined, sourceChars, sourceChars, sourceSlots_unlined slots]
  | _ => rfl
termination_by structural d

theorem sourceSlots_unlined (ds : List Datum) : sourceSlots (slotsUnlined ds) = sourceSlots ds := by
  cases ds with
  | nil => rfl
  | cons d ds =>
    rw [slotsUnlined, sourceSlots, sourceSlots, sourceChars_unlined d, sourceMore_unlined ds]
termination_by structural ds

theorem sourceMore_unlined (ds : List Datum) : sourceMore (slotsUnlined ds) = sourceMore ds := by
  cases ds with
  | nil => rfl
  | cons d ds =>
    rw [slotsUnlined, sourceMore, sourceMore, sourceChars_unlined d, sourceMore_unlined ds]
termination_by structural ds
end

theorem text_unlined (d : Datum) : d.unlined.text = d.text := by
  cases d with
  | list line slots =>
    show String.ofList _ = String.ofList _
    exact congrArg String.ofList (sourceChars_unlined (list line slots))
  | _ => rfl

/-- Equality sees lines on neither side. -/
theorem unlined_beq (d e : Datum) : (d.unlined == e) = (d == e) := by
  show Datum.beq d.unlined e = Datum.beq d e
  rw [beq_comm, beq_unlined, beq_comm]

end Datum

namespace Node

/-- A node as if it had not been read from text. -/
def unlined (n : Node) : Node := ⟨none, n.slots.map Datum.unlined⟩

theorem toDatum_unlined (n : Node) : n.unlined.toDatum = n.toDatum.unlined :=
  (Datum.unlined_list n.line n.slots).symm

end Node

theorem Datum.node?_unlined (d : Datum) : d.unlined.node? = d.node?.map Node.unlined := by
  cases d with
  | list line slots => rw [unlined_list]; rfl
  | _ => rfl

/-! ## Tests -/

namespace Pattern

theorem hasPair_map (first second : Datum → Bool) (gap : Nat) (f : Datum → Datum)
    (ds : List Datum) :
    hasPair first second gap (ds.map f) =
      hasPair (fun d => first (f d)) (fun d => second (f d)) gap ds := by
  induction ds with
  | nil => rfl
  | cons d ds ih =>
    rw [List.map_cons, hasPair, hasPair, ih, ← List.map_drop, List.any_map]
    rfl

end Pattern

mutual
theorem Datum.nodes_unlined (d : Datum) : d.unlined.nodes = d.nodes.map Node.unlined := by
  cases d with
  | list line slots =>
    rw [Datum.unlined_list, Datum.nodes, Datum.nodes, List.map_cons, slotsNodes_unlined slots]
    rfl
  | _ => rfl
termination_by structural d

theorem slotsNodes_unlined (ds : List Datum) :
    slotsNodes (ds.map Datum.unlined) = (slotsNodes ds).map Node.unlined := by
  cases ds with
  | nil => rfl
  | cons d ds =>
    rw [List.map_cons, slotsNodes, slotsNodes, List.map_append, Datum.nodes_unlined d,
      slotsNodes_unlined ds]
termination_by structural ds
end

namespace Pattern

mutual
/-- A test sees no lines. -/
theorem satisfies_unlined (p : Pattern) (d : Datum) : p.satisfies d.unlined = p.satisfies d := by
  cases p with
  | wild => rfl
  | remaining => rfl
  | atom => rw [satisfies, satisfies, d.isList_unlined]
  | tagged tag =>
    rw [satisfies, satisfies, d.slots_unlined, List.head?_map, Option.any_map]
    congr 1
    funext e
    exact e.unlined_beq tag
  | text re => rw [satisfies, satisfies, d.isList_unlined, d.text_unlined]
  | includes inner =>
    rw [satisfies, satisfies, d.slots_unlined, List.any_map]
    congr 1
    funext e
    exact satisfies_unlined inner e
  | within inner =>
    rw [satisfies, satisfies, satisfies_unlined inner d, d.nodes_unlined, ← List.map_drop,
      List.any_map]
    congr 2
    funext n
    show inner.satisfies n.unlined.toDatum = _
    rw [n.toDatum_unlined, satisfies_unlined inner n.toDatum]
  | sibling subject follower gap =>
    have hsubject : (fun e : Datum => subject.satisfies e.unlined) = subject.satisfies :=
      funext fun e => satisfies_unlined subject e
    have hfollower : (fun e : Datum => follower.satisfies e.unlined) = follower.satisfies :=
      funext fun e => satisfies_unlined follower e
    rw [satisfies, satisfies, d.slots_unlined, hasPair_map, hsubject, hfollower]
  | not inner => rw [satisfies, satisfies, satisfies_unlined inner d]
  | any options => exact anySatisfied_unlined options d
  | all required => exact allSatisfied_unlined required d
  | shape elements =>
    rw [satisfies, satisfies, d.isList_unlined, d.slots_unlined, fits_unlined elements]
  | equals value => exact d.unlined_beq value
termination_by structural p

theorem anySatisfied_unlined (ps : List Pattern) (d : Datum) :
    anySatisfied ps d.unlined = anySatisfied ps d := by
  cases ps with
  | nil => rfl
  | cons p ps =>
    rw [anySatisfied, anySatisfied, satisfies_unlined p d, anySatisfied_unlined ps d]
termination_by structural ps

theorem allSatisfied_unlined (ps : List Pattern) (d : Datum) :
    allSatisfied ps d.unlined = allSatisfied ps d := by
  cases ps with
  | nil => rfl
  | cons p ps =>
    rw [allSatisfied, allSatisfied, satisfies_unlined p d, allSatisfied_unlined ps d]
termination_by structural ps

theorem fits_unlined (ps : List Pattern) (ds : List Datum) :
    fits ps (ds.map Datum.unlined) = fits ps ds := by
  cases ps with
  | nil => cases ds <;> rfl
  | cons p ps =>
    by_cases hlast : p = .remaining ∧ ps = []
    · obtain ⟨rfl, rfl⟩ := hlast
      rfl
    · have hfront : p = .remaining → ps ≠ [] := fun hp hps => hlast ⟨hp, hps⟩
      cases ds with
      | nil => rfl
      | cons d ds =>
        rw [List.map_cons, fits_cons_cons hfront, fits_cons_cons hfront, satisfies_unlined p d,
          fits_unlined ps ds]
termination_by structural ps
end

theorem satisfiesNode_unlined (p : Pattern) (n : Node) :
    p.satisfiesNode n.unlined = p.satisfiesNode n := by
  rw [satisfiesNode, n.toDatum_unlined, p.satisfies_unlined]
  rfl

end Pattern

/-! ## Searches -/

mutual
theorem walkFrom_unlined (q : Path) (d : Datum) :
    walkFrom q d.unlined = (walkFrom q d).map (Prod.map id Node.unlined) := by
  cases d with
  | list line slots =>
    rw [Datum.unlined_list, walkFrom, walkFrom, List.map_cons, walkSlots_unlined q 0 slots]
    rfl
  | _ => rfl
termination_by structural d

theorem walkSlots_unlined (q : Path) (i : Nat) (ds : List Datum) :
    walkSlots q i (ds.map Datum.unlined) =
      (walkSlots q i ds).map (Prod.map id Node.unlined) := by
  cases ds with
  | nil => rfl
  | cons d ds =>
    rw [List.map_cons, walkSlots, walkSlots, List.map_append, walkFrom_unlined (q ++ [i]) d,
      walkSlots_unlined q (i + 1) ds]
termination_by structural ds
end

theorem Node.search_unlined (n : Node) (p : Pattern) :
    n.unlined.search p = (n.search p).map (Prod.map id Node.unlined) := by
  rw [search, search, walk, walk, n.toDatum_unlined, walkFrom_unlined, List.filter_map]
  congr 1
  refine List.filter_congr ?_
  intro found _
  exact p.satisfiesNode_unlined found.2

theorem outermostAfter_unlined (last : Option Path) (found : List (Path × Node)) :
    outermostAfter last (found.map (Prod.map id Node.unlined)) =
      (outermostAfter last found).map (Prod.map id Node.unlined) := by
  induction found generalizing last with
  | nil => rfl
  | cons f found ih =>
    rw [List.map_cons, outermostAfter, outermostAfter, ih, ih]
    show (if (last.any fun p => p.isPrefixOf f.1) then _ else _) = _
    split
    · rfl
    · rfl

theorem Node.outermost_unlined (n : Node) (p : Pattern) :
    n.unlined.outermost p = (n.outermost p).map (Prod.map id Node.unlined) := by
  rw [outermost, n.search_unlined, outermostAfter_unlined]
  rfl

/-- A match as if its node had not been read from text. -/
def Match.unlined (m : Match) : Match := { m with node := m.node.unlined }

theorem divideAgain_unlined (ms : List Match) (p : Pattern) :
    divideAgain (ms.map Match.unlined) p = (divideAgain ms p).map Match.unlined := by
  rw [divideAgain, divideAgain, List.flatMap_map, List.map_flatMap]
  congr 1
  funext m
  show (m.node.unlined.search p).map _ = _
  rw [m.node.search_unlined, List.map_map, List.map_map]
  rfl

theorem Node.divideInTurn_unlined (n : Node) (p : Pattern) (ps : List Pattern) :
    n.unlined.divideInTurn p ps = (n.divideInTurn p ps).map Match.unlined := by
  have hfirst : n.unlined.divide p = (n.divide p).map Match.unlined := by
    rw [divide, n.search_unlined, List.map_map, divide, List.map_map]
    rfl
  rw [divideInTurn, hfirst, divideInTurn]
  generalize n.divide p = ms
  induction ps generalizing ms with
  | nil => rfl
  | cons q ps ih => rw [List.foldl_cons, divideAgain_unlined, ih, List.foldl_cons]

/-! ## Substitutions -/

theorem Datum.put_unlined (e : Datum) (q : Path) (d : Datum) :
    put e.unlined q d.unlined = (put e q d).unlined := by
  induction q generalizing d with
  | nil =>
    rw [put, put, d.isList_unlined]
    split <;> rfl
  | cons i q ih =>
    cases d with
    | list line slots =>
      rw [unlined_list, put_cons_list, put_cons_list, unlined_list]
      congr 1
      apply List.ext_getElem?
      intro j
      rw [List.getElem?_map, List.getElem?_modify, List.getElem?_modify, List.getElem?_map]
      by_cases hij : i = j
      · cases slots[j]? with
        | none => rfl
        | some c => simp [hij, ih c]
      · simp [hij]
    | _ => rfl

namespace Node

theorem replaceAt_unlined (n : Node) (q : Path) (e : Datum) :
    n.unlined.replaceAt q e.unlined = (n.replaceAt q e).unlined := by
  by_cases hq : q = []
  · subst hq
    rfl
  · apply toDatum_injective
    rw [toDatum_replaceAt _ hq, toDatum_unlined, Datum.put_unlined, toDatum_unlined,
      toDatum_replaceAt _ hq]

theorem putAll_unlined (n : Node) (puts : List (Path × Datum)) :
    n.unlined.putAll (puts.map (Prod.map id Datum.unlined)) = (n.putAll puts).unlined := by
  have hfold : (puts.map (Prod.map id Datum.unlined)).foldl
      (fun tree r => tree.replaceAt r.1 r.2) n.unlined =
        (puts.foldl (fun tree r => tree.replaceAt r.1 r.2) n).unlined := by
    induction puts generalizing n with
    | nil => rfl
    | cons r puts ih =>
      rw [List.map_cons, List.foldl_cons, List.foldl_cons, ← ih (n.replaceAt r.1 r.2),
        ← replaceAt_unlined]
      rfl
  match puts with
  | [] => exact n.toDatum_unlined
  | ([], d) :: rest => rfl
  | (i :: q, d) :: rest => exact (congrArg toDatum hfold).trans (toDatum_unlined _)

end Node

theorem Datum.replaceAtoms_unlined_of_atom (old new : Datum) {d : Datum} (h : d.isList = false) :
    Datum.replaceAtoms old.unlined new.unlined d.unlined =
      (Datum.replaceAtoms old new d).map Datum.unlined id := by
  have hold : (d == old.unlined) = (d == old) := beq_unlined d old
  rw [unlined_of_atom h, replaceAtoms_of_atom _ _ h, replaceAtoms_of_atom _ _ h, hold]
  split
  · rfl
  · rw [Prod.map, unlined_of_atom h]
    rfl

mutual
theorem Datum.replaceAtoms_unlined (old new d : Datum) :
    Datum.replaceAtoms old.unlined new.unlined d.unlined =
      (Datum.replaceAtoms old new d).map Datum.unlined id := by
  cases d with
  | list line slots =>
    rw [Datum.unlined_list, Datum.replaceAtoms, Datum.replaceAtoms,
      slotsReplaceAtoms_unlined old new slots]
    exact Prod.ext (Datum.unlined_list line _).symm rfl
  | _ => exact Datum.replaceAtoms_unlined_of_atom old new rfl
termination_by structural d

theorem slotsReplaceAtoms_unlined (old new : Datum) (ds : List Datum) :
    slotsReplaceAtoms old.unlined new.unlined (ds.map Datum.unlined) =
      (slotsReplaceAtoms old new ds).map (List.map Datum.unlined) id := by
  cases ds with
  | nil => rfl
  | cons d ds =>
    rw [List.map_cons, slotsReplaceAtoms, slotsReplaceAtoms, Datum.replaceAtoms_unlined old new d,
      slotsReplaceAtoms_unlined old new ds]
    rfl
termination_by structural ds
end

theorem Node.replaceAtoms_unlined (n : Node) (old new : Datum) :
    n.unlined.replaceAtoms old.unlined new.unlined =
      (n.replaceAtoms old new).map Node.unlined id := by
  have hslots := slotsReplaceAtoms_unlined old new n.slots
  show ((⟨none, (slotsReplaceAtoms old.unlined new.unlined (n.slots.map Datum.unlined)).1⟩ : Node),
    (slotsReplaceAtoms old.unlined new.unlined (n.slots.map Datum.unlined)).2) = _
  rw [hslots]
  rfl

end SexprQuery
