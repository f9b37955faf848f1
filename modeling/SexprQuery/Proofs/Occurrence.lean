import SexprQuery.Pattern.Subject
import SexprQuery.Proofs.Cursor
import SexprQuery.Proofs.Equality
import SexprQuery.Proofs.PatternMeaning
import SexprQuery.Proofs.SearchAlgebra

/-!
# Does a pattern occur?

There are many ways to ask whether a pattern occurs in a datum: `Pattern.matchesWithin`,
the pattern `within`, `Operand.occurs` from either side, a search, the first step of a
search by cursor, and `Node.satisfiesSome`. Each has its own way through the tree, and
they agree.

* `Pattern.test_eq` — it makes no difference whether a node is tested as it is or as a
  datum;
* `Node.search_ne_nil` — a search finds something if some node of the tree satisfies the
  pattern, to which all other ways come down.
-/

namespace SexprQuery

/-! ## Nodes and data -/

namespace Subject

/-- The subject as a datum. -/
def toDatum : Subject → Datum
  | .datum d => d
  | .node n => n.toDatum

theorem node?_eq (x : Subject) : x.node? = x.toDatum.node? := by
  cases x <;> rfl

theorem atom?_eq (x : Subject) :
    x.atom? = if x.toDatum.isList then none else some x.toDatum := by
  cases x <;> rfl

theorem isList_eq (x : Subject) : x.isList = x.toDatum.isList := by
  rw [isList, node?_eq]
  cases x.toDatum <;> rfl

/-- A datum stands on the left of a comparison and a node on the right. -/
theorem equals_eq (x : Subject) (value : Datum) : x.equals value = (x.toDatum == value) := by
  cases x with
  | datum d => rfl
  | node n =>
    cases value with
    | list line slots => exact Datum.beqSlots_comm slots n.slots
    | _ => rfl

end Subject

namespace Pattern

mutual
/-- A node is tested as the datum that it is. -/
theorem test_eq (p : Pattern) (x : Subject) : p.test x = p.satisfies x.toDatum := by
  cases p with
  | wild => rfl
  | remaining => rfl
  | atom => rw [test, satisfies, x.isList_eq]
  | tagged tag =>
    rw [test, satisfies, x.node?_eq]
    cases x.toDatum <;> rfl
  | text re =>
    rw [test, satisfies, x.atom?_eq]
    cases x.toDatum <;> rfl
  | includes inner =>
    have hinner : ∀ d, inner.test (.datum d) = inner.satisfies d := fun d => test_eq inner _
    rw [test, satisfies, x.node?_eq]
    simp only [hinner]
    cases x.toDatum <;> rfl
  | within inner =>
    have hinner : ∀ m, inner.test (.node m) = inner.satisfies m.toDatum := fun m => test_eq inner _
    rw [test, satisfies, test_eq inner x, x.node?_eq]
    simp only [hinner]
    cases x.toDatum <;> rfl
  | sibling subject follower gap =>
    have hsubject : (fun d => subject.test (.datum d)) = subject.satisfies :=
      funext fun d => test_eq subject _
    have hfollower : (fun d => follower.test (.datum d)) = follower.satisfies :=
      funext fun d => test_eq follower _
    rw [test, satisfies, x.node?_eq, hsubject, hfollower]
    cases x.toDatum <;> rfl
  | not inner => rw [test, satisfies, test_eq inner x]
  | any options => exact anyTest_eq options x
  | all required => exact allTest_eq required x
  | shape elements =>
    rw [test, satisfies, x.node?_eq]
    simp only [fitsTest_eq elements]
    cases x.toDatum <;> rfl
  | equals value => exact x.equals_eq value
termination_by structural p

theorem anyTest_eq (ps : List Pattern) (x : Subject) :
    anyTest ps x = anySatisfied ps x.toDatum := by
  cases ps with
  | nil => rfl
  | cons p ps => rw [anyTest, anySatisfied, test_eq p x, anyTest_eq ps x]
termination_by structural ps

theorem allTest_eq (ps : List Pattern) (x : Subject) :
    allTest ps x = allSatisfied ps x.toDatum := by
  cases ps with
  | nil => rfl
  | cons p ps => rw [allTest, allSatisfied, test_eq p x, allTest_eq ps x]
termination_by structural ps

theorem fitsTest_eq (ps : List Pattern) (ds : List Datum) : fitsTest ps ds = fits ps ds := by
  cases ps with
  | nil => rfl
  | cons p ps =>
    by_cases hlast : p = .remaining ∧ ps = []
    · obtain ⟨rfl, rfl⟩ := hlast
      rfl
    · have hfront : p = .remaining → ps ≠ [] := fun hp hps => hlast ⟨hp, hps⟩
      cases ds with
      | nil =>
        rw [fits_cons_nil hfront, fitsTest]
        exact fun hp hps => hfront hp hps
      | cons d ds =>
        rw [fits_cons_cons hfront, fitsTest, test_eq p (.datum d), fitsTest_eq ps ds]
        · rfl
        · exact fun hp hps => hfront hp hps
termination_by structural ps
end

/-! ## Ways to ask -/

/-- The pattern `within` tests the root first and then the nodes behind it. -/
theorem satisfies_within (p : Pattern) (d : Datum) :
    (within p).satisfies d = p.matchesWithin d := by
  rw [satisfies, matchesWithin]
  cases d with
  | list line slots => rfl
  | _ => exact Bool.or_false _

theorem matchesWithin_node (p : Pattern) (n : Node) :
    p.matchesWithin n.toDatum = n.nodes.any p.satisfiesNode := rfl

end Pattern

namespace Node

/-- A search finds something where some node of the tree satisfies the pattern. -/
theorem search_ne_nil (n : Node) (p : Pattern) :
    n.search p ≠ [] ↔ n.nodes.any p.satisfiesNode = true := by
  rw [← n.map_snd_walk, List.any_map, List.any_eq_true, search, Ne, List.filter_eq_nil_iff]
  push Not
  rfl

/-- The first step of a search by cursor tells whether there is anything to be found. -/
theorem isSome_advanceTo (n : Node) (p : Pattern) :
    ((Cursor.start n).advanceTo p.satisfiesNode).isSome = true ↔ n.search p ≠ [] := by
  have hfirst := congrArg Option.isSome (Cursor.advanceTo_eq (Cursor.start n) p.satisfiesNode)
  rw [Option.isSome_map, ← n.search_eq_collect] at hfirst
  rw [hfirst, List.isSome_head?]

theorem satisfiesSome_eq (n : Node) (ps : List Pattern) :
    n.satisfiesSome ps = n.nodes.any (Pattern.any ps).satisfiesNode := by
  rw [satisfiesSome]
  congr 1
  funext m
  exact (Pattern.anySatisfied_eq ps m.toDatum).symm

end Node

/-- A pattern that a datum satisfies occurs in it. -/
theorem Pattern.matchesWithin_of_satisfies {p : Pattern} {d : Datum} (h : p.satisfies d = true) :
    p.matchesWithin d = true := by
  rw [← p.satisfies_within, satisfies, h, Bool.true_or]

/-- If one operand is a pattern and the other is a datum, the pattern is looked for in the
datum. -/
theorem Operand.occurs_of_isPattern_ne {a b : Operand} (h : a.isPattern ≠ b.isPattern) :
    ∃ p d, (a = .pattern p ∧ b = .datum d ∨ a = .datum d ∧ b = .pattern p) ∧
      a.caseEq b = p.satisfies d ∧ a.occurs b = .ok (p.matchesWithin d) := by
  cases a with
  | pattern p =>
    cases b with
    | pattern => exact absurd rfl h
    | datum d => exact ⟨p, d, .inl ⟨rfl, rfl⟩, rfl, rfl⟩
  | datum d =>
    cases b with
    | pattern p => exact ⟨p, d, .inr ⟨rfl, rfl⟩, rfl, rfl⟩
    | datum => exact absurd rfl h

/-- **Occurrence.** The pattern `within`, `matchesWithin` and `occurs` from either side
answer alike for every pattern and datum. In a tree that answer is yes if a search finds
something, which the first step of a search by cursor tells already, and it is the answer
of `satisfiesSome` for the one pattern; for several patterns that asks whether a search
for any of them finds something. A node is tested as the datum that it is. Case equality
does not care about the order of its operands, and between a pattern and a datum it is
stronger than occurrence. -/
theorem Pattern.occurrence_agrees :
    (∀ (p : Pattern) (d : Datum), (within p).satisfies d = p.matchesWithin d ∧
      (Operand.pattern p).occurs (.datum d) = .ok (p.matchesWithin d) ∧
      (Operand.datum d).occurs (.pattern p) = .ok (p.matchesWithin d)) ∧
    (∀ (p : Pattern) (n : Node), (p.matchesWithin n.toDatum = true ↔ n.search p ≠ []) ∧
      (p.matchesWithin n.toDatum = true ↔
        ((Cursor.start n).advanceTo p.satisfiesNode).isSome = true) ∧
      p.matchesWithin n.toDatum = n.satisfiesSome [p]) ∧
    (∀ (ps : List Pattern) (n : Node), n.satisfiesSome ps = true ↔ n.search (.any ps) ≠ []) ∧
    (∀ (p : Pattern) (n : Node), p.test (.node n) = p.test (.datum n.toDatum)) ∧
    (∀ (p : Pattern) (x : Subject), p.test x = p.satisfies x.toDatum) ∧
    (∀ a b : Operand, a.caseEq b = b.caseEq a) ∧
    ∀ a b : Operand, a.isPattern ≠ b.isPattern → a.caseEq b = true → a.occurs b = .ok true := by
  refine ⟨?_, ?_, ?_, ?_, test_eq, Operand.caseEq_comm, ?_⟩
  · exact fun p d => ⟨p.satisfies_within d, rfl, rfl⟩
  · intro p n
    rw [n.isSome_advanceTo p, n.search_ne_nil p, n.satisfiesSome_eq [p], p.matchesWithin_node n]
    refine ⟨Iff.rfl, Iff.rfl, ?_⟩
    congr 1
    funext m
    exact (Bool.or_false _).symm
  · intro ps n
    rw [n.satisfiesSome_eq ps, n.search_ne_nil (.any ps)]
  · exact fun p n => (p.test_eq (.node n)).trans (p.test_eq (.datum n.toDatum)).symm
  · intro a b hne heq
    obtain ⟨p, d, -, hcase, hoccurs⟩ := Operand.occurs_of_isPattern_ne hne
    rw [hcase] at heq
    rw [hoccurs, matchesWithin_of_satisfies heq]

/-- A pattern on the right of a datum that it is satisfied by, and so found in. -/
theorem Pattern.occurrence_agrees_tagged :
    let p : Pattern := .tagged (.sym "defn")
    let n : Node := ⟨some 1, [.sym "defn", .sym "foo", .list (some 2) [.sym "args"]]⟩
    (Operand.datum n.toDatum).isPattern ≠ (Operand.pattern p).isPattern ∧
      (Operand.datum n.toDatum).caseEq (.pattern p) = true ∧
      (Operand.datum n.toDatum).occurs (.pattern p) = .ok true ∧
      (Operand.pattern p).caseEq (.datum n.toDatum) = true ∧ n.search p ≠ [] := by
  intro p n
  obtain ⟨hforms, htree, -, -, -, hcomm, hcase⟩ := Pattern.occurrence_agrees
  have hsides : (Operand.datum n.toDatum).isPattern ≠ (Operand.pattern p).isPattern := by decide
  have heq : (Operand.datum n.toDatum).caseEq (.pattern p) = true := by decide +kernel
  have hoccurs := hcase _ _ hsides heq
  refine ⟨hsides, heq, hoccurs, (hcomm _ _).trans heq, (htree p n).1.mp ?_⟩
  exact Except.ok.inj ((hforms p n.toDatum).2.2.symm.trans hoccurs)

end SexprQuery
