import SexprQuery.Pattern.Basic

/-!
# Subjects

A pattern can be tested on a datum, or on a node as a walk gives it, which is not wrapped
as a datum first. `Pattern.test` takes either, and where it goes into a list it tests the
slots as data and the nodes of the walk as nodes.
-/

namespace SexprQuery

/-- What a pattern is tested on. -/
inductive Subject where
  | datum (d : Datum)
  | node (n : Node)

namespace Subject

/-- The list as a node. -/
def node? : Subject → Option Node
  | .datum d => d.node?
  | .node n => some n

/-- The atom; a list is none, in whatever form it comes. -/
def atom? : Subject → Option Datum
  | .datum d => if d.isList then none else some d
  | .node _ => none

/-- True for lists. -/
def isList (x : Subject) : Bool := x.node?.isSome

/-- Equality with a datum, which a node can be equal to only if the datum is a list. -/
def equals : Subject → Datum → Bool
  | .datum d, value => d == value
  | .node n, value => value.node? == some n

end Subject

namespace Pattern

mutual
/-- Test a subject. -/
def test : Pattern → Subject → Bool
  | .wild, _ | .remaining, _ => true
  | .atom, x => !x.isList
  | .tagged tag, x => (x.node?.bind Node.tag?).any (· == tag)
  | .text re, x => x.atom?.any fun d => re.isMatch d.text
  | .includes inner, x => x.node?.any fun n => n.slots.any fun d => inner.test (.datum d)
  | .within inner, x =>
    inner.test x || x.node?.any fun n => (n.nodes.drop 1).any fun m => inner.test (.node m)
  | .sibling subject follower gap, x =>
    x.node?.any fun n =>
      hasPair (fun d => subject.test (.datum d)) (fun d => follower.test (.datum d)) gap n.slots
  | .not inner, x => !inner.test x
  | .any options, x => anyTest options x
  | .all required, x => allTest required x
  | .shape elements, x => x.node?.any fun n => fitsTest elements n.slots
  | .equals value, x => x.equals value
termination_by structural p => p

/-- Some pattern of a list passes. -/
def anyTest : List Pattern → Subject → Bool
  | [], _ => false
  | p :: ps, x => p.test x || anyTest ps x
termination_by structural ps => ps

/-- Every pattern of a list passes. -/
def allTest : List Pattern → Subject → Bool
  | [], _ => true
  | p :: ps, x => p.test x && allTest ps x
termination_by structural ps => ps

/-- The elements of a shape against the slots of a list. -/
def fitsTest : List Pattern → List Datum → Bool
  | [], slots => slots.isEmpty
  | [.remaining], _ => true
  | p :: ps, d :: ds => p.test (.datum d) && fitsTest ps ds
  | _ :: _, [] => false
termination_by structural ps => ps
end

end Pattern
end SexprQuery
