import SexprQuery.Datum.Basic
import SexprQuery.Text.Decimal

/-!
# Paths

A path names a node of a tree by the slot numbers that lead to it from the
root; the empty path is the root. Two equal subtrees at different places have
different paths.

`Node.at?` looks a path up, and `Node.replaceAt?` puts a datum in the place of
the node at a path. The root has no slot that holds it, so it cannot be
replaced.
-/

namespace SexprQuery

/-- Slot numbers from the root down. Extending a path is `++`, comparing two
paths is lexicographic. -/
abbrev Path := List Nat

namespace Path

/-- The path as `/3/1`; the root is `/`. -/
def chars : Path → List Char
  | [] => ['/']
  | p => p.flatMap fun i => '/' :: Decimal.digits i

/-- The path as a string. -/
def text (p : Path) : String := String.ofList (chars p)

/-- The path of a slot below. -/
def child (p : Path) (i : Nat) : Path := p ++ [i]

/-- The path of the parent and the slot number there; none for the root. -/
def splitLast? (p : Path) : Option (Path × Nat) :=
  p.getLast?.map fun i => (p.dropLast, i)

end Path

/-- The node that a path leads to from a datum. -/
def Datum.at? : Path → Datum → Option Node
  | [], d => d.node?
  | i :: p, .list _ slots => slots[i]?.bind (Datum.at? p)
  | _ :: _, _ => none

/-- The node at a path. -/
def Node.at? (n : Node) (p : Path) : Option Node := n.toDatum.at? p

/-- Put `d` in the place of the node at a path below a row of slots; gives the
node that was there and the new slots. -/
def replaceInSlots (d : Datum) : Path → List Datum → Option (Node × List Datum)
  | [], _ => none
  | [i], slots => do
    let old ← (← slots[i]?).node?
    return (old, slots.set i d)
  | i :: p, slots => do
    let child ← (← slots[i]?).node?
    let (old, below) ← replaceInSlots d p child.slots
    return (old, slots.set i (.list child.line below))

/-- Put `d` in the place of the node at `p`; gives the node that was there and
the new tree. There is none for the root, and none where no node is. -/
def Node.replaceAt? (n : Node) (p : Path) (d : Datum) : Option (Node × Node) :=
  (replaceInSlots d p n.slots).map fun (old, slots) => (old, { n with slots := slots })

/-- The tree after a replacement, which is the tree itself where there is nothing
to replace. -/
def Node.replaceAt (n : Node) (p : Path) (d : Datum) : Node :=
  ((n.replaceAt? p d).map Prod.snd).getD n

/-- The node at `p` changed by a function that keeps it a node. -/
def Node.updateAt? (n : Node) (p : Path) (f : Node → Node) : Option Node :=
  match p with
  | [] => some (f n)
  | p => do
    let old ← n.at? p
    return n.replaceAt p (f old).toDatum

end SexprQuery
