import SexprQuery.Binary64.Basic

/-!
# Data

A `Datum` is an atom or a list of data. A list remembers the source line of its
opening parenthesis when it was read from text; `Node` is a list seen on its
own, and it is nodes that are searched and replaced.

Equality `==` compares shape and atoms. It ignores lines, and it compares
floating-point atoms as numbers, so it is not reflexive on a NaN.
-/

namespace SexprQuery

/-- An atom, or a list of data with the line it was read from. -/
inductive Datum where
  | nil
  | bool (value : Bool)
  | int (value : Int64)
  | float (value : Binary64)
  | str (text : String)
  | sym (name : String)
  | list (line : Option Nat) (slots : List Datum)
deriving Inhabited

/-- A list of data: its slots, and the line of its opening parenthesis if it has
been read from text. -/
structure Node where
  line : Option Nat
  slots : List Datum
deriving Inhabited

namespace Datum

/-- The list as a node. -/
def node? : Datum → Option Node
  | .list line slots => some ⟨line, slots⟩
  | _ => none

/-- True for lists. -/
def isList : Datum → Bool
  | .list _ _ => true
  | _ => false

/-- The name of a symbol. -/
def symbol? : Datum → Option String
  | .sym name => some name
  | _ => none

/-! ## Equality -/

mutual
/-- Equality of shape and atoms, blind to lines. -/
protected def beq : Datum → Datum → Bool
  | .nil, .nil => true
  | .bool a, .bool b => a == b
  | .int a, .int b => a == b
  | .float a, .float b => a == b
  | .str a, .str b => a == b
  | .sym a, .sym b => a == b
  | .list _ a, .list _ b => beqSlots a b
  | _, _ => false
termination_by structural d => d

/-- Slot by slot, and equally many. -/
def beqSlots : List Datum → List Datum → Bool
  | [], [] => true
  | a :: as, b :: bs => Datum.beq a b && beqSlots as bs
  | _, _ => false
termination_by structural ds => ds
end

instance : BEq Datum := ⟨Datum.beq⟩

@[simp] theorem list_beq_list (l m : Option Nat) (a b : List Datum) :
    (Datum.list l a == Datum.list m b) = beqSlots a b := rfl

end Datum

namespace Node

/-- The node as a datum. -/
def toDatum (n : Node) : Datum := .list n.line n.slots

instance : Coe Node Datum := ⟨toDatum⟩

@[simp] theorem node?_toDatum (n : Node) : n.toDatum.node? = some n := rfl

/-- Equality of the slots; the lines of the nodes do not count. -/
instance : BEq Node := ⟨fun a b => Datum.beqSlots a.slots b.slots⟩

/-- A node that was not read from text. -/
def ofSlots (slots : List Datum) : Node := ⟨none, slots⟩

/-- The node without slots. -/
def empty : Node := ofSlots []

/-- The first slot. -/
def tag? (n : Node) : Option Datum := n.slots.head?

/-- The name in the first slot, where that is a symbol. -/
def tagName? (n : Node) : Option String := n.tag?.bind Datum.symbol?

/-- The slots after the first. -/
def body (n : Node) : List Datum := n.slots.drop 1

/-- The slots that are nodes themselves. -/
def children (n : Node) : List Node := n.slots.filterMap Datum.node?

end Node

/-! ## Measures of a tree -/

/-- The larger of two lines, where a missing one never wins. -/
def laterLine : Option Nat → Option Nat → Option Nat
  | some a, some b => some (max a b)
  | some a, none => some a
  | none, b => b

mutual
/-- The largest line of a datum and of everything in it. -/
def Datum.lastLine : Datum → Option Nat
  | .list line slots => laterLine line (slotsLastLine slots)
  | _ => none
termination_by structural d => d

/-- The largest line in a row of slots. -/
def slotsLastLine : List Datum → Option Nat
  | [] => none
  | d :: ds => laterLine d.lastLine (slotsLastLine ds)
termination_by structural ds => ds
end

mutual
/-- The height of a datum in nodes: 0 for an atom. -/
def Datum.depth : Datum → Nat
  | .list _ slots => 1 + slotsDepth slots
  | _ => 0
termination_by structural d => d

/-- The height of the highest slot. -/
def slotsDepth : List Datum → Nat
  | [] => 0
  | d :: ds => max d.depth (slotsDepth ds)
termination_by structural ds => ds
end

/-- The largest line of a node and of all nodes below it. -/
def Node.lastLine (n : Node) : Option Nat := n.toDatum.lastLine

/-- The height of a node: 1 where no slot is a node. -/
def Node.depth (n : Node) : Nat := n.toDatum.depth

end SexprQuery
