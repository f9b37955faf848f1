import SexprQuery.Pattern.Printer

/-!
# Searching

`Node.search` finds the nodes of a tree that satisfy a pattern, in pre-order and
each with its path. A `Match` is one of them with notes that a caller may put on
it; a list of matches can be searched again, match by match, and the paths stay
paths of the first tree. Nothing is left out then: a node inside two matches is
found twice.
-/

namespace SexprQuery

/-- The nodes that satisfy a pattern, in pre-order. -/
def Node.search (n : Node) (p : Pattern) : List (Path × Node) :=
  n.walk.filter fun found => p.satisfiesNode found.2

/-- True if some node of the tree satisfies some of the patterns. -/
def Node.satisfiesSome (n : Node) (ps : List Pattern) : Bool :=
  n.nodes.any fun m => ps.any fun p => p.satisfiesNode m

/-- A node that was found, with its path in the tree that was searched, and notes in
the order of their keys. -/
structure Match where
  path : Path
  node : Node
  notes : List (String × Datum)
deriving Inhabited

namespace Match

/-- A node as it is found. -/
def ofFound (found : Path × Node) : Match := ⟨found.1, found.2, []⟩

/-- Insert into notes that are in the order of their keys; an old note of the same key
goes. -/
def insertNote (key : String) (value : Datum) : List (String × Datum) → List (String × Datum)
  | [] => [(key, value)]
  | note :: rest =>
    if key < note.1 then (key, value) :: note :: rest
    else if key = note.1 then (key, value) :: rest
    else note :: insertNote key value rest

/-- Put a note on a match. -/
def annotate (m : Match) (key : String) (value : Datum) : Match :=
  { m with notes := insertNote key value m.notes }

/-- The note of a key. -/
def note? (m : Match) (key : String) : Option Datum :=
  (m.notes.find? fun note => note.1 = key).map Prod.snd

/-- Matches are compared by their nodes and notes, not by their paths. -/
instance : BEq Match := ⟨fun a b => a.node == b.node && a.notes == b.notes⟩

/-- The form of messages. -/
def display (m : Match) : String :=
  let notes := m.notes.map fun note => note.1 ++ ": " ++ note.2.display
  let shown := if notes.isEmpty then "" else ", \x7b" ++ ", ".intercalate notes ++ "\x7d"
  "MatchResult(" ++ m.node.display ++ shown ++ ")"

end Match

/-- All matches of a pattern in a tree. -/
def Node.divide (n : Node) (p : Pattern) : List Match := (n.search p).map Match.ofFound

/-- Search the node of every match again. -/
def divideAgain (ms : List Match) (p : Pattern) : List Match :=
  ms.flatMap fun m => (m.node.search p).map fun found => ⟨m.path ++ found.1, found.2, []⟩

/-- The form of messages for a list of matches. -/
def displayMatches (ms : List Match) : String :=
  "MatchCollection(" ++ ", ".intercalate (ms.map Match.display) ++ ")"

end SexprQuery
