import SexprQuery.Regex.Scanner

/-!
# Parsing regular expressions

The pieces of a regular expression are put together with a stack of the groups
that are open. A repetition sign takes the item before it, which must be there
and must not be a mere change of flags. Trees deeper than 250 levels are refused.
-/

namespace SexprQuery.Regex

/-- Items in a row. -/
def Ast.ofParts : List Ast → Ast
  | [] => .empty
  | [a] => a
  | parts => .concat parts

/-- A group whose closing parenthesis has not been read: its branches before the
last bar and the items behind that, both latest first. -/
structure OpenGroup where
  captures : Bool
  settings : List FlagSetting
  branches : List Ast
  parts : List Ast

namespace OpenGroup

/-- A group with nothing in it. -/
def start (captures : Bool) (settings : List FlagSetting) : OpenGroup :=
  ⟨captures, settings, [], []⟩

/-- Add an item. -/
def push (g : OpenGroup) (a : Ast) : OpenGroup := { g with parts := a :: g.parts }

/-- End a branch. -/
def endBranch (g : OpenGroup) : OpenGroup :=
  { g with branches := Ast.ofParts g.parts.reverse :: g.branches, parts := [] }

/-- Everything in the group. -/
def body (g : OpenGroup) : Ast :=
  match g.branches with
  | [] => Ast.ofParts g.parts.reverse
  | _ => .alternation g.endBranch.branches.reverse

/-- Repeat the last item. -/
def repeatLast? (g : OpenGroup) (count : Count) : Option OpenGroup :=
  match g.parts with
  | [] | .flags _ :: _ | .empty :: _ => none
  | a :: rest => some { g with parts := .repetition a count :: rest }

end OpenGroup

/-- Put a piece to the groups that are open, innermost first. The outermost one is
the whole expression, which no parenthesis closes. -/
def addPiece (groups : OpenGroup × List OpenGroup) : Piece → Option (OpenGroup × List OpenGroup)
  | .item a => some (groups.1.push a, groups.2)
  | .opening captures _ settings => some (.start captures settings, groups.1 :: groups.2)
  | .closing =>
    match groups.2 with
    | [] => none
    | parent :: outer =>
      let group := groups.1
      some (parent.push (.group group.captures group.settings group.body), outer)
  | .bar => some (groups.1.endBranch, groups.2)
  | .repetition count => (groups.1.repeatLast? count).map fun g => (g, groups.2)

mutual
/-- How deep a class is nested. -/
def ClassExpr.depth : ClassExpr → Nat
  | .literal _ | .range _ _ | .ascii _ _ | .atom _ => 0
  | .union [] => 0
  | .union items => 1 + classDepth items
  | .binary _ a b => 1 + max a.depth b.depth
  | .bracketed _ body => 1 + body.depth
termination_by structural e => e

/-- How deep the deepest item is nested. -/
def classDepth : List ClassExpr → Nat
  | [] => 0
  | e :: es => max e.depth (classDepth es)
termination_by structural es => es
end

mutual
/-- How deep an expression is nested. -/
def Ast.depth : Ast → Nat
  | .empty | .flags _ | .literal _ | .dot | .anchor _ | .named _ => 0
  | .brackets _ body => 1 + body.depth
  | .repetition body _ => 1 + body.depth
  | .group _ _ body => 1 + body.depth
  | .concat parts => 1 + partsDepth parts
  | .alternation branches => 1 + partsDepth branches
termination_by structural a => a

/-- How deep the deepest part is nested. -/
def partsDepth : List Ast → Nat
  | [] => 0
  | a :: as => max a.depth (partsDepth as)
termination_by structural as => as
end

/-- The deepest nesting that is accepted. -/
def depthLimit : Nat := 250

/-- The tree of a regular expression. -/
def parse? (source : String) : Option Ast := do
  let (whole, outer) ← (← pieces? source.toList).foldlM addPiece (OpenGroup.start true [], [])
  let ast := whole.body
  if outer.isEmpty && ast.depth ≤ depthLimit then some ast else none

end SexprQuery.Regex
