import SexprQuery.Pattern.Basic

/-!
# Patterns as text

Three written forms of a pattern:

* `source` — pattern text, which the parser reads back;
* `display` — the short form of messages, with `|`, `&` and `>>` between
  operands;
* `calls` — the same with every combination written as a call.
-/

namespace SexprQuery

/-- A backslash before each slash that has none, so that the text can stand between
slashes. `escaped` says that the character is behind a backslash. -/
def escapeSlashes (escaped : Bool) : List Char → List Char
  | [] => []
  | c :: cs =>
    if c = '/' ∧ escaped = false then '\\' :: c :: escapeSlashes false cs
    else c :: escapeSlashes (c = '\\' && !escaped) cs

/-- A symbol in pattern text: names that patterns read as something else are
quoted. -/
def literalSymbolChars (name : String) : List Char :=
  if name = "_" ∨ name = "___" ∨ name.toList.head? = some '/' then
    '#' :: quoteChars name.toList
  else symbolChars name

mutual
/-- A datum in pattern text. -/
def Datum.literalChars : Datum → List Char
  | .sym name => literalSymbolChars name
  | .list _ slots => '(' :: literalSlots slots
  | d => d.sourceChars
termination_by structural d => d

/-- The slots of a list and its closing parenthesis. -/
def literalSlots : List Datum → List Char
  | [] => [')']
  | d :: ds => d.literalChars ++ literalMore ds
termination_by structural ds => ds

/-- The slots after the first. -/
def literalMore : List Datum → List Char
  | [] => [')']
  | d :: ds => ' ' :: d.literalChars ++ literalMore ds
termination_by structural ds => ds
end

namespace Pattern

/-- The bracket of a command and its name. -/
def commandStart (name : String) : List Char := '[' :: name.toList

mutual
/-- Pattern text. -/
def sourceChars : Pattern → List Char
  | .wild => ['_']
  | .remaining => ['_', '_', '_']
  | .atom => commandStart "atom" ++ [']']
  | .tagged tag => commandStart "t" ++ ' ' :: tag.literalChars ++ [']']
  | .text re => commandStart "m" ++ ' ' :: '/' :: escapeSlashes false re.source.toList ++ ['/', ']']
  | .includes inner => commandStart "include" ++ ' ' :: inner.sourceChars ++ [']']
  | .within inner => commandStart "child" ++ ' ' :: inner.sourceChars ++ [']']
  | .not inner => commandStart "not?" ++ ' ' :: inner.sourceChars ++ [']']
  | .sibling subject follower gap =>
    commandStart ">>" ++ ' ' :: subject.sourceChars ++ ' ' :: follower.sourceChars ++
      (if gap = 1 then [] else ' ' :: Decimal.digits gap) ++ [']']
  | .any options => commandStart "any" ++ sourceArgs options
  | .all required => commandStart "all" ++ sourceArgs required
  | .shape elements => '(' :: sourceElements elements
  | .equals d => d.literalChars
termination_by structural p => p

/-- The arguments of a command, each behind a space, and the closing bracket. -/
def sourceArgs : List Pattern → List Char
  | [] => [']']
  | p :: ps => ' ' :: p.sourceChars ++ sourceArgs ps
termination_by structural ps => ps

/-- The elements of a shape and its closing parenthesis. -/
def sourceElements : List Pattern → List Char
  | [] => [')']
  | p :: ps => p.sourceChars ++ sourceMore ps
termination_by structural ps => ps

/-- The elements after the first. -/
def sourceMore : List Pattern → List Char
  | [] => [')']
  | p :: ps => ' ' :: p.sourceChars ++ sourceMore ps
termination_by structural ps => ps
end

/-- Pattern text that reads back. -/
def source (p : Pattern) : String := String.ofList p.sourceChars

/-! ## Calls -/

/-- The opening of a call. -/
def callStart (name : String) : List Char := name.toList ++ ['(']

mutual
/-- Every combination as a call. -/
def callChars : Pattern → List Char
  | .wild => ['_']
  | .remaining => ['_', '_', '_']
  | .atom => "atom".toList
  | .tagged tag => callStart "t" ++ tag.displayChars ++ [')']
  | .text re => "m(/".toList ++ re.source.toList ++ "/)".toList
  | .includes inner => callStart "include" ++ inner.callChars ++ [')']
  | .within inner => callStart "child" ++ inner.callChars ++ [')']
  | .not inner => callStart "not?" ++ inner.callChars ++ [')']
  | .sibling subject follower gap =>
    callStart "sibling" ++ subject.callChars ++ ", ".toList ++ follower.callChars ++
      (if gap = 1 then [] else ", ".toList ++ Decimal.digits gap) ++ [')']
  | .any options => callStart "any" ++ callArgs options
  | .all required => callStart "all" ++ callArgs required
  | .shape elements => callStart "q" ++ callArgs elements
  | .equals d => d.displayChars
termination_by structural p => p

/-- The arguments of a call and its closing parenthesis. -/
def callArgs : List Pattern → List Char
  | [] => [')']
  | p :: ps => p.callChars ++ callMore ps
termination_by structural ps => ps

/-- The arguments after the first. -/
def callMore : List Pattern → List Char
  | [] => [')']
  | p :: ps => ", ".toList ++ p.callChars ++ callMore ps
termination_by structural ps => ps
end

/-! ## Operators -/

/-- The signs between operands. -/
inductive Operator where
  | or
  | and
  | before
deriving DecidableEq

/-- The sign between two operands, with spaces around it. -/
def Operator.chars : Operator → List Char
  | .or => " | ".toList
  | .and => " & ".toList
  | .before => " >> ".toList

/-- The operator that a pattern is written with, if it is written with one. -/
def operator? : Pattern → Option Operator
  | .any (_ :: _) => some .or
  | .all (_ :: _) => some .and
  | .sibling _ _ 1 => some .before
  | _ => none

/-- An operand is put in parentheses if it is written with an operator itself, unless
that is the operator around it and reads the same either way round. -/
def isGrouped (parent : Operator) (operand : Pattern) : Bool :=
  match operand.operator? with
  | none => false
  | some op => op = .before || op != parent

/-- The text in parentheses where asked to. -/
def groupChars (grouped : Bool) (cs : List Char) : List Char :=
  if grouped then '(' :: cs ++ [')'] else cs

mutual
/-- The form of messages. -/
def displayChars : Pattern → List Char
  | .wild => ['_']
  | .remaining => ['_', '_', '_']
  | .atom => "atom".toList
  | .tagged tag => callStart "t" ++ tag.displayChars ++ [')']
  | .text re => "m(/".toList ++ re.source.toList ++ "/)".toList
  | .includes inner => callStart "include" ++ inner.displayChars ++ [')']
  | .within inner => callStart "child" ++ inner.displayChars ++ [')']
  | .not inner => callStart "not?" ++ inner.displayChars ++ [')']
  | .sibling subject follower gap =>
    if gap = 1 then
      groupChars (isGrouped .before subject) subject.displayChars ++ Operator.before.chars ++
        groupChars (isGrouped .before follower) follower.displayChars
    else
      callStart "sibling" ++ subject.displayChars ++ ", ".toList ++ follower.displayChars ++
        ", ".toList ++ Decimal.digits gap ++ [')']
  | .any options => displayOperands .or "any" options
  | .all required => displayOperands .and "all" required
  | .shape elements => callStart "q" ++ displayArgs elements
  | .equals d => d.displayChars
termination_by structural p => p

/-- Operands with their operator between them; a call where there are none. -/
def displayOperands (op : Operator) (name : String) : List Pattern → List Char
  | [] => callStart name ++ [')']
  | p :: ps => groupChars (isGrouped op p) p.displayChars ++ displayRest op ps
termination_by structural ps => ps

/-- The operands after the first. -/
def displayRest (op : Operator) : List Pattern → List Char
  | [] => []
  | p :: ps => op.chars ++ groupChars (isGrouped op p) p.displayChars ++ displayRest op ps
termination_by structural ps => ps

/-- The arguments of a call and its closing parenthesis. -/
def displayArgs : List Pattern → List Char
  | [] => [')']
  | p :: ps => p.displayChars ++ displayMore ps
termination_by structural ps => ps

/-- The arguments after the first. -/
def displayMore : List Pattern → List Char
  | [] => [')']
  | p :: ps => ", ".toList ++ p.displayChars ++ displayMore ps
termination_by structural ps => ps
end

/-- The form of messages. -/
def display (p : Pattern) : String := String.ofList p.displayChars

/-- Every combination as a call. -/
def calls (p : Pattern) : String := String.ofList p.callChars

end Pattern
end SexprQuery
