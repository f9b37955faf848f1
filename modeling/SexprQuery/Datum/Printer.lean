import SexprQuery.Datum.Word

/-!
# Data as text

Three written forms of a datum:

* `source` — data text, which the reader reads back;
* `display` — the short form of messages, `s(:a, 1)`;
* `text` — what a regular expression sees of an atom.
-/

namespace SexprQuery

/-- A character of a string as it stands between quotes. -/
def quoteChar : Char → List Char
  | '"' => ['\\', '"']
  | '\\' => ['\\', '\\']
  | '\n' => ['\\', 'n']
  | '\t' => ['\\', 't']
  | '\r' => ['\\', 'r']
  | c => [c]

/-- A string between quotes, on one line. -/
def quoteChars (cs : List Char) : List Char := '"' :: cs.flatMap quoteChar ++ ['"']

/-- A name that a bare word can spell. -/
def isBareName (name : String) : Bool :=
  !name.isEmpty && !name.toList.any endsWord && (Datum.ofWord name).symbol?.isSome

/-- A symbol as a bare word, or between quotes behind `#` where a bare word would
be read as something else. -/
def symbolChars (name : String) : List Char :=
  if isBareName name then name.toList else '#' :: quoteChars name.toList

/-- The two keywords. -/
def boolChars (b : Bool) : List Char := if b then "true".toList else "false".toList

namespace Datum

mutual
/-- Data text. -/
def sourceChars : Datum → List Char
  | .nil => ['n', 'i', 'l']
  | .bool b => boolChars b
  | .int n => Decimal.signedDigits n.toInt
  | .float x => x.debugChars
  | .str s => quoteChars s.toList
  | .sym name => symbolChars name
  | .list _ slots => '(' :: sourceSlots slots
termination_by structural d => d

/-- The slots of a list with single spaces between them, and its closing
parenthesis. -/
def sourceSlots : List Datum → List Char
  | [] => [')']
  | d :: ds => d.sourceChars ++ sourceMore ds
termination_by structural ds => ds

/-- The slots after the first. -/
def sourceMore : List Datum → List Char
  | [] => [')']
  | d :: ds => ' ' :: d.sourceChars ++ sourceMore ds
termination_by structural ds => ds
end

mutual
/-- The form of messages: symbols behind a colon, lists as calls. -/
def displayChars : Datum → List Char
  | .nil => ['n', 'i', 'l']
  | .bool b => boolChars b
  | .int n => Decimal.signedDigits n.toInt
  | .float x => x.debugChars
  | .str s => quoteChars s.toList
  | .sym name => ':' :: name.toList
  | .list _ slots => 's' :: '(' :: displaySlots slots
termination_by structural d => d

/-- The slots of a list and its closing parenthesis. -/
def displaySlots : List Datum → List Char
  | [] => [')']
  | d :: ds => d.displayChars ++ displayMore ds
termination_by structural ds => ds

/-- The slots after the first. -/
def displayMore : List Datum → List Char
  | [] => [')']
  | d :: ds => ',' :: ' ' :: d.displayChars ++ displayMore ds
termination_by structural ds => ds
end

/-- Data text that reads back. -/
def source (d : Datum) : String := String.ofList d.sourceChars

/-- The form of messages. -/
def display (d : Datum) : String := String.ofList d.displayChars

/-- What a regular expression is tested on: the bare content of an atom. -/
def text : Datum → String
  | .nil => ""
  | .bool b => String.ofList (boolChars b)
  | .int n => String.ofList (Decimal.signedDigits n.toInt)
  | .float x => String.ofList x.plainChars
  | .str s => s
  | .sym name => name
  | d@(.list _ _) => d.source

end Datum

/-- The data text of a node. -/
def Node.source (n : Node) : String := n.toDatum.source

/-- The form of messages. -/
def Node.display (n : Node) : String := n.toDatum.display

/-- One form a line, each line ended. -/
def renderForms (forms : List Datum) : String :=
  String.ofList (forms.flatMap fun d => d.sourceChars ++ ['\n'])

end SexprQuery
