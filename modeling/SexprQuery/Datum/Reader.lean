import SexprQuery.Datum.Printer
import SexprQuery.Token.Lexer

/-!
# Reading data text

The reader keeps the lists that are open, innermost first, and takes the tokens
one by one. A token that data text has no use for fails at once; a list that is
still open fails at the end, at the line of the innermost one.

* `readAll` — every top-level form;
* `readDatum` — exactly one form;
* `readNode` — exactly one form, which is a list.
-/

namespace SexprQuery

/-- Why data text cannot be read. -/
inductive ReadError where
  /-- A closing parenthesis without an open list. -/
  | unexpectedClose (line : Nat)
  /-- A list that is never closed, at the line of its opening. -/
  | unclosed (line : Nat)
  /-- A token that only patterns have. -/
  | unsupportedToken (token : String) (line : Nat)
  | lex (cause : LexError)
  /-- Not exactly one form. -/
  | formCount (count : Nat)
  /-- A single form that is an atom, in its display form. -/
  | notAList (atom : String)
deriving DecidableEq, Repr

namespace ReadError

/-- The text of the error. -/
def message : ReadError → String
  | .unexpectedClose line => s!"unexpected ')' at line {line}"
  | .unclosed line => s!"unclosed '(' opened at line {line}"
  | .unsupportedToken token line => s!"'{token}' is not valid in data text (line {line})"
  | .lex cause => cause.message ++ s!" (line {cause.line})"
  | .formCount count => s!"expected exactly one form, found {count}"
  | .notAList atom => s!"expected a list, found atom {atom}"

/-- The line of the error, for the errors that have one. -/
def line? : ReadError → Option Nat
  | .unexpectedClose line => some line
  | .unclosed line => some line
  | .unsupportedToken _ line => some line
  | .lex cause => some cause.line
  | .formCount _ => none
  | .notAList _ => none

end ReadError

/-- A list whose closing parenthesis has not been read: its line and its slots so
far, latest first. -/
structure OpenList where
  line : Nat
  slots : List Datum

/-- The reader between two tokens: the open lists, innermost first, and the
finished top-level forms, latest first. -/
structure Reader where
  stack : List OpenList
  forms : List Datum

namespace Reader

/-- Before the first token. -/
def start : Reader := ⟨[], []⟩

/-- Put a finished datum where it belongs. -/
def push (r : Reader) (d : Datum) : Reader :=
  match r.stack with
  | [] => { r with forms := d :: r.forms }
  | top :: rest => { r with stack := { top with slots := d :: top.slots } :: rest }

/-- The effect of a token. -/
def step (r : Reader) (t : Token) : Except ReadError Reader :=
  match t.lexeme with
  | .opening => .ok { r with stack := ⟨t.line, []⟩ :: r.stack }
  | .closing =>
    match r.stack with
    | [] => .error (.unexpectedClose t.line)
    | top :: rest =>
      .ok (push { r with stack := rest } (.list (some top.line) top.slots.reverse))
  | .word w => .ok (r.push (.ofWord w))
  | .str s => .ok (r.push (.str s))
  | .sym name => .ok (r.push (.sym name))
  | .openBracket => .error (.unsupportedToken "[" t.line)
  | .closeBracket => .error (.unsupportedToken "]" t.line)
  | .regex source => .error (.unsupportedToken ("/" ++ source ++ "/") t.line)

/-- The end of the tokens. -/
def finish (r : Reader) : Except ReadError (List Datum) :=
  match r.stack with
  | [] => .ok r.forms.reverse
  | top :: _ => .error (.unclosed top.line)

end Reader

/-- The forms that a row of tokens spells. -/
def readTokens (ts : List Token) : Except ReadError (List Datum) := do
  (← ts.foldlM Reader.step Reader.start).finish

/-- Read every top-level form. -/
def readAll (text : String) : Except ReadError (List Datum) :=
  match tokenize .data text.toList with
  | .ok ts => readTokens ts
  | .error e => .error (.lex e)

/-- Read exactly one form, atom or list. -/
def readDatum (text : String) : Except ReadError Datum := do
  match ← readAll text with
  | [d] => .ok d
  | forms => .error (.formCount forms.length)

/-- Read exactly one form, which has to be a list. -/
def readNode (text : String) : Except ReadError Node := do
  match ← readAll text with
  | [.list line slots] => .ok ⟨line, slots⟩
  | [atom] => .error (.notAList atom.display)
  | forms => .error (.formCount forms.length)

end SexprQuery
