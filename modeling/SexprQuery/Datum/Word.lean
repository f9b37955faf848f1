import SexprQuery.Datum.Basic
import SexprQuery.Binary64.Text
import SexprQuery.Text.Blank

/-!
# Bare words

A word stands for the atom it spells: one of three keywords, a number, or else
the symbol of that name. The characters that end a word are the blanks and the
six delimiters.
-/

namespace SexprQuery

/-- Parentheses, brackets, the string quote and the comment sign. -/
def isDelimiter (c : Char) : Bool :=
  c == '(' || c == ')' || c == '[' || c == ']' || c == '"' || c == ';'

/-- A character that ends a bare word. -/
def endsWord (c : Char) : Bool := isBlank c || isDelimiter c

/-- A word that is tried as a number: after one sign it starts with a digit, or
with a point and something behind it. -/
def looksNumeric (cs : List Char) : Bool :=
  match (Decimal.splitSign cs).2 with
  | [] => false
  | c :: rest => Decimal.isDigit c || (c == '.' && !rest.isEmpty)

namespace Datum

/-- The number that a word spells: an integer of 64 bits if it is one, else a
floating-point number. -/
def number? (cs : List Char) : Option Datum :=
  if looksNumeric cs then
    match Decimal.int64? cs with
    | some n => some (.int n)
    | none => (Binary64.parse? cs).map .float
  else none

/-- The atom that a bare word spells. -/
def ofWord (word : String) : Datum :=
  if word = "nil" then .nil
  else if word = "true" then .bool true
  else if word = "false" then .bool false
  else (number? word.toList).getD (.sym word)

/-- Words spell atoms only. -/
theorem isList_ofWord (word : String) : (ofWord word).isList = false := by
  unfold ofWord number?
  repeat' split
  all_goals try rfl
  cases Binary64.parse? word.toList <;> rfl

end Datum
end SexprQuery
