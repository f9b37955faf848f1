import SexprQuery.Text.Hexadecimal

/-!
# JSON text

Objects of a few fields are written with one field a line, and a list of them with
two more blanks in front of each level.
-/

namespace SexprQuery.Json

/-- A character as it stands in a string. Only quotes, backslashes and controls are
escaped. -/
def stringChar (c : Char) : List Char :=
  match c with
  | '"' => ['\\', '"']
  | '\\' => ['\\', '\\']
  | '\x08' => ['\\', 'b']
  | '\x0c' => ['\\', 'f']
  | '\n' => ['\\', 'n']
  | '\r' => ['\\', 'r']
  | '\t' => ['\\', 't']
  | c =>
    if c.toNat < 32 then
      "\\u00".toList ++
        [Hexadecimal.digitChar (c.toNat / 16), Hexadecimal.digitChar (c.toNat % 16)]
    else [c]

/-- A string. -/
def string (text : String) : String :=
  "\"" ++ String.ofList (text.toList.flatMap stringChar) ++ "\""

/-- A number that may be missing. -/
def optional : Option Nat → String
  | some n => toString n
  | none => "null"

/-- The lines of an object, given its fields with their values as text. -/
def object (fields : List (String × String)) : String :=
  let line (field : String × String) := "    " ++ string field.1 ++ ": " ++ field.2
  "  \x7b\n" ++ ",\n".intercalate (fields.map line) ++ "\n  \x7d"

/-- A list of objects. -/
def objects (items : List (List (String × String))) : String :=
  if items.isEmpty then "[]" else "[\n" ++ ",\n".intercalate (items.map object) ++ "\n]"

end SexprQuery.Json
