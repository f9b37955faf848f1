/-!
# Documents of a rule file

A TOML document as a tree. A table remembers how it came to be, since that says
what may still be put into it; see `Toml.Build`. Values that rules never ask for
are kept by kind only.
-/

namespace SexprQuery

namespace Toml

/-- How a table came to be. -/
inductive Origin where
  /-- Between braces: complete once it is read. -/
  | braces
  /-- By a header of its own. -/
  | header
  /-- On the way to the table of a header. -/
  | passing
  /-- By a dotted key. -/
  | dotted
deriving DecidableEq, Repr

end Toml

/-- A value of a TOML document. -/
inductive Toml where
  | string (text : String)
  | integer (value : Int)
  | boolean (value : Bool)
  | float
  | dateTime
  /-- A list between brackets. -/
  | array (items : List Toml)
  | table (origin : Toml.Origin) (entries : List (String × Toml))
  /-- The tables of one double-bracket header, latest first. -/
  | tables (entries : List (List (String × Toml)))

namespace Toml

/-- The keys and values of a table. -/
abbrev Entries := List (String × Toml)

/-- The value of a key. -/
def lookup? (key : String) (es : Entries) : Option Toml :=
  (es.find? fun e => e.1 = key).map Prod.snd

/-- The entries with the value of a key changed, or with the key put at the end. -/
def put (key : String) (value : Toml) : Entries → Entries
  | [] => [(key, value)]
  | e :: es => if e.1 = key then (key, value) :: es else e :: put key value es

/-- The items of an array, or the tables of a double-bracket header, in order. -/
def items? : Toml → Option (List Toml)
  | .array items => some items
  | .tables ts => some (ts.reverse.map (.table .header))
  | _ => none

end Toml
end SexprQuery
