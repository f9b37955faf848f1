/-!
# Names of files

A name is a text with slashes between its pieces. Behind a leading slash it starts
at the root, and else at the working directory.

Names are compared part by part and not letter by letter. Empty pieces and dots
are no parts, but for a dot in front; `..` stays a part, since where it leads
depends on the files. So `b//c` and `b/./c/` are the same name, and `./b` and `b`
are not.
-/

namespace SexprQuery

/-- The pieces of a text between slashes; there is always one more than there are
slashes. -/
def splitAtSlashes : List Char → List (List Char)
  | [] => [[]]
  | c :: cs =>
    match splitAtSlashes cs with
    | [] => [[c]]
    | piece :: rest => if c = '/' then [] :: piece :: rest else (c :: piece) :: rest

/-- The pieces of a name. -/
def namePieces (name : String) : List String := (splitAtSlashes name.toList).map String.ofList

/-- True for a name that starts at the root. -/
def isRooted (name : String) : Bool := name.toList.head? = some '/'

/-- What names are compared by. -/
inductive NamePart where
  | root
  | here
  | up
  | entry (name : String)
deriving DecidableEq, Repr

namespace NamePart

/-- The place of the kind of a part among the kinds. -/
def rank : NamePart → Nat
  | .root => 0
  | .here => 1
  | .up => 2
  | .entry _ => 3

/-- The text of a part that has one. -/
def text : NamePart → String
  | .entry name => name
  | _ => ""

/-- Parts are in the order of their kinds, entries among themselves in the order of
their characters. -/
instance : LT NamePart := ⟨fun a b => a.rank < b.rank ∨ a.rank = b.rank ∧ a.text < b.text⟩

instance : DecidableLT NamePart := fun a b =>
  inferInstanceAs (Decidable (a.rank < b.rank ∨ a.rank = b.rank ∧ a.text < b.text))

/-- The part that a piece behind the first stands for. -/
def ofPiece? (piece : String) : Option NamePart :=
  if piece = "" || piece = "." then none
  else if piece = ".." then some .up
  else some (.entry piece)

end NamePart

/-- The parts of a name. -/
def nameParts (name : String) : List NamePart :=
  let pieces := namePieces name
  let parts := pieces.filterMap NamePart.ofPiece?
  if isRooted name then .root :: parts
  else if pieces.head? = some "." then .here :: parts
  else parts

/-- The name of an entry of a directory. -/
def joinName (directory entry : String) : String :=
  if directory.toList.getLast? = some '/' then directory ++ entry
  else directory ++ "/" ++ entry

/-- What the names of data files end in. -/
def dataExtension : String := ".sexp"

/-- True for the name of an entry that is a data file by its extension. There has to
be something before the extension. -/
def isDataName (entry : String) : Bool :=
  dataExtension.toList.isSuffixOf entry.toList && dataExtension.length < entry.length

/-- Insert a name into a list that is in the order of names; where the name is there
already, in whatever spelling, that one stays. -/
def insertName (name : String) : List String → List String
  | [] => [name]
  | first :: rest =>
    if nameParts name < nameParts first then name :: first :: rest
    else if nameParts name = nameParts first then first :: rest
    else first :: insertName name rest

/-- Names in their order, each once and in the spelling that comes first. -/
def sortNames (names : List String) : List String :=
  names.foldl (fun sorted name => insertName name sorted) []

end SexprQuery
