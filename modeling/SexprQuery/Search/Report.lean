import SexprQuery.File.Data
import SexprQuery.Search.Match
import SexprQuery.Text.Json

/-!
# Reports of a search in data files

Every match is reported with its file, its line, its place and its data text. The
place is the number of the top-level form, atoms included, and behind that the path
in the form; a form that is a match itself has the place `0/`, and so on.

Reports come in the order of files, forms and paths.
-/

namespace SexprQuery

/-- A match in a data file. -/
structure Finding where
  file : String
  line : Option Nat
  place : String
  source : String
deriving DecidableEq, Repr

/-- The place of a node in a file: the number of its form, and its path there. -/
def formPlace (index : Nat) (p : Path) : String :=
  String.ofList (Decimal.digits index ++ Path.chars p)

/-- The findings in one form. -/
def formFindings (file : String) (p : Pattern) (index : Nat) (form : Datum) : List Finding :=
  match form.node? with
  | some n => (n.search p).map fun found =>
    ⟨file, found.2.line, formPlace index found.1, found.2.source⟩
  | none => []

/-- The findings in the forms of a file. -/
def fileFindings (file : String) (p : Pattern) (forms : List Datum) : List Finding :=
  forms.zipIdx.flatMap fun form => formFindings file p form.2 form.1

/-- The findings in data files. The first file that cannot be read ends the search. -/
def FileTree.findings (t : FileTree) (p : Pattern) : List String → Except FileError (List Finding)
  | [] => .ok []
  | file :: rest => do
    let (_, forms) ← t.readForms file
    return fileFindings file p forms ++ (← t.findings p rest)

namespace Finding

/-- A finding as a line of text: file and line, and the data text. -/
def display (f : Finding) : String :=
  let line := match f.line with
    | some n => ":" ++ toString n
    | none => ""
  f.file ++ line ++ " " ++ f.source

/-- The fields of a finding in JSON. -/
def fields (f : Finding) : List (String × String) :=
  [("file", Json.string f.file), ("line", Json.optional f.line),
    ("path", Json.string f.place), ("source", Json.string f.source)]

end Finding
end SexprQuery
