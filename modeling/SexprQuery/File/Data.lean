import SexprQuery.File.Tree
import SexprQuery.Datum.Reader

/-!
# Data files

Data files are given by name, or by the name of a directory that they are below.
`FileTree.dataFiles` brings such arguments into one list without repetitions;
`FileTree.readForms` reads one of its members.
-/

namespace SexprQuery

/-- Why a data file cannot be read. -/
inductive FileError where
  | io (name : String) (fault : FileFault)
  | read (name : String) (cause : ReadError)
deriving DecidableEq, Repr

namespace FileError

/-- The text of what is behind the error. -/
def cause : FileError → String
  | .io _ fault => fault.message
  | .read _ cause => cause.message

/-- The text of the error. -/
def message : FileError → String
  | .io name fault => "I/O error on " ++ name ++ ": " ++ fault.message
  | .read name cause => "failed to read " ++ name ++ ": " ++ cause.message

end FileError

namespace FileTree

/-- The data files that an argument stands for. A directory stands for the files below
it that have the extension, anything else for itself, also where nothing is there. -/
def expand (t : FileTree) (argument : String) : List String :=
  match t.locate argument with
  | .error _ => [argument]
  | .ok p =>
    if t.isDirectory p then
      ((t.filesBelow p).filter fun below => isDataName (below.getLast?.getD "")).map
        fun below => below.foldl joinName argument
    else [argument]

/-- The data files that arguments stand for, in the order of names and each once. -/
def dataFiles (t : FileTree) (arguments : List String) : List String :=
  sortNames (arguments.flatMap t.expand)

/-- The text of a data file and its forms. -/
def readForms (t : FileTree) (name : String) : Except FileError (String × List Datum) := do
  let text ← (t.readText name).mapError (.io name)
  let forms ← (readAll text).mapError (.read name)
  return (text, forms)

end FileTree
end SexprQuery
