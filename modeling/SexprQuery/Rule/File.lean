import SexprQuery.File.Tree
import SexprQuery.Rule.Document

/-!
# Rule files

Reading a rule set from a file of a file tree. What is wrong with the text of the
file is told with the name of the file.
-/

namespace SexprQuery

/-- Why a rule file cannot be read. -/
inductive RuleFileError where
  | io (name : String) (fault : FileFault)
  | text (name : String) (cause : RuleTextError)
deriving DecidableEq, Repr

namespace RuleFileError

/-- The text of what is behind the error. -/
def cause : RuleFileError → String
  | .io _ fault => fault.message
  | .text _ .toml | .text _ .breakdown => "not a rule file"
  | .text _ (.invalid issues) => issuesMessage issues

/-- The text of the error. -/
def message : RuleFileError → String
  | .io name fault => "failed to read rule file from " ++ name ++ ": " ++ fault.message
  | .text name .toml | .text name .breakdown =>
    "failed to parse rule file TOML (" ++ name ++ "): not a rule file"
  | .text name (.invalid issues) =>
    "invalid rule file (" ++ name ++ "): " ++ issuesMessage issues

end RuleFileError

/-- Read and check the rule file of a name. -/
def FileTree.readRules (t : FileTree) (name : String) : Except RuleFileError RuleSet := do
  let text ← (t.readText name).mapError (.io name)
  (RuleSet.ofText text).mapError (.text name)

end SexprQuery
