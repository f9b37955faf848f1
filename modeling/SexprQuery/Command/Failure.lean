import SexprQuery.File.Data
import SexprQuery.Rule.File
import SexprQuery.Pattern.Parser
import SexprQuery.Text.Quoted

/-!
# Failures of commands

A command that fails tells what has failed and, below that, what is behind it.
-/

namespace SexprQuery.Command

/-- Why a command ends early. -/
inductive Failure where
  | pattern (text : String) (cause : PatternError)
  | emptyPattern
  | file (cause : FileError)
  | rules (cause : RuleFileError)
deriving DecidableEq, Repr

namespace Failure

/-- The text of the failure. -/
def message : Failure → String
  | .pattern text _ => "invalid pattern " ++ quotedText text
  | .emptyPattern => "pattern is empty"
  | .file cause => cause.message
  | .rules cause => cause.message

/-- What is behind the failure, nearest first. -/
def causes : Failure → List String
  | .pattern _ (.badRegex source) => [(PatternError.badRegex source).message, regexFault]
  | .pattern _ cause => [cause.message]
  | .emptyPattern => []
  | .file cause => [cause.cause]
  | .rules cause => [cause.cause]

/-- The failure and what is behind it in one line. -/
def chain (f : Failure) : String := ": ".intercalate (f.message :: f.causes)

/-- The lines of a text, each behind a margin; the first has a margin of its own. -/
def indented (first margin : String) (text : String) : String :=
  first ++ ("\n" ++ margin).intercalate (text.splitOn "\n")

/-- The causes of a failure, numbered if there is more than one. -/
def listCauses : List String → List String
  | [cause] => [indented "    " "    " cause]
  | causes => causes.zipIdx.map fun (cause, i) => indented s!"    {i}: " "       " cause

/-- The failure with its causes below it. -/
def report (f : Failure) : String :=
  let causes := if f.causes.isEmpty then []
    else "\nCaused by:" :: listCauses f.causes
  "\n".intercalate (("Error: " ++ f.message) :: causes) ++ "\n"

end Failure

/-- The pattern that a text gives a command once it is parsed; there has to be one. -/
def neededPattern (text : String) :
    Except PatternError (Option Pattern) → Except Failure Pattern
  | .ok (some p) => .ok p
  | .ok none => .error .emptyPattern
  | .error cause => .error (.pattern text cause)

/-- Read the pattern of a command. -/
def readPattern (text : String) : Except Failure Pattern :=
  neededPattern text (Pattern.parse text)

end SexprQuery.Command
