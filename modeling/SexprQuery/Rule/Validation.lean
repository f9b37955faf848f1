import SexprQuery.Rule.Basic
import SexprQuery.Datum.Reader
import SexprQuery.Pattern.Parser

/-!
# Checking rules

`RuleSet.issues` lists everything that is wrong with a rule set, rule by rule; a
set without issues is valid. A valid rule has texts that can be read, a pattern
exactly where its action needs one, and a guard only where there is a pattern to
ask for.
-/

namespace SexprQuery

/-- The fields that an issue can be about. -/
inductive RuleField where
  | id
  | pattern
  | replacement
  | oldAtom
  | newAtom
deriving DecidableEq, Repr

/-- The name of a field in a rule file. -/
def RuleField.name : RuleField → String
  | .id => "id"
  | .pattern => "pattern"
  | .replacement => "action.with"
  | .oldAtom => "action.from"
  | .newAtom => "action.to"

/-- Why a field has no valid value. -/
inductive InvalidValue where
  | renameTakesNoPattern
  | pattern (cause : PatternError)
  | unreadable (cause : ReadError)
  | notAnAtom (text : String)
deriving DecidableEq, Repr

/-- The text of the fault. -/
def InvalidValue.message : InvalidValue → String
  | .renameTakesNoPattern => "rename works on atoms and takes no pattern"
  | .pattern cause => cause.message
  | .unreadable cause => cause.message
  | .notAnAtom text => "'" ++ text ++ "' is not an atom"

/-- Why parts of a rule do not go together. -/
inductive InvalidCombination where
  | bothGuards
  | guardWithoutPattern
deriving DecidableEq, Repr

/-- The text of the fault. -/
def InvalidCombination.message : InvalidCombination → String
  | .bothGuards => "ensure_absent and ensure_present cannot both be true"
  | .guardWithoutPattern => "constraints need a pattern to check"

/-- Something that is wrong with a rule set. -/
inductive RuleIssue where
  | noRules
  /-- A rule without an identifier is itself not named. -/
  | missingId
  | missingField (id : String) (field : RuleField)
  | duplicateId (id : String)
  | invalidValue (id : String) (field : RuleField) (fault : InvalidValue)
  | invalidCombination (id : String) (fault : InvalidCombination)
deriving DecidableEq, Repr

/-- The text of the issue. -/
def RuleIssue.message : RuleIssue → String
  | .noRules => "rule file contains no rules"
  | .missingId => "rule missing required field '" ++ RuleField.id.name ++ "'"
  | .missingField id field => "rule '" ++ id ++ "' missing required field '" ++ field.name ++ "'"
  | .duplicateId id => "rule id '" ++ id ++ "' is used more than once"
  | .invalidValue id field fault =>
    "rule '" ++ id ++ "' has invalid '" ++ field.name ++ "': " ++ fault.message
  | .invalidCombination id fault =>
    "rule '" ++ id ++ "' has invalid configuration: " ++ fault.message

/-- The issues of a list, one a line. -/
def issuesMessage (issues : List RuleIssue) : String :=
  "\n".intercalate (issues.map RuleIssue.message)

namespace Rule

/-- Issues of a parsed text that has to give a pattern. -/
def parsedIssues (r : Rule) : Except PatternError (Option Pattern) → List RuleIssue
  | .ok (some _) => []
  | .ok none => [.missingField r.id .pattern]
  | .error e => [.invalidValue r.id .pattern (.pattern e)]

/-- Issues of the pattern: there has to be one for every action but `rename`. -/
def patternIssues (r : Rule) : List RuleIssue :=
  match r.action, r.pattern with
  | .rename _ _, some _ => [.invalidValue r.id .pattern .renameTakesNoPattern]
  | .rename _ _, none => []
  | _, none => [.missingField r.id .pattern]
  | _, some text => r.parsedIssues (Pattern.parse text)

/-- Issues of a text that has to spell a datum. -/
def datumIssues (r : Rule) (field : RuleField) (text : String) : List RuleIssue :=
  match readDatum text with
  | .ok _ => []
  | .error e => [.invalidValue r.id field (.unreadable e)]

/-- Issues of a text that has to spell an atom. -/
def atomIssues (r : Rule) (field : RuleField) (text : String) : List RuleIssue :=
  match readDatum text with
  | .ok d => if d.isList then [.invalidValue r.id field (.notAnAtom text)] else []
  | .error e => [.invalidValue r.id field (.unreadable e)]

/-- Issues of the texts of an action. -/
def actionIssues (r : Rule) : List RuleIssue :=
  match r.action with
  | .replace text | .replaceFirst text => r.datumIssues .replacement text
  | .rename old new => r.atomIssues .oldAtom old ++ r.atomIssues .newAtom new
  | .expect _ => []

/-- Issues of a guard. -/
def guardIssues (r : Rule) : List RuleIssue :=
  match r.guard with
  | none => []
  | some g =>
    (if g.ensureAbsent && g.ensurePresent then [.invalidCombination r.id .bothGuards] else []) ++
    (if r.pattern.isNone && (g.ensureAbsent || g.ensurePresent) then
      [.invalidCombination r.id .guardWithoutPattern]
    else [])

/-- The issues of a rule by itself. -/
def issues (r : Rule) : List RuleIssue := r.patternIssues ++ r.actionIssues ++ r.guardIssues

/-- True for an identifier of blanks only. -/
def hasNoId (r : Rule) : Bool := r.id.toList.all isBlank

end Rule

/-- The issues of rules behind others that have the given identifiers. -/
def rulesIssues (seen : List String) : List Rule → List RuleIssue
  | [] => []
  | r :: rest =>
    (if r.hasNoId then [.missingId] else if seen.contains r.id then [.duplicateId r.id] else []) ++
      r.issues ++ rulesIssues (if r.hasNoId then seen else r.id :: seen) rest

namespace RuleSet

/-- Everything that is wrong with a rule set, in the order of its rules. -/
def issues (s : RuleSet) : List RuleIssue :=
  (if s.rules.isEmpty then [.noRules] else []) ++ rulesIssues [] s.rules

/-- A rule set without issues. -/
def IsValid (s : RuleSet) : Prop := s.issues = []

instance (s : RuleSet) : Decidable s.IsValid := inferInstanceAs (Decidable (s.issues = []))

end RuleSet
end SexprQuery
