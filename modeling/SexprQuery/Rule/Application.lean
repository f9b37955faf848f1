import SexprQuery.Rule.Basic
import SexprQuery.Datum.Reader
import SexprQuery.Pattern.Parser
import SexprQuery.Search.Substitute

/-!
# Applying rules

A rule is applied to a datum and gives what came of it, a verdict or a fault, and a
datum in any case: the next rule goes on from there.
-/

namespace SexprQuery

/-- Why a rule was skipped: what it is for holds already. -/
inductive SkipReason where
  | alreadyAbsent
  | alreadyPresent
deriving DecidableEq, Repr

/-- The text of the reason. -/
def SkipReason.message : SkipReason → String
  | .alreadyAbsent => "pattern already absent"
  | .alreadyPresent => "pattern already present"

/-- What came of a rule that did not fail. -/
inductive Verdict where
  /-- So many places were replaced. -/
  | applied (count : Nat)
  | unchanged
  | skipped (reason : SkipReason)
deriving DecidableEq, Repr

/-- Why a rule failed. -/
inductive RuleFault where
  | pattern (cause : PatternError)
  | emptyPattern
  | value (cause : ReadError)
  | countMismatch (expected found : Nat)
deriving DecidableEq, Repr

/-- The text of the fault of a rule. -/
def RuleFault.message (id : String) : RuleFault → String
  | .pattern cause => "rule '" ++ id ++ "' pattern error: " ++ cause.message
  | .emptyPattern => "rule '" ++ id ++ "' has an empty pattern"
  | .value cause => "rule '" ++ id ++ "' value error: " ++ cause.message
  | .countMismatch expected found =>
    "rule '" ++ id ++ "'" ++ s!" expected {expected} matches, found {found}"

/-- A verdict, or why there is none. -/
abbrev RuleResult := Except RuleFault Verdict

/-- What came of a rule. -/
structure Outcome where
  id : String
  result : RuleResult

namespace Outcome

/-- The form of messages. -/
def display (o : Outcome) : String :=
  match o.result with
  | .ok (.applied count) => "Applied " ++ o.id ++ s!" ({count} replaced)"
  | .ok .unchanged => "Unchanged " ++ o.id
  | .ok (.skipped reason) => "Skipped " ++ o.id ++ ": " ++ reason.message
  | .error fault => "Failed " ++ o.id ++ ": " ++ fault.message o.id

/-- True where the rule failed. -/
def isFailure (o : Outcome) : Bool :=
  match o.result with
  | .ok _ => false
  | .error _ => true

end Outcome

/-- The number of nodes in a datum that satisfy a pattern. -/
def Datum.countMatches (d : Datum) (p : Pattern) : Nat :=
  match d.node? with
  | some n => (n.search p).length
  | none => 0

namespace Rule

/-- The pattern that a parsed text gives a rule; there has to be one. -/
def neededPattern : Except PatternError (Option Pattern) → Except RuleFault Pattern
  | .ok (some p) => .ok p
  | .ok none => .error .emptyPattern
  | .error e => .error (.pattern e)

/-- The pattern of a rule; a missing text counts as an empty one. -/
def parsePattern (r : Rule) : Except RuleFault Pattern :=
  neededPattern (Pattern.parse (r.pattern.getD ""))

/-- Why a rule with so many matches is to be skipped, if it is. -/
def skip? (r : Rule) (found : Nat) : Option SkipReason :=
  match r.guard with
  | none => none
  | some g =>
    if g.ensureAbsent && found == 0 then some .alreadyAbsent
    else if g.ensurePresent && 0 < found then some .alreadyPresent
    else none

/-- Read a text of an action. -/
def readText (text : String) : Except RuleFault Datum := (readDatum text).mapError .value

/-- Replace one atom by another; a datum that is the atom itself is replaced whole. -/
def renameIn (old new d : Datum) : Verdict × Datum :=
  match d.node? with
  | some n =>
    let renamed := n.replaceAtoms old new
    (if renamed.2 = 0 then .unchanged else .applied renamed.2, renamed.1.toDatum)
  | none => if d == old then (.applied 1, new) else (.unchanged, d)

/-- Replace the outermost matches, or the first of them only. -/
def replaceIn (firstOnly : Bool) (p : Pattern) (new d : Datum) : Verdict × Datum :=
  match d.node? with
  | some n =>
    let found := if firstOnly then (n.outermost p).take 1 else n.outermost p
    if found.isEmpty then (.unchanged, d)
    else (.applied found.length, n.putAll (found.map fun f => (f.1, new)))
  | none => (.unchanged, d)

/-- Do what a guarded action does with the pattern of a rule and the number of its
matches. Without a pattern the rule fails, and its guard may skip it. -/
def applyGuarded (r : Rule) (d : Datum) (act : Pattern → Nat → RuleResult × Datum) :
    RuleResult × Datum :=
  match r.parsePattern with
  | .error fault => (.error fault, d)
  | .ok p =>
    let found := d.countMatches p
    match r.skip? found with
    | some reason => (.ok (.skipped reason), d)
    | none => act p found

/-- Rename the atom of one text to that of another. -/
def applyRename (old new : String) (d : Datum) : RuleResult × Datum :=
  match readText old with
  | .error fault => (.error fault, d)
  | .ok old =>
    match readText new with
    | .error fault => (.error fault, d)
    | .ok new =>
      let renamed := renameIn old new d
      (.ok renamed.1, renamed.2)

/-- Replace matches by the datum of a text. -/
def applyReplace (firstOnly : Bool) (text : String) (p : Pattern) (d : Datum) :
    RuleResult × Datum :=
  match readText text with
  | .error fault => (.error fault, d)
  | .ok new =>
    let replaced := replaceIn firstOnly p new d
    (.ok replaced.1, replaced.2)

/-- Apply a rule to a datum. -/
def apply (r : Rule) (d : Datum) : RuleResult × Datum :=
  match r.action with
  | .rename old new => applyRename old new d
  | .expect count => r.applyGuarded d fun _ found =>
    if found = count then (.ok .unchanged, d) else (.error (.countMismatch count found), d)
  | .replace text => r.applyGuarded d fun p _ => applyReplace false text p d
  | .replaceFirst text => r.applyGuarded d fun p _ => applyReplace true text p d

/-- Apply a rule and report on it under its identifier. -/
def run (r : Rule) (d : Datum) : Outcome × Datum :=
  let applied := r.apply d
  (⟨r.id, applied.1⟩, applied.2)

end Rule

/-- Apply rules in order, each to what the one before has left. -/
def applyRules : List Rule → Datum → List Outcome × Datum
  | [], d => ([], d)
  | r :: rest, d =>
    let first := r.run d
    let others := applyRules rest first.2
    (first.1 :: others.1, others.2)

/-- Apply a rule set. -/
def RuleSet.apply (s : RuleSet) (d : Datum) : List Outcome × Datum := applyRules s.rules d

end SexprQuery
