/-!
# Rules

A rule set is an ordered list of rules. A rule names a pattern and says what is to
be done with what it matches. Texts in a rule are kept as they are written and
are read when the rule is checked and when it is applied.
-/

namespace SexprQuery

/-- What a rule does. -/
inductive Action where
  /-- Replace every outermost match by the datum that a text spells. -/
  | replace (replacement : String)
  /-- Replace the first match. -/
  | replaceFirst (replacement : String)
  /-- Replace one atom by another, wherever it stands. -/
  | rename (old new : String)
  /-- Require an exact number of matching nodes. -/
  | expect (count : Nat)
deriving DecidableEq, Repr

/-- When a rule is to be skipped. -/
structure Guard where
  /-- Skip where nothing matches. -/
  ensureAbsent : Bool
  /-- Skip where something matches. -/
  ensurePresent : Bool
deriving DecidableEq, Repr

/-- A rule as it is written. -/
structure Rule where
  id : String
  /-- Every action but `rename` needs a pattern. -/
  pattern : Option String
  action : Action
  guard : Option Guard
deriving DecidableEq, Repr

/-- A named list of rules, applied in order. -/
structure RuleSet where
  name : String
  description : Option String
  rules : List Rule
deriving DecidableEq, Repr

end SexprQuery
