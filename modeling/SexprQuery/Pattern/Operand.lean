import SexprQuery.Pattern.Printer
import SexprQuery.Pattern.Error

/-!
# Operands

A place that takes a pattern or a plain datum. Search takes patterns only, and
says so of a datum; substitution takes a datum for the pattern of being equal to
it.
-/

namespace SexprQuery

/-- A pattern or a plain datum. -/
inductive Operand where
  | pattern (p : Pattern)
  | datum (d : Datum)

namespace Operand

/-- True for patterns. -/
def isPattern : Operand → Bool
  | .pattern _ => true
  | .datum _ => false

/-- The pattern; a plain datum is an error here. -/
def asPattern : Operand → Except PatternError Pattern
  | .pattern p => .ok p
  | .datum d => .error (.invalid (.needsPattern d.display))

/-- The pattern; a plain datum stands for what is equal to it. -/
def toPattern : Operand → Pattern
  | .pattern p => p
  | .datum d => .equals d

/-- Operands of one kind are compared. -/
instance : BEq Operand where
  beq
    | .pattern p, .pattern q => p == q
    | .datum a, .datum b => a == b
    | _, _ => false

/-- Case equality: a pattern is tested on a datum, from either side; operands of one
kind are compared. -/
def caseEq : Operand → Operand → Bool
  | .pattern p, .pattern q => p == q
  | .pattern p, .datum d => p.satisfies d
  | .datum d, .pattern p => p.satisfies d
  | .datum a, .datum b => a == b

/-- True if the pattern occurs in the datum. Exactly one operand has to be a pattern. -/
def occurs : Operand → Operand → Except PatternError Bool
  | .pattern p, .datum d => .ok (p.matchesWithin d)
  | .datum d, .pattern p => .ok (p.matchesWithin d)
  | .datum _, .datum _ => .error (.invalid .neitherIsPattern)
  | .pattern _, .pattern _ => .error (.invalid .bothArePatterns)

end Operand
end SexprQuery
