import SexprQuery.Token.Basic

/-!
# Errors of patterns

Why a text is no pattern, or why two operands do not go together. The wording
of each error is in its `message`.
-/

namespace SexprQuery

/-- What a bracket command asks for. -/
inductive Arity where
  | nothing
  | regexOrAtom
  | onePattern
  | twoPatterns
  | literalTag
deriving DecidableEq, Repr

namespace Arity

/-- The text for what is asked. -/
def message : Arity → String
  | .nothing => "no arguments"
  | .regexOrAtom => "a single regex or atom"
  | .onePattern => "exactly one pattern"
  | .twoPatterns => "two patterns and an optional gap"
  | .literalTag => "a single literal tag"

end Arity

/-- What is wrong with the form of a pattern. -/
inductive Malformed where
  | lex (cause : LexError)
  | unexpectedClose
  | unexpectedCloseBracket
  | unclosedList
  | unclosedBracket
  | missingCommand
  /-- The tokens end where a form has to stand. -/
  | unexpectedEnd
  /-- A command with other arguments than it asks for. -/
  | arity (command : String) (expected : Arity)
  | empty
deriving DecidableEq, Repr

namespace Malformed

/-- The text of the fault. -/
def message : Malformed → String
  | .lex cause => cause.message
  | .unexpectedClose => "unexpected ')'"
  | .unexpectedCloseBracket => "unexpected ']'"
  | .unclosedList => "unclosed '('"
  | .unclosedBracket => "unclosed '['"
  | .missingCommand => "expected a command name after '['"
  | .unexpectedEnd => "unexpected end of pattern"
  | .arity command expected => "[" ++ command ++ "] takes " ++ expected.message
  | .empty => "empty pattern"

end Malformed

/-- How operands and patterns do not go together. -/
inductive Misuse where
  /-- A plain datum where a pattern is needed; the datum in its display form. -/
  | needsPattern (shown : String)
  | neitherIsPattern
  | bothArePatterns
deriving DecidableEq, Repr

namespace Misuse

/-- The text of the fault. -/
def message : Misuse → String
  | .needsPattern shown => shown ++ " needs a pattern"
  | .neitherIsPattern => "operand must be a pattern"
  | .bothArePatterns => "operands can't both be patterns"

end Misuse

/-- Why there is no pattern. -/
inductive PatternError where
  | malformed (fault : Malformed) (line : Nat)
  | invalid (fault : Misuse)
  /-- A regular expression that does not compile. -/
  | badRegex (source : String)
  /-- A bracket command of an unknown name, with the known one nearest to it. -/
  | unknownCommand (name : String) (suggestion : Option String)
deriving DecidableEq, Repr

/-- What stands for the explanation of a regular expression's fault. -/
def regexFault : String := "<regex error>"

namespace PatternError

/-- The text of the error. -/
def message : PatternError → String
  | .malformed fault line => s!"malformed pattern syntax at line {line}: " ++ fault.message
  | .invalid fault => "invalid pattern: " ++ fault.message
  | .badRegex source => "invalid regex /" ++ source ++ "/: " ++ regexFault
  | .unknownCommand name suggestion =>
    "unknown pattern command '[" ++ name ++ " ...]'" ++
      match suggestion with
      | some s => ", did you mean '" ++ s ++ "'?"
      | none => ""

end PatternError
end SexprQuery
