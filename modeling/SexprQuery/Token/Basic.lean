/-!
# Tokens

Data text and pattern text share their tokens. Brackets belong to pattern
commands and regular expressions to patterns; the data reader refuses both.
Every token knows the line it starts on, counted from 1.
-/

namespace SexprQuery

/-- What a token says. -/
inductive Lexeme where
  | opening
  | closing
  | openBracket
  | closeBracket
  /-- A bare word. -/
  | word (text : String)
  /-- A string, its escapes resolved. -/
  | str (text : String)
  /-- A symbol between quotes. -/
  | sym (name : String)
  /-- A regular expression between slashes. -/
  | regex (source : String)
deriving DecidableEq, Repr

/-- The token of a parenthesis or a bracket. -/
def bracket? : Char → Option Lexeme
  | '(' => some .opening
  | ')' => some .closing
  | '[' => some .openBracket
  | ']' => some .closeBracket
  | _ => none

/-- A lexeme and the line it starts on. -/
structure Token where
  lexeme : Lexeme
  line : Nat
deriving DecidableEq, Repr

/-- Which text is scanned: in a pattern a slash at the start of a word opens a
regular expression. -/
inductive TextKind where
  | data
  | pattern
deriving DecidableEq

/-- A literal that runs to the end of the text, with the line it was opened on. -/
inductive LexError where
  | unterminatedString (line : Nat)
  | unterminatedRegex (line : Nat)
deriving DecidableEq, Repr

namespace LexError

/-- The line of the opening delimiter. -/
def line : LexError → Nat
  | .unterminatedString l => l
  | .unterminatedRegex l => l

/-- The text of the error, without its line. -/
def message : LexError → String
  | .unterminatedString _ => "unterminated string literal"
  | .unterminatedRegex _ => "unterminated regex literal"

end LexError
end SexprQuery
