import SexprQuery.Token.Basic
import SexprQuery.Datum.Word

/-!
# Scanning text into tokens

The scanner reads one character at a time: `Scanner.step` says what each
character does, and scanning a text is a fold of it. So scanning `u ++ w` is
scanning `w` from where `u` leaves the scanner, and the line of a token is the
number of line breaks before it, plus one. Only the end of the text can fail,
inside a literal that is still open.
-/

namespace SexprQuery

/-- What the scanner is in the middle of. Characters seen are kept latest
first, and `line` is where the token began. -/
inductive Scan where
  /-- Before a token. -/
  | between
  /-- Behind a semicolon. -/
  | comment
  /-- Behind the `#` that starts a word or a quoted symbol. -/
  | hash (line : Nat)
  | word (line : Nat) (seen : List Char)
  /-- In a string or in a quoted symbol; `escaped` behind a backslash. -/
  | quoted (symbol escaped : Bool) (line : Nat) (seen : List Char)
  /-- In a regular expression; `escaped` behind a backslash. -/
  | regex (escaped : Bool) (line : Nat) (seen : List Char)

/-- A scanner: the line it has reached, the tokens it has finished, latest
first, and what it is in the middle of. -/
structure Scanner where
  line : Nat
  tokens : List Token
  scan : Scan

namespace Scanner

/-- Before the first character. -/
def start : Scanner := ⟨1, [], .between⟩

/-- Finish a token. -/
def emit (s : Scanner) (lexeme : Lexeme) (line : Nat) : Scanner :=
  { s with tokens := ⟨lexeme, line⟩ :: s.tokens, scan := .between }

/-- Collected characters as a string. -/
def collected (seen : List Char) : String := String.ofList seen.reverse

/-- A character in front of which no token is open. -/
def stepBetween (kind : TextKind) (s : Scanner) (c : Char) : Scanner :=
  if isBlank c then { s with scan := .between }
  else if c = ';' then { s with scan := .comment }
  else if c = '(' then s.emit .opening s.line
  else if c = ')' then s.emit .closing s.line
  else if c = '[' then s.emit .openBracket s.line
  else if c = ']' then s.emit .closeBracket s.line
  else if c = '"' then { s with scan := .quoted false false s.line [] }
  else if c = '#' then { s with scan := .hash s.line }
  else if c = '/' ∧ kind = .pattern then { s with scan := .regex false s.line [] }
  else { s with scan := .word s.line [c] }

/-- A character inside or behind a bare word. -/
def stepWord (kind : TextKind) (s : Scanner) (line : Nat) (seen : List Char) (c : Char) : Scanner :=
  if endsWord c then (s.emit (.word (collected seen)) line).stepBetween kind c
  else { s with scan := .word line (c :: seen) }

/-- What a character behind a backslash stands for in a string. -/
def unescape (c : Char) : Char :=
  if c = 'n' then '\n' else if c = 't' then '\t' else if c = 'r' then '\r' else c

/-- The effect of a character, apart from the line count. -/
def stepScan (kind : TextKind) (s : Scanner) (c : Char) : Scanner :=
  match s.scan with
  | .between => s.stepBetween kind c
  | .comment => if c = '\n' then { s with scan := .between } else s
  | .hash line =>
    if c = '"' then { s with scan := .quoted true false line [] }
    else s.stepWord kind line ['#'] c
  | .word line seen => s.stepWord kind line seen c
  | .quoted symbol false line seen =>
    if c = '"' then
      s.emit (if symbol then .sym (collected seen) else .str (collected seen)) line
    else if c = '\\' then { s with scan := .quoted symbol true line seen }
    else { s with scan := .quoted symbol false line (c :: seen) }
  | .quoted symbol true line seen =>
    { s with scan := .quoted symbol false line (unescape c :: seen) }
  | .regex false line seen =>
    if c = '/' then s.emit (.regex (collected seen)) line
    else if c = '\\' then { s with scan := .regex true line seen }
    else { s with scan := .regex false line (c :: seen) }
  | .regex true line seen =>
    let kept := if c = '/' then '/' :: seen else c :: '\\' :: seen
    { s with scan := .regex false line kept }

/-- The effect of a character: a line break also starts a line. -/
def step (kind : TextKind) (s : Scanner) (c : Char) : Scanner :=
  let next := s.stepScan kind c
  if c = '\n' then { next with line := next.line + 1 } else next

/-- The end of the text: a word ends here, an open literal is an error. -/
def finish (s : Scanner) : Except LexError (List Token) :=
  match s.scan with
  | .between | .comment => .ok s.tokens.reverse
  | .hash line => .ok (s.emit (.word "#") line).tokens.reverse
  | .word line seen => .ok (s.emit (.word (collected seen)) line).tokens.reverse
  | .quoted _ _ line _ => .error (.unterminatedString line)
  | .regex _ line _ => .error (.unterminatedRegex line)

end Scanner

/-- The tokens of a text. -/
def tokenize (kind : TextKind) (cs : List Char) : Except LexError (List Token) :=
  (cs.foldl (Scanner.step kind) Scanner.start).finish

end SexprQuery
