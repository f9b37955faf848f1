import SexprQuery.Pattern.Basic
import SexprQuery.Pattern.Error
import SexprQuery.Token.Lexer
import SexprQuery.Text.EditDistance

/-!
# Reading pattern text

A list in parentheses is a shape, a word, a string or a quoted symbol is a datum
to be equal to, a text between slashes is a regular expression, and brackets
hold a command. Of several forms the last one counts.

The parser takes the tokens one by one and keeps what is open, innermost first.
The tag of `[t …]` is plain data, so inside it a parser of its own is at work:
see `Stage`.
-/

namespace SexprQuery

/-- Compile a regular expression of a pattern. -/
def TextPattern.ofSource (source : String) : Except PatternError TextPattern :=
  match TextPattern.ofSource? source with
  | some re => .ok re
  | none => .error (.badRegex source)

/-- The regular expression that matches exactly one text. -/
def TextPattern.exact (text : String) : Except PatternError TextPattern :=
  TextPattern.ofSource (exactSource text)

namespace Pattern

/-! ## Commands -/

/-- The names of the bracket commands. -/
def commands : List String :=
  ["atom", "t", "m", "not?", "-", "any", "all", "child", "include", ">>"]

/-- The command nearest to an unknown name, at most two edits away; of several the
first. -/
def suggestion? (name : String) : Option String :=
  let ranked := commands.map fun c => (EditDistance.distance name.toList c.toList, c)
  let near := ranked.filter fun r => r.1 ≤ 2
  (near.foldl (fun (best : Option (Nat × String)) r =>
    match best with
    | some b => if r.1 < b.1 then some r else some b
    | none => some r) none).map Prod.snd

/-- The gap that a third argument of `>>` spells: an integer from 1 on. -/
def gap? : Pattern → Option Nat
  | .equals (.int n) => if 1 ≤ n.toInt then some n.toInt.toNat else none
  | _ => none

/-- The pattern of a command with its arguments. -/
def ofCommand (name : String) (args : List Pattern) (line : Nat) : Except PatternError Pattern :=
  let arity (expected : Arity) : Except PatternError Pattern :=
    .error (.malformed (.arity name expected) line)
  if name = "atom" then
    if args.isEmpty then .ok .atom else arity .nothing
  else if name = "m" then
    match args with
    | [.text re] => .ok (.text re)
    | [.equals d] => if d.isList then arity .regexOrAtom else (TextPattern.exact d.text).map .text
    | _ => arity .regexOrAtom
  else if name = "not?" ∨ name = "-" then
    match args with
    | [p] => .ok (.not p)
    | _ => arity .onePattern
  else if name = "child" then
    match args with
    | [p] => .ok (.within p)
    | _ => arity .onePattern
  else if name = "include" then
    match args with
    | [p] => .ok (.includes p)
    | _ => arity .onePattern
  else if name = "any" then .ok (.any args)
  else if name = "all" then .ok (.all args)
  else if name = ">>" then
    match args with
    | [p, q] => .ok (.sibling p q 1)
    | [p, q, g] =>
      match gap? g with
      | some n => .ok (.sibling p q n)
      | none => arity .twoPatterns
    | _ => arity .twoPatterns
  else .error (.unknownCommand name (suggestion? name))

/-- The pattern of a bare word. -/
def ofWord (word : String) : Pattern :=
  if word = "_" then .wild
  else if word = "___" then .remaining
  else .equals (.ofWord word)

/-! ## The parser -/

/-- A list or a command that is open, with what it holds so far, latest first. -/
inductive Open where
  | shape (line : Nat) (elements : List Pattern)
  | command (line : Nat) (name : String) (args : List Pattern)

/-- What the next token is read as. -/
inductive Stage where
  | form
  /-- The name behind a bracket. -/
  | commandName (line : Nat)
  /-- The tag of `[t …]`, or a part of it: the line of the bracket, and the open
  lists of the tag with their slots, innermost and latest first. -/
  | tag (line : Nat) (lists : List (Nat × List Datum))
  /-- The bracket behind a tag. -/
  | tagEnd (line : Nat) (tag : Datum)

/-- The parser between two tokens. -/
structure Parser where
  stage : Stage
  stack : List Open
  /-- The last top-level form. -/
  last : Option Pattern

namespace Parser

/-- Before the first token. -/
def start : Parser := ⟨.form, [], none⟩

/-- Put a finished pattern where it belongs. -/
def push (s : Parser) (p : Pattern) : Parser :=
  match s.stack with
  | [] => { s with stage := .form, last := some p }
  | .shape line elements :: rest =>
    { s with stage := .form, stack := .shape line (p :: elements) :: rest }
  | .command line name args :: rest =>
    { s with stage := .form, stack := .command line name (p :: args) :: rest }

/-- A token where a form may stand. -/
def stepForm (s : Parser) (t : Token) : Except PatternError Parser :=
  match t.lexeme with
  | .opening => .ok { s with stack := .shape t.line [] :: s.stack }
  | .closing =>
    match s.stack with
    | .shape _ elements :: rest => .ok (push { s with stack := rest } (.shape elements.reverse))
    | _ => .error (.malformed .unexpectedClose t.line)
  | .openBracket => .ok { s with stage := .commandName t.line }
  | .closeBracket =>
    match s.stack with
    | .command line name args :: rest => do
      return push { s with stack := rest } (← ofCommand name args.reverse line)
    | _ => .error (.malformed .unexpectedCloseBracket t.line)
  | .word w => .ok (s.push (ofWord w))
  | .str contents => .ok (s.push (.equals (.str contents)))
  | .sym name => .ok (s.push (.equals (.sym name)))
  | .regex source => do return s.push (.text (← TextPattern.ofSource source))

/-- A token behind a bracket. -/
def stepName (s : Parser) (line : Nat) (t : Token) : Except PatternError Parser :=
  match t.lexeme with
  | .word name =>
    if name = "t" then .ok { s with stage := .tag line [] }
    else .ok { s with stage := .form, stack := .command line name [] :: s.stack }
  | _ => .error (.malformed .missingCommand t.line)

/-- Put a finished datum into the innermost open list of a tag. -/
def pushDatum (s : Parser) (line : Nat) (lists : List (Nat × List Datum)) (d : Datum) : Parser :=
  match lists with
  | [] => { s with stage := .tagEnd line d }
  | (l, slots) :: rest => { s with stage := .tag line ((l, d :: slots) :: rest) }

/-- A token inside a tag. An empty command is a fault of its bracket, any other token
that data do not have one of its own line. -/
def stepTag (s : Parser) (line : Nat) (lists : List (Nat × List Datum)) (t : Token) :
    Except PatternError Parser :=
  let fault (at_ : Nat) : Except PatternError Parser :=
    .error (.malformed (.arity "t" .literalTag) at_)
  match t.lexeme with
  | .opening => .ok { s with stage := .tag line ((t.line, []) :: lists) }
  | .closing =>
    match lists with
    | [] => fault t.line
    | (l, slots) :: rest => .ok (s.pushDatum line rest (.list (some l) slots.reverse))
  | .word w => .ok (s.pushDatum line lists (.ofWord w))
  | .str contents => .ok (s.pushDatum line lists (.str contents))
  | .sym name => .ok (s.pushDatum line lists (.sym name))
  | .closeBracket => fault (if lists.isEmpty then line else t.line)
  | .openBracket | .regex _ => fault t.line

/-- A token behind a tag. -/
def stepTagEnd (s : Parser) (line : Nat) (tag : Datum) (t : Token) : Except PatternError Parser :=
  match t.lexeme with
  | .closeBracket => .ok (s.push (.tagged tag))
  | _ => .error (.malformed (.arity "t" .literalTag) line)

/-- The effect of a token. -/
def step (s : Parser) (t : Token) : Except PatternError Parser :=
  match s.stage with
  | .form => s.stepForm t
  | .commandName line => s.stepName line t
  | .tag line lists => s.stepTag line lists t
  | .tagEnd line tag => s.stepTagEnd line tag t

/-- The end of the tokens: what is still open, innermost first, is a fault. -/
def finish (s : Parser) : Except PatternError (Option Pattern) :=
  match s.stage with
  | .form =>
    match s.stack with
    | [] => .ok s.last
    | .shape line _ :: _ => .error (.malformed .unclosedList line)
    | .command line _ _ :: _ => .error (.malformed .unclosedBracket line)
  | .commandName line => .error (.malformed .unclosedBracket line)
  | .tag line [] => .error (.malformed .unclosedBracket line)
  | .tag _ ((line, _) :: _) => .error (.malformed .unclosedList line)
  | .tagEnd line _ => .error (.malformed .unclosedBracket line)

end Parser

/-- The last form that a row of tokens spells; none where there are no tokens. -/
def ofTokens (ts : List Token) : Except PatternError (Option Pattern) := do
  (← ts.foldlM Parser.step Parser.start).finish

/-- Read pattern text. A text without forms is no pattern and no error. -/
def parse (text : String) : Except PatternError (Option Pattern) :=
  match tokenize .pattern text.toList with
  | .ok ts => ofTokens ts
  | .error e => .error (.malformed (.lex e) e.line)

/-- Read pattern text that has to hold a form. -/
def ofText (text : String) : Except PatternError Pattern := do
  match ← parse text with
  | some p => .ok p
  | none => .error (.malformed .empty 1)

end Pattern
end SexprQuery
