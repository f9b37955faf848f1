import SexprQuery.Pattern.Parser

/-!
# Pattern text by recursive descent

The grammar of patterns with one function for each of its rules. A function takes a row of
tokens and gives what stands at its front, with the tokens behind it (`Front`). What a row
of tokens spells in this way is what the parser that takes them one by one makes of it:
both report the same errors on the same lines.

A missing form would be reported on the line of the last token of the text, `lastLine`.
-/

namespace SexprQuery.Pattern.Descent

/-- What has been read from the front of a row of tokens, and the tokens behind it. At least
one token has been read. -/
structure Front (α : Type) (ts : List Token) where
  value : α
  rest : List Token
  shorter : rest.length < ts.length

namespace Front
variable {α β : Type} {ts : List Token}

/-- A value that the first token spells by itself. -/
def single (value : α) (t : Token) (ts : List Token) : Front α (t :: ts) :=
  ⟨value, ts, Nat.lt_succ_self _⟩

/-- What is read behind a first token. -/
def behind (t : Token) (r : Front α ts) (value : β) : Front β (t :: ts) :=
  ⟨value, r.rest, Nat.lt_succ_of_lt r.shorter⟩

/-- One value in front of others. -/
def cons (r : Front α ts) (rs : Front (List α) r.rest) : Front (List α) ts :=
  ⟨r.value :: rs.value, rs.rest, Nat.lt_trans rs.shorter r.shorter⟩

end Front

/-! ## Tags -/

mutual
/-- A datum of a tag. At the end of the tokens the bracket on the given line is not
closed. -/
def literal (line : Nat) : (ts : List Token) → Except PatternError (Front Datum ts)
  | [] => .error (.malformed .unclosedBracket line)
  | t :: ts =>
    match t.lexeme with
    | .opening => do
      let r ← literals t.line ts
      return r.behind t (.list (some t.line) r.value)
    | .word w => .ok (.single (.ofWord w) t ts)
    | .str contents => .ok (.single (.str contents) t ts)
    | .sym name => .ok (.single (.sym name) t ts)
    | .closing | .openBracket | .closeBracket | .regex _ =>
      .error (.malformed (.arity "t" .literalTag) t.line)
termination_by ts => (ts.length, 0)

/-- The data of a list that was opened on the given line, up to its end. -/
def literals (line : Nat) : (ts : List Token) → Except PatternError (Front (List Datum) ts)
  | [] => .error (.malformed .unclosedList line)
  | t :: ts =>
    if t.lexeme = .closing then .ok (.single [] t ts)
    else do
      let r ← literal line (t :: ts)
      let rs ← literals line r.rest
      return r.cons rs
termination_by ts => (ts.length, 1)
decreasing_by
  · exact Prod.Lex.right _ Nat.zero_lt_one
  · exact Prod.Lex.left _ _ r.shorter
end

/-- What stands behind the name `t`: one datum and the closing bracket. -/
def typeCommand (line : Nat) (ts : List Token) : Except PatternError (Front Pattern ts) :=
  if ts.head?.map Token.lexeme = some .closeBracket then
    .error (.malformed (.arity "t" .literalTag) line)
  else do
    match ← literal line ts with
    | ⟨_, [], _⟩ => .error (.malformed .unclosedBracket line)
    | ⟨tag, t :: us, shorter⟩ =>
      if t.lexeme = .closeBracket then return ⟨.tagged tag, us, Nat.lt_of_succ_lt shorter⟩
      else .error (.malformed (.arity "t" .literalTag) line)

/-! ## Forms -/

mutual
/-- A form. -/
def form (lastLine : Nat) : (ts : List Token) → Except PatternError (Front Pattern ts)
  | [] => .error (.malformed .unexpectedEnd lastLine)
  | t :: ts =>
    match t.lexeme with
    | .opening => do
      let r ← formsUntil lastLine .closing .unclosedList t.line ts
      return r.behind t (.shape r.value)
    | .openBracket => do
      let r ← command lastLine t.line ts
      return r.behind t r.value
    | .closing => .error (.malformed .unexpectedClose t.line)
    | .closeBracket => .error (.malformed .unexpectedCloseBracket t.line)
    | .word w => .ok (.single (ofWord w) t ts)
    | .str contents => .ok (.single (.equals (.str contents)) t ts)
    | .sym name => .ok (.single (.equals (.sym name)) t ts)
    | .regex source => do return .single (.text (← TextPattern.ofSource source)) t ts
termination_by ts => (ts.length, 0)

/-- The forms up to a closing token. At the end of the tokens what was opened on the given
line is at fault. -/
def formsUntil (lastLine : Nat) (close : Lexeme) (unclosed : Malformed) (line : Nat) :
    (ts : List Token) → Except PatternError (Front (List Pattern) ts)
  | [] => .error (.malformed unclosed line)
  | t :: ts =>
    if t.lexeme = close then .ok (.single [] t ts)
    else do
      let r ← form lastLine (t :: ts)
      let rs ← formsUntil lastLine close unclosed line r.rest
      return r.cons rs
termination_by ts => (ts.length, 1)
decreasing_by
  · exact Prod.Lex.right _ Nat.zero_lt_one
  · exact Prod.Lex.left _ _ r.shorter

/-- What stands behind a bracket on the given line. -/
def command (lastLine line : Nat) : (ts : List Token) → Except PatternError (Front Pattern ts)
  | [] => .error (.malformed .unclosedBracket line)
  | t :: ts =>
    match t.lexeme with
    | .word name =>
      if name = "t" then do
        let r ← typeCommand line ts
        return r.behind t r.value
      else do
        let r ← formsUntil lastLine .closeBracket .unclosedBracket line ts
        return r.behind t (← ofCommand name r.value line)
    | _ => .error (.malformed .missingCommand t.line)
termination_by ts => (ts.length, 0)
end

/-- The last of the forms, where `last` is the one before the first of them. -/
def lastForm (lastLine : Nat) (last : Option Pattern) :
    (ts : List Token) → Except PatternError (Option Pattern)
  | [] => .ok last
  | t :: ts => do
    let r ← form lastLine (t :: ts)
    lastForm lastLine (some r.value) r.rest
termination_by ts => ts.length
decreasing_by exact r.shorter

/-- The last form that a row of tokens spells; none where there are no tokens. -/
def program (ts : List Token) : Except PatternError (Option Pattern) :=
  lastForm (ts.getLast?.elim 1 Token.line) none ts

end SexprQuery.Pattern.Descent
