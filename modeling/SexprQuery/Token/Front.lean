import SexprQuery.Token.Lexer

/-!
# The token at the front of a text

`Unread.next?` takes the first token of a text and leaves the rest of the text unread, so
that a token is known before anything behind it is looked at. `Unread.tokens` goes on until
nothing is left.

The scanner remembers that it is behind a backslash. Here a literal is read by a function of
its own, `Unread.literal?`, that takes a backslash together with the character behind it.
-/

namespace SexprQuery

/-- A text that is still to be read, and the line it starts on. -/
structure Unread where
  line : Nat
  chars : List Char
deriving DecidableEq

namespace Unread

/-- The line that is reached behind a character. -/
def lineBehind (line : Nat) (c : Char) : Nat := if c = '\n' then line + 1 else line

/-- What is left behind blanks and comments. A comment runs to the end of its line. -/
def skipBlanks (inComment : Bool) (line : Nat) : List Char → Unread
  | [] => ⟨line, []⟩
  | c :: cs =>
    if inComment then
      if c = '\n' then skipBlanks false (line + 1) cs else skipBlanks true line cs
    else if isBlank c then skipBlanks false (lineBehind line c) cs
    else if c = ';' then skipBlanks true line cs
    else ⟨line, c :: cs⟩

/-! ## Literals -/

/-- The text of a literal with more characters in front of it. -/
def inFront (front : List Char) (r : Option (List Char × Unread)) : Option (List Char × Unread) :=
  r.map fun (text, rest) => (front ++ text, rest)

@[simp] theorem inFront_none (front : List Char) : inFront front none = none := rfl

@[simp] theorem inFront_some (front text : List Char) (rest : Unread) :
    inFront front (some (text, rest)) = some (front ++ text, rest) := rfl

theorem inFront_nil (r : Option (List Char × Unread)) : inFront [] r = r := by
  cases r <;> rfl

theorem inFront_append (front more : List Char) (r : Option (List Char × Unread)) :
    inFront (front ++ more) r = inFront front (inFront more r) := by
  cases r <;> simp [inFront]

theorem exists_of_inFront_eq_some {front text : List Char} {r : Option (List Char × Unread)}
    {rest : Unread} (h : inFront front r = some (text, rest)) : ∃ text', r = some (text', rest) := by
  obtain ⟨⟨text', rest'⟩, rfl, heq⟩ := Option.map_eq_some_iff.mp h
  cases heq
  exact ⟨text', rfl⟩

/-- The text of a literal up to its closing delimiter, and what is behind the delimiter; none
if it runs to the end. `pair` is what a backslash and the character behind it stand for. -/
def literal? (close : Char) (pair : Char → List Char) (line : Nat) :
    List Char → Option (List Char × Unread)
  | [] => none
  | c :: cs =>
    if c = close then some ([], ⟨line, cs⟩)
    else if c = '\\' then
      match cs with
      | [] => none
      | d :: ds => inFront (pair d) (literal? close pair (lineBehind line d) ds)
    else inFront [c] (literal? close pair (lineBehind line c) cs)

theorem literal?_close (close : Char) (pair : Char → List Char) (line : Nat) (cs : List Char) :
    literal? close pair line (close :: cs) = some ([], ⟨line, cs⟩) := by
  rw [literal?.eq_def]
  exact if_pos rfl

theorem literal?_pair {close : Char} (hclose : close ≠ '\\') (pair : Char → List Char) (line : Nat)
    (c : Char) (cs : List Char) : literal? close pair line ('\\' :: c :: cs) =
      inFront (pair c) (literal? close pair (lineBehind line c) cs) := by
  rw [literal?, if_neg (Ne.symm hclose), if_pos rfl]

theorem literal?_plain {close c : Char} (hclose : c ≠ close) (hback : c ≠ '\\')
    (pair : Char → List Char) (line : Nat) (cs : List Char) : literal? close pair line (c :: cs) =
      inFront [c] (literal? close pair (lineBehind line c) cs) := by
  rw [literal?.eq_def]
  exact (if_neg hclose).trans (if_neg hback)

/-- A string or the name of a quoted symbol, from behind the quote that opens it. -/
def quoted? (line : Nat) (cs : List Char) : Option (List Char × Unread) :=
  literal? '"' (fun c => [Scanner.unescape c]) line cs

/-- A regular expression, from behind the slash that opens it. A backslash stays, except in
front of a slash. -/
def regex? (line : Nat) (cs : List Char) : Option (List Char × Unread) :=
  literal? '/' (fun c => if c = '/' then ['/'] else ['\\', c]) line cs

/-- The token of a literal that was opened on the given line. -/
def literal (lexeme : String → Lexeme) (unterminated : Nat → LexError) (line : Nat)
    (r : Option (List Char × Unread)) : Except LexError (Token × Unread) :=
  match r with
  | none => .error (unterminated line)
  | some (text, rest) => .ok (⟨lexeme (String.ofList text), line⟩, rest)

/-! ## Tokens -/

/-- The token that starts with the given character. -/
def tokenAt (kind : TextKind) (line : Nat) (c : Char) (cs : List Char) :
    Except LexError (Token × Unread) :=
  match bracket? c with
  | some x => .ok (⟨x, line⟩, ⟨line, cs⟩)
  | none =>
    if c = '"' then literal .str .unterminatedString line (quoted? line cs)
    else if c = '#' ∧ cs.head? = some '"' then
      literal .sym .unterminatedString line (quoted? line cs.tail)
    else if c = '/' ∧ kind = .pattern then literal .regex .unterminatedRegex line (regex? line cs)
    else
      .ok (⟨.word (String.ofList (c :: cs.takeWhile (!endsWord ·))), line⟩,
        ⟨line, cs.dropWhile (!endsWord ·)⟩)

/-- The first token of a text and what is left behind it; none where only blanks and
comments are left. -/
def next? (kind : TextKind) (u : Unread) : Except LexError (Option (Token × Unread)) :=
  match skipBlanks false u.line u.chars with
  | ⟨_, []⟩ => .ok none
  | ⟨line, c :: cs⟩ => (tokenAt kind line c cs).map some

/-- A slash at the front of pattern text opens a regular expression. -/
theorem next?_slash (line : Nat) (cs : List Char) :
    next? .pattern ⟨line, '/' :: cs⟩ =
      (literal .regex .unterminatedRegex line (regex? line cs)).map some := rfl

/-! ## Every token takes a character -/

theorem length_skipBlanks_le (inComment : Bool) (line : Nat) (cs : List Char) :
    (skipBlanks inComment line cs).chars.length ≤ cs.length := by
  fun_induction skipBlanks inComment line cs with
  | case1 => simp
  | case6 => simp
  | _ => simp only [List.length_cons]; omega

theorem length_of_literal? {close : Char} {pair : Char → List Char} {line : Nat}
    {cs text : List Char} {rest : Unread} (h : literal? close pair line cs = some (text, rest)) :
    rest.chars.length < cs.length := by
  fun_induction literal? close pair line cs generalizing text with
  | case1 => cases h
  | case2 => cases h; simp
  | case3 => cases h
  | case4 line d ds _ ih =>
    obtain ⟨text', htext⟩ := exists_of_inFront_eq_some h
    have hlength := ih htext
    simp only [List.length_cons]
    omega
  | case5 line c cs _ _ ih =>
    obtain ⟨text', htext⟩ := exists_of_inFront_eq_some h
    have hlength := ih htext
    simp only [List.length_cons]
    omega

theorem exists_of_literal_eq_ok {lexeme : String → Lexeme} {unterminated : Nat → LexError} {line : Nat}
    {r : Option (List Char × Unread)} {t : Token} {rest : Unread}
    (h : literal lexeme unterminated line r = .ok (t, rest)) : ∃ text, r = some (text, rest) := by
  match r with
  | none => cases h
  | some (text, rest') =>
    cases h
    exact ⟨text, rfl⟩

theorem length_of_tokenAt {kind : TextKind} {line : Nat} {c : Char} {cs : List Char} {t : Token}
    {rest : Unread} (h : tokenAt kind line c cs = .ok (t, rest)) :
    rest.chars.length ≤ cs.length := by
  unfold tokenAt at h
  split at h
  · cases h
    exact Nat.le_refl _
  split at h
  · obtain ⟨text, htext⟩ := exists_of_literal_eq_ok h
    exact Nat.le_of_lt (length_of_literal? htext)
  split at h
  · obtain ⟨text, htext⟩ := exists_of_literal_eq_ok h
    have hlength := length_of_literal? htext
    rw [List.length_tail] at hlength
    omega
  split at h
  · obtain ⟨text, htext⟩ := exists_of_literal_eq_ok h
    exact Nat.le_of_lt (length_of_literal? htext)
  · cases h
    exact (List.dropWhile_sublist _).length_le

theorem length_of_next? {kind : TextKind} {u : Unread} {t : Token} {rest : Unread}
    (h : u.next? kind = .ok (some (t, rest))) : rest.chars.length < u.chars.length := by
  have hskip := length_skipBlanks_le false u.line u.chars
  unfold next? at h
  split at h
  · cases h
  · next line c cs heq =>
    rw [heq, List.length_cons] at hskip
    cases htoken : tokenAt kind line c cs with
    | error e => rw [htoken] at h; cases h
    | ok r =>
      rw [htoken] at h
      cases h
      have hlength := length_of_tokenAt htoken
      omega

/-- The tokens of a text, taken from its front one after the other. -/
def tokens (kind : TextKind) (u : Unread) : Except LexError (List Token) :=
  match _h : u.next? kind with
  | .error e => .error e
  | .ok none => .ok []
  | .ok (some (t, rest)) => (rest.tokens kind).map (t :: ·)
termination_by u.chars.length
decreasing_by exact length_of_next? ‹_›

end Unread
end SexprQuery
