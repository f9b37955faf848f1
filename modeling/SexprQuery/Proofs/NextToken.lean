import SexprQuery.Token.Front
import SexprQuery.Proofs.Scanning

/-!
# One token at a time

Taking tokens from the front of a text gives what the scanner makes of the text as a whole:
the same tokens on the same lines, and the same error (`tokens_eq_scanFrom`). One token does
not depend on the next, so this holds token by token (`scanFrom_eq_next?`).

Each part of a token is followed through the scanner: blanks and comments
(`finish_foldl_skipBlanks`), words (`scanFrom_wordAt`) and literals. What literals have in
common is said once, of the states the scanner is in while it reads one (`ReadsLiteral`).
-/

namespace SexprQuery

open Scanner

namespace Unread

/-! ## Blanks and comments -/

/-- The line break at the end of a comment is read like any other. -/
theorem finish_foldl_skipBlanks (kind : TextKind) (inComment : Bool) (line : Nat)
    (cs : List Char) :
    (cs.foldl (step kind) ⟨line, [], if inComment then .comment else .between⟩).finish =
      scanFrom kind (skipBlanks inComment line cs).line (skipBlanks inComment line cs).chars := by
  fun_induction skipBlanks inComment line cs with
  | case1 inComment => cases inComment <;> rfl
  | case2 line cs ih => exact ih
  | case3 line c cs hbreak ih =>
    have hstep : step kind ⟨line, [], .comment⟩ c = ⟨line, [], .comment⟩ := by
      rw [step_of_ne hbreak]
      exact if_neg hbreak
    rw [if_pos rfl, List.foldl_cons, hstep]
    exact ih
  | case4 inComment line c cs hcomment hblank ih =>
    have hstep : step kind ⟨line, [], .between⟩ c = ⟨lineBehind line c, [], .between⟩ :=
      step_eq (if_pos hblank)
    rw [if_neg hcomment, List.foldl_cons, hstep]
    exact ih
  | case5 inComment line cs hcomment hblank ih =>
    rw [if_neg hcomment]
    exact ih
  | case6 inComment line c cs hcomment hblank hsign =>
    rw [if_neg hcomment]
    rfl

/-- No blank and no comment is left in front. -/
theorem head_skipBlanks {inComment : Bool} {line line' : Nat} {c : Char} {cs cs' : List Char}
    (h : skipBlanks inComment line cs = ⟨line', c :: cs'⟩) : isBlank c = false ∧ c ≠ ';' := by
  fun_induction skipBlanks inComment line cs with
  | case1 => cases h
  | case2 line ds ih => exact ih h
  | case3 line d ds hbreak ih => exact ih h
  | case4 inComment line d ds hcomment hblank ih => exact ih h
  | case5 inComment line ds hcomment hblank ih => exact ih h
  | case6 inComment line d ds hcomment hblank hsign =>
    cases h
    exact ⟨Bool.not_eq_true _ ▸ hblank, hsign⟩

/-! ## Literals -/

/-- The tokens of a text whose first token is known. -/
def scanBehind (kind : TextKind) (r : Except LexError (Token × Unread)) :
    Except LexError (List Token) :=
  r.bind fun (t, rest) => (scanFrom kind rest.line rest.chars).map (t :: ·)

/-- The scanner reads a literal that was opened on line `l`: `scan` is what it is in the
middle of, behind a backslash or not. -/
structure ReadsLiteral (kind : TextKind) (close : Char) (pair : Char → List Char)
    (lexeme : String → Lexeme) (unterminated : Nat → LexError) (l : Nat)
    (scan : Bool → List Char → Scan) : Prop where
  ends : ∀ line seen, step kind ⟨line, [], scan false seen⟩ close =
    ⟨line, [⟨lexeme (collected seen), l⟩], .between⟩
  escapes : close ≠ '\\' → ∀ line seen,
    step kind ⟨line, [], scan false seen⟩ '\\' = ⟨line, [], scan true seen⟩
  takes : ∀ c, c ≠ close → c ≠ '\\' → ∀ line seen,
    step kind ⟨line, [], scan false seen⟩ c = ⟨lineBehind line c, [], scan false (c :: seen)⟩
  resolves : ∀ c line seen, step kind ⟨line, [], scan true seen⟩ c =
    ⟨lineBehind line c, [], scan false ((pair c).reverse ++ seen)⟩
  fails : ∀ escaped line seen, finish ⟨line, [], scan escaped seen⟩ = .error (unterminated l)

variable {kind : TextKind} {close : Char} {pair : Char → List Char} {lexeme : String → Lexeme}
  {unterminated : Nat → LexError} {l : Nat} {scan : Bool → List Char → Scan}

/-- What has been seen of a literal stands in front of what is still to come. -/
theorem ReadsLiteral.finish_foldl (h : ReadsLiteral kind close pair lexeme unterminated l scan)
    (line : Nat) (cs seen : List Char) :
    (cs.foldl (step kind) ⟨line, [], scan false seen⟩).finish =
      scanBehind kind
        (literal lexeme unterminated l (inFront seen.reverse (literal? close pair line cs))) := by
  fun_induction literal? close pair line cs generalizing seen with
  | case1 line => exact h.fails false line seen
  | case2 line cs =>
    rw [List.foldl_cons, h.ends, finish_foldl_withTokens]
    simp [literal, scanBehind, scanFrom, Except.bind, collected]
  | case3 line hclose =>
    rw [List.foldl_cons, h.escapes (Ne.symm hclose)]
    exact h.fails true line seen
  | case4 line d ds hclose ih =>
    rw [List.foldl_cons, List.foldl_cons, h.escapes (Ne.symm hclose), h.resolves, ih,
      List.reverse_append, List.reverse_reverse, inFront_append]
  | case5 line c cs hclose hback ih =>
    rw [List.foldl_cons, h.takes c hclose hback, ih, List.reverse_cons, inFront_append]

/-- A literal from the delimiter that opens it. -/
theorem ReadsLiteral.scanFrom_eq (h : ReadsLiteral kind close pair lexeme unterminated l scan)
    (cs : List Char) :
    (cs.foldl (step kind) ⟨l, [], scan false []⟩).finish =
      scanBehind kind (literal lexeme unterminated l (literal? close pair l cs)) := by
  rw [h.finish_foldl, List.reverse_nil, inFront_nil]

theorem readsLiteral_quoted (kind : TextKind) (symbol : Bool) (l : Nat) :
    ReadsLiteral kind '"' (fun c => [unescape c]) (if symbol then .sym else .str)
      .unterminatedString l (.quoted symbol · l ·) where
  ends line seen := by cases symbol <;> rfl
  escapes _ _ _ := rfl
  takes c hclose hback line seen := step_eq ((if_neg hclose).trans (if_neg hback))
  resolves c line seen := step_eq rfl
  fails escaped line seen := rfl

theorem readsLiteral_regex (l : Nat) :
    ReadsLiteral .pattern '/' (fun c => if c = '/' then ['/'] else ['\\', c]) .regex
      .unterminatedRegex l (.regex · l ·) where
  ends _ _ := rfl
  escapes _ _ _ := rfl
  takes c hclose hback line seen := step_eq ((if_neg hclose).trans (if_neg hback))
  resolves c line seen := by
    refine (step_eq rfl).trans ?_
    by_cases hc : c = '/' <;> simp [hc, lineBehind]
  fails _ _ _ := rfl

/-! ## Tokens -/

theorem scanFrom_wordAt {kind : TextKind} {c : Char} (hc : endsWord c = false)
    (hslash : kind = .pattern → c ≠ '/') (line : Nat) {cs : List Char}
    (hquote : c = '#' → cs.head? ≠ some '"') :
    scanFrom kind line (c :: cs) =
      (scanFrom kind line (cs.dropWhile (!endsWord ·))).map
        (⟨.word (String.ofList (c :: cs.takeWhile (!endsWord ·))), line⟩ :: ·) := by
  have hword : IsWord kind (c :: cs.takeWhile (!endsWord ·)) := by
    refine ⟨List.cons_ne_nil _ _, ?_, ?_⟩
    · intro d hd
      rcases List.mem_cons.mp hd with rfl | hd
      · exact hc
      · simpa using List.all_eq_true.mp List.all_takeWhile d hd
    · intro hkind hhead
      exact hslash hkind (Option.some.inj hhead)
  have hends : ∀ d ∈ (cs.dropWhile (!endsWord ·)).head?,
      endsWord d = true ∧ (c :: cs.takeWhile (!endsWord ·) = ['#'] → d ≠ '"') := by
    intro d hd
    refine ⟨?_, ?_⟩
    · have hnot := List.head?_dropWhile_not (!endsWord ·) cs
      rw [hd] at hnot
      simpa using hnot
    · rintro hlone rfl
      -- nothing was taken behind the `#`, so the quote stands right behind it
      obtain ⟨rfl, hnone⟩ := List.cons.inj hlone
      refine hquote rfl ?_
      rw [← List.takeWhile_append_dropWhile (p := (!endsWord ·)) (l := cs), hnone]
      exact hd
  have hscan := scanFrom_word_append hword line hends
  rwa [List.cons_append, List.takeWhile_append_dropWhile] at hscan

/-- The delimiters are the brackets, the quote and the comment sign. -/
theorem isDelimiter_eq_false {c : Char} (hbracket : bracket? c = none) (hquote : c ≠ '"')
    (hcomment : c ≠ ';') : isDelimiter c = false := by
  have hne (d : Char) (hd : bracket? d ≠ none) : c ≠ d := by
    rintro rfl
    exact hd hbracket
  simp [isDelimiter, hne '(' nofun, hne ')' nofun, hne '[' nofun, hne ']' nofun, hquote, hcomment]

theorem scanFrom_tokenAt (kind : TextKind) (line : Nat) {c : Char} (cs : List Char)
    (hblank : isBlank c = false) (hcomment : c ≠ ';') :
    scanFrom kind line (c :: cs) = scanBehind kind (tokenAt kind line c cs) := by
  unfold tokenAt
  split
  · next x hx => exact scanFrom_bracket hx kind line cs
  next hbracket =>
  split
  · next hquote =>
    subst hquote
    exact (readsLiteral_quoted kind false line).scanFrom_eq cs
  next hquote =>
  split
  · next hsymbol =>
    obtain ⟨rfl, hhead⟩ := hsymbol
    obtain ⟨ds, rfl⟩ := List.head?_eq_some_iff.mp hhead
    exact (readsLiteral_quoted kind true line).scanFrom_eq ds
  next hsymbol =>
  split
  · next hslash =>
    obtain ⟨rfl, rfl⟩ := hslash
    exact (readsLiteral_regex line).scanFrom_eq cs
  next hslash =>
  have hdelimiter := isDelimiter_eq_false hbracket hquote hcomment
  refine scanFrom_wordAt ?_ ?_ line ?_
  · rw [endsWord, hblank, hdelimiter]
    rfl
  · intro hkind hc
    exact hslash ⟨hc, hkind⟩
  · intro hc hhead
    exact hsymbol ⟨hc, hhead⟩

/-- The first token of a text is the first that the scanner finds, and the scanner finds the
others in what is left. -/
theorem scanFrom_eq_next? (kind : TextKind) (u : Unread) :
    scanFrom kind u.line u.chars =
      (u.next? kind).bind fun
        | none => .ok []
        | some (t, rest) => (scanFrom kind rest.line rest.chars).map (t :: ·) := by
  have hskip := finish_foldl_skipBlanks kind false u.line u.chars
  unfold next?
  split
  · next heq =>
    rw [heq] at hskip
    exact hskip
  · next line c cs heq =>
    obtain ⟨hblank, hcomment⟩ := head_skipBlanks heq
    rw [heq] at hskip
    refine hskip.trans ((scanFrom_tokenAt kind line cs hblank hcomment).trans ?_)
    cases tokenAt kind line c cs <;> rfl

/-- **One token at a time.** The scanner as a fold over the characters finds the tokens that
are taken from the front. -/
theorem tokens_eq_scanFrom (kind : TextKind) (u : Unread) :
    u.tokens kind = scanFrom kind u.line u.chars := by
  fun_induction tokens kind u with
  | case1 u e h => rw [scanFrom_eq_next?, h]; rfl
  | case2 u h => rw [scanFrom_eq_next?, h]; rfl
  | case3 u t rest h ih => rw [scanFrom_eq_next?, h, ih]; rfl

theorem tokenize_eq_tokens (kind : TextKind) (cs : List Char) :
    tokenize kind cs = (Unread.mk 1 cs).tokens kind := (tokens_eq_scanFrom kind ⟨1, cs⟩).symm

end Unread
end SexprQuery
