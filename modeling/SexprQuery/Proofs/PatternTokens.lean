import SexprQuery.Proofs.DataTokens

/-!
# Written patterns as tokens

`Pattern.lexemes` lists the tokens of a pattern as text, and `spells_sourceChars` says
that the scanner finds just these, on whatever line the text starts. A regular
expression may hold line breaks, so the lines of the tokens depend on what stands
before them, and `Spells` leaves them open.

A regular expression that ends in a backslash would take the slash behind it in, so
`Pattern.isClosed` asks for others. More is asked of a pattern that text can hold as it
is: `Pattern.isWritable` wants finite numbers, gaps that are integers of 64 bits from 1
on, and regular expressions whose slashes can be told from the ones around them.
-/

namespace SexprQuery

namespace Pattern

mutual
/-- True for the patterns that pattern text can hold: their numbers are finite, their
gaps are integers of 64 bits from 1 on, and their regular expressions hold no slash
behind a backslash and do not end in one. -/
def isWritable : Pattern → Bool
  | .tagged tag => tag.isFinite
  | .text re => !escapesSlash false re.source.toList && !escapedAfter false re.source.toList
  | .includes inner => inner.isWritable
  | .within inner => inner.isWritable
  | .sibling subject follower gap =>
    subject.isWritable && follower.isWritable && decide (1 ≤ gap ∧ (gap : Int) ≤ Int64.maxValue.toInt)
  | .not inner => inner.isWritable
  | .any options => listWritable options
  | .all required => listWritable required
  | .shape elements => listWritable elements
  | .equals value => value.isFinite
  | _ => true
termination_by structural p => p

/-- The same for a list of patterns. -/
def listWritable : List Pattern → Bool
  | [] => true
  | p :: ps => p.isWritable && listWritable ps
termination_by structural ps => ps
end

mutual
/-- True for the patterns whose regular expressions do not end in a backslash that
escapes what stands behind it. -/
def isClosed : Pattern → Bool
  | .text re => !escapedAfter false re.source.toList
  | .includes inner => inner.isClosed
  | .within inner => inner.isClosed
  | .sibling subject follower _ => subject.isClosed && follower.isClosed
  | .not inner => inner.isClosed
  | .any options => listClosed options
  | .all required => listClosed required
  | .shape elements => listClosed elements
  | _ => true
termination_by structural p => p

/-- The same for a list of patterns. -/
def listClosed : List Pattern → Bool
  | [] => true
  | p :: ps => p.isClosed && listClosed ps
termination_by structural ps => ps
end

mutual
theorem isClosed_of_isWritable (p : Pattern) (h : p.isWritable = true) : p.isClosed = true := by
  cases p with
  | text re =>
    rw [isWritable, Bool.and_eq_true] at h
    exact h.2
  | includes inner => exact isClosed_of_isWritable inner h
  | within inner => exact isClosed_of_isWritable inner h
  | not inner => exact isClosed_of_isWritable inner h
  | sibling subject follower gap =>
    rw [isWritable, Bool.and_eq_true, Bool.and_eq_true] at h
    rw [isClosed, isClosed_of_isWritable subject h.1.1, isClosed_of_isWritable follower h.1.2]
    rfl
  | any options => exact listClosed_of_listWritable options h
  | all required => exact listClosed_of_listWritable required h
  | shape elements => exact listClosed_of_listWritable elements h
  | _ => rfl
termination_by structural p

theorem listClosed_of_listWritable (ps : List Pattern) (h : listWritable ps = true) :
    listClosed ps = true := by
  cases ps with
  | nil => rfl
  | cons p ps =>
    rw [listWritable, Bool.and_eq_true] at h
    rw [listClosed, isClosed_of_isWritable p h.1, listClosed_of_listWritable ps h.2]
    rfl
termination_by structural ps
end

/-! ## Tokens -/

/-- The tokens of a command. -/
def commandLexemes (name : String) (arguments : List Lexeme) : List Lexeme :=
  .openBracket :: .word name :: (arguments ++ [.closeBracket])

/-- The tokens of the third argument of `>>`, which is left out where it is 1. -/
def gapLexemes (gap : Nat) : List Lexeme :=
  if gap = 1 then [] else [.word (Decimal.text gap)]

mutual
/-- The tokens of a pattern as text. -/
def lexemes : Pattern → List Lexeme
  | .wild => [.word "_"]
  | .remaining => [.word "___"]
  | .atom => commandLexemes "atom" []
  | .tagged tag => commandLexemes "t" (tag.lexemes isBareLiteral)
  | .text re => commandLexemes "m" [.regex (String.ofList (regexText false re.source.toList))]
  | .includes inner => commandLexemes "include" inner.lexemes
  | .within inner => commandLexemes "child" inner.lexemes
  | .sibling subject follower gap =>
    commandLexemes ">>" (subject.lexemes ++ (follower.lexemes ++ gapLexemes gap))
  | .not inner => commandLexemes "not?" inner.lexemes
  | .any options => commandLexemes "any" (listLexemes options)
  | .all required => commandLexemes "all" (listLexemes required)
  | .shape elements => .opening :: (listLexemes elements ++ [.closing])
  | .equals value => value.lexemes isBareLiteral
termination_by structural p => p

/-- The tokens of patterns one behind the other. -/
def listLexemes : List Pattern → List Lexeme
  | [] => []
  | p :: ps => p.lexemes ++ listLexemes ps
termination_by structural ps => ps
end

end Pattern

/-! ## From text to tokens -/

/-- Pattern text in which the scanner finds these tokens, on whatever line it starts and
whatever stands behind it that ends a word. -/
def Spells (cs : List Char) (xs : List Lexeme) : Prop :=
  ∀ line, ∃ ts line', ts.map Token.lexeme = xs ∧ ∀ rest, Breaks rest →
    scanFrom .pattern line (cs ++ rest) = (scanFrom .pattern line' rest).map (ts ++ ·)

namespace Spells

theorem nil : Spells [] [] := by
  intro line
  refine ⟨[], line, rfl, fun rest _ => ?_⟩
  cases h : scanFrom .pattern line rest <;> simp [h, Except.map]

theorem append {as bs : List Char} {xs ys : List Lexeme} (ha : Spells as xs) (hb : Spells bs ys)
    (hbreaks : ∀ rest, Breaks rest → Breaks (bs ++ rest)) : Spells (as ++ bs) (xs ++ ys) := by
  intro line
  obtain ⟨ts, line', rfl, hts⟩ := ha line
  obtain ⟨us, line'', rfl, hus⟩ := hb line'
  refine ⟨ts ++ us, line'', List.map_append, fun rest hrest => ?_⟩
  rw [List.append_assoc, hts _ (hbreaks rest hrest), hus rest hrest, map_append_scan]

theorem space {cs : List Char} {xs : List Lexeme} (h : Spells cs xs) : Spells (' ' :: cs) xs := by
  intro line
  obtain ⟨ts, line', hts, hscan⟩ := h line
  exact ⟨ts, line', hts, fun rest hrest => (scanFrom_space _ _ _).trans (hscan rest hrest)⟩

theorem bracket {c : Char} {x : Lexeme} (hc : bracket? c = some x) {cs : List Char}
    {xs : List Lexeme} (h : Spells cs xs) : Spells (c :: cs) (x :: xs) := by
  intro line
  obtain ⟨ts, line', rfl, hscan⟩ := h line
  refine ⟨⟨x, line⟩ :: ts, line', rfl, fun rest hrest => ?_⟩
  rw [List.cons_append, scanFrom_bracket hc, hscan rest hrest]
  exact map_append_scan [⟨x, line⟩] ts _

theorem closing : Spells [')'] [.closing] := nil.bracket rfl

theorem closeBracket : Spells [']'] [.closeBracket] := nil.bracket rfl

theorem word {w : String} (h : IsWord .pattern w.toList) : Spells w.toList [.word w] := by
  intro line
  refine ⟨[⟨.word w, line⟩], line, rfl, fun rest hrest => ?_⟩
  have hscan := scanFrom_word h line hrest
  rw [String.ofList_toList] at hscan
  exact hscan

theorem datum (d : Datum) : Spells d.literalChars (d.lexemes isBareLiteral) := by
  intro line
  refine ⟨onLine line (d.lexemes isBareLiteral), line, ?_, fun rest hrest => ?_⟩
  · exact map_lexeme_onLine line _
  · rw [← Datum.writtenChars_isBareLiteral]
    exact scanFrom_writtenChars isWordChoice_isBareLiteral line d hrest

theorem regex {cs : List Char} (h : escapedAfter false cs = false) :
    Spells ('/' :: escapeSlashes false cs ++ ['/'])
      [.regex (String.ofList (regexText false cs))] := by
  intro line
  refine ⟨[⟨_, line⟩], line + cs.count '\n', rfl, fun rest _ => ?_⟩
  rw [List.append_assoc]
  exact scanFrom_regex h line rest

/-- A command is its name and whatever its arguments spell behind it. -/
theorem command {name : String} (hname : IsWord .pattern name.toList) {cs : List Char}
    {xs : List Lexeme} (h : Spells cs (xs ++ [.closeBracket]))
    (hbreaks : ∀ rest, Breaks rest → Breaks (cs ++ rest)) :
    Spells (Pattern.commandStart name ++ cs) (Pattern.commandLexemes name xs) :=
  ((word hname).append h hbreaks).bracket rfl

/-- A command with one argument. -/
theorem command₁ {name : String} (hname : IsWord .pattern name.toList) {cs : List Char}
    {xs : List Lexeme} (h : Spells cs xs) :
    Spells (Pattern.commandStart name ++ ' ' :: cs ++ [']']) (Pattern.commandLexemes name xs) := by
  have hargument : Spells (' ' :: (cs ++ [']'])) (xs ++ [.closeBracket]) :=
    (h.append closeBracket fun rest _ => breaks_closeBracket rest).space
  rw [List.append_assoc]
  exact command hname hargument fun rest _ => breaks_space _

end Spells

namespace Pattern

theorem breaks_sourceArgs (ps : List Pattern) (rest : List Char) :
    Breaks (sourceArgs ps ++ rest) := by
  cases ps with
  | nil => exact breaks_closeBracket rest
  | cons p ps => exact breaks_space _

theorem breaks_sourceMore (ps : List Pattern) (rest : List Char) :
    Breaks (sourceMore ps ++ rest) := by
  cases ps with
  | nil => exact breaks_closing rest
  | cons p ps => exact breaks_space _

/-- The end of a `>>` command: its gap, if that is written, and the bracket. -/
theorem spells_gap (gap : Nat) :
    Spells ((if gap = 1 then [] else ' ' :: Decimal.digits gap) ++ [']'])
      (gapLexemes gap ++ [.closeBracket]) := by
  rw [gapLexemes]
  by_cases h : gap = 1
  · rw [if_pos h, if_pos h]
    exact Spells.closeBracket
  · have hdigits : IsWord .pattern (Decimal.text gap).toList := by
      rw [Decimal.text, String.toList_ofList]
      exact isWord_of_wordChars .pattern (Decimal.digits_ne_nil gap) fun c hc =>
        isWordChar_of_mem_digits hc
    have hword := Spells.word hdigits
    rw [Decimal.text, String.toList_ofList] at hword
    rw [if_neg h, if_neg h]
    exact (hword.append Spells.closeBracket fun rest _ => breaks_closeBracket rest).space

theorem breaks_gap (gap : Nat) (rest : List Char) :
    Breaks ((if gap = 1 then [] else ' ' :: Decimal.digits gap) ++ [']'] ++ rest) := by
  by_cases h : gap = 1
  · rw [if_pos h]
    exact breaks_closeBracket rest
  · rw [if_neg h]
    exact breaks_space _

mutual
/-- The scanner finds the tokens of a written pattern. -/
theorem spells_sourceChars (p : Pattern) (h : p.isClosed = true) :
    Spells p.sourceChars p.lexemes := by
  cases p with
  | wild => exact Spells.word (isWord_of_all .pattern (by decide))
  | remaining => exact Spells.word (isWord_of_all .pattern (by decide))
  | atom =>
    exact Spells.command (isWord_of_all .pattern (by decide)) Spells.closeBracket fun rest _ =>
      breaks_closeBracket rest
  | tagged tag => exact Spells.command₁ (isWord_of_all .pattern (by decide)) (Spells.datum tag)
  | text re =>
    rw [isClosed, Bool.not_eq_true'] at h
    have hname : IsWord .pattern "m".toList := isWord_of_all .pattern (by decide)
    have hregex := Spells.command₁ hname (Spells.regex h)
    rw [sourceChars, lexemes]
    simpa only [List.cons_append, List.append_assoc, List.nil_append] using hregex
  | includes inner =>
    exact Spells.command₁ (isWord_of_all .pattern (by decide)) (spells_sourceChars inner h)
  | within inner =>
    exact Spells.command₁ (isWord_of_all .pattern (by decide)) (spells_sourceChars inner h)
  | not inner =>
    exact Spells.command₁ (isWord_of_all .pattern (by decide)) (spells_sourceChars inner h)
  | sibling subject follower gap =>
    rw [isClosed, Bool.and_eq_true] at h
    have hsubject := spells_sourceChars subject h.1
    have hfollower := spells_sourceChars follower h.2
    -- from the back: the gap and the bracket, the follower in front of them, the subject
    have htail := (hfollower.append (spells_gap gap) fun rest _ => breaks_gap gap rest).space
    have harguments := (hsubject.append htail fun _ _ => breaks_space _).space
    have hsplit : subject.lexemes ++ (follower.lexemes ++ (gapLexemes gap ++ [.closeBracket])) =
        subject.lexemes ++ (follower.lexemes ++ gapLexemes gap) ++ [.closeBracket] := by
      rw [List.append_assoc, List.append_assoc]
    rw [hsplit] at harguments
    have hname : IsWord .pattern ">>".toList := isWord_of_all .pattern (by decide)
    have hcommand := Spells.command hname harguments fun _ _ => breaks_space _
    rw [sourceChars, lexemes]
    simpa only [List.cons_append, List.append_assoc] using hcommand
  | any options =>
    exact Spells.command (isWord_of_all .pattern (by decide)) (spells_sourceArgs options h) fun rest _ =>
      breaks_sourceArgs options rest
  | all required =>
    exact Spells.command (isWord_of_all .pattern (by decide)) (spells_sourceArgs required h) fun rest _ =>
      breaks_sourceArgs required rest
  | shape elements => exact (spells_sourceElements elements h).bracket rfl
  | equals value => exact Spells.datum value
termination_by structural p

theorem spells_sourceArgs (ps : List Pattern) (h : listClosed ps = true) :
    Spells (sourceArgs ps) (listLexemes ps ++ [.closeBracket]) := by
  cases ps with
  | nil => exact Spells.closeBracket
  | cons p ps =>
    rw [listClosed, Bool.and_eq_true] at h
    rw [sourceArgs, listLexemes, List.append_assoc]
    exact ((spells_sourceChars p h.1).append (spells_sourceArgs ps h.2) fun rest _ =>
      breaks_sourceArgs ps rest).space
termination_by structural ps

theorem spells_sourceElements (ps : List Pattern) (h : listClosed ps = true) :
    Spells (sourceElements ps) (listLexemes ps ++ [.closing]) := by
  cases ps with
  | nil => exact Spells.closing
  | cons p ps =>
    rw [listClosed, Bool.and_eq_true] at h
    rw [sourceElements, listLexemes, List.append_assoc]
    exact (spells_sourceChars p h.1).append (spells_sourceMore ps h.2) fun rest _ =>
      breaks_sourceMore ps rest
termination_by structural ps

theorem spells_sourceMore (ps : List Pattern) (h : listClosed ps = true) :
    Spells (sourceMore ps) (listLexemes ps ++ [.closing]) := by
  cases ps with
  | nil => exact Spells.closing
  | cons p ps =>
    rw [listClosed, Bool.and_eq_true] at h
    rw [sourceMore, listLexemes, List.append_assoc]
    exact ((spells_sourceChars p h.1).append (spells_sourceMore ps h.2) fun rest _ =>
      breaks_sourceMore ps rest).space
termination_by structural ps
end

/-- Pattern text is scanned as the tokens of its pattern. -/
theorem exists_tokenize_source (p : Pattern) (h : p.isClosed = true) :
    ∃ ts, tokenize .pattern p.source.toList = .ok ts ∧ ts.map Token.lexeme = p.lexemes := by
  obtain ⟨ts, line, hts, hscan⟩ := spells_sourceChars p h 1
  have hall := hscan [] breaks_nil
  rw [List.append_nil] at hall
  refine ⟨ts, ?_, hts⟩
  rw [source, String.toList_ofList, tokenize_eq_scanFrom, hall]
  exact congrArg Except.ok (List.append_nil ts)

end Pattern
end SexprQuery
