import SexprQuery.Proofs.Concatenation
import SexprQuery.Proofs.DataReading

/-!
# Places in a text

What a place in a text is inside of is told by the characters in front of it, without
tokens (`Region.behind`). A parenthesis opens a list exactly where neither a comment nor a
literal is open (`openingPlaces`), and what keeps a text from being scanned is a literal that
no delimiter ends (`Unterminated`), of which there is one at most.

All that one character can do to the scanner is listed by its place (`Scanner.Takes`). From
the front of a text, character by character, this tells what the scanner is in the middle of
(`region_scanned`), the lists it has opened (`openings_scanned`) and the literal that is open
(`exists_of_unfinished`). So tokens stand on the lines of their first characters:
`openingLines_of_tokenize`, `tokenize_eq_error_iff`.
-/

namespace SexprQuery

/-! ## Regions -/

/-- What a place in a text is inside of. -/
inductive Region where
  | between
  | comment
  | word
  /-- A literal, with the delimiter that ends it; `escaped` behind a backslash. -/
  | literal (delimiter : Char) (escaped : Bool)
deriving DecidableEq

namespace Region

/-- Behind a character that no comment, literal or word takes in. -/
def enter (kind : TextKind) (c : Char) : Region :=
  if c = ';' then .comment
  else if c = '"' ∨ (c = '/' ∧ kind = .pattern) then .literal c false
  else if endsWord c then .between
  else .word

/-- Behind one more character. -/
def step (kind : TextKind) (r : Region) (c : Char) : Region :=
  match r with
  | .between => enter kind c
  | .word => if endsWord c then enter kind c else .word
  | .comment => if c = '\n' then .between else .comment
  | .literal delimiter false => if c = delimiter then .between else .literal delimiter (c = '\\')
  | .literal delimiter true => .literal delimiter false

/-- Behind a text. -/
def behind (kind : TextKind) (cs : List Char) : Region := cs.foldl (step kind) .between

/-- Neither in a comment nor in a literal. -/
def isBare : Region → Bool
  | .between | .word => true
  | _ => false

/-- A character opens a literal here: a quote where no comment and no literal is open, and in
a pattern a slash in front of which no word is open either. -/
def Opens (kind : TextKind) (r : Region) (c : Char) : Prop :=
  (c = '"' ∧ r.isBare = true) ∨ (c = '/' ∧ kind = .pattern ∧ r = .between)

theorem behind_append (kind : TextKind) (u v : List Char) :
    behind kind (u ++ v) = v.foldl (step kind) (behind kind u) := List.foldl_append

theorem behind_append_singleton (kind : TextKind) (cs : List Char) (c : Char) :
    behind kind (cs ++ [c]) = (behind kind cs).step kind c := behind_append kind cs [c]

theorem Opens.step {kind : TextKind} {r : Region} {c : Char} (h : r.Opens kind c) :
    r.step kind c = .literal c false := by
  rcases h with ⟨rfl, hbare⟩ | ⟨rfl, rfl, rfl⟩
  · cases r <;> first | rfl | cases hbare
  · rfl

theorem isBare_of_word {r : Region} {p : Prop} (h : r = .between ∨ r = .word ∧ p) :
    r.isBare = true := by
  rcases h with rfl | ⟨rfl, -⟩ <;> rfl

theorem not_opens_literal (kind : TextKind) (delimiter : Char) (escaped : Bool) (c : Char) :
    ¬ (Region.literal delimiter escaped).Opens kind c := by
  rintro (⟨-, hbare⟩ | ⟨-, -, hbetween⟩)
  · cases hbare
  · cases hbetween

/-- Inside of a literal in which every delimiter is escaped. -/
theorem foldl_step_literal (kind : TextKind) {c : Char} {escaped : Bool} {inside : List Char}
    (h : ∀ u v, inside = u ++ c :: v → escapedAfter escaped u = true) :
    inside.foldl (step kind) (.literal c escaped) = .literal c (escapedAfter escaped inside) := by
  induction inside generalizing escaped with
  | nil => rfl
  | cons d inside ih =>
    have hrest : ∀ u v, inside = u ++ c :: v →
        escapedAfter (d = '\\' && !escaped) u = true := by
      rintro u v rfl
      exact h (d :: u) v rfl
    have hstep : (Region.literal c escaped).step kind d = .literal c (d = '\\' && !escaped) := by
      cases escaped with
      | true => simp [step]
      | false =>
        -- the delimiter is not in front, where nothing escapes it
        have hne : d ≠ c := by
          rintro rfl
          cases h [] inside rfl
        simp [step, hne]
    rw [List.foldl_cons, hstep, ih hrest]
    rfl

end Region

/-! ### Opening parentheses -/

/-- The line that a place in a text is on. -/
def lineAt (cs : List Char) (i : Nat) : Nat := 1 + (cs.take i).count '\n'

/-- The places of the parentheses that open lists, which are those outside of comments and
literals. -/
def openingPlaces (kind : TextKind) (cs : List Char) : List Nat :=
  (List.range cs.length).filter fun i =>
    cs[i]? = some '(' ∧ (Region.behind kind (cs.take i)).isBare

/-- The lines that lists are opened on. -/
def linesOfOpenings (kind : TextKind) (cs : List Char) : List Nat :=
  (openingPlaces kind cs).map (lineAt cs)

theorem openingPlaces_append_singleton (kind : TextKind) (cs : List Char) (c : Char) :
    openingPlaces kind (cs ++ [c]) = openingPlaces kind cs ++
      if c = '(' ∧ (Region.behind kind cs).isBare then [cs.length] else [] := by
  have hbefore : ∀ i ∈ List.range cs.length,
      (decide ((cs ++ [c])[i]? = some '(' ∧
          (Region.behind kind ((cs ++ [c]).take i)).isBare = true)) =
        decide (cs[i]? = some '(' ∧ (Region.behind kind (cs.take i)).isBare = true) := by
    intro i hi
    have hlt := List.mem_range.mp hi
    rw [List.getElem?_append_left hlt, List.take_append_of_le_length hlt.le]
  rw [openingPlaces, List.length_append, List.length_singleton, List.range_succ,
    List.filter_append, List.filter_congr hbefore]
  congr 1
  simp [List.filter_singleton, Bool.cond_eq_ite]

theorem linesOfOpenings_append_singleton (kind : TextKind) (cs : List Char) (c : Char) :
    linesOfOpenings kind (cs ++ [c]) = linesOfOpenings kind cs ++
      if c = '(' ∧ (Region.behind kind cs).isBare then [1 + cs.count '\n'] else [] := by
  have hbefore : ∀ i ∈ openingPlaces kind cs, lineAt (cs ++ [c]) i = lineAt cs i := by
    intro i hi
    have hlt := List.mem_range.mp (List.mem_of_mem_filter hi)
    rw [lineAt, lineAt, List.take_append_of_le_length hlt.le]
  rw [linesOfOpenings, openingPlaces_append_singleton, List.map_append,
    List.map_congr_left hbefore]
  congr 1
  split
  · simp [lineAt]
  · rfl

theorem lineAt_le_lineAt (cs : List Char) {i j : Nat} (h : i ≤ j) : lineAt cs i ≤ lineAt cs j := by
  have hprefix : cs.take i <+: cs.take j := List.take_prefix_take_left h
  have := hprefix.sublist.count_le '\n'
  rw [lineAt, lineAt]
  omega

/-- From one opening parenthesis to the next the line does not decrease. -/
theorem linesOfOpenings_pairwise (kind : TextKind) (cs : List Char) :
    (linesOfOpenings kind cs).Pairwise (· ≤ ·) := by
  rw [linesOfOpenings, List.pairwise_map]
  refine (List.pairwise_lt_range.filter _).imp ?_
  intro i j hij
  exact lineAt_le_lineAt cs hij.le

/-! ### Literals without an end -/

/-- A text with a literal that no delimiter ends: the text in front of the literal, the
delimiter that opens it, and what is inside. -/
structure Unterminated (kind : TextKind) (cs before : List Char) (c : Char) (inside : List Char) :
    Prop where
  split : cs = before ++ c :: inside
  opens : (Region.behind kind before).Opens kind c
  endless : ∀ u v, inside = u ++ c :: v → escapedAfter false u = true

namespace Unterminated

section
variable {kind : TextKind} {cs before inside before' inside' : List Char} {c c' : Char}

theorem behind_eq (h : Unterminated kind cs before c inside) :
    Region.behind kind cs = .literal c (escapedAfter false inside) := by
  rw [h.split, Region.behind_append, List.foldl_cons, h.opens.step]
  exact Region.foldl_step_literal kind h.endless

/-- The literal stays open behind a character that is not its delimiter, or escaped. -/
theorem append_singleton (h : Unterminated kind cs before c inside) {d : Char}
    (hd : d = c → Region.behind kind cs = .literal c true) :
    Unterminated kind (cs ++ [d]) before c (inside ++ [d]) := by
  refine ⟨by rw [h.split, List.append_assoc]; rfl, h.opens, ?_⟩
  intro u v hsplit
  rcases eq_or_exists_between hsplit with ⟨rfl, hdc, -⟩ | ⟨mid, -, hmid⟩ | ⟨mid, hinside, -⟩
  · have hregion := hd hdc
    rw [h.behind_eq] at hregion
    exact (Region.literal.inj hregion).2
  · cases mid <;> cases hmid
  · exact h.endless u mid hinside

/-- A literal without an end is the last one of its text. -/
theorem not_between (h : Unterminated kind cs before c inside) {mid : List Char}
    (hinside : inside = mid ++ c' :: inside')
    (hopens : (Region.behind kind (before ++ c :: mid)).Opens kind c') : False := by
  have hshorter : Unterminated kind (before ++ c :: mid) before c mid := by
    refine ⟨rfl, h.opens, ?_⟩
    rintro u v rfl
    exact h.endless u (v ++ c' :: inside') (by rw [hinside, List.append_assoc]; rfl)
  rw [hshorter.behind_eq] at hopens
  exact Region.not_opens_literal kind _ _ _ hopens

/-- There is one literal without an end at most. -/
theorem before_eq (h : Unterminated kind cs before c inside)
    (h' : Unterminated kind cs before' c' inside') : before = before' := by
  rcases eq_or_exists_between (h.split.symm.trans h'.split) with
    ⟨hbefore, -, -⟩ | ⟨mid, hbefore, hinside⟩ | ⟨mid, hbefore, hinside⟩
  · exact hbefore
  · exact (h.not_between hinside (hbefore ▸ h'.opens)).elim
  · exact (h'.not_between hinside (hbefore ▸ h.opens)).elim

end

end Unterminated

/-! ## The scanner at a place -/

namespace Scan

/-- What the scanner is in the middle of, as a region. -/
def region : Scan → Region
  | .between => .between
  | .comment => .comment
  | .hash _ | .word _ _ => .word
  | .quoted _ escaped _ _ => .literal '"' escaped
  | .regex escaped _ _ => .literal '/' escaped

/-- What is wrong if the text ends here. -/
def unfinished? : Scan → Option LexError
  | .quoted _ _ line _ => some (.unterminatedString line)
  | .regex _ line _ => some (.unterminatedRegex line)
  | _ => none

end Scan

/-- The delimiter of the literal. -/
def LexError.delimiter : LexError → Char
  | .unterminatedString _ => '"'
  | .unterminatedRegex _ => '/'

theorem LexError.eq_of_delimiter_of_line {e e' : LexError} (hdelimiter : e.delimiter = e'.delimiter)
    (hline : e.line = e'.line) : e = e' := by
  cases e <;> cases e' <;> cases hdelimiter
  all_goals exact congrArg _ hline

/-- The lines of the tokens that open lists. -/
def openingLines (ts : List Token) : List Nat :=
  (ts.filter fun t => t.lexeme = .opening).map Token.line

theorem openingLines_cons (t : Token) (ts : List Token) : openingLines (t :: ts) =
    if t.lexeme = .opening then t.line :: openingLines ts else openingLines ts := by
  by_cases h : t.lexeme = .opening <;> simp [openingLines, h]

/-- An open literal is known by its delimiter. -/
theorem Scan.exists_unfinished {scan : Scan} {delimiter : Char} {escaped : Bool}
    (h : scan.region = .literal delimiter escaped) :
    ∃ e, scan.unfinished? = some e ∧ e.delimiter = delimiter := by
  cases scan <;> cases h
  · exact ⟨_, rfl, rfl⟩
  · exact ⟨_, rfl, rfl⟩

theorem Scan.exists_region_of_unfinished {scan : Scan} {e : LexError}
    (h : scan.unfinished? = some e) : ∃ escaped, scan.region = .literal e.delimiter escaped := by
  cases scan <;> cases h
  · exact ⟨_, rfl⟩
  · exact ⟨_, rfl⟩

namespace Scanner

/-! ### One character -/

section
variable {kind : TextKind} {c : Char} {s s' : Scanner}

theorem region_stepBetween (kind : TextKind) (s : Scanner) (c : Char) :
    (s.stepBetween kind c).scan.region = Region.enter kind c := by
  by_cases hblank : isBlank c = true
  · have hne : ∀ d, isBlank d = false → c ≠ d := by
      rintro d hd rfl
      rw [hblank] at hd
      cases hd
    have hends : endsWord c = true := by rw [endsWord, hblank, Bool.true_or]
    rw [stepBetween, if_pos hblank, Region.enter, if_neg (hne ';' rfl), if_neg, if_pos hends]
    · rfl
    · rintro (hquote | ⟨hslash, -⟩)
      · exact hne '"' rfl hquote
      · exact hne '/' rfl hslash
  · rw [Bool.not_eq_true] at hblank
    simp only [stepBetween, Region.enter, endsWord, hblank, isDelimiter, apply_ite Scanner.scan,
      apply_ite Scan.region, emit]
    grind [Scan.region]

theorem openingLines_stepBetween (kind : TextKind) (s : Scanner) (c : Char) :
    openingLines (s.stepBetween kind c).tokens =
      if c = '(' then s.line :: openingLines s.tokens else openingLines s.tokens := by
  by_cases hopen : c = '('
  · subst hopen
    rfl
  · simp only [stepBetween, if_neg hopen, apply_ite Scanner.tokens, apply_ite openingLines, emit,
      openingLines_cons, reduceCtorEq, if_false, ite_self]

theorem eq_of_hash_stepBetween {l : Nat} (h : (s.stepBetween kind c).scan = .hash l) :
    c = '#' ∧ l = s.line := by
  by_cases hhash : c = '#'
  · subst hhash
    cases h
    exact ⟨rfl, rfl⟩
  · simp only [stepBetween, if_neg hhash, apply_ite Scanner.scan, emit, apply_ite (· = Scan.hash l),
      reduceCtorEq, ite_self] at h

theorem unfinished_stepBetween (kind : TextKind) (s : Scanner) (c : Char) :
    (s.stepBetween kind c).scan.unfinished? =
      if c = '"' then some (.unterminatedString s.line)
      else if c = '/' ∧ kind = .pattern then some (.unterminatedRegex s.line)
      else none := by
  have hquote : isBlank '"' = false := rfl
  have hslash : isBlank '/' = false := rfl
  unfold stepBetween emit
  grind [Scan.unfinished?]

/-- What a character does to the scanner, by the place that it stands at. The line count
apart, this is all that it can do. -/
inductive Takes (kind : TextKind) (c : Char) (s : Scanner) : Scanner → Prop
  /-- No token is open in front of it, or a word that it ends. -/
  | fresh (ts : List Token) (place : s.scan.region = .between ∨
      s.scan.region = .word ∧ endsWord c = true)
    (same : openingLines ts = openingLines s.tokens) :
    Takes kind c s ({ s with tokens := ts }.stepBetween kind c)
  | inWord {l : Nat} {seen : List Char} (place : s.scan.region = .word)
    (inside : endsWord c = false) : Takes kind c s { s with scan := .word l seen }
  | quotedSymbol {l : Nat} (place : s.scan = .hash l) (quote : c = '"') :
    Takes kind c s { s with scan := .quoted true false l [] }
  | inComment (place : s.scan.region = .comment) :
    Takes kind c s { s with scan := if c = '\n' then .between else .comment }
  | endOfLiteral {lexeme : Lexeme} {l : Nat} (place : s.scan.region = .literal c false)
    (other : lexeme ≠ .opening) : Takes kind c s (s.emit lexeme l)
  | inLiteral {delimiter : Char} {escaped : Bool} {scan : Scan}
    (place : s.scan.region = .literal delimiter escaped) (inside : c = delimiter → escaped = true)
    (next : scan.region = .literal delimiter (c = '\\' && !escaped))
    (same : scan.unfinished? = s.scan.unfinished?) : Takes kind c s { s with scan := scan }

theorem takes_stepWord (hplace : s.scan.region = .word) (l : Nat) (seen : List Char) :
    Takes kind c s (s.stepWord kind l seen c) := by
  unfold stepWord
  cases hends : endsWord c with
  | false => exact .inWord hplace hends
  | true => exact .fresh (⟨.word (collected seen), l⟩ :: s.tokens) (.inr ⟨hplace, hends⟩) rfl

theorem takes_stepScan (kind : TextKind) (s : Scanner) (c : Char) :
    Takes kind c s (s.stepScan kind c) := by
  obtain ⟨line, tokens, scan⟩ := s
  cases scan with
  | between => exact .fresh tokens (.inl rfl) rfl
  | comment =>
    have hstep : stepScan kind ⟨line, tokens, .comment⟩ c =
        ⟨line, tokens, if c = '\n' then .between else .comment⟩ := by
      simp only [stepScan]
      split <;> rfl
    rw [hstep]
    exact .inComment rfl
  | hash l =>
    by_cases hquote : c = '"'
    · subst hquote
      exact .quotedSymbol rfl rfl
    · simp only [stepScan, if_neg hquote]
      exact takes_stepWord rfl l ['#']
  | word l seen => exact takes_stepWord rfl l seen
  | quoted symbol escaped l seen =>
    cases escaped with
    | true => exact .inLiteral rfl (fun _ => rfl) (by simp [Scan.region]) rfl
    | false =>
      by_cases hquote : c = '"'
      · subst hquote
        refine .endOfLiteral rfl ?_
        split <;> intro h <;> cases h
      · simp only [stepScan, if_neg hquote]
        split <;> next hback =>
          exact .inLiteral rfl (absurd · hquote) (by simp [Scan.region, hback]) rfl
  | regex escaped l seen =>
    cases escaped with
    | true => exact .inLiteral rfl (fun _ => rfl) (by simp [Scan.region]) rfl
    | false =>
      by_cases hslash : c = '/'
      · subst hslash
        refine .endOfLiteral rfl ?_
        intro h
        cases h
      · simp only [stepScan, if_neg hslash]
        split <;> next hback =>
          exact .inLiteral rfl (absurd · hslash) (by simp [Scan.region, hback]) rfl

/-- What the scanner is in the middle of follows its place. -/
theorem Takes.region (h : Takes kind c s s') :
    s'.scan.region = s.scan.region.step kind c := by
  cases h with
  | fresh ts place same =>
    rw [region_stepBetween]
    rcases place with hbetween | ⟨hword, hends⟩
    · rw [hbetween]
      rfl
    · rw [hword]
      exact (if_pos hends).symm
  | inWord place inside =>
    rw [place, Region.step, inside]
    rfl
  | quotedSymbol place quote =>
    subst quote
    rw [place]
    rfl
  | inComment place =>
    rw [place, Region.step, apply_ite Scan.region]
    rfl
  | endOfLiteral place =>
    rw [place]
    exact (if_pos rfl).symm
  | @inLiteral delimiter escaped scan place inside next =>
    rw [place, next]
    cases escaped with
    | true => simp [Region.step]
    | false => simp [Region.step, if_neg fun h => Bool.false_ne_true (inside h)]

/-- Only an opening parenthesis outside of comments and literals opens a list. -/
theorem Takes.openingLines (h : Takes kind c s s') :
    openingLines s'.tokens =
      if c = '(' ∧ s.scan.region.isBare then s.line :: openingLines s.tokens
      else openingLines s.tokens := by
  cases h with
  | fresh ts place same =>
    rw [openingLines_stepBetween, Region.isBare_of_word place, ← same]
    simp
  | inWord place inside =>
    have hne : c ≠ '(' := by
      rintro rfl
      cases inside
    rw [if_neg fun h => hne h.1]
  | quotedSymbol place quote =>
    subst quote
    rfl
  | inComment place =>
    rw [place]
    simp [Region.isBare]
  | endOfLiteral place other =>
    rw [place]
    simp [Region.isBare, emit, openingLines_cons, other]
  | inLiteral place =>
    rw [place]
    simp [Region.isBare]

/-- Behind the `#` that may open a quoted symbol the scanner is still on its line. -/
theorem Takes.eq_of_hash (h : Takes kind c s s') {l : Nat} (hhash : s'.scan = .hash l) :
    c = '#' ∧ l = s.line := by
  cases h with
  | fresh ts place same =>
    obtain ⟨hc, hl⟩ := eq_of_hash_stepBetween hhash
    exact ⟨hc, hl⟩
  | inWord => cases hhash
  | quotedSymbol => cases hhash
  | inComment =>
    simp only at hhash
    split at hhash <;> cases hhash
  | endOfLiteral => cases hhash
  | inLiteral _ _ next =>
    simp only at hhash
    rw [hhash] at next
    cases next

/-- A literal is open behind a character if it was open and is not ended, or if the character
opens it. -/
theorem Takes.unfinished (h : Takes kind c s s') {e : LexError}
    (hopen : s'.scan.unfinished? = some e) (hhash : ∀ l, s.scan = .hash l → l = s.line) :
    (s.scan.unfinished? = some e ∧ (c = e.delimiter → s.scan.region = .literal c true)) ∨
      (s.scan.region.Opens kind c ∧ e.delimiter = c ∧ e.line = s.line) := by
  cases h with
  | fresh ts place same =>
    rw [unfinished_stepBetween] at hopen
    split at hopen
    · next hquote =>
      cases hopen
      exact .inr ⟨.inl ⟨hquote, Region.isBare_of_word place⟩, hquote.symm, rfl⟩
    · split at hopen
      · next hslash =>
        cases hopen
        refine .inr ⟨.inr ⟨hslash.1, hslash.2, ?_⟩, hslash.1.symm, rfl⟩
        -- a slash ends no word, so none is open in front of it
        rcases place with hbetween | ⟨-, hends⟩
        · exact hbetween
        · rw [hslash.1] at hends
          cases hends
      · cases hopen
  | inWord => cases hopen
  | quotedSymbol place quote =>
    cases hopen
    have hregion : s.scan.region = .word := by rw [place]; rfl
    exact .inr ⟨.inl ⟨quote, by rw [hregion]; rfl⟩, quote.symm, hhash _ place⟩
  | inComment =>
    simp only at hopen
    split at hopen <;> cases hopen
  | endOfLiteral => cases hopen
  | inLiteral place inside next same =>
    have hbefore := same.symm.trans hopen
    obtain ⟨escaped, hregion⟩ := Scan.exists_region_of_unfinished hbefore
    cases place.symm.trans hregion
    refine .inl ⟨hbefore, ?_⟩
    rintro rfl
    rw [hregion, inside rfl]

end

/-! ### From the front of a text -/

/-- The scanner behind a text. -/
def scanned (kind : TextKind) (cs : List Char) : Scanner := cs.foldl (step kind) start

theorem tokenize_eq_finish (kind : TextKind) (cs : List Char) :
    tokenize kind cs = (scanned kind cs).finish := rfl

/-- Behind one more character the scanner has taken it. -/
theorem takes_scanned (kind : TextKind) (cs : List Char) (c : Char) :
    ∃ s, Takes kind c (scanned kind cs) s ∧ (scanned kind (cs ++ [c])).scan = s.scan ∧
      (scanned kind (cs ++ [c])).tokens = s.tokens := by
  have happend : scanned kind (cs ++ [c]) = step kind (scanned kind cs) c := List.foldl_append
  refine ⟨_, takes_stepScan kind (scanned kind cs) c, ?_⟩
  rw [happend, step]
  split <;> exact ⟨rfl, rfl⟩

theorem line_scanned (kind : TextKind) (cs : List Char) :
    (scanned kind cs).line = 1 + cs.count '\n' := line_foldl kind start cs

theorem region_scanned (kind : TextKind) (cs : List Char) :
    (scanned kind cs).scan.region = Region.behind kind cs := by
  induction cs using List.reverseRecOn with
  | nil => rfl
  | append_singleton cs c ih =>
    obtain ⟨s, htakes, hscan, -⟩ := takes_scanned kind cs c
    rw [hscan, htakes.region, ih, Region.behind_append_singleton]

theorem hash_scanned {kind : TextKind} {cs : List Char} {l : Nat}
    (h : (scanned kind cs).scan = .hash l) : l = (scanned kind cs).line := by
  induction cs using List.reverseRecOn with
  | nil => cases h
  | append_singleton cs c =>
    obtain ⟨s, htakes, hscan, -⟩ := takes_scanned kind cs c
    rw [hscan] at h
    -- the character is `#`, which starts no line
    obtain ⟨rfl, rfl⟩ := htakes.eq_of_hash h
    rw [line_scanned, line_scanned, List.count_append]
    rfl

theorem openings_scanned (kind : TextKind) (cs : List Char) :
    openingLines (scanned kind cs).tokens = (linesOfOpenings kind cs).reverse := by
  induction cs using List.reverseRecOn with
  | nil => rfl
  | append_singleton cs c ih =>
    obtain ⟨s, htakes, -, htokens⟩ := takes_scanned kind cs c
    rw [htokens, htakes.openingLines, region_scanned, line_scanned, ih,
      linesOfOpenings_append_singleton, List.reverse_append]
    split <;> rfl

/-- An open literal is one without an end, and the scanner knows the line it was opened on. -/
theorem exists_of_unfinished {kind : TextKind} {cs : List Char} {e : LexError}
    (h : (scanned kind cs).scan.unfinished? = some e) :
    ∃ before inside, Unterminated kind cs before e.delimiter inside ∧
      e.line = 1 + before.count '\n' := by
  induction cs using List.reverseRecOn with
  | nil => cases h
  | append_singleton cs c ih =>
    obtain ⟨s, htakes, hscan, -⟩ := takes_scanned kind cs c
    rw [hscan] at h
    rcases htakes.unfinished h fun _ => hash_scanned with
      ⟨hopen, hescaped⟩ | ⟨hopens, hdelimiter, hline⟩
    · obtain ⟨before, inside, hunterminated, hline⟩ := ih hopen
      rw [region_scanned] at hescaped
      refine ⟨before, inside ++ [c], hunterminated.append_singleton ?_, hline⟩
      rintro rfl
      exact hescaped rfl
    · rw [region_scanned] at hopens
      refine ⟨cs, [], ⟨by rw [hdelimiter], hdelimiter ▸ hopens, ?_⟩, ?_⟩
      · intro u v hinside
        cases u <;> cases hinside
      · rw [hline, line_scanned]

/-- Only in a literal can scanning fail. -/
theorem finish_eq_error_iff (s : Scanner) (e : LexError) :
    s.finish = .error e ↔ s.scan.unfinished? = some e := by
  obtain ⟨line, tokens, scan⟩ := s
  cases scan <;> simp [finish, Scan.unfinished?]

theorem openingLines_of_finish {s : Scanner} {ts : List Token} (h : s.finish = .ok ts) :
    openingLines ts = (openingLines s.tokens).reverse := by
  obtain ⟨line, tokens, scan⟩ := s
  cases scan <;> cases h <;> simp [openingLines, emit]

end Scanner

open Scanner

/-- The tokens that open lists stand on the lines of the opening parentheses. -/
theorem openingLines_of_tokenize {kind : TextKind} {cs : List Char} {ts : List Token}
    (h : tokenize kind cs = .ok ts) :
    openingLines ts = linesOfOpenings kind cs := by
  rw [openingLines_of_finish h]
  exact (congrArg List.reverse (openings_scanned kind cs)).trans (List.reverse_reverse _)

/-- Parentheses in a string, in a quoted symbol and in a comment open nothing. -/
example : linesOfOpenings .data "(a \"(\n\" ; (\n #\"(\" (b))".toList = [1, 3] := by decide

/-- A text cannot be scanned exactly if a literal in it has no end, and the line of the error
is the one of the delimiter that opens it. -/
theorem tokenize_eq_error_iff (kind : TextKind) (cs : List Char) (e : LexError) :
    tokenize kind cs = .error e ↔ ∃ before inside,
      Unterminated kind cs before e.delimiter inside ∧ e.line = 1 + before.count '\n' := by
  rw [tokenize_eq_finish, finish_eq_error_iff]
  constructor
  · exact exists_of_unfinished
  · rintro ⟨before, inside, hunterminated, hline⟩
    have hregion := (region_scanned kind cs).trans hunterminated.behind_eq
    obtain ⟨e', he', hdelimiter⟩ := Scan.exists_unfinished hregion
    -- the error is the one of the scanner, since there is no other literal without an end
    obtain ⟨before', inside', hunterminated', hline'⟩ := exists_of_unfinished he'
    rw [← hunterminated.before_eq hunterminated', ← hline] at hline'
    rw [he', LexError.eq_of_delimiter_of_line hdelimiter hline']

end SexprQuery
