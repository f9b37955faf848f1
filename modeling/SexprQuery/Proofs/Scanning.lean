import SexprQuery.Token.Lexer
import SexprQuery.Datum.Printer
import SexprQuery.Pattern.Printer

/-!
# Scanning token by token

The scanner is a fold over characters. `scanFrom` is the same scanner started on a
given line, and this module turns it into equations that read a text from the front,
one for each kind of token:

* `scanFrom_bracket`, `scanFrom_blank` — single characters;
* `scanFrom_word` — a bare word, in front of something that ends it;
* `scanFrom_quoted` — strings and quoted symbols, in the form they are written in;
* `scanFrom_regex` — regular expressions, with their slashes escaped.

They rest on one fact: tokens that are finished never change what comes after them
(`finish_foldl_withTokens`).
-/

namespace SexprQuery

/-- The tokens of a text that starts on a given line. -/
def scanFrom (kind : TextKind) (line : Nat) (cs : List Char) : Except LexError (List Token) :=
  (cs.foldl (Scanner.step kind) ⟨line, [], .between⟩).finish

theorem tokenize_eq_scanFrom (kind : TextKind) (cs : List Char) :
    tokenize kind cs = scanFrom kind 1 cs := rfl

namespace Scanner

theorem step_of_ne {kind : TextKind} {c : Char} (h : c ≠ '\n') (s : Scanner) :
    step kind s c = s.stepScan kind c := if_neg h

theorem step_eq {kind : TextKind} {s : Scanner} {c : Char} {line : Nat} {ts : List Token}
    {scan : Scan} (h : s.stepScan kind c = ⟨line, ts, scan⟩) :
    step kind s c = ⟨if c = '\n' then line + 1 else line, ts, scan⟩ := by
  rw [step, h]
  split <;> rfl

/-! ## Finished tokens -/

/-- The scanner with tokens that were finished before. -/
def withTokens (s : Scanner) (ts : List Token) : Scanner := { s with tokens := s.tokens ++ ts }

theorem stepBetween_withTokens (kind : TextKind) (s : Scanner) (ts : List Token) (c : Char) :
    (s.withTokens ts).stepBetween kind c = (s.stepBetween kind c).withTokens ts := by
  simp only [stepBetween, apply_ite (withTokens · ts)]
  rfl

theorem stepWord_withTokens (kind : TextKind) (s : Scanner) (ts : List Token) (line : Nat)
    (seen : List Char) (c : Char) :
    (s.withTokens ts).stepWord kind line seen c = (s.stepWord kind line seen c).withTokens ts := by
  have hemit := stepBetween_withTokens kind (s.emit (.word (collected seen)) line) ts c
  simp only [stepWord, apply_ite (withTokens · ts), ← hemit]
  rfl

theorem step_withTokens (kind : TextKind) (s : Scanner) (ts : List Token) (c : Char) :
    step kind (s.withTokens ts) c = (step kind s c).withTokens ts := by
  have hscan : (s.withTokens ts).stepScan kind c = (s.stepScan kind c).withTokens ts := by
    obtain ⟨line, tokens, scan⟩ := s
    cases scan with
    | between => exact stepBetween_withTokens kind _ ts c
    | word l seen => exact stepWord_withTokens kind ⟨line, tokens, .word l seen⟩ ts l seen c
    | hash l =>
      have hword := stepWord_withTokens kind ⟨line, tokens, .hash l⟩ ts l ['#'] c
      simp only [stepScan, apply_ite (withTokens · ts), ← hword]
      rfl
    | comment =>
      simp only [stepScan, apply_ite (withTokens · ts)]
      rfl
    | quoted symbol escaped l seen =>
      cases escaped with
      | true => rfl
      | false =>
        simp only [stepScan, apply_ite (withTokens · ts)]
        rfl
    | regex escaped l seen =>
      cases escaped with
      | true => rfl
      | false =>
        simp only [stepScan, apply_ite (withTokens · ts)]
        rfl
  unfold step
  rw [hscan]
  split <;> rfl

theorem finish_withTokens (s : Scanner) (ts : List Token) :
    (s.withTokens ts).finish = s.finish.map (ts.reverse ++ ·) := by
  obtain ⟨line, tokens, scan⟩ := s
  cases scan <;> simp [finish, withTokens, emit, Except.map]

/-- Finished tokens stand in front of whatever is still to come. -/
theorem finish_foldl_withTokens (kind : TextKind) (cs : List Char) (line : Nat) (ts : List Token)
    (scan : Scan) :
    (cs.foldl (step kind) ⟨line, ts, scan⟩).finish =
      (cs.foldl (step kind) ⟨line, [], scan⟩).finish.map (ts.reverse ++ ·) := by
  have hfold : ∀ s : Scanner,
      cs.foldl (step kind) (s.withTokens ts) = (cs.foldl (step kind) s).withTokens ts := by
    induction cs with
    | nil => exact fun _ => rfl
    | cons c cs ih =>
      intro s
      rw [List.foldl_cons, List.foldl_cons, step_withTokens, ih]
  rw [show (⟨line, ts, scan⟩ : Scanner) = withTokens ⟨line, [], scan⟩ ts from rfl, hfold,
    finish_withTokens]

end Scanner

open Scanner

/-- A text that leaves no token open is scanned apart from what follows it. -/
theorem scanFrom_append {kind : TextKind} {line line' : Nat} {cs : List Char} {t : List Token}
    (h : cs.foldl (step kind) ⟨line, [], .between⟩ = ⟨line', t, .between⟩) (rest : List Char) :
    scanFrom kind line (cs ++ rest) = (scanFrom kind line' rest).map (t.reverse ++ ·) := by
  rw [scanFrom, List.foldl_append, h, finish_foldl_withTokens]
  rfl

/-! ## Single characters -/

theorem scanFrom_bracket {c : Char} {x : Lexeme} (h : bracket? c = some x) (kind : TextKind)
    (line : Nat) (rest : List Char) :
    scanFrom kind line (c :: rest) = (scanFrom kind line rest).map (⟨x, line⟩ :: ·) := by
  have hstep : [c].foldl (step kind) ⟨line, [], .between⟩ = ⟨line, [⟨x, line⟩], .between⟩ := by
    unfold bracket? at h
    split at h
    all_goals cases h
    all_goals rfl
  exact scanFrom_append hstep rest

theorem scanFrom_blank {c : Char} (h : isBlank c = true) (kind : TextKind) (line : Nat)
    (rest : List Char) :
    scanFrom kind line (c :: rest) =
      scanFrom kind (if c = '\n' then line + 1 else line) rest := by
  have hstep : [c].foldl (step kind) ⟨line, [], .between⟩ =
      ⟨if c = '\n' then line + 1 else line, [], .between⟩ := step_eq (if_pos h)
  refine (scanFrom_append hstep rest).trans ?_
  cases scanFrom kind (if c = '\n' then line + 1 else line) rest <;> rfl

theorem scanFrom_space (kind : TextKind) (line : Nat) (rest : List Char) :
    scanFrom kind line (' ' :: rest) = scanFrom kind line rest :=
  scanFrom_blank rfl kind line rest

theorem scanFrom_newline (kind : TextKind) (line : Nat) (rest : List Char) :
    scanFrom kind line ('\n' :: rest) = scanFrom kind (line + 1) rest :=
  scanFrom_blank rfl kind line rest

/-! ## Bare words -/

/-- Characters that make one bare word. -/
structure IsWord (kind : TextKind) (cs : List Char) : Prop where
  ne_nil : cs ≠ []
  inside : ∀ c ∈ cs, endsWord c = false
  head : kind = .pattern → cs.head? ≠ some '/'

/-- A text that ends the word in front of it. A string quote does not count, since
behind `#` it opens a quoted symbol. -/
def Breaks (rest : List Char) : Prop := ∀ c ∈ rest.head?, endsWord c = true ∧ c ≠ '"'

theorem breaks_nil : Breaks [] := fun _ h => nomatch h

theorem breaks_cons {c : Char} (h : endsWord c = true) (hne : c ≠ '"') (rest : List Char) :
    Breaks (c :: rest) := fun _ hc => Option.some.inj hc ▸ ⟨h, hne⟩

theorem breaks_space (rest : List Char) : Breaks (' ' :: rest) :=
  breaks_cons rfl (by decide) rest

theorem breaks_newline (rest : List Char) : Breaks ('\n' :: rest) :=
  breaks_cons rfl (by decide) rest

theorem breaks_closing (rest : List Char) : Breaks (')' :: rest) :=
  breaks_cons rfl (by decide) rest

theorem breaks_closeBracket (rest : List Char) : Breaks (']' :: rest) :=
  breaks_cons rfl (by decide) rest

namespace Scanner

/-- In the middle of a word that began on `line`. -/
def inWord (line : Nat) (cs : List Char) : Scan :=
  if cs = ['#'] then .hash line else .word line cs.reverse

theorem step_start_word {kind : TextKind} {c : Char} (hc : endsWord c = false)
    (hhead : kind = .pattern → c ≠ '/') (line : Nat) (ts : List Token) :
    step kind ⟨line, ts, .between⟩ c = ⟨line, ts, inWord line [c]⟩ := by
  have hne : ∀ d, endsWord d = true → c ≠ d := by
    rintro d hd rfl
    rw [hd] at hc
    cases hc
  have hblank : isBlank c ≠ true := fun h => by
    rw [endsWord, h, Bool.true_or] at hc
    cases hc
  have hslash : ¬ (c = '/' ∧ kind = .pattern) := fun h => hhead h.2 h.1
  rw [step_of_ne (hne '\n' rfl)]
  show stepBetween kind _ c = _
  rw [stepBetween, if_neg hblank, if_neg (hne ';' rfl), if_neg (hne '(' rfl),
    if_neg (hne ')' rfl), if_neg (hne '[' rfl), if_neg (hne ']' rfl), if_neg (hne '"' rfl),
    if_neg hslash, inWord]
  by_cases hhash : c = '#'
  · rw [if_pos hhash, if_pos (by rw [hhash])]
  · rw [if_neg hhash, if_neg (fun h => hhash (List.cons.inj h).1)]
    rfl

theorem step_inWord {kind : TextKind} {c : Char} (hc : endsWord c = false) (line l : Nat)
    (ts : List Token) {cs : List Char} (hne : cs ≠ []) :
    step kind ⟨line, ts, inWord l cs⟩ c = ⟨line, ts, inWord l (cs ++ [c])⟩ := by
  have hquote : c ≠ '"' := by
    rintro rfl
    cases hc
  have hbreak : c ≠ '\n' := by
    rintro rfl
    cases hc
  -- the state for a lone `#` is left with the second character
  have hlonger : cs ++ [c] ≠ ['#'] := by
    intro h
    have hlen := congrArg List.length h
    rw [List.length_append] at hlen
    exact hne (List.length_eq_zero_iff.mp (Nat.succ.inj hlen))
  have hword : ∀ (s : Scanner) seen,
      s.stepWord kind l seen c = { s with scan := .word l (c :: seen) } := fun s seen =>
    if_neg (by rw [hc]; exact Bool.false_ne_true)
  rw [step_of_ne hbreak, inWord, inWord, if_neg hlonger, List.reverse_append]
  split
  · next h =>
    subst h
    exact (if_neg hquote).trans (hword _ _)
  · exact hword _ _

theorem foldl_inWord (kind : TextKind) (line l : Nat) (ts : List Token) {more : List Char}
    (hmore : ∀ c ∈ more, endsWord c = false) {cs : List Char} (hne : cs ≠ []) :
    more.foldl (step kind) ⟨line, ts, inWord l cs⟩ = ⟨line, ts, inWord l (cs ++ more)⟩ := by
  induction more generalizing cs with
  | nil => rw [List.append_nil]; rfl
  | cons c more ih =>
    rw [List.foldl_cons, step_inWord (hmore c List.mem_cons_self) line l ts hne,
      ih (fun d hd => hmore d (List.mem_cons_of_mem c hd)) (by simp), List.append_assoc]
    rfl

/-- What ends a word also finishes it. Only behind a lone `#` does a quote go on with what
stands in front of it. -/
theorem finish_foldl_inWord (kind : TextKind) (line l : Nat) (ts : List Token) {cs : List Char}
    {rest : List Char}
    (hrest : ∀ c ∈ rest.head?, endsWord c = true ∧ (cs = ['#'] → c ≠ '"')) :
    (rest.foldl (step kind) ⟨line, ts, inWord l cs⟩).finish =
      (rest.foldl (step kind) ⟨line, ⟨.word (String.ofList cs), l⟩ :: ts, .between⟩).finish := by
  cases rest with
  | nil =>
    simp only [List.foldl_nil, inWord]
    split
    · next h => rw [h]; rfl
    · simp [finish, emit, collected]
  | cons c rest =>
    obtain ⟨hc, hquote⟩ := hrest c rfl
    -- behind a lone `#` a quote would open a quoted symbol
    have hscan : stepScan kind ⟨line, ts, inWord l cs⟩ c =
        stepScan kind ⟨line, ⟨.word (String.ofList cs), l⟩ :: ts, .between⟩ c := by
      rw [inWord]
      split
      · next h =>
        have hne := hquote h
        subst h
        exact (if_neg hne).trans (if_pos hc)
      · refine (if_pos hc).trans ?_
        rw [collected, List.reverse_reverse]
        rfl
    rw [List.foldl_cons, List.foldl_cons, step, hscan]
    rfl

end Scanner

/-- A word and whatever ends it. -/
theorem scanFrom_word_append {kind : TextKind} {cs : List Char} (h : IsWord kind cs) (line : Nat)
    {rest : List Char}
    (hrest : ∀ c ∈ rest.head?, endsWord c = true ∧ (cs = ['#'] → c ≠ '"')) :
    scanFrom kind line (cs ++ rest) =
      (scanFrom kind line rest).map (⟨.word (String.ofList cs), line⟩ :: ·) := by
  obtain ⟨hne, hinside, hhead⟩ := h
  match cs, hne with
  | c :: cs, _ =>
    have hstart := step_start_word (hinside c List.mem_cons_self)
      (fun hk hc => hhead hk (by rw [List.head?_cons, hc])) line []
    have htail : ∀ d ∈ cs, endsWord d = false := fun d hd =>
      hinside d (List.mem_cons_of_mem c hd)
    have hfold : cs.foldl (step kind) ⟨line, [], inWord line [c]⟩ =
        ⟨line, [], inWord line (c :: cs)⟩ :=
      foldl_inWord kind line line [] htail (List.cons_ne_nil c [])
    rw [scanFrom, List.foldl_append, List.foldl_cons, hstart, hfold,
      finish_foldl_inWord kind line line [] hrest, finish_foldl_withTokens]
    rfl

theorem scanFrom_word {kind : TextKind} {cs : List Char} (h : IsWord kind cs) (line : Nat)
    {rest : List Char} (hrest : Breaks rest) :
    scanFrom kind line (cs ++ rest) =
      (scanFrom kind line rest).map (⟨.word (String.ofList cs), line⟩ :: ·) :=
  scanFrom_word_append h line fun c hc => (hrest c hc).imp_right fun hquote _ => hquote

/-! ## Quoted text -/

namespace Scanner

theorem foldl_quoteChar (kind : TextKind) (symbol : Bool) (line l : Nat) (ts : List Token)
    (seen : List Char) (c : Char) :
    (quoteChar c).foldl (step kind) ⟨line, ts, .quoted symbol false l seen⟩ =
      ⟨line, ts, .quoted symbol false l (c :: seen)⟩ := by
  unfold quoteChar
  split
  case h_6 hquote hslash hbreak _ _ =>
    rw [List.foldl_cons, List.foldl_nil, step_of_ne hbreak]
    exact (if_neg hquote).trans (if_neg hslash)
  all_goals rfl

theorem foldl_quoted (kind : TextKind) (symbol : Bool) (line l : Nat) (ts : List Token)
    (cs seen : List Char) :
    (cs.flatMap quoteChar).foldl (step kind) ⟨line, ts, .quoted symbol false l seen⟩ =
      ⟨line, ts, .quoted symbol false l (cs.reverse ++ seen)⟩ := by
  induction cs generalizing seen with
  | nil => rfl
  | cons c cs ih =>
    rw [List.flatMap_cons, List.foldl_append, foldl_quoteChar, ih, List.reverse_cons,
      List.append_assoc]
    rfl

end Scanner

theorem scanFrom_str (kind : TextKind) (line : Nat) (cs rest : List Char) :
    scanFrom kind line (quoteChars cs ++ rest) =
      (scanFrom kind line rest).map (⟨.str (String.ofList cs), line⟩ :: ·) := by
  refine scanFrom_append (t := [⟨.str (String.ofList cs), line⟩]) ?_ rest
  rw [quoteChars, List.cons_append, List.foldl_cons, List.foldl_append]
  have hopen : step kind ⟨line, [], .between⟩ '"' = ⟨line, [], .quoted false false line []⟩ := rfl
  rw [hopen, foldl_quoted]
  simp [step, stepScan, emit, collected]

theorem scanFrom_sym (kind : TextKind) (line : Nat) (cs rest : List Char) :
    scanFrom kind line ('#' :: quoteChars cs ++ rest) =
      (scanFrom kind line rest).map (⟨.sym (String.ofList cs), line⟩ :: ·) := by
  refine scanFrom_append (t := [⟨.sym (String.ofList cs), line⟩]) ?_ rest
  rw [quoteChars, List.foldl_cons, List.cons_append, List.foldl_cons, List.foldl_append]
  have hopen : step kind (step kind ⟨line, [], .between⟩ '#') '"' =
      ⟨line, [], .quoted true false line []⟩ := rfl
  rw [hopen, foldl_quoted]
  simp [step, stepScan, emit, collected]

/-! ## Regular expressions -/

/-- True if the character behind a text is escaped, where `escaped` says so of its
first one. -/
def escapedAfter (escaped : Bool) (cs : List Char) : Bool :=
  cs.foldl (fun escaped c => c = '\\' && !escaped) escaped

/-- A source between slashes as the scanner gives it back: a slash that is escaped
loses its backslash. -/
def regexText : Bool → List Char → List Char
  | _, [] => []
  | true, c :: cs => if c = '/' then '/' :: regexText false cs else '\\' :: c :: regexText false cs
  | false, c :: cs => if c = '\\' then regexText true cs else c :: regexText false cs

/-- True if some slash is escaped. -/
def escapesSlash : Bool → List Char → Bool
  | _, [] => false
  | escaped, c :: cs => (escaped && c = '/') || escapesSlash (c = '\\' && !escaped) cs

/-- Line breaks are counted character by character. -/
theorem line_add_count (line : Nat) (c : Char) (cs : List Char) :
    (if c = '\n' then line + 1 else line) + cs.count '\n' = line + (c :: cs).count '\n' := by
  rw [List.count_cons]
  by_cases hc : c = '\n'
  · simp only [hc, beq_self_eq_true, if_true]
    omega
  · simp only [hc, beq_iff_eq, if_false, Nat.add_zero]

namespace Scanner

/-- The scanner knows which characters are escaped just as `escapeSlashes` does. -/
theorem foldl_escapeSlashes (l : Nat) (ts : List Token) (cs : List Char) (escaped : Bool)
    (line : Nat) (seen : List Char) :
    (escapeSlashes escaped cs).foldl (step .pattern) ⟨line, ts, .regex escaped l seen⟩ =
      ⟨line + cs.count '\n', ts, .regex (escapedAfter escaped cs) l
        ((regexText escaped cs).reverse ++ seen)⟩ := by
  induction cs generalizing escaped line seen with
  | nil => cases escaped <;> rfl
  | cons c cs ih =>
    have hline := line_add_count line c cs
    cases escaped with
    | true =>
      have hstep : step .pattern ⟨line, ts, .regex true l seen⟩ c =
          ⟨if c = '\n' then line + 1 else line, ts,
            .regex false l (if c = '/' then '/' :: seen else c :: '\\' :: seen)⟩ := step_eq rfl
      have hwritten : escapeSlashes true (c :: cs) = c :: escapeSlashes false cs := by
        simp [escapeSlashes]
      have hafter : escapedAfter true (c :: cs) = escapedAfter false cs := by
        simp [escapedAfter]
      rw [hwritten, hafter, List.foldl_cons, hstep, ih, hline, regexText]
      by_cases hslash : c = '/'
      · rw [if_pos hslash, if_pos hslash, List.reverse_cons, List.append_assoc]
        rfl
      · rw [if_neg hslash, if_neg hslash, List.reverse_cons, List.reverse_cons,
          List.append_assoc, List.append_assoc]
        rfl
    | false =>
      by_cases hslash : c = '/'
      · -- the backslash that is written here is dropped again
        subst hslash
        have hstep : step .pattern (step .pattern ⟨line, ts, .regex false l seen⟩ '\\') '/' =
            ⟨line, ts, .regex false l ('/' :: seen)⟩ := rfl
        have hwritten : escapeSlashes false ('/' :: cs) =
            '\\' :: '/' :: escapeSlashes false cs := rfl
        have htext : regexText false ('/' :: cs) = '/' :: regexText false cs := rfl
        rw [hwritten, htext, List.foldl_cons, List.foldl_cons, hstep, ih, List.reverse_cons,
          List.append_assoc]
        rfl
      by_cases hback : c = '\\'
      · -- nothing is seen yet: the next character decides if the backslash stays
        subst hback
        have hstep : step .pattern ⟨line, ts, .regex false l seen⟩ '\\' =
            ⟨line, ts, .regex true l seen⟩ := rfl
        have hwritten : escapeSlashes false ('\\' :: cs) = '\\' :: escapeSlashes true cs := rfl
        rw [hwritten, List.foldl_cons, hstep, ih]
        rfl
      · have hstep : step .pattern ⟨line, ts, .regex false l seen⟩ c =
            ⟨if c = '\n' then line + 1 else line, ts, .regex false l (c :: seen)⟩ :=
          step_eq ((if_neg hslash).trans (if_neg hback))
        have hwritten : escapeSlashes false (c :: cs) = c :: escapeSlashes false cs := by
          simp [escapeSlashes, hslash, hback]
        have hafter : escapedAfter false (c :: cs) = escapedAfter false cs := by
          simp [escapedAfter, hback]
        rw [hwritten, hafter, List.foldl_cons, hstep, ih, hline, regexText, if_neg hback,
          List.reverse_cons, List.append_assoc]
        rfl

end Scanner

/-- Behind the closing slash the scanner is between tokens again. -/
theorem foldl_regex {cs : List Char} (h : escapedAfter false cs = false) (line : Nat)
    (ts : List Token) :
    ('/' :: escapeSlashes false cs ++ ['/']).foldl (step .pattern) ⟨line, ts, .between⟩ =
      ⟨line + cs.count '\n', ⟨.regex (String.ofList (regexText false cs)), line⟩ :: ts,
        .between⟩ := by
  have hopen : step .pattern ⟨line, ts, .between⟩ '/' = ⟨line, ts, .regex false line []⟩ := rfl
  rw [List.cons_append, List.foldl_cons, hopen, List.foldl_append, foldl_escapeSlashes, h]
  simp [step, stepScan, emit, collected]

theorem scanFrom_regex {cs : List Char} (h : escapedAfter false cs = false) (line : Nat)
    (rest : List Char) :
    scanFrom .pattern line ('/' :: escapeSlashes false cs ++ '/' :: rest) =
      (scanFrom .pattern (line + cs.count '\n') rest).map
        (⟨.regex (String.ofList (regexText false cs)), line⟩ :: ·) := by
  have hscan := scanFrom_append (foldl_regex h line []) rest
  rw [List.append_assoc] at hscan
  exact hscan

/-- Where no slash is escaped, nothing is lost. -/
theorem regexText_of_not_escapesSlash (escaped : Bool) (cs : List Char)
    (h : escapesSlash escaped cs = false) (hafter : escapedAfter escaped cs = false) :
    regexText escaped cs = if escaped then '\\' :: cs else cs := by
  induction cs generalizing escaped with
  | nil =>
    rw [show escaped = false from hafter]
    rfl
  | cons c cs ih =>
    rw [escapesSlash, Bool.or_eq_false_iff] at h
    have hrest := ih _ h.2 hafter
    cases escaped with
    | true =>
      have hslash : c ≠ '/' := of_decide_eq_false h.1
      rw [Bool.not_true, Bool.and_false] at hrest
      rw [regexText, if_neg hslash, hrest]
      rfl
    | false =>
      rw [Bool.not_false, Bool.and_true] at hrest
      rw [regexText]
      split
      · next hback => rw [decide_eq_true hback] at hrest; rw [hrest, hback]; rfl
      · next hback => rw [decide_eq_false hback] at hrest; rw [hrest]; rfl

end SexprQuery
