import Mathlib.Data.List.Forall2
import SexprQuery.Proofs.PatternMeaning
import SexprQuery.Proofs.Scanning
import SexprQuery.Datum.Reader
import SexprQuery.Pattern.Parser

/-!
# Data text as pattern text

Data text without brackets and without a word that starts with a slash is pattern text
too, and means the same there (`parse_of_shared`):

* the scanner finds the same tokens in it (`tokenize_pattern_of_shared`): the two kinds
  of text part ways only at a slash between tokens;
* the reader and the parser go through the tokens in step (`Tracks`): for every list
  that the reader has open the parser has a shape open, at the same line, and where no
  word is a wildcard its elements are those of the list;
* a shape made of literals accepts what equals the list (`satisfies_structural`).
-/

namespace SexprQuery

/-- True for the tokens that data text and pattern text read alike: brackets are left
out, and so are words that a pattern takes for the start of a regular expression. -/
def Lexeme.isShared : Lexeme → Bool
  | .openBracket | .closeBracket => false
  | .word w => !(w.toList.head? == some '/')
  | _ => true

/-! ## The same tokens -/

namespace Scanner

theorem stepBetween_pattern {c : Char} (h : c ≠ '/') (s : Scanner) :
    s.stepBetween .pattern c = s.stepBetween .data c := by
  simp only [stepBetween, h, false_and, if_false]

theorem stepWord_pattern (s : Scanner) (line : Nat) (seen : List Char) (c : Char) :
    s.stepWord .pattern line seen c = s.stepWord .data line seen c := by
  by_cases hc : endsWord c = true
  · have hslash : c ≠ '/' := by
      rintro rfl
      cases hc
    rw [stepWord, stepWord, stepBetween_pattern hslash]
  · rw [stepWord, stepWord, if_neg hc, if_neg hc]

/-- Only a slash between tokens is not taken alike. -/
theorem step_pattern {s : Scanner} {c : Char} (h : s.scan = .between → c ≠ '/') :
    step .pattern s c = step .data s c := by
  have hscan : s.stepScan .pattern c = s.stepScan .data c := by
    obtain ⟨line, tokens, scan⟩ := s
    cases scan with
    | between => exact stepBetween_pattern (h rfl) _
    | hash l => simp only [stepScan, stepWord_pattern]
    | word l seen => exact stepWord_pattern _ l seen c
    | quoted symbol escaped l seen => cases escaped <;> rfl
    | regex escaped l seen => cases escaped <;> rfl
    | comment => rfl
  rw [step, step, hscan]

/-- A finished token is among the tokens in the end. -/
theorem mem_of_mem_tokens {kind : TextKind} {cs : List Char} {s : Scanner} {ts : List Token}
    (h : (cs.foldl (step kind) s).finish = .ok ts) {t : Token} (ht : t ∈ s.tokens) : t ∈ ts := by
  obtain ⟨line, tokens, scan⟩ := s
  rw [finish_foldl_withTokens] at h
  cases hrest : (cs.foldl (step kind) ⟨line, [], scan⟩).finish with
  | error e => rw [hrest] at h; cases h
  | ok us =>
    rw [hrest] at h
    cases h
    exact List.mem_append_left us (List.mem_reverse.mpr ht)

/-- A word that has been begun is among the tokens in the end. -/
theorem exists_word_of_finish {cs : List Char} {line l : Nat} {tokens ts : List Token}
    (seen : List Char)
    (h : (cs.foldl (step .data) ⟨line, tokens, .word l seen⟩).finish = .ok ts) :
    ∃ more, ⟨.word (String.ofList (seen.reverse ++ more)), l⟩ ∈ ts := by
  induction cs generalizing line seen with
  | nil =>
    cases h
    exact ⟨[], by simp [emit, collected]⟩
  | cons c cs ih =>
    by_cases hc : endsWord c = true
    · -- what ends the word is scanned as if the word had been finished before
      have hscan : stepScan .data ⟨line, tokens, .word l seen⟩ c =
          stepScan .data (emit ⟨line, tokens, .word l seen⟩ (.word (collected seen)) l) c :=
        if_pos hc
      have hfinished : ((c :: cs).foldl (step .data)
          (emit ⟨line, tokens, .word l seen⟩ (.word (collected seen)) l)).finish = .ok ts := by
        rw [← h, List.foldl_cons, List.foldl_cons, step, step, hscan]
      refine ⟨[], mem_of_mem_tokens hfinished ?_⟩
      rw [List.append_nil]
      exact List.mem_cons_self
    · have hstep : step .data ⟨line, tokens, .word l seen⟩ c =
          ⟨if c = '\n' then line + 1 else line, tokens, .word l (c :: seen)⟩ :=
        step_eq (if_neg hc)
      rw [List.foldl_cons, hstep] at h
      obtain ⟨more, hmem⟩ := ih (c :: seen) h
      rw [List.reverse_cons, List.append_assoc] at hmem
      exact ⟨c :: more, hmem⟩

/-- Where no word starts with a slash, both kinds of text are scanned alike. -/
theorem foldl_pattern_of_shared {cs : List Char} {s : Scanner} {ts : List Token}
    (h : (cs.foldl (step .data) s).finish = .ok ts) (hshared : ∀ t ∈ ts, t.lexeme.isShared = true) :
    cs.foldl (step .pattern) s = cs.foldl (step .data) s := by
  induction cs generalizing s with
  | nil => rfl
  | cons c cs ih =>
    have hslash : s.scan = .between → c ≠ '/' := by
      rintro hbetween rfl
      obtain ⟨line, tokens, scan⟩ := s
      cases hbetween
      obtain ⟨more, hmem⟩ := exists_word_of_finish ['/'] h
      have hword := hshared _ hmem
      simp [Lexeme.isShared] at hword
    rw [List.foldl_cons, List.foldl_cons, step_pattern hslash]
    exact ih h

/-- A scanner of data text: it is not inside a regular expression and has found none. -/
structure IsData (s : Scanner) : Prop where
  scan : ∀ escaped line seen, s.scan ≠ .regex escaped line seen
  tokens : ∀ t ∈ s.tokens, ∀ source, t.lexeme ≠ .regex source

section
variable {s : Scanner}

theorem IsData.emit (h : s.IsData) {lexeme : Lexeme} (hlexeme : ∀ source, lexeme ≠ .regex source)
    (line : Nat) : (s.emit lexeme line).IsData where
  scan _ _ _ hscan := nomatch hscan
  tokens := by
    rintro t (_ | ⟨_, ht⟩)
    · exact hlexeme
    · exact h.tokens t ht

theorem IsData.withScan (h : s.IsData) {scan : Scan}
    (hscan : ∀ escaped line seen, scan ≠ .regex escaped line seen) :
    IsData { s with scan := scan } := ⟨hscan, h.tokens⟩

theorem IsData.stepBetween (h : s.IsData) (c : Char) : (s.stepBetween .data c).IsData := by
  have hslash : ¬ (c = '/' ∧ TextKind.data = .pattern) := by simp
  simp only [Scanner.stepBetween, if_neg hslash]
  repeat' split
  all_goals first
    | exact h.emit (by simp) _
    | exact h.withScan (by simp)

theorem IsData.stepWord (h : s.IsData) (line : Nat) (seen : List Char) (c : Char) :
    (s.stepWord .data line seen c).IsData := by
  unfold Scanner.stepWord
  split
  · exact (h.emit (by simp) line).stepBetween c
  · exact h.withScan (by simp)

/-- Data text never opens a regular expression. -/
theorem IsData.step (h : s.IsData) (c : Char) : (step .data s c).IsData := by
  have hscan : (s.stepScan .data c).IsData := by
    unfold stepScan
    split
    · exact h.stepBetween c
    · split
      · exact h.withScan (by simp)
      · exact h
    · split
      · exact h.withScan (by simp)
      · exact h.stepWord _ _ c
    · exact h.stepWord _ _ c
    · split
      · exact h.emit (by split <;> simp) _
      · split <;> exact h.withScan (by simp)
    · exact h.withScan (by simp)
    · next hregex => exact absurd hregex (h.scan _ _ _)
    · next hregex => exact absurd hregex (h.scan _ _ _)
  unfold Scanner.step
  split
  · exact ⟨hscan.scan, hscan.tokens⟩
  · exact hscan

theorem IsData.foldl (h : s.IsData) (cs : List Char) :
    (cs.foldl (Scanner.step .data) s).IsData := by
  induction cs generalizing s with
  | nil => exact h
  | cons c cs ih => exact ih (h.step c)

theorem IsData.finish (h : s.IsData) {ts : List Token} (hfinish : s.finish = .ok ts) :
    ∀ t ∈ ts, ∀ source, t.lexeme ≠ .regex source := by
  intro t ht
  unfold Scanner.finish at hfinish
  split at hfinish
  all_goals cases hfinish
  · exact h.tokens t (List.mem_reverse.mp ht)
  · exact h.tokens t (List.mem_reverse.mp ht)
  · exact (h.emit (by simp) _).tokens t (List.mem_reverse.mp ht)
  · exact (h.emit (by simp) _).tokens t (List.mem_reverse.mp ht)

end

end Scanner

/-- The tokens of data text hold no regular expression. -/
theorem lexeme_ne_regex_of_tokenize {cs : List Char} {ts : List Token}
    (h : tokenize .data cs = .ok ts) : ∀ t ∈ ts, ∀ source, t.lexeme ≠ .regex source := by
  have hstart : Scanner.start.IsData := ⟨by simp [Scanner.start], by simp [Scanner.start]⟩
  exact (hstart.foldl cs).finish h

/-- A pattern text of shared tokens has the same tokens on the same lines. -/
theorem tokenize_pattern_of_shared {cs : List Char} {ts : List Token}
    (h : tokenize .data cs = .ok ts) (hshared : ∀ t ∈ ts, t.lexeme.isShared = true) :
    tokenize .pattern cs = .ok ts := by
  rw [tokenize, Scanner.foldl_pattern_of_shared h hshared]
  exact h

/-! ## In step -/

namespace Datum

theorem slotsStructural_eq_map (ds : List Datum) : slotsStructural ds = ds.map structural := by
  induction ds with
  | nil => rfl
  | cons d ds ih => rw [slotsStructural, ih, List.map_cons]

theorem structural_of_atom {d : Datum} (h : d.isList = false) : d.structural = .equals d := by
  cases d <;> first | rfl | cases h

end Datum

/-- The word stands for anything in a pattern. -/
def Lexeme.isWildcard : Lexeme → Bool
  | .word w => w == "_" || w == "___"
  | _ => false

open Pattern

/-- The parser is where the reader is: for each open list it has an open shape of the
same line. Where the text is `literal` — no word in it is a wildcard — the shape holds
what the list holds, and the last form is the same too. -/
structure Tracks (literal : Bool) (r : Reader) (s : Parser) : Prop where
  stage : s.stage = .form
  stack : List.Forall₂ (fun (o : OpenList) (p : Open) => ∃ elements, p = .shape o.line elements ∧
    (literal = true → elements = o.slots.map Datum.structural)) r.stack s.stack
  last : literal = true → s.last = r.forms.head?.map Datum.structural

namespace Tracks
variable {literal : Bool} {r : Reader} {s : Parser}

theorem start : Tracks literal Reader.start Parser.start := ⟨rfl, .nil, fun _ => rfl⟩

/-- Both put a finished form where it belongs. -/
theorem push (h : Tracks literal r s) {d : Datum} {p : Pattern}
    (hp : literal = true → p = d.structural) : Tracks literal (r.push d) (s.push p) := by
  obtain ⟨stack, forms⟩ := r
  obtain ⟨stage, shapes, last⟩ := s
  obtain ⟨hstage, hstack, hlast⟩ := h
  cases hstack with
  | nil => exact ⟨rfl, .nil, fun hl => congrArg some (hp hl)⟩
  | cons htop hrest =>
    obtain ⟨elements, rfl, helements⟩ := htop
    refine ⟨rfl, .cons ⟨p :: elements, rfl, fun hl => ?_⟩ hrest, hlast⟩
    rw [hp hl, helements hl]
    rfl

/-- Both take a token, or both refuse a parenthesis that closes nothing. -/
theorem step (h : Tracks literal r s) {t : Token} (hshared : t.lexeme.isShared = true)
    (hregex : ∀ source, t.lexeme ≠ .regex source)
    (hliteral : literal = true → t.lexeme.isWildcard = false) :
    (∃ r' s', r.step t = .ok r' ∧ s.step t = .ok s' ∧ Tracks literal r' s') ∨
      r.step t = .error (.unexpectedClose t.line) ∧
        s.step t = .error (.malformed .unexpectedClose t.line) := by
  have hform : s.step t = s.stepForm t := by rw [Parser.step, h.stage]
  rw [hform]
  obtain ⟨lexeme, line⟩ := t
  cases lexeme with
  | opening =>
    exact .inl ⟨_, _, rfl, rfl, h.stage, .cons ⟨[], rfl, fun _ => rfl⟩ h.stack, h.last⟩
  | closing =>
    obtain ⟨stack, forms⟩ := r
    obtain ⟨stage, shapes, last⟩ := s
    obtain ⟨hstage, hstack, hlast⟩ := h
    cases hstack with
    | nil => exact .inr ⟨rfl, rfl⟩
    | @cons top _ rest outer htop hrest =>
      obtain ⟨elements, rfl, helements⟩ := htop
      have houter : Tracks literal ⟨rest, forms⟩ ⟨stage, outer, last⟩ := ⟨hstage, hrest, hlast⟩
      refine .inl ⟨_, _, rfl, rfl, houter.push fun hl => ?_⟩
      rw [helements hl, Datum.structural, Datum.slotsStructural_eq_map, List.map_reverse]
  | word w =>
    refine .inl ⟨_, _, rfl, rfl, h.push fun hl => ?_⟩
    have hw := hliteral hl
    simp only [Lexeme.isWildcard, Bool.or_eq_false_iff, beq_eq_false_iff_ne] at hw
    rw [Pattern.ofWord, if_neg hw.1, if_neg hw.2, Datum.structural_of_atom (Datum.isList_ofWord w)]
  | str contents => exact .inl ⟨_, _, rfl, rfl, h.push fun _ => rfl⟩
  | sym name => exact .inl ⟨_, _, rfl, rfl, h.push fun _ => rfl⟩
  | regex source => exact absurd rfl (hregex source)
  | _ => cases hshared

/-- So they get through the same tokens, or stop at the same one. -/
theorem foldlM (h : Tracks literal r s) {ts : List Token}
    (hshared : ∀ t ∈ ts, t.lexeme.isShared = true)
    (hregex : ∀ t ∈ ts, ∀ source, t.lexeme ≠ .regex source)
    (hliteral : literal = true → ∀ t ∈ ts, t.lexeme.isWildcard = false) :
    (∃ r' s', ts.foldlM Reader.step r = .ok r' ∧ ts.foldlM Parser.step s = .ok s' ∧
        Tracks literal r' s') ∨
      ∃ line, ts.foldlM Reader.step r = .error (.unexpectedClose line) ∧
        ts.foldlM Parser.step s = .error (.malformed .unexpectedClose line) := by
  induction ts generalizing r s with
  | nil => exact .inl ⟨r, s, rfl, rfl, h⟩
  | cons t ts ih =>
    rw [List.foldlM_cons, List.foldlM_cons]
    rcases h.step (hshared t List.mem_cons_self) (hregex t List.mem_cons_self)
      (fun hl => hliteral hl t List.mem_cons_self) with ⟨r', s', hr, hs, hnext⟩ | ⟨hr, hs⟩
    · rw [hr, hs]
      exact ih hnext (fun u hu => hshared u (List.mem_cons_of_mem t hu))
        (fun u hu => hregex u (List.mem_cons_of_mem t hu))
        fun hl u hu => hliteral hl u (List.mem_cons_of_mem t hu)
    · rw [hr, hs]
      exact .inr ⟨t.line, rfl, rfl⟩

/-- In the end both have finished, or both miss the parenthesis of the same list. -/
theorem finish (h : Tracks literal r s) :
    (r.finish = .ok r.forms.reverse ∧ s.finish = .ok s.last) ∨
      ∃ line, r.finish = .error (.unclosed line) ∧
        s.finish = .error (.malformed .unclosedList line) := by
  obtain ⟨stack, forms⟩ := r
  obtain ⟨stage, shapes, last⟩ := s
  obtain ⟨rfl, hstack, -⟩ := h
  cases hstack with
  | nil => exact .inl ⟨rfl, rfl⟩
  | cons htop hrest =>
    obtain ⟨elements, rfl, -⟩ := htop
    exact .inr ⟨_, rfl, rfl⟩

end Tracks

/-- The outcomes of reading shared tokens as data and as a pattern. -/
theorem readTokens_ofTokens {ts : List Token} (literal : Bool)
    (hshared : ∀ t ∈ ts, t.lexeme.isShared = true)
    (hregex : ∀ t ∈ ts, ∀ source, t.lexeme ≠ .regex source)
    (hliteral : literal = true → ∀ t ∈ ts, t.lexeme.isWildcard = false) :
    (∃ forms p, readTokens ts = .ok forms ∧ ofTokens ts = .ok p ∧
        (literal = true → p = forms.getLast?.map Datum.structural)) ∨
      (∃ line, readTokens ts = .error (.unexpectedClose line) ∧
        ofTokens ts = .error (.malformed .unexpectedClose line)) ∨
      ∃ line, readTokens ts = .error (.unclosed line) ∧
        ofTokens ts = .error (.malformed .unclosedList line) := by
  rw [readTokens, ofTokens]
  rcases Tracks.start.foldlM hshared hregex hliteral with ⟨r, s, hr, hs, h⟩ | ⟨line, hr, hs⟩
  · rw [hr, hs]
    rcases h.finish with ⟨hforms, hlast⟩ | ⟨line, hforms, hlast⟩
    · refine .inl ⟨_, _, hforms, hlast, fun hl => ?_⟩
      rw [h.last hl, List.getLast?_reverse]
    · exact .inr (.inr ⟨line, hforms, hlast⟩)
  · rw [hr, hs]
    exact .inr (.inl ⟨line, rfl, rfl⟩)

open Pattern in
/-- **Shared text.** Text that scans as data without brackets and without words that start
with a slash is scanned alike as a pattern. It fails as data exactly where it fails as a
pattern, for a parenthesis of the same line that closes nothing or is never closed. Where
it is read and no word of it is a wildcard, the pattern is satisfied by what equals the
last datum and by nothing else. -/
theorem Pattern.parse_of_shared {text : String} {ts : List Token}
    (htokens : tokenize .data text.toList = .ok ts)
    (hshared : ∀ t ∈ ts, t.lexeme.isShared = true) :
    tokenize .pattern text.toList = .ok ts ∧
      ((∃ e, readAll text = .error e) ↔ ∃ e, parse text = .error e) ∧
      (∀ e, readAll text = .error e → ∃ line, e = .unexpectedClose line ∨ e = .unclosed line) ∧
      (∀ line, readAll text = .error (.unexpectedClose line) ↔
        parse text = .error (.malformed .unexpectedClose line)) ∧
      (∀ line, readAll text = .error (.unclosed line) ↔
        parse text = .error (.malformed .unclosedList line)) ∧
      ∀ forms v, readAll text = .ok forms → forms.getLast? = some v →
        (∀ t ∈ ts, t.lexeme ≠ .word "_" ∧ t.lexeme ≠ .word "___") →
        ∃ p, parse text = .ok (some p) ∧ (∀ d, p.satisfies d = (d == v)) ∧
          ∀ n, p.satisfiesNode n = (n.toDatum == v) := by
  have hpattern := tokenize_pattern_of_shared htokens hshared
  have hregex := lexeme_ne_regex_of_tokenize htokens
  have hread : readAll text = readTokens ts := by rw [readAll, htokens]
  have hparse : parse text = ofTokens ts := by rw [parse, hpattern]
  have hliteral : (ts.all fun t => !t.lexeme.isWildcard) = true →
      ∀ t ∈ ts, t.lexeme.isWildcard = false := by simp
  rw [hread, hparse]
  refine ⟨hpattern, ?_⟩
  rcases readTokens_ofTokens _ hshared hregex hliteral with
    ⟨forms, p, hforms, hp, hlast⟩ | ⟨line, hforms, hp⟩ | ⟨line, hforms, hp⟩
  · rw [hforms, hp]
    refine ⟨by simp, by simp, by simp, by simp, ?_⟩
    rintro _ v ⟨⟩ hv hwild
    have hnone : (ts.all fun t => !t.lexeme.isWildcard) = true := by
      simp only [List.all_eq_true, Bool.not_eq_true']
      intro t ht
      obtain ⟨hany, hrest⟩ := hwild t ht
      obtain ⟨lexeme, line⟩ := t
      cases lexeme with
      | word w =>
        rw [Lexeme.isWildcard, Bool.or_eq_false_iff, beq_eq_false_iff_ne, beq_eq_false_iff_ne]
        exact ⟨fun h => hany (congrArg _ h), fun h => hrest (congrArg _ h)⟩
      | _ => rfl
    rw [hlast hnone, hv]
    exact ⟨v.structural, rfl, satisfies_structural v, fun n => satisfies_structural v n.toDatum⟩
  · rw [hforms, hp]
    simp [eq_comm]
  · rw [hforms, hp]
    simp [eq_comm]

/-- A slash inside a word opens nothing, a quoted name is no wildcard, and a line break
in a string counts. -/
theorem Pattern.parse_of_shared_quoted_wildcard :
    ∃ ts v p, tokenize .data "(a/b \"c\nd\") ; e\n(#\"_\" (-7 nil))".toList = .ok ts ∧
      (∀ t ∈ ts, t.lexeme.isShared = true) ∧
      (∀ t ∈ ts, t.lexeme ≠ .word "_" ∧ t.lexeme ≠ .word "___") ∧
      readAll "(a/b \"c\nd\") ; e\n(#\"_\" (-7 nil))" =
        .ok [.list (some 1) [.sym "a/b", .str "c\nd"], v] ∧
      parse "(a/b \"c\nd\") ; e\n(#\"_\" (-7 nil))" = .ok (some p) ∧
      ∀ d, p.satisfies d = (d == v) := by
  let ts : List Token := [⟨.opening, 1⟩, ⟨.word "a/b", 1⟩, ⟨.str "c\nd", 1⟩, ⟨.closing, 2⟩,
    ⟨.opening, 3⟩, ⟨.sym "_", 3⟩, ⟨.opening, 3⟩, ⟨.word "-7", 3⟩, ⟨.word "nil", 3⟩, ⟨.closing, 3⟩,
    ⟨.closing, 3⟩]
  have htokens : tokenize .data "(a/b \"c\nd\") ; e\n(#\"_\" (-7 nil))".toList = .ok ts := by rfl
  have hshared : ∀ t ∈ ts, t.lexeme.isShared = true := by decide
  have hwild : ∀ t ∈ ts, t.lexeme ≠ .word "_" ∧ t.lexeme ≠ .word "___" := by decide
  have hread : readAll "(a/b \"c\nd\") ; e\n(#\"_\" (-7 nil))" =
      .ok [.list (some 1) [.sym "a/b", .str "c\nd"],
        .list (some 3) [.sym "_", .list (some 3) [.int (-7), .nil]]] := by rfl
  obtain ⟨-, -, -, -, -, hmeaning⟩ := parse_of_shared htokens hshared
  obtain ⟨p, hp, hsatisfies, -⟩ := hmeaning _ _ hread rfl hwild
  exact ⟨ts, _, p, htokens, hshared, hwild, hread, hp, hsatisfies⟩

end SexprQuery
