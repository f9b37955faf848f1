import SexprQuery.Proofs.BracketCommands
import SexprQuery.Proofs.PatternMeaning
import SexprQuery.Proofs.PatternTokens

/-!
# Pattern text reads back

The parser makes one pattern of the tokens of a written pattern and puts it where it
belongs (`Reads`). That is the structural form of the pattern, apart from the lines
that its data get from the text. The structural form has the meaning and the text of
the pattern itself, so pattern text reads back (`parse_source`).
-/

open SexprQuery.Pattern.Parser

namespace SexprQuery.Pattern

/-! ## Tokens on any lines -/

theorem exists_cons_of_lexemes {ts : List Token} {x : Lexeme} {xs : List Lexeme}
    (h : ts.map Token.lexeme = x :: xs) :
    ∃ line us, ts = ⟨x, line⟩ :: us ∧ us.map Token.lexeme = xs := by
  obtain ⟨⟨y, line⟩, us, rfl, rfl, hus⟩ := List.map_eq_cons_iff.mp h
  exact ⟨line, us, rfl, hus⟩

theorem exists_singleton_of_lexemes {ts : List Token} {x : Lexeme}
    (h : ts.map Token.lexeme = [x]) : ∃ line, ts = [⟨x, line⟩] := by
  obtain ⟨line, us, rfl, hus⟩ := exists_cons_of_lexemes h
  exact ⟨line, by rw [List.map_eq_nil_iff.mp hus]⟩

/-- Tokens that end in a given one. -/
theorem exists_append_of_lexemes {ts : List Token} {x : Lexeme} {xs : List Lexeme}
    (h : ts.map Token.lexeme = xs ++ [x]) :
    ∃ us line, ts = us ++ [⟨x, line⟩] ∧ us.map Token.lexeme = xs := by
  obtain ⟨us, vs, rfl, hus, hvs⟩ := List.map_eq_append_iff.mp h
  obtain ⟨line, rfl⟩ := exists_singleton_of_lexemes hvs
  exact ⟨us, line, rfl, hus⟩

/-! ## Reading tags -/

mutual
/-- The tokens of a datum inside a tag. -/
theorem foldlM_tagLexemes (d : Datum) (h : d.isFinite = true) {ts : List Token}
    (hts : ts.map Token.lexeme = d.lexemes isBareLiteral) (line : Nat)
    (lists : List (Nat × List Datum)) (stack : List Open) (last : Option Pattern) :
    ∃ e : Datum, e.unlined = d.unlined ∧
      ts.foldlM step ⟨.tag line lists, stack, last⟩ =
        (.ok (pushDatum ⟨.tag line lists, stack, last⟩ line lists e) :
          Except PatternError Parser) := by
  cases d with
  | str s =>
    obtain ⟨l, rfl⟩ := exists_singleton_of_lexemes hts
    exact ⟨.str s, rfl, rfl⟩
  | sym name =>
    obtain ⟨l, rfl⟩ := exists_singleton_of_lexemes hts
    refine ⟨.sym name, rfl, ?_⟩
    split
    · next hbare =>
      show Except.ok (pushDatum _ line lists (Datum.ofWord name)) = _
      rw [(isBareLiteral_spec hbare).2.1]
    · rfl
  | list l slots =>
    obtain ⟨first, body, rfl, hbody⟩ := exists_cons_of_lexemes hts
    obtain ⟨us, final, rfl, hus⟩ := exists_append_of_lexemes hbody
    -- the list gets the line of its parenthesis, so it is equal to `d` apart from lines only
    obtain ⟨es, hes, hfold⟩ :=
      foldlM_tagSlots slots h hus line first [] lists stack last
    refine ⟨.list (some first) es, by rw [Datum.unlined, Datum.unlined, hes], ?_⟩
    show (us ++ [_]).foldlM step ⟨.tag line ((first, []) :: lists), stack, last⟩ = _
    rw [List.foldlM_append, hfold, List.append_nil]
    show Except.ok (pushDatum _ line lists (.list (some first) (List.reverse (List.reverse es)))) = _
    rw [List.reverse_reverse]
    rfl
  | _ =>
    obtain ⟨l, rfl⟩ := exists_singleton_of_lexemes hts
    refine ⟨_, rfl, ?_⟩
    show Except.ok (pushDatum _ line lists (Datum.ofWord (String.ofList (Datum.sourceChars _)))) = _
    rw [ofWord_sourceChars rfl h]
termination_by structural d

/-- The tokens of slots fill the innermost list of the tag. -/
theorem foldlM_tagSlots (ds : List Datum) (h : Datum.slotsFinite ds = true) {ts : List Token}
    (hts : ts.map Token.lexeme = Datum.slotsLexemes isBareLiteral ds) (line first : Nat)
    (slots : List Datum) (rest : List (Nat × List Datum)) (stack : List Open)
    (last : Option Pattern) :
    ∃ es, Datum.slotsUnlined es = Datum.slotsUnlined ds ∧
      ts.foldlM step ⟨.tag line ((first, slots) :: rest), stack, last⟩ =
        (.ok ⟨.tag line ((first, es.reverse ++ slots) :: rest), stack, last⟩ :
          Except PatternError Parser) := by
  cases ds with
  | nil =>
    obtain rfl := List.map_eq_nil_iff.mp hts
    exact ⟨[], rfl, rfl⟩
  | cons d ds =>
    rw [Datum.slotsFinite, Bool.and_eq_true] at h
    obtain ⟨us, vs, rfl, hus, hvs⟩ := List.map_eq_append_iff.mp hts
    obtain ⟨e, he, hhead⟩ := foldlM_tagLexemes d h.1 hus line ((first, slots) :: rest) stack last
    obtain ⟨es, hes, htail⟩ := foldlM_tagSlots ds h.2 hvs line first (e :: slots) rest stack last
    refine ⟨e :: es, by rw [Datum.slotsUnlined, Datum.slotsUnlined, he, hes], ?_⟩
    rw [List.foldlM_append, hhead]
    show List.foldlM step ⟨.tag line ((first, e :: slots) :: rest), stack, last⟩ vs = _
    rw [htail, List.reverse_cons, List.append_assoc]
    rfl
termination_by structural ds
end

/-! ## Reading forms -/

/-- Tokens of which the parser makes a pattern, apart from lines. -/
def Reads (xs : List Lexeme) (p : Pattern) : Prop :=
  ∀ ts : List Token, ts.map Token.lexeme = xs → ∀ stack last, ∃ q : Pattern,
    q.unlined = p.unlined ∧
      ts.foldlM step ⟨.form, stack, last⟩ =
        (.ok (push ⟨.form, stack, last⟩ q) : Except PatternError Parser)

/-- Tokens of which the parser makes patterns one behind the other. -/
def ReadsAll (xs : List Lexeme) (ps : List Pattern) : Prop :=
  ∀ ts : List Token, ts.map Token.lexeme = xs → ∀ stack last, ∃ qs : List Pattern,
    qs.map unlined = ps.map unlined ∧
      ts.foldlM step ⟨.form, stack, last⟩ =
        (.ok (qs.foldl push ⟨.form, stack, last⟩) : Except PatternError Parser)

theorem push_form (stack : List Open) (last : Option Pattern) (p : Pattern) :
    ∃ stack' last', push ⟨.form, stack, last⟩ p = ⟨.form, stack', last'⟩ := by
  cases stack with
  | nil => exact ⟨[], some p, rfl⟩
  | cons top rest => cases top <;> exact ⟨_, last, rfl⟩

/-- An open list or command with more in it. -/
def Open.adding : Open → List Pattern → Open
  | .shape line elements, qs => .shape line (qs.reverse ++ elements)
  | .command line name args, qs => .command line name (qs.reverse ++ args)

theorem foldl_push (top : Open) (rest : List Open) (last : Option Pattern) (qs : List Pattern) :
    qs.foldl push ⟨.form, top :: rest, last⟩ = ⟨.form, top.adding qs :: rest, last⟩ := by
  induction qs generalizing top with
  | nil => cases top <;> rfl
  | cons q qs ih =>
    have hpush : push ⟨.form, top :: rest, last⟩ q = ⟨.form, top.adding [q] :: rest, last⟩ := by
      cases top <;> rfl
    rw [List.foldl_cons, hpush, ih]
    cases top <;> simp [Open.adding]

theorem ReadsAll.nil : ReadsAll [] [] := by
  intro ts hts stack last
  obtain rfl := List.map_eq_nil_iff.mp hts
  exact ⟨[], rfl, rfl⟩

theorem Reads.cons {xs ys : List Lexeme} {p : Pattern} {ps : List Pattern} (hp : Reads xs p)
    (hps : ReadsAll ys ps) : ReadsAll (xs ++ ys) (p :: ps) := by
  intro ts hts stack last
  obtain ⟨us, vs, rfl, hus, hvs⟩ := List.map_eq_append_iff.mp hts
  obtain ⟨q, hq, hhead⟩ := hp us hus stack last
  obtain ⟨stack', last', hpush⟩ := push_form stack last q
  obtain ⟨qs, hqs, htail⟩ := hps vs hvs stack' last'
  refine ⟨q :: qs, by rw [List.map_cons, List.map_cons, hq, hqs], ?_⟩
  rw [List.foldlM_append, hhead, List.foldl_cons, hpush]
  exact htail

theorem Reads.single {xs : List Lexeme} {p : Pattern} (hp : Reads xs p) : ReadsAll xs [p] := by
  have hall := Reads.cons hp ReadsAll.nil
  rw [List.append_nil] at hall
  exact hall

/-- A token that spells a pattern by itself. -/
theorem Reads.token {x : Lexeme} {p : Pattern}
    (h : ∀ (s : Parser) (line : Nat), s.stepForm ⟨x, line⟩ = .ok (s.push p)) : Reads [x] p := by
  intro ts hts stack last
  obtain ⟨line, rfl⟩ := exists_singleton_of_lexemes hts
  refine ⟨p, rfl, ?_⟩
  show stepForm ⟨.form, stack, last⟩ ⟨x, line⟩ >>= pure = _
  rw [h]
  rfl

/-- A list in parentheses is the shape of what stands in it. -/
theorem ReadsAll.shape {xs : List Lexeme} {ps : List Pattern} (h : ReadsAll xs ps) :
    Reads (.opening :: (xs ++ [.closing])) (.shape ps) := by
  intro ts hts stack last
  obtain ⟨first, body, rfl, hbody⟩ := exists_cons_of_lexemes hts
  obtain ⟨us, final, rfl, hus⟩ := exists_append_of_lexemes hbody
  obtain ⟨qs, hqs, hfold⟩ := h us hus (.shape first [] :: stack) last
  refine ⟨.shape qs, by rw [unlined_shape, unlined_shape, hqs], ?_⟩
  show (us ++ [_]).foldlM step ⟨.form, .shape first [] :: stack, last⟩ = _
  rw [List.foldlM_append, hfold, foldl_push, Open.adding, List.append_nil]
  show Except.ok (push _ (.shape (List.reverse (List.reverse qs)))) = _
  rw [List.reverse_reverse]

theorem step_closeBracket {name : String} {args : List Pattern} {line : Nat} {q : Pattern}
    (h : ofCommand name args.reverse line = .ok q) (rest : List Open) (last : Option Pattern)
    (l : Nat) : step ⟨.form, .command line name args :: rest, last⟩ ⟨.closeBracket, l⟩ =
      .ok (push ⟨.form, rest, last⟩ q) := by
  show (ofCommand name args.reverse line >>= fun q => pure (push ⟨.form, rest, last⟩ q)) = _
  rw [h]
  rfl

/-- A command is what it makes of its arguments. -/
theorem ReadsAll.command {name : String} (hname : name ≠ "t") {xs : List Lexeme}
    {ps : List Pattern} {p : Pattern} (h : ReadsAll xs ps)
    (hcommand : ∀ line qs, qs.map unlined = ps.map unlined →
      ∃ q : Pattern, ofCommand name qs line = .ok q ∧ q.unlined = p.unlined) :
    Reads (commandLexemes name xs) p := by
  intro ts hts stack last
  obtain ⟨first, named, rfl, hnamed⟩ := exists_cons_of_lexemes hts
  obtain ⟨second, body, rfl, hbody⟩ := exists_cons_of_lexemes hnamed
  obtain ⟨us, final, rfl, hus⟩ := exists_append_of_lexemes hbody
  obtain ⟨qs, hqs, hfold⟩ := h us hus (.command first name [] :: stack) last
  obtain ⟨q, hq, hunlined⟩ := hcommand first qs hqs
  refine ⟨q, hunlined, ?_⟩
  have hopen : step ⟨.commandName first, stack, last⟩ ⟨.word name, second⟩ =
      .ok ⟨.form, .command first name [] :: stack, last⟩ := if_neg hname
  show (do
    let s ← step ⟨.commandName first, stack, last⟩ ⟨.word name, second⟩
    (us ++ [_]).foldlM step s) = _
  rw [hopen]
  show (us ++ [_]).foldlM step ⟨.form, .command first name [] :: stack, last⟩ = _
  rw [List.foldlM_append, hfold, foldl_push, Open.adding, List.append_nil]
  rw [← List.reverse_reverse qs] at hq
  show step ⟨.form, .command first name qs.reverse :: stack, last⟩ ⟨.closeBracket, final⟩ >>=
    pure = _
  rw [step_closeBracket hq]
  rfl

/-- A command with one argument that it wraps. -/
theorem Reads.command₁ {name : String} (hname : name ≠ "t") {xs : List Lexeme} {p : Pattern}
    (h : Reads xs p) {f : Pattern → Pattern} (hf : ∀ q line, ofCommand name [q] line = .ok (f q))
    (hunlined : ∀ q, (f q).unlined = f q.unlined) : Reads (commandLexemes name xs) (f p) := by
  refine h.single.command hname fun line qs hqs => ?_
  obtain ⟨q, rfl, hq⟩ := List.map_eq_singleton_iff.mp hqs
  exact ⟨f q, hf q line, by rw [hunlined, hunlined, hq]⟩

/-! ## Data and regular expressions -/

/-- Words of atoms that only a word spells are no patterns of their own. -/
theorem ofWord_of_isWordAtom {w : String} (h : (Datum.ofWord w).isWordAtom = true) :
    ofWord w = .equals (Datum.ofWord w) := by
  have hwild : w ≠ "_" := by
    rintro rfl
    cases h
  have hremaining : w ≠ "___" := by
    rintro rfl
    cases h
  rw [ofWord, if_neg hwild, if_neg hremaining]

theorem reads_word {w : String} {d : Datum} (hword : Datum.ofWord w = d)
    (h : d.isWordAtom = true) : Reads [.word w] (.equals d) := by
  subst hword
  refine Reads.token fun s line => ?_
  show Except.ok (s.push (ofWord w)) = _
  rw [ofWord_of_isWordAtom h]

mutual
/-- The tokens of a datum are read as its structural form. -/
theorem reads_datum (d : Datum) (h : d.isFinite = true) :
    Reads (d.lexemes isBareLiteral) d.structural := by
  cases d with
  | str s => exact Reads.token fun _ _ => rfl
  | sym name =>
    rw [Datum.lexemes]
    split
    · next hbare =>
      obtain ⟨-, hsym, hwild, hremaining⟩ := isBareLiteral_spec hbare
      refine Reads.token fun s line => ?_
      show Except.ok (s.push (ofWord name)) = _
      rw [ofWord, if_neg hwild, if_neg hremaining, hsym]
      rfl
    · exact Reads.token fun _ _ => rfl
  | list line slots => exact (readsAll_slots slots h).shape
  | _ => exact reads_word (ofWord_sourceChars rfl h) rfl
termination_by structural d

theorem readsAll_slots (ds : List Datum) (h : Datum.slotsFinite ds = true) :
    ReadsAll (Datum.slotsLexemes isBareLiteral ds) (Datum.slotsStructural ds) := by
  cases ds with
  | nil => exact ReadsAll.nil
  | cons d ds =>
    rw [Datum.slotsFinite, Bool.and_eq_true] at h
    exact (reads_datum d h.1).cons (readsAll_slots ds h.2)
termination_by structural ds
end

/-- A tag is read with its lines taken from the text. -/
theorem reads_tagged (tag : Datum) (h : tag.isFinite = true) :
    Reads (commandLexemes "t" (tag.lexemes isBareLiteral)) (.tagged tag) := by
  intro ts hts stack last
  obtain ⟨first, named, rfl, hnamed⟩ := exists_cons_of_lexemes hts
  obtain ⟨second, body, rfl, hbody⟩ := exists_cons_of_lexemes hnamed
  obtain ⟨us, final, rfl, hus⟩ := exists_append_of_lexemes hbody
  obtain ⟨e, he, hfold⟩ := foldlM_tagLexemes tag h hus first [] stack last
  refine ⟨.tagged e, congrArg tagged he, ?_⟩
  show (us ++ [_]).foldlM step ⟨.tag first [], stack, last⟩ = _
  rw [List.foldlM_append, hfold]
  rfl

theorem ofSource?_source (re : TextPattern) : TextPattern.ofSource? re.source = some re := by
  obtain ⟨source, regex, compiled⟩ := re
  rw [TextPattern.ofSource?]
  split
  · next regex' h =>
    cases compiled.symm.trans h
    rfl
  · next h => cases compiled.symm.trans h

theorem ofSource_source (re : TextPattern) : TextPattern.ofSource re.source = .ok re := by
  rw [TextPattern.ofSource, ofSource?_source]

theorem reads_regex (re : TextPattern) : Reads [.regex re.source] (.text re) := by
  refine Reads.token fun s line => ?_
  show (TextPattern.ofSource re.source >>= fun re => pure (s.push (.text re))) = _
  rw [ofSource_source]
  rfl

/-! ## Gaps -/

theorem gap?_unlined (p : Pattern) : gap? p.unlined = gap? p := by
  cases p with
  | equals d => cases d <;> rfl
  | _ => rfl

/-- A gap that is written out is a word for it. -/
theorem ofWord_gap {gap : Nat} (h : (gap : Int) ≤ Int64.maxValue.toInt) :
    ∃ n : Int64, n.toInt = gap ∧ Datum.ofWord (Decimal.text gap) = .int n := by
  have hmax : Int64.maxValue.toInt = 9223372036854775807 := rfl
  have hn : (Int64.ofInt gap).toInt = gap :=
    Int64.toInt_ofInt_of_le (by omega) (by omega)
  have hdigits : Decimal.signedDigits (Int64.ofInt gap).toInt = Decimal.digits gap := by
    rw [hn, Decimal.signedDigits_natCast]
  refine ⟨Int64.ofInt gap, hn, ?_⟩
  rw [Decimal.text, ← hdigits]
  exact Datum.ofWord_of_number? (Datum.number?_signedDigits _)

/-! ## Reading patterns -/

mutual
/-- The tokens of a pattern are read as its structural form. -/
theorem reads_lexemes (p : Pattern) (h : p.isWritable = true) : Reads p.lexemes p.structural := by
  cases p with
  | wild => exact Reads.token fun _ _ => rfl
  | remaining => exact Reads.token fun _ _ => rfl
  | atom =>
    refine ReadsAll.nil.command (by decide) fun line qs hqs => ?_
    rw [List.map_eq_nil_iff.mp hqs]
    exact ⟨.atom, rfl, rfl⟩
  | tagged tag => exact reads_tagged tag h
  | text re =>
    rw [isWritable, Bool.and_eq_true, Bool.not_eq_true', Bool.not_eq_true'] at h
    rw [lexemes, regexText_of_not_escapesSlash false _ h.1 h.2, if_neg Bool.false_ne_true,
      String.ofList_toList]
    -- a pattern that is equal to a regular expression apart from lines is that expression
    refine (reads_regex re).single.command (by decide) fun line qs hqs => ?_
    obtain ⟨q, rfl, hq⟩ := List.map_eq_singleton_iff.mp hqs
    cases q <;> cases hq
    exact ⟨.text re, rfl, rfl⟩
  | includes inner =>
    exact (reads_lexemes inner h).command₁ (f := includes) (by decide) (fun _ _ => rfl) fun _ => rfl
  | within inner =>
    exact (reads_lexemes inner h).command₁ (f := within) (by decide) (fun _ _ => rfl) fun _ => rfl
  | not inner =>
    exact (reads_lexemes inner h).command₁ (f := Pattern.not) (by decide) (fun _ _ => rfl) fun _ => rfl
  | sibling subject follower gap =>
    rw [isWritable, Bool.and_eq_true, Bool.and_eq_true, decide_eq_true_eq] at h
    obtain ⟨⟨hsubject, hfollower⟩, hpositive, hbound⟩ := h
    have hfirst := reads_lexemes subject hsubject
    have hsecond := reads_lexemes follower hfollower
    rw [lexemes, gapLexemes]
    split
    · next hgap =>
      refine (hfirst.cons (hsecond.cons ReadsAll.nil)).command (by decide) fun line qs hqs => ?_
      obtain ⟨q₁, qs, rfl, hq₁, hqs⟩ := List.map_eq_cons_iff.mp hqs
      obtain ⟨q₂, rfl, hq₂⟩ := List.map_eq_singleton_iff.mp hqs
      refine ⟨.sibling q₁ q₂ 1, rfl, ?_⟩
      show sibling q₁.unlined q₂.unlined 1 = sibling _ _ gap
      rw [hq₁, hq₂, hgap]
      rfl
    · next hgap =>
      -- the gap is read as a pattern first, and the command takes the integer out of it
      obtain ⟨n, hn, hword⟩ := ofWord_gap hbound
      have hthird := (reads_word hword rfl).single
      refine (hfirst.cons (hsecond.cons hthird)).command (by decide) fun line qs hqs => ?_
      obtain ⟨q₁, qs, rfl, hq₁, hqs⟩ := List.map_eq_cons_iff.mp hqs
      obtain ⟨q₂, qs, rfl, hq₂, hqs⟩ := List.map_eq_cons_iff.mp hqs
      obtain ⟨q₃, rfl, hq₃⟩ := List.map_eq_singleton_iff.mp hqs
      have hspelled : gap? q₃ = some gap := by
        rw [← gap?_unlined, hq₃, gap?_unlined]
        show (if 1 ≤ n.toInt then some n.toInt.toNat else none) = some gap
        rw [hn, if_pos (by omega), Int.toNat_natCast]
      refine ⟨.sibling q₁ q₂ gap, (IsCommand.sibling q₁ q₂ hspelled).ofCommand_eq line, ?_⟩
      show sibling q₁.unlined q₂.unlined gap = sibling _ _ gap
      rw [hq₁, hq₂]
      rfl
  | any options =>
    refine (readsAll_lexemes options h).command (by decide) fun line qs hqs => ?_
    refine ⟨.any qs, rfl, ?_⟩
    rw [unlined_any, hqs]
    exact (unlined_any _).symm
  | all required =>
    refine (readsAll_lexemes required h).command (by decide) fun line qs hqs => ?_
    refine ⟨.all qs, rfl, ?_⟩
    rw [unlined_all, hqs]
    exact (unlined_all _).symm
  | shape elements => exact (readsAll_lexemes elements h).shape
  | equals value => exact reads_datum value h
termination_by structural p

theorem readsAll_lexemes (ps : List Pattern) (h : listWritable ps = true) :
    ReadsAll (listLexemes ps) (listMapData id Datum.structural ps) := by
  cases ps with
  | nil => exact ReadsAll.nil
  | cons p ps =>
    rw [listWritable, Bool.and_eq_true] at h
    exact (reads_lexemes p h.1).cons (readsAll_lexemes ps h.2)
termination_by structural ps
end

/-- **Pattern text.** A pattern that text can hold is read back as its structural form,
but for the lines of its data. What is read is satisfied by the same data and nodes as
the pattern and is written as the same text. -/
theorem parse_source (p : Pattern) (h : p.isWritable = true) :
    ∃ q, parse p.source = .ok (some q) ∧ q.unlined = p.structural.unlined ∧
      (∀ d, q.satisfies d = p.satisfies d) ∧ (∀ n, q.satisfiesNode n = p.satisfiesNode n) ∧
      q.source = p.source := by
  obtain ⟨ts, htokens, hts⟩ := exists_tokenize_source p (isClosed_of_isWritable p h)
  obtain ⟨q, hq, hfold⟩ := reads_lexemes p h ts hts [] none
  have hparse : parse p.source = .ok (some q) := by
    rw [parse, htokens]
    show (ts.foldlM step start >>= Parser.finish) = _
    rw [start, hfold]
    rfl
  have hsatisfies : q.satisfies = p.satisfies :=
    (satisfies_eq_of_unlined_eq hq).trans (satisfies_mapData keepsMeaning_structural p)
  have hsource : q.sourceChars = p.sourceChars :=
    (sourceChars_eq_of_unlined_eq hq).trans (sourceChars_mapData keepsText_structural p)
  refine ⟨q, hparse, hq, fun d => ?_, fun n => ?_, ?_⟩
  · rw [hsatisfies]
  · rw [satisfiesNode, satisfiesNode, hsatisfies]
  · rw [source, source, hsource]

/-- A gap, a regular expression with a slash, and names that pattern text has to quote. -/
theorem parse_source_quoted_names :
    ∃ re : TextPattern, re.source = "a/b" ∧
      let p : Pattern := .sibling (.any [.text re, .equals (.list (some 7) [.sym "_", .int 5])])
        (.not (.tagged (.list none [.sym "a b"]))) 2
      p.isWritable = true ∧
        ∃ q, parse p.source = .ok (some q) ∧ q.unlined = p.structural.unlined ∧
          (∀ d, q.satisfies d = p.satisfies d) ∧ (∀ n, q.satisfiesNode n = p.satisfiesNode n) ∧
          q.source = p.source := by
  have hcompiles : (Regex.compile? "a/b").isSome = true := by decide +kernel
  obtain ⟨regex, hregex⟩ := Option.isSome_iff_exists.mp hcompiles
  refine ⟨⟨"a/b", regex, hregex⟩, rfl, ?_⟩
  intro p
  have hwritable : p.isWritable = true := by
    have hgap : (2 : Int) ≤ Int64.maxValue.toInt := by decide
    simp [p, isWritable, listWritable, escapesSlash, escapedAfter, Datum.isFinite,
      Datum.slotsFinite, hgap]
  exact ⟨hwritable, parse_source p hwritable⟩

end SexprQuery.Pattern
