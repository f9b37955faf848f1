import SexprQuery.Proofs.DataText
import SexprQuery.Proofs.LineBlindness
import SexprQuery.Proofs.PatternSplit

/-!
# Texts one below the other

A line break between two texts keeps them apart: it ends a word or a comment, and in a
text that is complete no literal is open. So the tokens of the whole are those of the
upper text and then those of the lower one, `1 + n` lines further down, where `n` is the
number of line breaks in the upper text (`tokenize_append`).

The reader and the parser do the same on tokens that stand further down, behind forms that
are finished (`Reader.step_below`, `Parser.step_below`): the lines are other ones, the
finished forms stay in front, and nothing else is different.
-/

namespace SexprQuery

/-! ## Further down -/

namespace Datum

mutual
/-- A datum as if it had been read `k` lines further down. -/
def lowered (k : Nat) : Datum → Datum
  | .list line slots => .list (line.map (· + k)) (slotsLowered k slots)
  | d => d
termination_by structural d => d

/-- The same for a row of slots. -/
def slotsLowered (k : Nat) : List Datum → List Datum
  | [] => []
  | d :: ds => d.lowered k :: slotsLowered k ds
termination_by structural ds => ds
end

theorem slotsLowered_eq_map (k : Nat) (ds : List Datum) :
    slotsLowered k ds = ds.map (lowered k) := by
  induction ds with
  | nil => rfl
  | cons d ds ih => rw [slotsLowered, ih, List.map_cons]

theorem lowered_of_atom (k : Nat) {d : Datum} (h : d.isList = false) : d.lowered k = d := by
  cases d with
  | list => cases h
  | _ => rfl

theorem lowered_ofWord (k : Nat) (word : String) : (ofWord word).lowered k = ofWord word :=
  lowered_of_atom k (isList_ofWord word)

/-- No word spells a NaN. -/
theorem beq_self_ofWord (word : String) : Datum.beq (ofWord word) (ofWord word) = true := by
  have hnan : (ofWord word).hasNan = false := by
    cases hword : ofWord word with
    | float x =>
      cases x with
      | nan => exact absurd hword (ofWord_ne_nan word)
      | _ => rfl
    | list line slots =>
      have hatom := isList_ofWord word
      rw [hword] at hatom
      cases hatom
    | _ => rfl
  rw [beq_self_eq, hnan]
  rfl

/-- A list that was opened on a line, with its slots latest first. -/
theorem lowered_list (k line : Nat) (slots : List Datum) :
    (list (some line) slots.reverse).lowered k =
      .list (some (line + k)) (slots.map (lowered k)).reverse := by
  rw [lowered, slotsLowered_eq_map, List.map_reverse]
  rfl

mutual
/-- Only lines are different. -/
theorem unlined_lowered (k : Nat) (d : Datum) : (d.lowered k).unlined = d.unlined := by
  cases d with
  | list line slots => rw [lowered, unlined, unlined, slotsUnlined_lowered k slots]
  | _ => rfl
termination_by structural d

theorem slotsUnlined_lowered (k : Nat) (ds : List Datum) :
    slotsUnlined (slotsLowered k ds) = slotsUnlined ds := by
  cases ds with
  | nil => rfl
  | cons d ds =>
    rw [slotsLowered, slotsUnlined, slotsUnlined, unlined_lowered k d, slotsUnlined_lowered k ds]
termination_by structural ds
end

end Datum

/-- A token as if it stood `k` lines further down. -/
def Token.lowered (k : Nat) (t : Token) : Token := { t with line := t.line + k }

/-! ## Scanning -/

/-- What a scanner is in the middle of, `k` lines further down. -/
def Scan.lowered (k : Nat) : Scan → Scan
  | .between => .between
  | .comment => .comment
  | .hash line => .hash (line + k)
  | .word line seen => .word (line + k) seen
  | .quoted symbol escaped line seen => .quoted symbol escaped (line + k) seen
  | .regex escaped line seen => .regex escaped (line + k) seen

namespace Scanner

/-- A scanner that has started `k` lines further down. -/
def lowered (k : Nat) (s : Scanner) : Scanner :=
  ⟨s.line + k, s.tokens.map (Token.lowered k), s.scan.lowered k⟩

theorem stepBetween_lowered (kind : TextKind) (k : Nat) (s : Scanner) (c : Char) :
    (s.lowered k).stepBetween kind c = (s.stepBetween kind c).lowered k := by
  simp only [stepBetween, apply_ite (lowered k)]
  rfl

theorem stepWord_lowered (kind : TextKind) (k : Nat) (s : Scanner) (line : Nat) (seen : List Char)
    (c : Char) :
    (s.lowered k).stepWord kind (line + k) seen c = (s.stepWord kind line seen c).lowered k := by
  have hemit := stepBetween_lowered kind k (s.emit (.word (collected seen)) line) c
  simp only [stepWord, apply_ite (lowered k), ← hemit]
  rfl

theorem step_lowered (kind : TextKind) (k : Nat) (s : Scanner) (c : Char) :
    step kind (s.lowered k) c = (step kind s c).lowered k := by
  have hscan : (s.lowered k).stepScan kind c = (s.stepScan kind c).lowered k := by
    obtain ⟨line, tokens, scan⟩ := s
    cases scan with
    | between => exact stepBetween_lowered kind k _ c
    | word l seen => exact stepWord_lowered kind k ⟨line, tokens, .word l seen⟩ l seen c
    | hash l =>
      have hword := stepWord_lowered kind k ⟨line, tokens, .hash l⟩ l ['#'] c
      simp only [stepScan, apply_ite (lowered k), ← hword]
      rfl
    | comment =>
      simp only [stepScan, apply_ite (lowered k)]
      rfl
    | quoted symbol escaped l seen =>
      cases escaped with
      | true => rfl
      | false =>
        simp only [stepScan, apply_ite (lowered k)]
        rfl
    | regex escaped l seen =>
      cases escaped with
      | true => rfl
      | false =>
        simp only [stepScan, apply_ite (lowered k)]
        rfl
  unfold step
  rw [hscan]
  split
  · simp only [lowered, Nat.add_right_comm _ k 1]
  · rfl

theorem foldl_lowered (kind : TextKind) (k : Nat) (s : Scanner) (cs : List Char) :
    cs.foldl (step kind) (s.lowered k) = (cs.foldl (step kind) s).lowered k := by
  induction cs generalizing s with
  | nil => rfl
  | cons c cs ih => rw [List.foldl_cons, List.foldl_cons, step_lowered, ih]

theorem finish_lowered {s : Scanner} {ts : List Token} (h : s.finish = .ok ts) (k : Nat) :
    (s.lowered k).finish = .ok (ts.map (Token.lowered k)) := by
  obtain ⟨line, tokens, scan⟩ := s
  cases scan
  all_goals cases h
  all_goals simp [lowered, Scan.lowered, finish, emit, Token.lowered, List.map_reverse]

/-- Only a line break starts a line. -/
theorem line_step (kind : TextKind) (s : Scanner) (c : Char) :
    (step kind s c).line = if c = '\n' then s.line + 1 else s.line := by
  have hbetween : ∀ s : Scanner, (s.stepBetween kind c).line = s.line := by
    intro s
    simp only [stepBetween, apply_ite Scanner.line, emit, ite_self]
  have hscan : (s.stepScan kind c).line = s.line := by
    obtain ⟨line, tokens, scan⟩ := s
    cases scan with
    | quoted symbol escaped l seen | regex escaped l seen =>
      cases escaped <;> simp only [stepScan, apply_ite Scanner.line, emit, ite_self]
    | _ =>
      simp only [stepScan, stepWord, apply_ite Scanner.line, hbetween, emit, ite_self]
  rw [step, ← hscan]
  split <;> rfl

/-- The line that a scanner reaches is told by the line breaks. -/
theorem line_foldl (kind : TextKind) (s : Scanner) (cs : List Char) :
    (cs.foldl (step kind) s).line = s.line + cs.count '\n' := by
  induction cs generalizing s with
  | nil => rfl
  | cons c cs ih =>
    rw [List.foldl_cons, ih, line_step, List.count_cons]
    by_cases hc : c = '\n'
    · simp only [hc, if_true, beq_self_eq_true]
      omega
    · simp only [hc, if_false, beq_iff_eq, Nat.add_zero]

/-- Where a text may end, a line break leaves the scanner between two tokens. -/
theorem step_newline {s : Scanner} {ts : List Token} (h : s.finish = .ok ts) (kind : TextKind) :
    step kind s '\n' = ⟨s.line + 1, ts.reverse, .between⟩ := by
  obtain ⟨line, tokens, scan⟩ := s
  cases scan
  all_goals cases h
  all_goals rw [List.reverse_reverse]
  all_goals rfl

end Scanner

open Scanner

/-- The tokens of two texts one below the other: those of the lower one stand further
down. -/
theorem tokenize_append {kind : TextKind} {u w : List Char} {ts us : List Token}
    (hu : tokenize kind u = .ok ts) (hw : tokenize kind w = .ok us) :
    tokenize kind (u ++ '\n' :: w) = .ok (ts ++ us.map (Token.lowered (1 + u.count '\n'))) := by
  have hline : (u.foldl (step kind) Scanner.start).line = 1 + u.count '\n' := line_foldl kind _ u
  have hbreak := step_newline hu kind
  rw [hline, Nat.add_comm _ 1] at hbreak
  rw [tokenize, List.foldl_append, List.foldl_cons, hbreak, finish_foldl_withTokens,
    List.reverse_reverse]
  have hstart : (⟨1 + (1 + u.count '\n'), [], .between⟩ : Scanner) =
      Scanner.start.lowered (1 + u.count '\n') := rfl
  rw [hstart, foldl_lowered, finish_lowered hw]
  rfl

/-! ## Runs that are moved -/

/-- Where every step that succeeds also succeeds moved, so does every run. -/
theorem foldlM_map_eq_ok {ε σ τ : Type} {step : σ → τ → Except ε σ} {moved : σ → σ} {move : τ → τ}
    (hstep : ∀ {s t s'}, step s t = .ok s' → step (moved s) (move t) = .ok (moved s')) {ts : List τ}
    {s s' : σ} (h : ts.foldlM step s = .ok s') :
    (ts.map move).foldlM step (moved s) = .ok (moved s') := by
  induction ts generalizing s with
  | nil => cases h; rfl
  | cons t ts ih =>
    rw [List.foldlM_cons] at h
    obtain ⟨mid, hfirst, hrest⟩ := exists_of_bind_eq_ok h
    rw [List.map_cons, List.foldlM_cons, hstep hfirst]
    exact ih hrest

/-! ## Reading data -/

namespace Reader

/-- A reader `k` lines further down, behind forms that are done, latest first. -/
def below (k : Nat) (done : List Datum) (r : Reader) : Reader :=
  ⟨r.stack.map fun o => ⟨o.line + k, o.slots.map (Datum.lowered k)⟩,
    r.forms.map (Datum.lowered k) ++ done⟩

theorem push_below (k : Nat) (done : List Datum) (r : Reader) (d : Datum) :
    (r.below k done).push (d.lowered k) = (r.push d).below k done := by
  obtain ⟨stack, forms⟩ := r
  cases stack <;> rfl

/-- A token has the same effect there. -/
theorem step_below {r r' : Reader} {t : Token} (h : r.step t = .ok r') (k : Nat)
    (done : List Datum) : (r.below k done).step (t.lowered k) = .ok (r'.below k done) := by
  obtain ⟨lexeme, line⟩ := t
  cases lexeme with
  | opening => cases h; rfl
  | closing =>
    obtain ⟨stack, forms⟩ := r
    cases stack with
    | nil => cases h
    | cons top rest =>
      cases h
      rw [← push_below, Datum.lowered_list]
      rfl
  | word w =>
    cases h
    rw [← push_below, Datum.lowered_ofWord]
    rfl
  | str s | sym s =>
    cases h
    rw [← push_below]
    rfl
  | _ => cases h

theorem foldlM_below {ts : List Token} {r r' : Reader} (h : ts.foldlM step r = .ok r') (k : Nat)
    (done : List Datum) :
    (ts.map (Token.lowered k)).foldlM step (r.below k done) = .ok (r'.below k done) :=
  foldlM_map_eq_ok (fun hstep => step_below hstep k done) h

/-- Where the tokens of a text end, no list is open. -/
theorem eq_of_finish {r : Reader} {forms : List Datum} (h : r.finish = .ok forms) :
    r = ⟨[], forms.reverse⟩ := by
  obtain ⟨stack, done⟩ := r
  cases stack with
  | nil => cases h; rw [List.reverse_reverse]
  | cons => cases h

end Reader

/-- The forms of tokens behind other ones: those further down have other lines. -/
theorem readTokens_append {ts us : List Token} {a b : List Datum} (hts : readTokens ts = .ok a)
    (hus : readTokens us = .ok b) (k : Nat) :
    readTokens (ts ++ us.map (Token.lowered k)) = .ok (a ++ b.map (Datum.lowered k)) := by
  obtain ⟨r, hr, hrest⟩ := exists_of_bind_eq_ok hts
  obtain ⟨r', hr', hrest'⟩ := exists_of_bind_eq_ok hus
  obtain rfl := Reader.eq_of_finish hrest
  obtain rfl := Reader.eq_of_finish hrest'
  have hbelow := Reader.foldlM_below hr' k a.reverse
  rw [show Reader.start.below k a.reverse = ⟨[], a.reverse⟩ from rfl] at hbelow
  rw [readTokens, List.foldlM_append, hr]
  show ((us.map (Token.lowered k)).foldlM Reader.step ⟨[], a.reverse⟩ >>= Reader.finish) = _
  rw [hbelow]
  show Except.ok (b.reverse.map (Datum.lowered k) ++ a.reverse).reverse = _
  rw [List.reverse_append, List.reverse_reverse, List.map_reverse, List.reverse_reverse]

/-! ## Reading patterns -/

namespace Pattern

/-- A pattern as if it had been read `k` lines further down. -/
def lowered (k : Nat) (p : Pattern) : Pattern :=
  p.mapData (Datum.lowered k) fun value => .equals (value.lowered k)

theorem lowered_equals (k : Nat) (value : Datum) :
    (equals value).lowered k = .equals (value.lowered k) := rfl

theorem lowered_ofWord (k : Nat) (word : String) : (ofWord word).lowered k = ofWord word := by
  unfold ofWord
  split
  · rfl
  split
  · rfl
  · rw [lowered_equals, Datum.lowered_ofWord]

/-- A gap has no line. -/
theorem gap?_lowered (k : Nat) (p : Pattern) : gap? (p.lowered k) = gap? p := by
  cases p with
  | equals value => cases value <;> rfl
  | _ => rfl

theorem lowered_any (k : Nat) (ps : List Pattern) :
    (any ps).lowered k = .any (ps.map (lowered k)) := congrArg any (listMapData_eq_map _ _ ps)

theorem lowered_all (k : Nat) (ps : List Pattern) :
    (all ps).lowered k = .all (ps.map (lowered k)) := congrArg all (listMapData_eq_map _ _ ps)

theorem lowered_shape (k : Nat) (ps : List Pattern) :
    (shape ps).lowered k = .shape (ps.map (lowered k)) :=
  congrArg shape (listMapData_eq_map _ _ ps)

theorem IsCommand.lowered {name : String} {args : List Pattern} {p : Pattern}
    (h : IsCommand name args p) (k : Nat) :
    IsCommand name (args.map (Pattern.lowered k)) (p.lowered k) := by
  cases h with
  | atom => exact .atom
  | text re => exact .text re
  | exact hatom hre =>
    -- an atom has no line, so its text is the same
    rw [List.map_cons, List.map_nil, lowered_equals, Datum.lowered_of_atom k hatom]
    exact .exact hatom hre
  | not hname p => exact .not hname _
  | within p => exact .within _
  | includes p => exact .includes _
  | any ps =>
    rw [lowered_any]
    exact .any _
  | all ps =>
    rw [lowered_all]
    exact .all _
  | before p q => exact .before _ _
  | sibling p q hgap => exact .sibling _ _ ((gap?_lowered k _).trans hgap)

/-- A command further down is the command of its arguments further down. -/
theorem ofCommand_lowered {name : String} {args : List Pattern} {line : Nat} {p : Pattern}
    (h : ofCommand name args line = .ok p) (k l : Nat) :
    ofCommand name (args.map (lowered k)) l = .ok (p.lowered k) :=
  ((ofCommand_eq_ok_iff.mp h).lowered k).ofCommand_eq l

/-- What is open, `k` lines further down. -/
def Open.lowered (k : Nat) : Open → Open
  | .shape line elements => .shape (line + k) (elements.map (Pattern.lowered k))
  | .command line name args => .command (line + k) name (args.map (Pattern.lowered k))

/-- What the next token is read as, `k` lines further down. -/
def Stage.lowered (k : Nat) : Stage → Stage
  | .form => .form
  | .commandName line => .commandName (line + k)
  | .tag line lists => .tag (line + k) (lists.map fun o => (o.1 + k, o.2.map (Datum.lowered k)))
  | .tagEnd line d => .tagEnd (line + k) (d.lowered k)

namespace Parser

/-- A parser `k` lines further down, where another form may have been read before. -/
def below (k : Nat) (before : Option Pattern) (s : Parser) : Parser :=
  ⟨s.stage.lowered k, s.stack.map (Open.lowered k), (s.last.map (Pattern.lowered k)).or before⟩

variable {s s' : Parser} {t : Token}

theorem push_below (k : Nat) (before : Option Pattern) (s : Parser) (p : Pattern) :
    (s.below k before).push (p.lowered k) = (s.push p).below k before := by
  obtain ⟨stage, stack, last⟩ := s
  match stack with
  | [] => rfl
  | .shape _ _ :: _ => rfl
  | .command _ _ _ :: _ => rfl

theorem stepForm_below (hstage : s.stage = .form) (h : s.stepForm t = .ok s') (k : Nat)
    (before : Option Pattern) :
    (s.below k before).stepForm (t.lowered k) = .ok (s'.below k before) := by
  obtain ⟨lexeme, line⟩ := t
  obtain ⟨stage, stack, last⟩ := s
  cases hstage
  cases lexeme with
  | opening | openBracket => cases h; rfl
  | closing =>
    match stack, h with
    | .shape l elements :: rest, h =>
      cases h
      rw [← push_below, lowered_shape, List.map_reverse]
      rfl
    | [], h => cases h
    | .command _ _ _ :: _, h => cases h
  | closeBracket =>
    match stack, h with
    | .command l name args :: rest, h =>
      obtain ⟨p, hp, h⟩ := exists_of_bind_eq_ok h
      cases h
      have hlowered := ofCommand_lowered hp k (l + k)
      rw [List.map_reverse] at hlowered
      rw [← push_below]
      show (ofCommand name (args.map (Pattern.lowered k)).reverse (l + k) >>= _) = _
      rw [hlowered]
      rfl
    | [], h => cases h
    | .shape _ _ :: _, h => cases h
  | word w =>
    cases h
    rw [← push_below, lowered_ofWord]
    rfl
  | str s | sym s =>
    cases h
    rw [← push_below]
    rfl
  | regex source =>
    obtain ⟨re, hre, h⟩ := exists_of_bind_eq_ok h
    cases h
    rw [← push_below]
    show (TextPattern.ofSource source >>= _) = _
    rw [hre]
    rfl

theorem pushDatum_below (k : Nat) (before : Option Pattern) (s : Parser) (line : Nat)
    (lists : List (Nat × List Datum)) (d : Datum) :
    (s.below k before).pushDatum (line + k)
        (lists.map fun o => (o.1 + k, o.2.map (Datum.lowered k))) (d.lowered k) =
      (s.pushDatum line lists d).below k before := by
  cases lists <;> rfl

theorem stepTag_below {line : Nat} {lists : List (Nat × List Datum)}
    (h : s.stepTag line lists t = .ok s') (k : Nat) (before : Option Pattern) :
    (s.below k before).stepTag (line + k)
        (lists.map fun o => (o.1 + k, o.2.map (Datum.lowered k))) (t.lowered k) =
      .ok (s'.below k before) := by
  obtain ⟨lexeme, l⟩ := t
  cases lexeme with
  | opening => cases h; rfl
  | closing =>
    cases lists with
    | nil => cases h
    | cons top rest =>
      cases h
      rw [← pushDatum_below, Datum.lowered_list]
      rfl
  | word w =>
    cases h
    rw [← pushDatum_below, Datum.lowered_ofWord]
    rfl
  | str s | sym s =>
    cases h
    rw [← pushDatum_below]
    rfl
  | _ => cases h

/-- A token has the same effect there. -/
theorem step_below (h : s.step t = .ok s') (k : Nat) (before : Option Pattern) :
    (s.below k before).step (t.lowered k) = .ok (s'.below k before) := by
  have hlowered : (s.below k before).stage = s.stage.lowered k := rfl
  unfold step at h ⊢
  split at h
  · next hstage =>
    rw [hlowered, hstage]
    exact stepForm_below hstage h k before
  · next line hstage =>
    rw [hlowered, hstage]
    obtain ⟨lexeme, l⟩ := t
    cases lexeme with
    | word name =>
      rw [stepName] at h
      dsimp only at h
      split at h
      · next ht => cases h; exact if_pos ht
      · next ht => cases h; exact if_neg ht
    | _ => cases h
  · next line lists hstage =>
    rw [hlowered, hstage]
    exact stepTag_below h k before
  · next line tag hstage =>
    rw [hlowered, hstage]
    obtain ⟨lexeme, l⟩ := t
    cases lexeme with
    | closeBracket =>
      cases h
      rw [← push_below]
      rfl
    | _ => cases h

theorem foldlM_below {ts : List Token} (h : ts.foldlM step s = .ok s') (k : Nat)
    (before : Option Pattern) :
    (ts.map (Token.lowered k)).foldlM step (s.below k before) = .ok (s'.below k before) :=
  foldlM_map_eq_ok (fun hstep => step_below hstep k before) h

/-- Where the tokens of a text end, nothing is open. -/
theorem eq_of_finish {last : Option Pattern} (h : s.finish = .ok last) : s = ⟨.form, [], last⟩ := by
  obtain ⟨stage, stack, found⟩ := s
  match stage, stack, h with
  | .form, [], h => cases h; rfl
  | .form, .shape _ _ :: _, h => cases h
  | .form, .command _ _ _ :: _, h => cases h
  | .commandName _, _, h => cases h
  | .tag _ [], _, h => cases h
  | .tag _ (_ :: _), _, h => cases h
  | .tagEnd _ _, _, h => cases h

end Parser

/-- The last form of tokens behind other ones is that of the tokens further down, if they
hold one. -/
theorem ofTokens_append {ts us : List Token} {p q : Option Pattern} (hts : ofTokens ts = .ok p)
    (hus : ofTokens us = .ok q) (k : Nat) :
    ofTokens (ts ++ us.map (Token.lowered k)) = .ok ((q.map (lowered k)).or p) := by
  obtain ⟨s, hs, hrest⟩ := exists_of_bind_eq_ok hts
  obtain ⟨s', hs', hrest'⟩ := exists_of_bind_eq_ok hus
  obtain rfl := Parser.eq_of_finish hrest
  obtain rfl := Parser.eq_of_finish hrest'
  have hbelow := Parser.foldlM_below hs' k p
  rw [show Parser.start.below k p = ⟨.form, [], p⟩ from rfl] at hbelow
  rw [ofTokens, List.foldlM_append, hs]
  show ((us.map (Token.lowered k)).foldlM Parser.step ⟨.form, [], p⟩ >>= Parser.finish) = _
  rw [hbelow]
  rfl

/-! ## The same pattern -/

mutual
/-- A datum of a tag holds no NaN, so it equals itself further down. -/
theorem IsLiteral.lowered_beq {ts : List Token} {d : Datum} (h : IsLiteral ts d) (k : Nat) :
    Datum.beq (d.lowered k) d = true := by
  cases h with
  | word w l =>
    rw [Datum.lowered_ofWord]
    exact Datum.beq_self_ofWord w
  | str contents l => exact BEq.rfl (a := contents)
  | sym name l => exact BEq.rfl (a := name)
  | list hs l₁ l₂ => exact hs.lowered_beqSlots k

theorem AreLiterals.lowered_beqSlots {ts : List Token} {ds : List Datum} (h : AreLiterals ts ds)
    (k : Nat) : Datum.beqSlots (Datum.slotsLowered k ds) ds = true := by
  cases h with
  | nil => rfl
  | cons h hs =>
    rw [Datum.slotsLowered, Datum.beqSlots, h.lowered_beq k, hs.lowered_beqSlots k]
    rfl
end

theorem IsAtom.lowered_beq {t : Token} {d : Datum} (h : IsAtom t d) (k : Nat) :
    Datum.beq (d.lowered k) d = true := by
  rw [Datum.lowered_of_atom k h.isList_eq]
  cases h with
  | word _ _ _ => exact Datum.beq_self_ofWord _
  | str contents l => exact BEq.rfl (a := contents)
  | sym name l => exact BEq.rfl (a := name)

mutual
/-- A pattern that was read equals itself further down. -/
theorem IsForm.lowered_beq {ts : List Token} {p : Pattern} (h : IsForm ts p) (k : Nat) :
    Pattern.beq (p.lowered k) p = true := by
  cases h with
  | wild | remaining | atom => rfl
  | equals h => exact h.lowered_beq k
  | regex _ _ | text _ _ _ _ => exact BEq.rfl (a := TextPattern.source _)
  | tagged h _ _ _ => exact h.lowered_beq k
  | not _ h _ _ _ | within h _ _ _ | includes h _ _ _ => exact h.lowered_beq k
  | shape h _ _ | any h _ _ _ | all h _ _ _ => exact h.lowered_beqList k
  | before hp hq _ _ _ | sibling hp hq _ _ _ _ _ _ =>
    have hboth := Bool.and_eq_true_iff.mpr ⟨hp.lowered_beq k, hq.lowered_beq k⟩
    exact Bool.and_eq_true_iff.mpr ⟨hboth, BEq.rfl⟩

theorem AreForms.lowered_beqList {ts : List Token} {ps : List Pattern} (h : AreForms ts ps)
    (k : Nat) : Pattern.beqList (listMapData (Datum.lowered k) (fun v => .equals (v.lowered k)) ps)
      ps = true := by
  cases h with
  | nil => rfl
  | cons h hs => exact Bool.and_eq_true_iff.mpr ⟨h.lowered_beq k, hs.lowered_beqList k⟩
end

/-- Only lines are different. -/
theorem lowered_sameButLines (k : Nat) (p : Pattern) : (p.lowered k).SameButLines p := by
  have htags : Datum.unlined ∘ Datum.lowered k = Datum.unlined :=
    funext (Datum.unlined_lowered k)
  have hvalues : (fun value : Datum => (equals (value.lowered k)).mapData Datum.unlined
      fun value => .equals value.unlined) = fun value => .equals value.unlined :=
    funext fun value => congrArg equals (value.unlined_lowered k)
  rw [SameButLines, unlined, lowered, mapData_mapData, htags, hvalues]
  rfl

/-- What was read equals itself further down. -/
theorem lowered_beq_of_ofTokens {ts : List Token} {p : Pattern} (h : ofTokens ts = .ok (some p))
    (k : Nat) : (p.lowered k == p) = true := by
  rw [Descent.ofTokens_eq_program] at h
  obtain ⟨forms, ⟨hforms, -⟩, hlast⟩ := (program_eq_iff ts (some p)).mp h
  obtain ⟨f, hf, rfl⟩ := Option.map_eq_some_iff.mp hlast
  exact (hforms f (List.mem_of_getLast? hf)).lowered_beq k

/-- A text that is read has tokens. -/
theorem exists_tokens_of_parse {text : String} {p : Option Pattern} (h : parse text = .ok p) :
    ∃ ts, tokenize .pattern text.toList = .ok ts ∧ ofTokens ts = .ok p := by
  rw [parse] at h
  split at h
  · next ts hts => exact ⟨ts, hts, h⟩
  · cases h

end Pattern

/-! ## Whole texts -/

/-- A text that is read has tokens. -/
theorem exists_tokens_of_readAll {text : String} {forms : List Datum}
    (h : readAll text = .ok forms) :
    ∃ ts, tokenize .data text.toList = .ok ts ∧ readTokens ts = .ok forms := by
  rw [readAll] at h
  split at h
  · next ts hts => exact ⟨ts, hts, h⟩
  · cases h

/-- How many lines further down a text starts if it is put below another one. -/
def linesBelow (text : String) : Nat := 1 + text.toList.count '\n'

/-- **Texts one below the other.** Two texts that can be read are read together: as data,
into the forms of the upper one and then those of the lower one, and as a pattern, into
that of the lower one, or that of the upper one if the lower one holds no form. The lower
text starts `linesBelow` lines further down, and so does every node of its forms. Further
down a pattern is the same pattern: it is equal, it has one text and it is satisfied by the
same data. -/
theorem readAll_parse_append (u w : String) :
    (∀ a b, readAll u = .ok a → readAll w = .ok b →
      readAll (u ++ "\n" ++ w) = .ok (a ++ b.map (Datum.lowered (linesBelow u)))) ∧
    ∀ p q, Pattern.parse u = .ok p → Pattern.parse w = .ok q →
      Pattern.parse (u ++ "\n" ++ w) = .ok ((q.map (Pattern.lowered (linesBelow u))).or p) ∧
        ∀ r ∈ q, ∀ k, (r.lowered k == r) = true ∧ (r.lowered k).SameButLines r ∧
          (∀ d, (r.lowered k).satisfies d = r.satisfies d) ∧ (r.lowered k).source = r.source := by
  have hchars : (u ++ "\n" ++ w).toList = u.toList ++ '\n' :: w.toList := by simp
  constructor
  · intro a b hu hw
    obtain ⟨ts, hts, ha⟩ := exists_tokens_of_readAll hu
    obtain ⟨us, hus, hb⟩ := exists_tokens_of_readAll hw
    rw [readAll, hchars, tokenize_append hts hus]
    exact readTokens_append ha hb (linesBelow u)
  · intro p q hu hw
    obtain ⟨ts, hts, hp⟩ := Pattern.exists_tokens_of_parse hu
    obtain ⟨us, hus, hq⟩ := Pattern.exists_tokens_of_parse hw
    refine ⟨?_, ?_⟩
    · rw [Pattern.parse, hchars, tokenize_append hts hus]
      exact Pattern.ofTokens_append hp hq (linesBelow u)
    · rintro r ⟨⟩ k
      have hsame := r.lowered_sameButLines k
      refine ⟨Pattern.lowered_beq_of_ofTokens hq k, hsame, ?_, ?_⟩
      · intro d
        rw [Pattern.satisfies_eq_of_unlined_eq hsame]
      · rw [Pattern.source, Pattern.source, Pattern.sourceChars_eq_of_unlined_eq hsame]

/-- The upper text ends in a lone `#`, and the lower one starts with a comment. -/
theorem readAll_parse_append_lone_hash :
    readAll "(a\nb) #" = .ok [.list (some 1) [.sym "a", .sym "b"], .sym "#"] ∧
    readAll "; c\n(d)" = .ok [.list (some 2) [.sym "d"]] ∧
    readAll ("(a\nb) #" ++ "\n" ++ "; c\n(d)") =
      .ok [.list (some 1) [.sym "a", .sym "b"], .sym "#", .list (some 4) [.sym "d"]] ∧
    Pattern.parse "(a\nb) #" = .ok (some (.equals (.sym "#"))) ∧
    Pattern.parse "; c\n[t (d)]" = .ok (some (.tagged (.list (some 2) [.sym "d"]))) ∧
    Pattern.parse ("(a\nb) #" ++ "\n" ++ "; c\n[t (d)]") =
      .ok (some (.tagged (.list (some 4) [.sym "d"]))) := by
  have hu : readAll "(a\nb) #" = .ok [.list (some 1) [.sym "a", .sym "b"], .sym "#"] := by rfl
  have hw : readAll "; c\n(d)" = .ok [.list (some 2) [.sym "d"]] := by rfl
  have hp : Pattern.parse "(a\nb) #" = .ok (some (.equals (.sym "#"))) := by rfl
  have hq : Pattern.parse "; c\n[t (d)]" = .ok (some (.tagged (.list (some 2) [.sym "d"]))) := by
    rfl
  refine ⟨hu, hw, ?_, hp, hq, ?_⟩
  · exact (readAll_parse_append "(a\nb) #" "; c\n(d)").1 _ _ hu hw
  · exact ((readAll_parse_append "(a\nb) #" "; c\n[t (d)]").2 _ _ hp hq).1

end SexprQuery
