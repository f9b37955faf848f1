import SexprQuery.Proofs.PatternSplit
import SexprQuery.Proofs.RegexPieces

/-!
# Pattern text that is read back

The text of a pattern is read back as a pattern with the same text, provided that its gaps
are integers of 64 bits from 1 on; otherwise the text is refused (`parse_source_iff`). The
pattern that is read back is not the same one in general: an infinity comes back as a symbol,
a regular expression with its slashes bare, the shape of literals as a literal.

This leaves out the patterns with a regular expression that ends in a backslash of its own,
which can only be in a comment. Their closing slash is escaped: alone, such an expression is
read as one without an end (`parse_source_text_open`).
-/

namespace SexprQuery.Pattern

open Descent

/-! ## Data -/

/-- The word of an atom spells an atom that is written as the same word. -/
theorem literalChars_ofWord_sourceChars {d : Datum} (h : d.isWordAtom = true) :
    (Datum.ofWord (String.ofList d.sourceChars)).literalChars = d.sourceChars := by
  by_cases hfinite : d.isFinite = true
  · rw [ofWord_sourceChars h hfinite]
    cases d <;> first | rfl | cases h
  · cases d with
    | float x =>
      cases x with
      | finite x => exact absurd rfl hfinite
      | nan => rfl
      | infinite negative => cases negative <;> rfl
    | _ => first | exact absurd rfl hfinite | cases h

/-- A word that is written as itself is no wildcard. -/
theorem isAtom_ofWord {w : String} (h : (Datum.ofWord w).literalChars = w.toList) (l : Nat) :
    IsAtom ⟨.word w, l⟩ (Datum.ofWord w) := by
  refine .word ?_ ?_ l
  · rintro rfl
    exact absurd h (by decide)
  · rintro rfl
    exact absurd h (by decide)

/-- The token of an atom, and the atom that is written like it. -/
theorem exists_isAtom {d : Datum} (h : d.isList = false) {ts : List Token}
    (hts : ts.map Token.lexeme = d.lexemes isBareLiteral) :
    ∃ t e, ts = [t] ∧ IsAtom t e ∧ e.literalChars = d.literalChars := by
  have hword (hd : d.isWordAtom = true) :
      d.lexemes isBareLiteral = [.word (String.ofList d.sourceChars)] := by
    cases d <;> first | rfl | cases hd
  have hchars (hd : d.isWordAtom = true) : d.literalChars = d.sourceChars := by
    cases d <;> first | rfl | cases hd
  by_cases hd : d.isWordAtom = true
  · rw [hword hd] at hts
    obtain ⟨l, rfl⟩ := exists_singleton_of_lexemes hts
    have hliteral := literalChars_ofWord_sourceChars hd
    rw [hchars hd]
    refine ⟨_, _, rfl, isAtom_ofWord ?_ l, hliteral⟩
    rw [hliteral, String.toList_ofList]
  · cases d with
    | str s =>
      obtain ⟨l, rfl⟩ := exists_singleton_of_lexemes hts
      exact ⟨_, _, rfl, .str s l, rfl⟩
    | sym name =>
      rw [Datum.lexemes] at hts
      split at hts
      · next hbare =>
        obtain ⟨l, rfl⟩ := exists_singleton_of_lexemes hts
        obtain ⟨-, hsym, hwild, hremaining⟩ := isBareLiteral_spec hbare
        exact ⟨_, _, rfl, .word hwild hremaining l, by rw [hsym]⟩
      · obtain ⟨l, rfl⟩ := exists_singleton_of_lexemes hts
        exact ⟨_, _, rfl, .sym name l, rfl⟩
    | list l slots => cases h
    | _ => exact absurd rfl hd

theorem IsAtom.isLiteral {t : Token} {d : Datum} (h : IsAtom t d) : IsLiteral [t] d := by
  cases h with
  | word _ _ l => exact .word _ l
  | str contents l => exact .str contents l
  | sym name l => exact .sym name l

mutual
/-- The tokens of a datum are a literal that is written like it. -/
theorem exists_isLiteral (d : Datum) {ts : List Token}
    (hts : ts.map Token.lexeme = d.lexemes isBareLiteral) :
    ∃ e, IsLiteral ts e ∧ e.literalChars = d.literalChars := by
  cases d with
  | list l slots =>
    obtain ⟨first, body, rfl, hbody⟩ := exists_cons_of_lexemes hts
    obtain ⟨us, final, rfl, hus⟩ := exists_append_of_lexemes hbody
    obtain ⟨es, hes, hchars, -⟩ := exists_areLiterals slots hus
    exact ⟨_, .list hes first final, congrArg (List.cons '(') hchars⟩
  | _ =>
    obtain ⟨t, e, rfl, he, hchars⟩ := exists_isAtom rfl hts
    exact ⟨e, he.isLiteral, hchars⟩
termination_by structural d

theorem exists_areLiterals (ds : List Datum) {ts : List Token}
    (hts : ts.map Token.lexeme = Datum.slotsLexemes isBareLiteral ds) :
    ∃ es, AreLiterals ts es ∧ literalSlots es = literalSlots ds ∧
      literalMore es = literalMore ds := by
  cases ds with
  | nil =>
    obtain rfl := List.map_eq_nil_iff.mp hts
    exact ⟨[], .nil, rfl, rfl⟩
  | cons d ds =>
    obtain ⟨us, vs, rfl, hus, hvs⟩ := List.map_eq_append_iff.mp hts
    obtain ⟨e, he, hchars⟩ := exists_isLiteral d hus
    obtain ⟨es, hes, -, hmore⟩ := exists_areLiterals ds hvs
    refine ⟨e :: es, .cons he hes, ?_, ?_⟩
    · rw [literalSlots, literalSlots, hchars, hmore]
    · rw [literalMore, literalMore, hchars, hmore]
termination_by structural ds
end

mutual
/-- The tokens of a datum are a form that is written like it. -/
theorem exists_isForm_datum (d : Datum) {ts : List Token}
    (hts : ts.map Token.lexeme = d.lexemes isBareLiteral) :
    ∃ q, IsForm ts q ∧ q.sourceChars = d.literalChars := by
  cases d with
  | list l slots =>
    obtain ⟨first, body, rfl, hbody⟩ := exists_cons_of_lexemes hts
    obtain ⟨us, final, rfl, hus⟩ := exists_append_of_lexemes hbody
    obtain ⟨qs, hqs, hchars, -⟩ := exists_areForms_slots slots hus
    exact ⟨_, .shape hqs first final, congrArg (List.cons '(') hchars⟩
  | _ =>
    obtain ⟨t, e, rfl, he, hchars⟩ := exists_isAtom rfl hts
    exact ⟨_, .equals he, hchars⟩
termination_by structural d

theorem exists_areForms_slots (ds : List Datum) {ts : List Token}
    (hts : ts.map Token.lexeme = Datum.slotsLexemes isBareLiteral ds) :
    ∃ qs, AreForms ts qs ∧ sourceElements qs = literalSlots ds ∧
      sourceMore qs = literalMore ds := by
  cases ds with
  | nil =>
    obtain rfl := List.map_eq_nil_iff.mp hts
    exact ⟨[], .nil, rfl, rfl⟩
  | cons d ds =>
    obtain ⟨us, vs, rfl, hus, hvs⟩ := List.map_eq_append_iff.mp hts
    obtain ⟨q, hq, hchars⟩ := exists_isForm_datum d hus
    obtain ⟨qs, hqs, -, hmore⟩ := exists_areForms_slots ds hvs
    refine ⟨q :: qs, .cons hq hqs, ?_, ?_⟩
    · rw [sourceElements, literalSlots, hchars, hmore]
    · rw [sourceMore, literalMore, hchars, hmore]
termination_by structural ds
end

/-! ## Regular expressions -/

theorem escapeSlashes_regexText (escaped : Bool) (cs : List Char)
    (h : escapedAfter escaped cs = false) :
    escapeSlashes false (regexText escaped cs) =
      if escaped then '\\' :: escapeSlashes true cs else escapeSlashes false cs := by
  induction cs generalizing escaped with
  | nil =>
    rw [show escaped = false from h]
    rfl
  | cons c cs ih =>
    cases escaped with
    | true =>
      have hrest : escapedAfter false cs = false := by simpa [escapedAfter] using h
      have hcs := ih false hrest
      rw [if_neg Bool.false_ne_true] at hcs
      rw [regexText, if_pos rfl]
      split
      · next hslash =>
        subst hslash
        simp [escapeSlashes, hcs]
      · next hslash => simp [escapeSlashes, hcs]
    | false =>
      rw [regexText, if_neg Bool.false_ne_true]
      split
      · next hback =>
        subst hback
        rw [ih true h, if_pos rfl]
        rfl
      · next hback =>
        have hrest : escapedAfter false cs = false := by simpa [escapedAfter, hback] using h
        have hcs := ih false hrest
        rw [if_neg Bool.false_ne_true] at hcs
        simp [escapeSlashes, hback, hcs]

theorem unescapes_regexText (escaped : Bool) (cs : List Char)
    (h : escapedAfter escaped cs = false) :
    Regex.Unescapes (if escaped then '\\' :: cs else cs) (regexText escaped cs) := by
  induction cs generalizing escaped with
  | nil =>
    rw [show escaped = false from h]
    exact .nil
  | cons c cs ih =>
    cases escaped with
    | true =>
      have hrest := ih false (by simpa [escapedAfter] using h)
      rw [regexText, if_pos rfl]
      split
      · next hslash =>
        subst hslash
        exact .slash hrest
      · next hslash => exact .escape hslash hrest
    | false =>
      rw [regexText, if_neg Bool.false_ne_true]
      split
      · next hback =>
        subst hback
        exact ih true h
      · next hback => exact .plain hback (ih false (by simpa [escapedAfter, hback] using h))

/-- A regular expression that is closed is read back with its slashes bare. -/
theorem exists_ofSource_regexText (re : TextPattern)
    (h : escapedAfter false re.source.toList = false) :
    ∃ re', TextPattern.ofSource (String.ofList (regexText false re.source.toList)) = .ok re' ∧
      (text re').sourceChars = (text re).sourceChars := by
  have hsource := unescapes_regexText false _ h
  rw [if_neg Bool.false_ne_true, ← String.toList_ofList (l := regexText _ _)] at hsource
  have hcompile := Regex.compile?_of_unescapes hsource re.compiled
  obtain ⟨re', hre'⟩ : ∃ re' : TextPattern,
      re'.source = String.ofList (regexText false re.source.toList) :=
    ⟨⟨_, re.regex, hcompile⟩, rfl⟩
  refine ⟨re', hre' ▸ ofSource_source re', ?_⟩
  rw [sourceChars, sourceChars, hre', String.toList_ofList, escapeSlashes_regexText false _ h,
    if_neg Bool.false_ne_true]

/-! ## Gaps -/

mutual
/-- True for the patterns whose gaps are integers of 64 bits from 1 on. -/
def gapsFit : Pattern → Bool
  | .includes inner => inner.gapsFit
  | .within inner => inner.gapsFit
  | .sibling subject follower gap =>
    subject.gapsFit && follower.gapsFit && decide (1 ≤ gap ∧ (gap : Int) ≤ Int64.maxValue.toInt)
  | .not inner => inner.gapsFit
  | .any options => listGapsFit options
  | .all required => listGapsFit required
  | .shape elements => listGapsFit elements
  | _ => true
termination_by structural p => p

/-- The same for a list of patterns. -/
def listGapsFit : List Pattern → Bool
  | [] => true
  | p :: ps => p.gapsFit && listGapsFit ps
termination_by structural ps => ps
end

/-! ## Patterns that are read back -/

theorem exists_bracket_of_lexemes {name : String} {xs : List Lexeme} {ts : List Token}
    (h : ts.map Token.lexeme = commandLexemes name xs) :
    ∃ args l₁ l₂ l₃, ts = bracket name args l₁ l₂ l₃ ∧ args.map Token.lexeme = xs := by
  obtain ⟨l₁, named, rfl, hnamed⟩ := exists_cons_of_lexemes h
  obtain ⟨l₂, body, rfl, hbody⟩ := exists_cons_of_lexemes hnamed
  obtain ⟨args, l₃, rfl, hargs⟩ := exists_append_of_lexemes hbody
  exact ⟨args, l₁, l₂, l₃, rfl, hargs⟩

mutual
/-- The tokens of a pattern are a form that is written like it. -/
theorem exists_isForm (p : Pattern) (hclosed : p.isClosed = true) (hgaps : p.gapsFit = true)
    {ts : List Token} (hts : ts.map Token.lexeme = p.lexemes) :
    ∃ q, IsForm ts q ∧ q.sourceChars = p.sourceChars := by
  cases p with
  | wild =>
    obtain ⟨l, rfl⟩ := exists_singleton_of_lexemes hts
    exact ⟨_, .wild l, rfl⟩
  | remaining =>
    obtain ⟨l, rfl⟩ := exists_singleton_of_lexemes hts
    exact ⟨_, .remaining l, rfl⟩
  | atom =>
    obtain ⟨args, l₁, l₂, l₃, rfl, hargs⟩ := exists_bracket_of_lexemes hts
    obtain rfl := List.map_eq_nil_iff.mp hargs
    exact ⟨_, .atom l₁ l₂ l₃, rfl⟩
  | tagged tag =>
    obtain ⟨args, l₁, l₂, l₃, rfl, hargs⟩ := exists_bracket_of_lexemes hts
    obtain ⟨e, he, hchars⟩ := exists_isLiteral tag hargs
    exact ⟨_, .tagged he l₁ l₂ l₃, by rw [sourceChars, sourceChars, hchars]⟩
  | text re =>
    obtain ⟨args, l₁, l₂, l₃, rfl, hargs⟩ := exists_bracket_of_lexemes hts
    obtain ⟨l, rfl⟩ := exists_singleton_of_lexemes hargs
    rw [isClosed, Bool.not_eq_true'] at hclosed
    obtain ⟨re', hre', hchars⟩ := exists_ofSource_regexText re hclosed
    exact ⟨_, .text (.regex hre' l) l₁ l₂ l₃, hchars⟩
  | includes inner =>
    obtain ⟨args, l₁, l₂, l₃, rfl, hargs⟩ := exists_bracket_of_lexemes hts
    obtain ⟨q, hq, hchars⟩ := exists_isForm inner hclosed hgaps hargs
    exact ⟨_, .includes hq l₁ l₂ l₃, by rw [sourceChars, sourceChars, hchars]⟩
  | within inner =>
    obtain ⟨args, l₁, l₂, l₃, rfl, hargs⟩ := exists_bracket_of_lexemes hts
    obtain ⟨q, hq, hchars⟩ := exists_isForm inner hclosed hgaps hargs
    exact ⟨_, .within hq l₁ l₂ l₃, by rw [sourceChars, sourceChars, hchars]⟩
  | not inner =>
    obtain ⟨args, l₁, l₂, l₃, rfl, hargs⟩ := exists_bracket_of_lexemes hts
    obtain ⟨q, hq, hchars⟩ := exists_isForm inner hclosed hgaps hargs
    exact ⟨_, .not (.inl rfl) hq l₁ l₂ l₃, by rw [sourceChars, sourceChars, hchars]⟩
  | sibling subject follower gap =>
    rw [isClosed, Bool.and_eq_true] at hclosed
    rw [gapsFit, Bool.and_eq_true, Bool.and_eq_true, decide_eq_true_eq] at hgaps
    obtain ⟨⟨hsubject, hfollower⟩, hpositive, hbound⟩ := hgaps
    obtain ⟨args, l₁, l₂, l₃, rfl, hargs⟩ := exists_bracket_of_lexemes hts
    obtain ⟨us, more, rfl, hus, hmore⟩ := List.map_eq_append_iff.mp hargs
    obtain ⟨vs, ws, rfl, hvs, hws⟩ := List.map_eq_append_iff.mp hmore
    obtain ⟨q₁, hq₁, hchars₁⟩ := exists_isForm subject hclosed.1 hsubject hus
    obtain ⟨q₂, hq₂, hchars₂⟩ := exists_isForm follower hclosed.2 hfollower hvs
    have hchars : (sibling q₁ q₂ gap).sourceChars = (sibling subject follower gap).sourceChars := by
      rw [sourceChars, sourceChars, hchars₁, hchars₂]
    rw [gapLexemes] at hws
    split at hws
    · next hgap =>
      obtain rfl := List.map_eq_nil_iff.mp hws
      rw [List.append_nil]
      rw [hgap] at hchars ⊢
      exact ⟨_, .before hq₁ hq₂ l₁ l₂ l₃, hchars⟩
    · obtain ⟨l, rfl⟩ := exists_singleton_of_lexemes hws
      obtain ⟨n, hn, hword⟩ := ofWord_gap hbound
      have hform := IsForm.sibling hq₁ hq₂ hword (by omega) l l₁ l₂ l₃
      rw [hn, Int.toNat_natCast, List.append_assoc] at hform
      exact ⟨_, hform, hchars⟩
  | any options =>
    obtain ⟨args, l₁, l₂, l₃, rfl, hargs⟩ := exists_bracket_of_lexemes hts
    obtain ⟨qs, hqs, hchars, -⟩ := exists_areForms options hclosed hgaps hargs
    exact ⟨_, .any hqs l₁ l₂ l₃, congrArg (commandStart "any" ++ ·) hchars⟩
  | all required =>
    obtain ⟨args, l₁, l₂, l₃, rfl, hargs⟩ := exists_bracket_of_lexemes hts
    obtain ⟨qs, hqs, hchars, -⟩ := exists_areForms required hclosed hgaps hargs
    exact ⟨_, .all hqs l₁ l₂ l₃, congrArg (commandStart "all" ++ ·) hchars⟩
  | shape elements =>
    obtain ⟨first, body, rfl, hbody⟩ := exists_cons_of_lexemes hts
    obtain ⟨us, final, rfl, hus⟩ := exists_append_of_lexemes hbody
    obtain ⟨qs, hqs, -, hchars, -⟩ := exists_areForms elements hclosed hgaps hus
    exact ⟨_, .shape hqs first final, congrArg (List.cons '(') hchars⟩
  | equals value => exact exists_isForm_datum value hts
termination_by structural p

theorem exists_areForms (ps : List Pattern) (hclosed : listClosed ps = true)
    (hgaps : listGapsFit ps = true) {ts : List Token}
    (hts : ts.map Token.lexeme = listLexemes ps) :
    ∃ qs, AreForms ts qs ∧ sourceArgs qs = sourceArgs ps ∧ sourceElements qs = sourceElements ps ∧
      sourceMore qs = sourceMore ps := by
  cases ps with
  | nil =>
    obtain rfl := List.map_eq_nil_iff.mp hts
    exact ⟨[], .nil, rfl, rfl, rfl⟩
  | cons p ps =>
    rw [listClosed, Bool.and_eq_true] at hclosed
    rw [listGapsFit, Bool.and_eq_true] at hgaps
    obtain ⟨us, vs, rfl, hus, hvs⟩ := List.map_eq_append_iff.mp hts
    obtain ⟨q, hq, hchars⟩ := exists_isForm p hclosed.1 hgaps.1 hus
    obtain ⟨qs, hqs, hargs, -, hmore⟩ := exists_areForms ps hclosed.2 hgaps.2 hvs
    refine ⟨q :: qs, .cons hq hqs, ?_, ?_, ?_⟩
    · rw [sourceArgs, sourceArgs, hchars, hargs]
    · rw [sourceElements, sourceElements, hchars, hmore]
    · rw [sourceMore, sourceMore, hchars, hmore]
termination_by structural ps
end

/-! ## Patterns that are not -/

/-- A numeral past the integers of 64 bits spells no integer. -/
theorem ofWord_text_ne_int {gap : Nat} (h : ¬ (gap : Int) ≤ Int64.maxValue.toInt) (n : Int64) :
    Datum.ofWord (Decimal.text gap) ≠ .int n := by
  have hdigits : Decimal.signedDigits gap = Decimal.digits gap := if_neg (by omega)
  have hint : Decimal.int64? (Decimal.digits gap) = none := by
    rw [Decimal.int64?, ← hdigits, Decimal.integer?_signedDigits]
    exact if_neg fun hbounds => h hbounds.2
  unfold Datum.ofWord Datum.number?
  rw [Decimal.text, String.toList_ofList, hint]
  intro heq
  split at heq
  · cases heq
  split at heq
  · cases heq
  split at heq
  · cases heq
  split at heq
  · cases hvalue : Binary64.parse? (Decimal.digits gap) with
    | none =>
      rw [hvalue] at heq
      cases heq
    | some x =>
      rw [hvalue] at heq
      cases heq
  · cases heq

/-- Only a gap that fits is read as one. -/
theorem fits_of_gap?_ofWord {gap m : Nat} (h : gap? (ofWord (Decimal.text gap)) = some m) :
    1 ≤ gap ∧ (gap : Int) ≤ Int64.maxValue.toInt := by
  obtain ⟨n, hn, hpositive, -⟩ := eq_int_of_gap? h
  have hword : Datum.ofWord (Decimal.text gap) = .int n := by
    unfold ofWord at hn
    split at hn
    · cases hn
    split at hn
    · cases hn
    · exact equals.inj hn
  by_cases hbound : (gap : Int) ≤ Int64.maxValue.toInt
  · obtain ⟨n', hn', hword'⟩ := ofWord_gap hbound
    cases hword.symm.trans hword'
    exact ⟨by omega, hbound⟩
  · exact absurd hword (ofWord_text_ne_int hbound n)

/-- The computation reports an error. -/
def Fails {α : Type} (x : Except PatternError α) : Prop := ∃ e, x = .error e

theorem Fails.bind {α β : Type} {x : Except PatternError α} (h : Fails x)
    (f : α → Except PatternError β) : Fails (x >>= f) := by
  obtain ⟨e, rfl⟩ := h
  exact ⟨e, rfl⟩

theorem Fails.bind_bind {α β γ : Type} {x : Except PatternError α}
    {f : α → Except PatternError β} (h : Fails (x >>= f)) (g : α → β → Except PatternError γ) :
    Fails (x >>= fun a => f a >>= g a) := by
  cases x with
  | error e => exact ⟨e, rfl⟩
  | ok a => exact Fails.bind h (g a)

theorem Gives.bind_fails {α β : Type} {ts between : List Token}
    {x : Except PatternError (Front α ts)} {a : α} (h : Gives x a between)
    {f : Front α ts → Except PatternError β}
    (hf : ∀ r, r.value = a → r.rest = between → Fails (f r)) : Fails (x >>= f) := by
  obtain ⟨r, rfl, hvalue, hrest⟩ := h
  exact hf r hvalue hrest

section
variable {lastLine line : Nat} {close : Lexeme} {unclosed : Malformed} {ts us rest : List Token}

/-- Forms fail where those behind the first of them do. -/
theorem Gives.formsUntil_fails (hclose : close = .closing ∨ close = .closeBracket) {p : Pattern}
    (h : Gives (form lastLine ts) p us) (hs : Fails (formsUntil lastLine close unclosed line us)) :
    Fails (formsUntil lastLine close unclosed line ts) := by
  obtain ⟨t, ts, rfl, hclosing, hbracket⟩ := h.form_head
  have hopen : t.lexeme ≠ close := by rcases hclose with rfl | rfl <;> assumption
  rw [formsUntil, if_neg hopen]
  refine h.bind_fails ?_
  rintro r rfl rfl
  exact hs.bind _

theorem fails_parens {l₁ l₂ : Nat}
    (h : Fails (formsUntil lastLine .closing .unclosedList l₁ (ts ++ ⟨.closing, l₂⟩ :: rest))) :
    Fails (form lastLine (parens ts l₁ l₂ ++ rest)) := by
  rw [parens, List.cons_append, List.append_assoc, List.singleton_append, form]
  exact h.bind _

/-- A bracket command fails for what stands in it, or for what it is asked to make of it. -/
theorem fails_bracket {name : String} {l₁ l₂ l₃ : Nat} (hname : name ≠ "t")
    (h : Fails (do
      let r ← formsUntil lastLine .closeBracket .unclosedBracket l₁
        (ts ++ ⟨.closeBracket, l₃⟩ :: rest)
      ofCommand name r.value l₁)) :
    Fails (form lastLine (bracket name ts l₁ l₂ l₃ ++ rest)) := by
  have hcommand : Fails (command lastLine l₁
      (⟨.word name, l₂⟩ :: (ts ++ ⟨.closeBracket, l₃⟩ :: rest))) := by
    rw [command]
    dsimp only
    rw [if_neg hname]
    exact h.bind_bind fun r p => .ok (r.behind _ p)
  rw [bracket, List.cons_append, List.cons_append, List.append_assoc, List.singleton_append, form]
  exact hcommand.bind _

end

theorem gives_word (w : String) (l lastLine : Nat) (rest : List Token) :
    Gives (form lastLine (⟨.word w, l⟩ :: rest)) (ofWord w) rest := by
  rw [form]
  exact Gives.ok _

/-- The tokens of a datum start with one that closes nothing. -/
theorem head_datum_lexemes (d : Datum) :
    ∃ x xs, d.lexemes isBareLiteral = x :: xs ∧ x ≠ .closing ∧ x ≠ .closeBracket := by
  cases d with
  | sym name =>
    rw [Datum.lexemes]
    split <;> exact ⟨_, _, rfl, nofun, nofun⟩
  | _ => exact ⟨_, _, rfl, nofun, nofun⟩

/-- So do the tokens of a pattern. -/
theorem head_lexemes (p : Pattern) :
    ∃ x xs, p.lexemes = x :: xs ∧ x ≠ .closing ∧ x ≠ .closeBracket := by
  cases p with
  | equals value => exact head_datum_lexemes value
  | _ => exact ⟨_, _, rfl, nofun, nofun⟩

/-- Forms fail where the first of them does. -/
theorem fails_formsUntil_of_form {p : Pattern} {ts rest : List Token}
    (hts : ts.map Token.lexeme = p.lexemes) {lastLine : Nat}
    (h : Fails (form lastLine (ts ++ rest))) {close : Lexeme}
    (hclose : close = .closing ∨ close = .closeBracket) (unclosed : Malformed) (line : Nat) :
    Fails (formsUntil lastLine close unclosed line (ts ++ rest)) := by
  obtain ⟨x, xs, hx, hclosing, hbracket⟩ := head_lexemes p
  rw [hx] at hts
  obtain ⟨l, us, rfl, -⟩ := exists_cons_of_lexemes hts
  have hopen : x ≠ close := by rcases hclose with rfl | rfl <;> assumption
  rw [List.cons_append, formsUntil, if_neg hopen]
  exact h.bind _

mutual
/-- Where a gap does not fit, there is no form at the front of the tokens. -/
theorem fails_form (p : Pattern) (hclosed : p.isClosed = true) (hgaps : p.gapsFit = false)
    {ts : List Token} (hts : ts.map Token.lexeme = p.lexemes) (lastLine : Nat)
    (rest : List Token) : Fails (form lastLine (ts ++ rest)) := by
  cases p with
  | includes inner =>
    obtain ⟨args, l₁, l₂, l₃, rfl, hargs⟩ := exists_bracket_of_lexemes hts
    have hinner := fails_form inner hclosed hgaps hargs lastLine (⟨.closeBracket, l₃⟩ :: rest)
    exact fails_bracket (by decide) ((fails_formsUntil_of_form hargs hinner (.inr rfl) _ l₁).bind _)
  | within inner =>
    obtain ⟨args, l₁, l₂, l₃, rfl, hargs⟩ := exists_bracket_of_lexemes hts
    have hinner := fails_form inner hclosed hgaps hargs lastLine (⟨.closeBracket, l₃⟩ :: rest)
    exact fails_bracket (by decide) ((fails_formsUntil_of_form hargs hinner (.inr rfl) _ l₁).bind _)
  | not inner =>
    obtain ⟨args, l₁, l₂, l₃, rfl, hargs⟩ := exists_bracket_of_lexemes hts
    have hinner := fails_form inner hclosed hgaps hargs lastLine (⟨.closeBracket, l₃⟩ :: rest)
    exact fails_bracket (by decide) ((fails_formsUntil_of_form hargs hinner (.inr rfl) _ l₁).bind _)
  | sibling subject follower gap =>
    rw [isClosed, Bool.and_eq_true] at hclosed
    obtain ⟨args, l₁, l₂, l₃, rfl, hargs⟩ := exists_bracket_of_lexemes hts
    obtain ⟨us, more, rfl, hus, hmore⟩ := List.map_eq_append_iff.mp hargs
    obtain ⟨vs, ws, rfl, hvs, hws⟩ := List.map_eq_append_iff.mp hmore
    refine fails_bracket (by decide) ?_
    rw [List.append_assoc, List.append_assoc]
    by_cases hsubject : subject.gapsFit = true
    case neg =>
      rw [Bool.not_eq_true] at hsubject
      have hfirst := fails_form subject hclosed.1 hsubject hus lastLine
      exact (fails_formsUntil_of_form hus (hfirst _) (.inr rfl) _ l₁).bind _
    obtain ⟨q₁, hq₁, -⟩ := exists_isForm subject hclosed.1 hsubject hus
    have hfirst := hq₁.gives lastLine (vs ++ (ws ++ ⟨.closeBracket, l₃⟩ :: rest))
    by_cases hfollower : follower.gapsFit = true
    case neg =>
      rw [Bool.not_eq_true] at hfollower
      have hsecond := fails_form follower hclosed.2 hfollower hvs lastLine
      exact (hfirst.formsUntil_fails (.inr rfl)
        (fails_formsUntil_of_form hvs (hsecond _) (.inr rfl) _ l₁)).bind _
    obtain ⟨q₂, hq₂, -⟩ := exists_isForm follower hclosed.2 hfollower hvs
    have hsecond := hq₂.gives lastLine (ws ++ ⟨.closeBracket, l₃⟩ :: rest)
    -- the forms before it are fine, so it is the gap that the command does not take
    have hgap : ¬ (1 ≤ gap ∧ (gap : Int) ≤ Int64.maxValue.toInt) := by
      intro hfits
      rw [gapsFit, hsubject, hfollower, decide_eq_true hfits] at hgaps
      cases hgaps
    have hone : gap ≠ 1 := by
      rintro rfl
      exact hgap ⟨Nat.le_refl 1, by decide⟩
    rw [gapLexemes, if_neg hone] at hws
    obtain ⟨l, rfl⟩ := exists_singleton_of_lexemes hws
    have hthird := gives_word (Decimal.text gap) l lastLine (⟨.closeBracket, l₃⟩ :: rest)
    refine (hfirst.formsUntil_cons (.inr rfl) (hsecond.formsUntil_cons (.inr rfl)
      (hthird.formsUntil_cons (.inr rfl) (gives_formsUntil_nil l₃)))).bind_fails ?_
    rintro r hr -
    rw [hr]
    cases hnone : gap? (ofWord (Decimal.text gap)) with
    | some m => exact absurd (fits_of_gap?_ofWord hnone) hgap
    | none =>
      refine ⟨.malformed (.arity ">>" .twoPatterns) l₁, ?_⟩
      show (match gap? (ofWord (Decimal.text gap)) with | some _ => _ | none => _) = _
      rw [hnone]
  | any options =>
    obtain ⟨args, l₁, l₂, l₃, rfl, hargs⟩ := exists_bracket_of_lexemes hts
    exact fails_bracket (by decide)
      ((fails_formsUntil options hclosed hgaps hargs lastLine (.inr rfl) _ l₁ _).bind _)
  | all required =>
    obtain ⟨args, l₁, l₂, l₃, rfl, hargs⟩ := exists_bracket_of_lexemes hts
    exact fails_bracket (by decide)
      ((fails_formsUntil required hclosed hgaps hargs lastLine (.inr rfl) _ l₁ _).bind _)
  | shape elements =>
    obtain ⟨first, body, rfl, hbody⟩ := exists_cons_of_lexemes hts
    obtain ⟨us, final, rfl, hus⟩ := exists_append_of_lexemes hbody
    exact fails_parens (fails_formsUntil elements hclosed hgaps hus lastLine (.inl rfl) _ first _)
  | _ => cases hgaps
termination_by structural p

theorem fails_formsUntil (ps : List Pattern) (hclosed : listClosed ps = true)
    (hgaps : listGapsFit ps = false) {ts : List Token} (hts : ts.map Token.lexeme = listLexemes ps)
    (lastLine : Nat) {close : Lexeme} (hclose : close = .closing ∨ close = .closeBracket)
    (unclosed : Malformed) (line : Nat) (rest : List Token) :
    Fails (formsUntil lastLine close unclosed line (ts ++ rest)) := by
  cases ps with
  | nil => cases hgaps
  | cons p ps =>
    rw [listClosed, Bool.and_eq_true] at hclosed
    rw [listGapsFit, Bool.and_eq_false_iff] at hgaps
    obtain ⟨us, vs, rfl, hus, hvs⟩ := List.map_eq_append_iff.mp hts
    rw [List.append_assoc]
    by_cases hp : p.gapsFit = true
    · obtain ⟨q, hq, -⟩ := exists_isForm p hclosed.1 hp hus
      have hps := hgaps.resolve_left (by rw [hp]; exact nofun)
      exact (hq.gives lastLine _).formsUntil_fails hclose
        (fails_formsUntil ps hclosed.2 hps hvs lastLine hclose unclosed line rest)
    · rw [Bool.not_eq_true] at hp
      exact fails_formsUntil_of_form hus (fails_form p hclosed.1 hp hus lastLine _) hclose
        unclosed line
termination_by structural ps
end

/-! ## Pattern text that keeps its text -/

/-- The text of a regular expression that ends in a backslash runs into the end of the
pattern. -/
theorem parse_source_text_open (re : TextPattern) (h : escapedAfter false re.source.toList = true) :
    parse (text re).source = .error (.malformed (.lex (.unterminatedRegex 1)) 1) := by
  have hopen : (commandStart "m" ++ [' ', '/']).foldl (Scanner.step .pattern) Scanner.start =
      ⟨1, [⟨.word "m", 1⟩, ⟨.openBracket, 1⟩], .regex false 1 []⟩ := rfl
  have hchars : (text re).sourceChars =
      commandStart "m" ++ [' ', '/'] ++ (escapeSlashes false re.source.toList ++ ['/', ']']) := by
    rw [sourceChars]
    simp
  have htokens : tokenize .pattern (text re).source.toList = .error (.unterminatedRegex 1) := by
    rw [Pattern.source, String.toList_ofList, hchars, tokenize, List.foldl_append, hopen,
      List.foldl_append, Scanner.foldl_escapeSlashes, h]
    rfl
  rw [parse, htokens]
  rfl

/-- **Reading back.** The text of a pattern whose regular expressions are closed is read as a
pattern with the same text if its gaps fit into the grammar, and is an error if not. -/
theorem parse_source_iff (p : Pattern) (h : p.isClosed = true) :
    (p.gapsFit = true ↔ ∃ q, parse p.source = .ok (some q) ∧ q.source = p.source) ∧
      (p.gapsFit = false → ∃ e, parse p.source = .error e) := by
  obtain ⟨ts, htokens, hts⟩ := exists_tokenize_source p h
  have hparse : parse p.source = program ts := by
    rw [parse, htokens]
    exact ofTokens_eq_program ts
  have hread (hgaps : p.gapsFit = true) :
      ∃ q, parse p.source = .ok (some q) ∧ q.source = p.source := by
    obtain ⟨q, hq, hchars⟩ := exists_isForm p h hgaps hts
    refine ⟨q, ?_, congrArg String.ofList hchars⟩
    rw [hparse]
    exact (program_eq_iff ts (some q)).mpr
      ⟨[(ts, q)], isSplit_cons.mpr ⟨hq, [], (List.append_nil ts).symm, isSplit_nil.mpr rfl⟩, rfl⟩
  have hfails (hgaps : p.gapsFit = false) : ∃ e, parse p.source = .error e := by
    obtain ⟨e, he⟩ := fails_form p h hgaps hts (ts.getLast?.elim 1 Token.line) []
    rw [List.append_nil] at he
    obtain ⟨x, xs, hx, -⟩ := head_lexemes p
    rw [hx] at hts
    obtain ⟨l, us, rfl, -⟩ := exists_cons_of_lexemes hts
    refine ⟨e, ?_⟩
    rw [hparse, program, lastForm, he]
    rfl
  refine ⟨⟨hread, ?_⟩, hfails⟩
  rintro ⟨q, hq, -⟩
  cases hgaps : p.gapsFit with
  | true => rfl
  | false =>
    obtain ⟨e, he⟩ := hfails hgaps
    rw [he] at hq
    cases hq

/-- What is read back is another pattern here: the slash is bare, and the number is a symbol. -/
theorem parse_source_iff_escaped_slash :
    ∃ re : TextPattern, re.source = "a\\/b" ∧
      let p : Pattern := .sibling (.text re) (.equals (.float .nan)) 2
      p.isClosed = true ∧ p.gapsFit = true ∧
        ∃ q, parse p.source = .ok (some q) ∧ q.source = p.source := by
  have hcompiles : (Regex.compile? "a\\/b").isSome = true := by decide +kernel
  obtain ⟨regex, hregex⟩ := Option.isSome_iff_exists.mp hcompiles
  refine ⟨⟨"a\\/b", regex, hregex⟩, rfl, ?_⟩
  intro p
  have hclosed : p.isClosed = true := by simp [p, isClosed, escapedAfter]
  have hgaps : p.gapsFit = true := rfl
  exact ⟨hclosed, hgaps, (parse_source_iff p hclosed).1.mp hgaps⟩

/-- No gap is 0 in pattern text, and a comment may end in a backslash. -/
theorem parse_source_refused :
    parse (sibling wild wild 0).source = .error (.malformed (.arity ">>" .twoPatterns) 1) ∧
      ∃ re : TextPattern, re.source = "(?x)a#\\" ∧
        parse (text re).source = .error (.malformed (.lex (.unterminatedRegex 1)) 1) := by
  have hgap : (sibling wild wild 0).source = "[>> _ _ 0]" := by decide +kernel
  refine ⟨by rw [hgap]; rfl, ?_⟩
  have hcompiles : (Regex.compile? "(?x)a#\\").isSome = true := by decide +kernel
  obtain ⟨regex, hregex⟩ := Option.isSome_iff_exists.mp hcompiles
  exact ⟨⟨"(?x)a#\\", regex, hregex⟩, rfl, parse_source_text_open _ (by simp [escapedAfter])⟩

end SexprQuery.Pattern
