import SexprQuery.Proofs.LineBlindness
import SexprQuery.Proofs.MessageMeaning

/-!
# Call forms say everything but lines

A call form is a message without operators, so it is the text of a single term
(`Pattern.callTerm`). It leaves nothing out: every combination is a call of its own, chains
keep their nesting, and an `any` or `all` of one operand shows. So the pattern that the term
is read as is the one that was written, but for the lines of the data in it
(`Pattern.pattern_callTerm`), and since a message can be read in one way only, the text
determines the pattern (`Pattern.calls_eq_iff`).
-/

namespace SexprQuery

open Message

namespace Pattern

/-! ## The terms of call forms -/

mutual
/-- A pattern as call forms show it. -/
def callTerm : Pattern → Term
  | .wild => .word .wild
  | .remaining => .word .remaining
  | .atom => .word .atom
  | .tagged tag => .call .tagged [.single tag.term]
  | .text re => .call .text [.single (.slashed re.source)]
  | .includes inner => .call .includes [.single inner.callTerm]
  | .within inner => .call .within [.single inner.callTerm]
  | .not inner => .call .not [.single inner.callTerm]
  | .sibling subject follower gap =>
    .call .sibling (.single subject.callTerm :: .single follower.callTerm ::
      if gap = 1 then [] else [.single (.word (.number gap))])
  | .any options => .call .any (callPhrases options)
  | .all required => .call .all (callPhrases required)
  | .shape elements => .call .shape (callPhrases elements)
  | .equals d => d.term
termination_by structural p => p

/-- The arguments of a call, each a single term. -/
def callPhrases : List Pattern → List Phrase
  | [] => []
  | p :: ps => .single p.callTerm :: callPhrases ps
termination_by structural ps => ps
end

mutual
/-- The text of its term is the call form of a pattern. -/
theorem chars_callTerm (p : Pattern) : p.callTerm.chars = p.callChars := by
  cases p with
  | wild | remaining | atom => rfl
  | tagged tag =>
    rw [callTerm, chars_call_singleton, Phrase.chars, tag.chars_term]
    rfl
  | text re =>
    rw [callTerm, chars_call_singleton, Phrase.chars, Term.chars, callChars]
    simp only [List.append_assoc, List.cons_append]
    rfl
  | includes inner | within inner | not inner =>
    rw [callTerm, chars_call_singleton, Phrase.chars, chars_callTerm inner]
    rfl
  | sibling subject follower gap =>
    rw [callTerm, callChars, Term.chars, argsChars, moreChars, Phrase.chars, Phrase.chars,
      chars_callTerm subject, chars_callTerm follower]
    split
    · simp only [callStart, List.append_assoc, moreChars]
      rfl
    · simp only [callStart, List.append_assoc, moreChars, Phrase.chars, Term.chars, Word.chars,
        Decimal.signedDigits_natCast]
      rfl
  | any options | all options | shape options =>
    rw [callTerm, Term.chars, argsChars_callPhrases options]
    rfl
  | equals d => exact d.chars_term
termination_by structural p

theorem argsChars_callPhrases (ps : List Pattern) : argsChars (callPhrases ps) = callArgs ps := by
  cases ps with
  | nil => rfl
  | cons p ps =>
    rw [callPhrases, argsChars, Phrase.chars, chars_callTerm p, moreChars_callPhrases ps, callArgs]
termination_by structural ps

theorem moreChars_callPhrases (ps : List Pattern) : moreChars (callPhrases ps) = callMore ps := by
  cases ps with
  | nil => rfl
  | cons p ps =>
    rw [callPhrases, moreChars, Phrase.chars, chars_callTerm p, moreChars_callPhrases ps, callMore]
termination_by structural ps
end

mutual
theorem isLegible_callTerm (p : Pattern) : p.callTerm.isLegible = p.isLegible := by
  cases p with
  | wild | remaining | atom => rfl
  | tagged tag => exact (Bool.and_true _).trans tag.isLegible_term
  | text re => exact Bool.and_true _
  | includes inner | within inner | not inner =>
    exact (Bool.and_true _).trans (isLegible_callTerm inner)
  | sibling subject follower gap =>
    rw [callTerm, isLegible, Term.isLegible, argsLegible, argsLegible, Phrase.isLegible,
      Phrase.isLegible, isLegible_callTerm subject, isLegible_callTerm follower]
    split <;> exact congrArg _ (Bool.and_true _)
  | any options | all options | shape options => exact argsLegible_callPhrases options
  | equals d => exact d.isLegible_term
termination_by structural p

theorem argsLegible_callPhrases (ps : List Pattern) :
    argsLegible (callPhrases ps) = listLegible ps := by
  cases ps with
  | nil => rfl
  | cons p ps =>
    rw [callPhrases, argsLegible, Phrase.isLegible, isLegible_callTerm p,
      argsLegible_callPhrases ps, listLegible]
termination_by structural ps
end

/-! ## They are read as what was written -/

mutual
/-- A call form is read as its pattern, without lines. -/
theorem pattern_callTerm (p : Pattern) : p.callTerm.pattern = p.unlined := by
  cases p with
  | wild | remaining | atom => rfl
  | tagged tag => exact congrArg tagged tag.datum_term
  | text re =>
    show ((TextPattern.ofSource? re.source).map Pattern.text).getD (Pattern.any []) = _
    rw [ofSource?_source]
    rfl
  | includes inner => exact congrArg includes (pattern_callTerm inner)
  | within inner => exact congrArg within (pattern_callTerm inner)
  | not inner => exact congrArg Pattern.not (pattern_callTerm inner)
  | sibling subject follower gap =>
    have hboth := congrArg₂ (sibling · · gap) (pattern_callTerm subject) (pattern_callTerm follower)
    rw [callTerm]
    split
    · next hgap =>
      subst hgap
      exact hboth
    · exact hboth
  | any options => exact congrArg Pattern.any (argPatterns_callPhrases options)
  | all required => exact congrArg Pattern.all (argPatterns_callPhrases required)
  | shape elements => exact congrArg Pattern.shape (argPatterns_callPhrases elements)
  | equals value => exact value.pattern_term
termination_by structural p

theorem argPatterns_callPhrases (ps : List Pattern) :
    argPatterns (callPhrases ps) =
      listMapData Datum.unlined (fun value => .equals value.unlined) ps := by
  cases ps with
  | nil => rfl
  | cons p ps =>
    show p.callTerm.pattern :: argPatterns (callPhrases ps) = _
    rw [pattern_callTerm p, argPatterns_callPhrases ps]
    rfl
termination_by structural ps
end

end Pattern

/-! ## Lines do not show -/

mutual
theorem Datum.term_unlined (d : Datum) : d.unlined.term = d.term := by
  cases d with
  | list line slots => exact congrArg (Term.call .list) (slotPhrases_unlined slots)
  | _ => rfl
termination_by structural d

theorem slotPhrases_unlined (ds : List Datum) :
    slotPhrases (Datum.slotsUnlined ds) = slotPhrases ds := by
  cases ds with
  | nil => rfl
  | cons d ds =>
    rw [Datum.slotsUnlined, slotPhrases, slotPhrases, d.term_unlined, slotPhrases_unlined ds]
termination_by structural ds
end

namespace Pattern

mutual
theorem callTerm_unlined (p : Pattern) : p.unlined.callTerm = p.callTerm := by
  cases p with
  | wild | remaining | atom | text re => rfl
  | tagged tag => exact congrArg (fun t => Term.call .tagged [.single t]) tag.term_unlined
  | includes inner =>
    exact congrArg (fun t => Term.call .includes [.single t]) (callTerm_unlined inner)
  | within inner =>
    exact congrArg (fun t => Term.call .within [.single t]) (callTerm_unlined inner)
  | not inner => exact congrArg (fun t => Term.call .not [.single t]) (callTerm_unlined inner)
  | sibling subject follower gap =>
    show (sibling subject.unlined follower.unlined gap).callTerm = _
    rw [callTerm, callTerm, callTerm_unlined subject, callTerm_unlined follower]
  | any options => exact congrArg (Term.call .any) (callPhrases_unlined options)
  | all required => exact congrArg (Term.call .all) (callPhrases_unlined required)
  | shape elements => exact congrArg (Term.call .shape) (callPhrases_unlined elements)
  | equals value => exact value.term_unlined
termination_by structural p

theorem callPhrases_unlined (ps : List Pattern) :
    callPhrases (listMapData Datum.unlined (fun value => .equals value.unlined) ps) =
      callPhrases ps := by
  cases ps with
  | nil => rfl
  | cons p ps =>
    show Phrase.single p.unlined.callTerm :: callPhrases _ = _
    rw [callTerm_unlined p, callPhrases_unlined ps, callPhrases]
termination_by structural ps
end

/-! ## One text, one pattern -/

/-- Call forms do not show lines. -/
theorem calls_eq_of_sameButLines {p q : Pattern} (h : p.SameButLines q) : p.calls = q.calls := by
  rw [calls, calls, ← chars_callTerm, ← chars_callTerm, ← callTerm_unlined p, h, callTerm_unlined]

/-- They show everything else. -/
theorem sameButLines_of_calls_eq {p q : Pattern} (hp : p.isLegible = true)
    (hq : q.isLegible = true) (h : p.calls = q.calls) : p.SameButLines q := by
  have hchars : p.callTerm.chars = q.callTerm.chars := by
    rw [chars_callTerm, chars_callTerm]
    exact String.ofList_injective h
  rw [← isLegible_callTerm] at hp hq
  have hterm := Phrase.chars_injective (p := .single p.callTerm) (q := .single q.callTerm) hp hq
    hchars
  rw [SameButLines, ← pattern_callTerm, ← pattern_callTerm, Phrase.single.inj hterm]

/-- **One call form, one pattern.** Legible patterns have one call form exactly if they differ
in lines only. Lines do not count when patterns are compared, so the two are equal, unless
they hold a NaN, which equals nothing. -/
theorem calls_eq_iff {p q : Pattern} (hp : p.isLegible = true) (hq : q.isLegible = true) :
    (p.calls = q.calls ↔ p.SameButLines q) ∧ (p.calls = q.calls → (p == q) = !p.hasNan) :=
  ⟨⟨sameButLines_of_calls_eq hp hq, calls_eq_of_sameButLines⟩,
    fun h => (sameButLines_of_calls_eq hp hq h).beq_eq⟩

/-- A text in quotes looks like the end of the call around it, and the data stand on different
lines. -/
theorem calls_eq_iff_quoted :
    let p (line : Nat) : Pattern :=
      .sibling (.any [.equals (.list (some line) [.str "a), ", .sym "b\"c"])]) (.not .wild) 2
    ((p 1).isLegible = true ∧ (p 7).isLegible = true ∧ (p 1).calls = (p 7).calls ∧
      (p 1).calls = "sibling(any(s(\"a), \", :b\"c)), not?(_), 2)") ∧ (p 1 == p 7) = true := by
  intro p
  have hsame : (p 1).calls = (p 7).calls := rfl
  have hlegible : ∀ line, (p line).isLegible = true := fun line => rfl
  refine ⟨⟨hlegible 1, hlegible 7, hsame, by decide +kernel⟩, ?_⟩
  exact (calls_eq_iff (hlegible 1) (hlegible 7)).2 hsame

end Pattern
end SexprQuery
