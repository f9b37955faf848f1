import SexprQuery.Proofs.MessageText

/-!
# The phrases of patterns

`Pattern.display` is the text of a phrase. `Pattern.phrase` says which: where a chain
stands in a chain of the same sign, the inner one goes on as part of the outer, and an
`any` or `all` around one operand does not show at all. Everything else is a term of its
own, in parentheses where it has to be.

The names in a legible pattern (`Pattern.isLegible`) cannot be taken for anything else, so
patterns with one message have one phrase (`Pattern.phrase_eq_of_displayChars_eq`).
-/

namespace SexprQuery

open Message

/-! ## The phrases of data and patterns -/

namespace Message.Phrase

/-- A phrase in parentheses where asked to. -/
def grouped (isGrouped : Bool) (p : Phrase) : Phrase :=
  if isGrouped then .single (.call .group [p]) else p

/-- One phrase behind another, with an operator between them. -/
def join (op : Pattern.Operator) : Phrase → Phrase → Phrase
  | .single t, q => .chain t op q
  | .chain t op' rest, q => .chain t op' (rest.join op q)

end Message.Phrase

mutual
/-- A datum as messages show it. -/
def Datum.term : Datum → Term
  | .nil => .word .nil
  | .bool b => .word (.bool b)
  | .int n => .word (.number n.toInt)
  | .float x => .word (.float x)
  | .str s => .quoted s
  | .sym name => .word (.name name)
  | .list _ slots => .call .list (slotPhrases slots)
termination_by structural d => d

/-- The slots of a list. -/
def slotPhrases : List Datum → List Phrase
  | [] => []
  | d :: ds => .single d.term :: slotPhrases ds
termination_by structural ds => ds
end

namespace Pattern

mutual
/-- A pattern as messages show it. -/
def phrase : Pattern → Phrase
  | .wild => .single (.word .wild)
  | .remaining => .single (.word .remaining)
  | .atom => .single (.word .atom)
  | .tagged tag => .single (.call .tagged [.single tag.term])
  | .text re => .single (.call .text [.single (.slashed re.source)])
  | .includes inner => .single (.call .includes [inner.phrase])
  | .within inner => .single (.call .within [inner.phrase])
  | .not inner => .single (.call .not [inner.phrase])
  | .sibling subject follower gap =>
    if gap = 1 then
      (subject.phrase.grouped (isGrouped .before subject)).join .before
        (follower.phrase.grouped (isGrouped .before follower))
    else
      .single (.call .sibling [subject.phrase, follower.phrase, .single (.word (.number gap))])
  | .any options => operandsPhrase .or .any options
  | .all required => operandsPhrase .and .all required
  | .shape elements => .single (.call .shape (phrases elements))
  | .equals d => .single d.term
termination_by structural p => p

/-- Operands with their operator between them; a call where there are none. -/
def operandsPhrase (op : Operator) (head : Head) : List Pattern → Phrase
  | [] => .single (.call head [])
  | p :: ps => restPhrase op (p.phrase.grouped (isGrouped op p)) ps
termination_by structural ps => ps

/-- Operands behind a phrase. -/
def restPhrase (op : Operator) (first : Phrase) : List Pattern → Phrase
  | [] => first
  | p :: ps => first.join op (restPhrase op (p.phrase.grouped (isGrouped op p)) ps)
termination_by structural ps => ps

/-- The elements of a shape. -/
def phrases : List Pattern → List Phrase
  | [] => []
  | p :: ps => p.phrase :: phrases ps
termination_by structural ps => ps
end

end Pattern

/-! ## They have the text of messages -/

namespace Message.Phrase

theorem chars_grouped (isGrouped : Bool) (p : Phrase) :
    (p.grouped isGrouped).chars = Pattern.groupChars isGrouped p.chars := by
  cases isGrouped with
  | false => rfl
  | true =>
    show '(' :: (p.chars ++ [')']) = _
    rfl

theorem chars_join (op : Pattern.Operator) (p q : Phrase) :
    (p.join op q).chars = p.chars ++ op.chars ++ q.chars := by
  cases p with
  | single t => rfl
  | chain t op' rest =>
    rw [join, chars, chars_join op rest q, chars]
    simp only [List.append_assoc]
termination_by structural p

end Message.Phrase

mutual
theorem Datum.chars_term (d : Datum) : d.term.chars = d.displayChars := by
  cases d with
  | list line slots =>
    rw [Datum.term, Term.chars, argsChars_slotPhrases slots, Datum.displayChars]
    rfl
  | _ => rfl
termination_by structural d

theorem argsChars_slotPhrases (ds : List Datum) :
    argsChars (slotPhrases ds) = Datum.displaySlots ds := by
  cases ds with
  | nil => rfl
  | cons d ds =>
    rw [slotPhrases, argsChars, Phrase.chars, Datum.chars_term d, moreChars_slotPhrases ds,
      Datum.displaySlots]
termination_by structural ds

theorem moreChars_slotPhrases (ds : List Datum) :
    moreChars (slotPhrases ds) = Datum.displayMore ds := by
  cases ds with
  | nil => rfl
  | cons d ds =>
    rw [slotPhrases, moreChars, Phrase.chars, Datum.chars_term d, moreChars_slotPhrases ds,
      Datum.displayMore]
    rfl
termination_by structural ds
end

namespace Pattern

/-- A call of one argument. -/
theorem chars_call_singleton (head : Head) (p : Phrase) :
    (Term.call head [p]).chars = head.chars ++ ['('] ++ p.chars ++ [')'] := by
  simp [Term.chars, argsChars, moreChars]

mutual
/-- The text of its phrase is the message of a pattern. -/
theorem chars_phrase (p : Pattern) : p.phrase.chars = p.displayChars := by
  cases p with
  | wild | remaining | atom => rfl
  | tagged tag =>
    rw [phrase, Phrase.chars, chars_call_singleton, Phrase.chars, tag.chars_term]
    rfl
  | text re =>
    rw [phrase, Phrase.chars, chars_call_singleton, Phrase.chars, Term.chars, displayChars]
    simp only [List.append_assoc, List.cons_append]
    rfl
  | includes inner =>
    rw [phrase, Phrase.chars, chars_call_singleton, chars_phrase inner]
    rfl
  | within inner =>
    rw [phrase, Phrase.chars, chars_call_singleton, chars_phrase inner]
    rfl
  | not inner =>
    rw [phrase, Phrase.chars, chars_call_singleton, chars_phrase inner]
    rfl
  | sibling subject follower gap =>
    -- with an operator for neighbours, as a call for any other gap
    rw [phrase, displayChars]
    split
    · rw [Phrase.chars_join, Phrase.chars_grouped, Phrase.chars_grouped, chars_phrase subject,
        chars_phrase follower]
    · rw [Phrase.chars, Term.chars, argsChars, moreChars, moreChars, moreChars,
        chars_phrase subject, chars_phrase follower, Phrase.chars, Term.chars, Word.chars,
        Decimal.signedDigits_natCast]
      simp only [callStart, List.append_assoc]
      rfl
  | any options => exact chars_operandsPhrase .or .any options
  | all required => exact chars_operandsPhrase .and .all required
  | shape elements =>
    rw [phrase, Phrase.chars, Term.chars, argsChars_phrases elements]
    rfl
  | equals d => exact d.chars_term
termination_by structural p

theorem chars_operandsPhrase (op : Operator) (head : Head) (ps : List Pattern) :
    (operandsPhrase op head ps).chars =
      displayOperands op (String.ofList head.chars) ps := by
  cases ps with
  | nil => simp [operandsPhrase, displayOperands, callStart, Phrase.chars, Term.chars, argsChars]
  | cons p ps =>
    rw [operandsPhrase, chars_restPhrase op _ ps, Phrase.chars_grouped, chars_phrase p,
      displayOperands]
termination_by structural ps

theorem chars_restPhrase (op : Operator) (first : Phrase) (ps : List Pattern) :
    (restPhrase op first ps).chars = first.chars ++ displayRest op ps := by
  cases ps with
  | nil => exact (List.append_nil _).symm
  | cons p ps =>
    rw [restPhrase, Phrase.chars_join, chars_restPhrase op _ ps, Phrase.chars_grouped,
      chars_phrase p, displayRest]
    simp only [List.append_assoc]
termination_by structural ps

theorem argsChars_phrases (ps : List Pattern) : argsChars (phrases ps) = displayArgs ps := by
  cases ps with
  | nil => rfl
  | cons p ps =>
    rw [phrases, argsChars, chars_phrase p, moreChars_phrases ps, displayArgs]
termination_by structural ps

theorem moreChars_phrases (ps : List Pattern) : moreChars (phrases ps) = displayMore ps := by
  cases ps with
  | nil => rfl
  | cons p ps =>
    rw [phrases, moreChars, chars_phrase p, moreChars_phrases ps, displayMore]
termination_by structural ps
end

end Pattern

/-! ## Legible patterns -/

mutual
/-- True if no symbol of a datum has a space, a parenthesis or a comma in its name. -/
def Datum.isLegible : Datum → Bool
  | .sym name => name.toList.all isClear
  | .list _ slots => slotsLegible slots
  | _ => true
termination_by structural d => d

/-- The same for a row of slots. -/
def slotsLegible : List Datum → Bool
  | [] => true
  | d :: ds => d.isLegible && slotsLegible ds
termination_by structural ds => ds
end

mutual
theorem Datum.isLegible_term (d : Datum) : d.term.isLegible = d.isLegible := by
  cases d with
  | list line slots => exact argsLegible_slotPhrases slots
  | _ => rfl
termination_by structural d

theorem argsLegible_slotPhrases (ds : List Datum) :
    argsLegible (slotPhrases ds) = slotsLegible ds := by
  cases ds with
  | nil => rfl
  | cons d ds =>
    rw [slotPhrases, argsLegible, Phrase.isLegible, d.isLegible_term, argsLegible_slotPhrases ds,
      slotsLegible]
termination_by structural ds
end

namespace Message.Phrase

theorem isLegible_grouped (isGrouped : Bool) (p : Phrase) :
    (p.grouped isGrouped).isLegible = p.isLegible := by
  cases isGrouped with
  | false => rfl
  | true => exact Bool.and_true _

theorem isLegible_join (op : Pattern.Operator) (p q : Phrase) :
    (p.join op q).isLegible = (p.isLegible && q.isLegible) := by
  cases p with
  | single t => rfl
  | chain t op' rest =>
    rw [join, isLegible, isLegible_join op rest q, isLegible, Bool.and_assoc]
termination_by structural p

end Message.Phrase

namespace Pattern

mutual
/-- True if the names in a pattern hold no space, parenthesis or comma, and its regular
expressions no slash. -/
def isLegible : Pattern → Bool
  | .tagged tag => tag.isLegible
  | .text re => re.source.toList.all (· != '/')
  | .includes inner => inner.isLegible
  | .within inner => inner.isLegible
  | .not inner => inner.isLegible
  | .sibling subject follower _ => subject.isLegible && follower.isLegible
  | .any options => listLegible options
  | .all required => listLegible required
  | .shape elements => listLegible elements
  | .equals d => d.isLegible
  | _ => true
termination_by structural p => p

/-- The same for a list of patterns. -/
def listLegible : List Pattern → Bool
  | [] => true
  | p :: ps => p.isLegible && listLegible ps
termination_by structural ps => ps
end

mutual
theorem isLegible_phrase (p : Pattern) : p.phrase.isLegible = p.isLegible := by
  cases p with
  | wild | remaining | atom => rfl
  | tagged tag => exact (Bool.and_true _).trans tag.isLegible_term
  | text re => exact Bool.and_true _
  | includes inner => exact (Bool.and_true _).trans (isLegible_phrase inner)
  | within inner => exact (Bool.and_true _).trans (isLegible_phrase inner)
  | not inner => exact (Bool.and_true _).trans (isLegible_phrase inner)
  | sibling subject follower gap =>
    rw [phrase, isLegible]
    split
    · rw [Phrase.isLegible_join, Phrase.isLegible_grouped, Phrase.isLegible_grouped,
        isLegible_phrase subject, isLegible_phrase follower]
    · rw [Phrase.isLegible, Term.isLegible, argsLegible, argsLegible, isLegible_phrase subject,
        isLegible_phrase follower]
      exact congrArg _ (Bool.and_true _)
  | any options => exact isLegible_operandsPhrase .or .any options
  | all required => exact isLegible_operandsPhrase .and .all required
  | shape elements => exact argsLegible_phrases elements
  | equals d => exact d.isLegible_term
termination_by structural p

theorem isLegible_operandsPhrase (op : Operator) (head : Head) (ps : List Pattern) :
    (operandsPhrase op head ps).isLegible = listLegible ps := by
  cases ps with
  | nil => rfl
  | cons p ps =>
    rw [operandsPhrase, isLegible_restPhrase op _ ps, Phrase.isLegible_grouped, isLegible_phrase p,
      listLegible]
termination_by structural ps

theorem isLegible_restPhrase (op : Operator) (first : Phrase) (ps : List Pattern) :
    (restPhrase op first ps).isLegible = (first.isLegible && listLegible ps) := by
  cases ps with
  | nil => exact (Bool.and_true _).symm
  | cons p ps =>
    rw [restPhrase, Phrase.isLegible_join, isLegible_restPhrase op _ ps, Phrase.isLegible_grouped,
      isLegible_phrase p, listLegible]
termination_by structural ps

theorem argsLegible_phrases (ps : List Pattern) : argsLegible (phrases ps) = listLegible ps := by
  cases ps with
  | nil => rfl
  | cons p ps =>
    rw [phrases, argsLegible, isLegible_phrase p, argsLegible_phrases ps, listLegible]
termination_by structural ps
end

/-- **One message, one phrase.** -/
theorem phrase_eq_of_displayChars_eq {p q : Pattern} (hp : p.isLegible = true)
    (hq : q.isLegible = true) (h : p.displayChars = q.displayChars) : p.phrase = q.phrase := by
  rw [← chars_phrase, ← chars_phrase] at h
  rw [← isLegible_phrase] at hp hq
  exact Phrase.chars_injective hp hq h

end Pattern

end SexprQuery
