import SexprQuery.Proofs.MessagePhrases
import SexprQuery.Proofs.PatternText
import SexprQuery.Proofs.SearchAlgebra

/-!
# What messages say of patterns

A message leaves out what makes no difference, so the pattern that its phrase is read as
(`Message.Phrase.pattern`) need not be the one that was written: it nests chains on the
right and has no `any` or `all` around one operand. It has the same meaning, with one
exception (`Pattern.satisfies_phrase`). An `any` or `all` of one operand may be written
like `remaining`, and at the end of a shape it takes one slot where `remaining` takes all
that are left. `Pattern.settled` is the pattern with the `remaining` in these places that
the message shows there.

Since a message can be read in one way only, patterns with one message have one meaning
(`Pattern.meaning_of_display`), as far as none of them ends a shape like this.
-/

namespace SexprQuery

open Message

/-! ## Reading phrases -/

namespace Message

/-- The datum that a word spells, where it spells one. -/
def Word.datum : Word → Datum
  | .bool b => .bool b
  | .number n => .int (Int64.ofInt n)
  | .float x => .float x
  | .name s => .sym s
  | _ => .nil

mutual
/-- The datum that a term shows, where it shows one. -/
def Term.datum : Term → Datum
  | .word w => w.datum
  | .quoted text => .str text
  | .slashed _ => .nil
  | .call _ args => .list none (argData args)
termination_by structural t => t

/-- The data that the arguments of a call show. -/
def argData : List Phrase → List Datum
  | [] => []
  | p :: ps => p.datum :: argData ps
termination_by structural ps => ps

/-- The datum that a phrase shows, where it shows one. -/
def Phrase.datum : Phrase → Datum
  | .single t => t.datum
  | .chain _ _ _ => .nil
termination_by structural p => p
end

/-- The pattern of a call, from its arguments and the patterns that they are read as. A
call that no message has is never satisfied. -/
def Head.pattern : Head → List Phrase → List Pattern → Pattern
  | .group, _, ps => .any ps
  | .list, args, _ => .equals (.list none (argData args))
  | .tagged, [.single t], _ => .tagged t.datum
  | .text, [.single (.slashed source)], _ =>
    ((TextPattern.ofSource? source).map .text).getD (.any [])
  | .includes, _, [p] => .includes p
  | .within, _, [p] => .within p
  | .not, _, [p] => .not p
  | .sibling, [_, _, .single (.word (.number gap))], [p, q, _] => .sibling p q gap.toNat
  | .sibling, _, [p, q] => .before p q
  | .any, _, ps => .any ps
  | .all, _, ps => .all ps
  | .shape, _, ps => .shape ps
  | _, _, _ => .any []

/-- Two patterns with an operator between them. -/
def Operator.pattern : Pattern.Operator → Pattern → Pattern → Pattern
  | .or, p, q => .any [p, q]
  | .and, p, q => .all [p, q]
  | .before, p, q => .before p q

mutual
/-- The pattern that a term is read as. -/
def Term.pattern : Term → Pattern
  | .word .wild => .wild
  | .word .remaining => .remaining
  | .word .atom => .atom
  | .call head args => head.pattern args (argPatterns args)
  | t => .equals t.datum
termination_by structural t => t

/-- The patterns that the arguments of a call are read as. -/
def argPatterns : List Phrase → List Pattern
  | [] => []
  | p :: ps => p.pattern :: argPatterns ps
termination_by structural ps => ps

/-- The pattern that a phrase is read as. -/
def Phrase.pattern : Phrase → Pattern
  | .single t => t.pattern
  | .chain t op rest => Operator.pattern op t.pattern rest.pattern
termination_by structural p => p
end

/-- Only the word for it is read as `remaining`. -/
theorem Phrase.eq_of_pattern_eq_remaining {p : Phrase} (h : p.pattern = .remaining) :
    p = .single (.word .remaining) := by
  cases p with
  | chain t op rest =>
    rw [pattern] at h
    cases op <;> cases h
  | single t =>
    cases t with
    | word w =>
      cases w with
      | remaining => rfl
      | _ => cases h
    | call head args =>
      exfalso
      rw [pattern, Term.pattern] at h
      unfold Head.pattern at h
      split at h
      -- every call is read as some other pattern, also that of a bad source
      case h_4 source =>
        cases hsource : TextPattern.ofSource? source <;> rw [hsource] at h <;> cases h
      all_goals cases h
    | _ => cases h

end Message

mutual
/-- A datum is read back, but for its lines. -/
theorem Datum.datum_term (d : Datum) : d.term.datum = d.unlined := by
  cases d with
  | list line slots => exact congrArg (Datum.list none) (argData_slotPhrases slots)
  | int n => exact congrArg Datum.int (Int64.ofInt_toInt n)
  | _ => rfl
termination_by structural d

theorem argData_slotPhrases (ds : List Datum) :
    argData (slotPhrases ds) = Datum.slotsUnlined ds := by
  cases ds with
  | nil => rfl
  | cons d ds =>
    rw [slotPhrases, argData, Phrase.datum, d.datum_term, argData_slotPhrases ds,
      Datum.slotsUnlined]
termination_by structural ds
end

/-- A datum is read as the pattern of what equals it. -/
theorem Datum.pattern_term (d : Datum) : d.term.pattern = .equals d.unlined := by
  rw [← d.datum_term]
  cases d <;> rfl

namespace Message.Phrase

/-! ## Chains -/

/-- True of a single term and of terms with one operator throughout. -/
def IsChainOf (op : Pattern.Operator) : Phrase → Prop
  | .single _ => True
  | .chain _ op' rest => op' = op ∧ rest.IsChainOf op

theorem IsChainOf.join {op : Pattern.Operator} {p q : Phrase} (hp : p.IsChainOf op)
    (hq : q.IsChainOf op) : (p.join op q).IsChainOf op := by
  cases p with
  | single t => exact ⟨rfl, hq⟩
  | chain t op' rest => exact ⟨hp.1, hp.2.join hq⟩
termination_by structural p

/-- Parentheses do not change what is read. -/
theorem satisfies_grouped (isGrouped : Bool) (p : Phrase) :
    (p.grouped isGrouped).pattern.satisfies = p.pattern.satisfies := by
  cases isGrouped with
  | false => rfl
  | true => exact funext fun d => Bool.or_false _

/-- The answer of an operator to a datum is put together from those of its operands. -/
def Combines (op : Pattern.Operator) (f : Bool → Bool → Bool) : Prop :=
  ∀ (p q : Pattern) (d : Datum),
    (Operator.pattern op p q).satisfies d = f (p.satisfies d) (q.satisfies d)

theorem combines_or : Combines .or or := fun p q d => by
  show (p.satisfies d || (q.satisfies d || false)) = _
  rw [Bool.or_false]

theorem combines_and : Combines .and and := fun p q d => by
  show (p.satisfies d && (q.satisfies d && true)) = _
  rw [Bool.and_true]

/-- Where an operator combines answers in any grouping, a chain can go on in another. -/
theorem satisfies_join {op : Pattern.Operator} {f : Bool → Bool → Bool}
    [hassoc : Std.Associative f] (hf : Combines op f) {p : Phrase} (hp : p.IsChainOf op)
    (q : Phrase) (d : Datum) :
    (p.join op q).pattern.satisfies d = f (p.pattern.satisfies d) (q.pattern.satisfies d) := by
  cases p with
  | single t => exact hf t.pattern q.pattern d
  | chain t op' rest =>
    -- `t op (rest op q)` is read, and `(t op rest) op q` is meant
    obtain ⟨rfl, hrest⟩ := hp
    rw [join, pattern, pattern, hf, hf, satisfies_join hf hrest, hassoc.assoc]
termination_by structural p

end Message.Phrase

namespace Pattern

/-- What is written without an operator is a single term. -/
theorem exists_single_of_operator?_eq_none {p : Pattern} (h : p.operator? = none) :
    ∃ t, p.phrase = .single t := by
  cases p with
  | sibling subject follower gap =>
    have hgap : gap ≠ 1 := by
      rintro rfl
      cases h
    exact ⟨_, if_neg hgap⟩
  | any options =>
    cases options with
    | nil => exact ⟨_, rfl⟩
    | cons p ps => cases h
  | all required =>
    cases required with
    | nil => exact ⟨_, rfl⟩
    | cons p ps => cases h
  | _ => exact ⟨_, rfl⟩

theorem operator?_of_isGrouped_eq_false {op : Operator} {p : Pattern}
    (h : isGrouped op p = false) : p.operator? = none ∨ p.operator? = some op ∧ op ≠ .before := by
  unfold isGrouped at h
  cases hop : p.operator? with
  | none => exact .inl rfl
  | some op' =>
    rw [hop] at h
    obtain ⟨hbefore, hsame⟩ := Bool.or_eq_false_iff.mp h
    obtain rfl : op' = op := by simpa using hsame
    exact .inr ⟨rfl, by simpa using hbefore⟩

/-- The left operand of `before` is a single term. -/
theorem exists_single_grouped_before (p : Pattern) :
    ∃ t, p.phrase.grouped (isGrouped .before p) = .single t := by
  cases hgrouped : isGrouped .before p with
  | true => exact ⟨_, rfl⟩
  | false =>
    rcases operator?_of_isGrouped_eq_false hgrouped with hnone | ⟨-, hne⟩
    · exact exists_single_of_operator?_eq_none hnone
    · exact absurd rfl hne

mutual
/-- An operand is a chain of the operator around it. -/
theorem isChainOf_grouped (op : Operator) (p : Pattern) :
    (p.phrase.grouped (isGrouped op p)).IsChainOf op := by
  cases hgrouped : isGrouped op p with
  | true => exact True.intro
  | false =>
    rcases operator?_of_isGrouped_eq_false hgrouped with hnone | ⟨hsome, hne⟩
    · obtain ⟨t, ht⟩ := exists_single_of_operator?_eq_none hnone
      rw [ht]
      exact True.intro
    · -- written with the operator itself, and so are the operands in it, down to the last
      cases p with
      | any options =>
        cases options with
        | nil => cases hsome
        | cons p ps =>
          obtain rfl : Operator.or = op := Option.some.inj hsome
          exact isChainOf_restPhrase .or (isChainOf_grouped .or p) ps
      | all required =>
        cases required with
        | nil => cases hsome
        | cons p ps =>
          obtain rfl : Operator.and = op := Option.some.inj hsome
          exact isChainOf_restPhrase .and (isChainOf_grouped .and p) ps
      | sibling subject follower gap =>
        by_cases hgap : gap = 1
        · subst hgap
          exact absurd (Option.some.inj hsome).symm hne
        · rw [phrase, if_neg hgap]
          exact True.intro
      | _ => cases hsome
termination_by structural p

theorem isChainOf_restPhrase (op : Operator) {first : Phrase} (hfirst : first.IsChainOf op)
    (ps : List Pattern) : (restPhrase op first ps).IsChainOf op := by
  cases ps with
  | nil => exact hfirst
  | cons p ps => exact hfirst.join (isChainOf_restPhrase op (isChainOf_grouped op p) ps)
termination_by structural ps
end

/-! ## Shapes that end like messages show them -/

mutual
/-- The pattern with a `remaining` at the end of every shape whose last element is
written like one. -/
def settled : Pattern → Pattern
  | .includes inner => .includes inner.settled
  | .within inner => .within inner.settled
  | .not inner => .not inner.settled
  | .sibling subject follower gap => .sibling subject.settled follower.settled gap
  | .any options => .any (listSettled options)
  | .all required => .all (listSettled required)
  | .shape elements => .shape (elementsSettled elements)
  | p => p
termination_by structural p => p

/-- The same for a list of patterns. -/
def listSettled : List Pattern → List Pattern
  | [] => []
  | p :: ps => p.settled :: listSettled ps
termination_by structural ps => ps

/-- The elements of a shape. -/
def elementsSettled : List Pattern → List Pattern
  | [] => []
  | p :: ps =>
    (if ps.isEmpty ∧ p.displayChars = remaining.displayChars then remaining else p.settled)
      :: elementsSettled ps
termination_by structural ps => ps
end

/-- Only `remaining` settles to `remaining`. -/
theorem eq_remaining_of_settled {p : Pattern} (h : p.settled = .remaining) : p = .remaining := by
  cases p with
  | remaining => rfl
  | _ => cases h

theorem isGrouped_settled (op : Operator) (p : Pattern) :
    isGrouped op p.settled = isGrouped op p := by
  have hoperator : p.settled.operator? = p.operator? := by
    cases p with
    | any options => cases options <;> rfl
    | all required => cases required <;> rfl
    | sibling subject follower gap => rcases gap with _ | _ | gap <;> rfl
    | _ => rfl
  rw [isGrouped, isGrouped, hoperator]

mutual
/-- Messages do not show what settling changes. -/
theorem displayChars_settled (p : Pattern) : p.settled.displayChars = p.displayChars := by
  cases p with
  | includes inner | within inner | not inner =>
    rw [settled, displayChars, displayChars, displayChars_settled inner]
  | sibling subject follower gap =>
    rw [settled, displayChars, displayChars, isGrouped_settled, isGrouped_settled,
      displayChars_settled subject, displayChars_settled follower]
  | any options => exact displayOperands_settled .or "any" options
  | all required => exact displayOperands_settled .and "all" required
  | shape elements => rw [settled, displayChars, displayChars, displayArgs_settled elements]
  | _ => rfl
termination_by structural p

theorem displayOperands_settled (op : Operator) (name : String) (ps : List Pattern) :
    displayOperands op name (listSettled ps) = displayOperands op name ps := by
  cases ps with
  | nil => rfl
  | cons p ps =>
    rw [listSettled, displayOperands, displayOperands, isGrouped_settled, displayChars_settled p,
      displayRest_settled op ps]
termination_by structural ps

theorem displayRest_settled (op : Operator) (ps : List Pattern) :
    displayRest op (listSettled ps) = displayRest op ps := by
  cases ps with
  | nil => rfl
  | cons p ps =>
    rw [listSettled, displayRest, displayRest, isGrouped_settled, displayChars_settled p,
      displayRest_settled op ps]
termination_by structural ps

theorem displayArgs_settled (ps : List Pattern) :
    displayArgs (elementsSettled ps) = displayArgs ps := by
  cases ps with
  | nil => rfl
  | cons p ps =>
    rw [elementsSettled, displayArgs, displayArgs, displayMore_settled ps]
    split
    · next hend => rw [hend.2]
    · rw [displayChars_settled p]
termination_by structural ps

theorem displayMore_settled (ps : List Pattern) :
    displayMore (elementsSettled ps) = displayMore ps := by
  cases ps with
  | nil => rfl
  | cons p ps =>
    rw [elementsSettled, displayMore, displayMore, displayMore_settled ps]
    split
    · next hend => rw [hend.2]
    · rw [displayChars_settled p]
termination_by structural ps
end

/-- **Settled patterns have all messages.** The message of a pattern is that of its settled
form. -/
theorem display_settled (p : Pattern) : p.settled.display = p.display :=
  congrArg String.ofList p.displayChars_settled

/-! ## What is read means what was written -/

/-- Shapes take the same slots if their first elements mean the same, stand for one slot,
and the other elements take the same slots. -/
theorem fits_cons_congr {p q : Pattern} {ps qs : List Pattern} (hfirst : p.satisfies = q.satisfies)
    (hrest : ∀ ds, fits ps ds = fits qs ds) (hp : p = .remaining → ps ≠ [])
    (hq : q = .remaining → qs ≠ []) (ds : List Datum) : fits (p :: ps) ds = fits (q :: qs) ds := by
  cases ds with
  | nil => rw [fits_cons_nil hp, fits_cons_nil hq]
  | cons d ds => rw [fits_cons_cons hp, fits_cons_cons hq, hfirst, hrest]

/-- The elements of a shape take the slots that they are read as taking. The last one is
read as `remaining` just when it is written so. -/
theorem fits_argPatterns {ps : List Pattern} (hlegible : listLegible ps = true)
    (hsame : ∀ p ∈ ps, p.phrase.pattern.satisfies = p.settled.satisfies) (ds : List Datum) :
    fits (argPatterns (phrases ps)) ds = fits (elementsSettled ps) ds := by
  induction ps generalizing ds with
  | nil => rfl
  | cons p ps ih =>
    rw [listLegible, Bool.and_eq_true] at hlegible
    rw [phrases, argPatterns, elementsSettled]
    split
    · next hend =>
      -- the last element, and written like `remaining`: its phrase is that word
      obtain ⟨hlast, htext⟩ := hend
      obtain rfl := List.isEmpty_iff.mp hlast
      rw [phrase_eq_of_displayChars_eq hlegible.1 rfl htext]
      rfl
    · next hend =>
      -- otherwise it takes one slot in both shapes, or is not the last
      refine fits_cons_congr (hsame p List.mem_cons_self)
        (ih hlegible.2 fun p' hp' => hsame p' (List.mem_cons_of_mem p hp')) ?_ ?_ ds
      · intro hremaining hnil
        have hphrase := Phrase.eq_of_pattern_eq_remaining hremaining
        cases ps with
        | nil => exact hend ⟨rfl, by rw [← chars_phrase, hphrase]; rfl⟩
        | cons p' ps => cases hnil
      · intro hremaining hnil
        cases ps with
        | nil => exact hend ⟨rfl, by rw [eq_remaining_of_settled hremaining]⟩
        | cons p' ps => cases hnil

section Operands

variable {op : Operator} {f : Bool → Bool → Bool} {e : Bool} [Std.Associative f]
  [hunit : Std.LawfulRightIdentity f e]

/-- Operands behind a phrase have their part in the answer. -/
theorem satisfies_restPhrase (hf : Phrase.Combines op f) {ps : List Pattern}
    (hsame : ∀ p ∈ ps, p.phrase.pattern.satisfies = p.settled.satisfies) {first : Phrase}
    (hfirst : first.IsChainOf op) (d : Datum) :
    (restPhrase op first ps).pattern.satisfies d =
      f (first.pattern.satisfies d)
        ((listSettled ps).foldr (fun p b => f (p.satisfies d) b) e) := by
  induction ps generalizing first with
  | nil => exact (hunit.right_id _).symm
  | cons p ps ih =>
    -- the operands behind this one go on in its own chain
    rw [restPhrase, Phrase.satisfies_join hf hfirst,
      ih (fun p' hp' => hsame p' (List.mem_cons_of_mem p hp')) (isChainOf_grouped op p),
      Phrase.satisfies_grouped, hsame p List.mem_cons_self]
    rfl

/-- The answer of a chain is put together from those of all its operands. -/
theorem satisfies_operandsPhrase (hf : Phrase.Combines op f) (head : Head) {p : Pattern}
    {ps : List Pattern}
    (hsame : ∀ p' ∈ p :: ps, p'.phrase.pattern.satisfies = p'.settled.satisfies) (d : Datum) :
    (operandsPhrase op head (p :: ps)).pattern.satisfies d =
      (listSettled (p :: ps)).foldr (fun p b => f (p.satisfies d) b) e := by
  have hrest : ∀ p' ∈ ps, p'.phrase.pattern.satisfies = p'.settled.satisfies :=
    fun p' hp' => hsame p' (List.mem_cons_of_mem p hp')
  rw [operandsPhrase, satisfies_restPhrase hf hrest (isChainOf_grouped op p),
    Phrase.satisfies_grouped, hsame p List.mem_cons_self]
  rfl

end Operands

theorem anySatisfied_eq_foldr (ps : List Pattern) (d : Datum) :
    anySatisfied ps d = ps.foldr (fun p b => p.satisfies d || b) false := by
  induction ps with
  | nil => rfl
  | cons p ps ih => rw [anySatisfied, ih, List.foldr_cons]

theorem allSatisfied_eq_foldr (ps : List Pattern) (d : Datum) :
    allSatisfied ps d = ps.foldr (fun p b => p.satisfies d && b) true := by
  induction ps with
  | nil => rfl
  | cons p ps ih => rw [allSatisfied, ih, List.foldr_cons]

mutual
/-- **What a message is read as.** It means what the pattern means that it is the message
of, once the ends of its shapes are what they are written like. -/
theorem satisfies_phrase (p : Pattern) (hp : p.isLegible = true) :
    p.phrase.pattern.satisfies = p.settled.satisfies := by
  cases p with
  | wild | remaining | atom => rfl
  | tagged tag =>
    have htag : (fun e : Datum => e == tag.term.datum) = fun e => e == tag :=
      funext fun e => by rw [tag.datum_term]; exact Datum.beq_unlined e tag
    exact funext fun d => congrArg (d.slots.head?.any ·) htag
  | text re =>
    show satisfies (((TextPattern.ofSource? re.source).map .text).getD (.any [])) = _
    rw [ofSource?_source]
    rfl
  | includes inner =>
    exact funext fun d => congrArg (d.slots.any ·) (satisfies_phrase inner hp)
  | within inner =>
    show satisfies (.within inner.phrase.pattern) = satisfies (.within inner.settled)
    funext d
    rw [satisfies, satisfies, satisfies_phrase inner hp]
  | not inner =>
    exact funext fun d => congrArg (fun test : Datum → Bool => !test d) (satisfies_phrase inner hp)
  | sibling subject follower gap =>
    rw [isLegible, Bool.and_eq_true] at hp
    have hpair : ∀ p q : Pattern, p.satisfies = subject.settled.satisfies →
        q.satisfies = follower.settled.satisfies →
        (sibling p q gap).satisfies = (sibling subject follower gap).settled.satisfies := by
      intro p q hsubject hfollower
      funext d
      rw [settled, satisfies, satisfies, hsubject, hfollower]
    by_cases hgap : gap = 1
    · -- written with an operator, and the left operand ends where the operator stands
      subst hgap
      obtain ⟨t, ht⟩ := exists_single_grouped_before subject
      rw [phrase, if_pos rfl, ht]
      refine hpair _ _ ?_ ?_
      · show (Phrase.single t).pattern.satisfies = _
        rw [← ht, Phrase.satisfies_grouped, satisfies_phrase subject hp.1]
      · rw [Phrase.satisfies_grouped, satisfies_phrase follower hp.2]
    · rw [phrase, if_neg hgap]
      exact hpair _ _ (satisfies_phrase subject hp.1) (satisfies_phrase follower hp.2)
  | any options =>
    cases options with
    | nil => rfl
    | cons p ps =>
      funext d
      exact (satisfies_operandsPhrase Phrase.combines_or .any (satisfies_phrases (p :: ps) hp)
        d).trans (anySatisfied_eq_foldr _ d).symm
  | all required =>
    cases required with
    | nil => rfl
    | cons p ps =>
      funext d
      exact (satisfies_operandsPhrase Phrase.combines_and .all (satisfies_phrases (p :: ps) hp)
        d).trans (allSatisfied_eq_foldr _ d).symm
  | shape elements =>
    have hsame := satisfies_phrases elements hp
    exact funext fun d => congrArg (d.isList && ·) (fits_argPatterns hp hsame d.slots)
  | equals value =>
    funext d
    rw [phrase, Phrase.pattern, value.pattern_term]
    exact Datum.beq_unlined d value
termination_by structural p

theorem satisfies_phrases (ps : List Pattern) (hps : listLegible ps = true) :
    ∀ p ∈ ps, p.phrase.pattern.satisfies = p.settled.satisfies := by
  cases ps with
  | nil => exact fun p hp => nomatch hp
  | cons p ps =>
    rw [listLegible, Bool.and_eq_true] at hps
    rintro p' (_ | ⟨_, hmem⟩)
    · exact satisfies_phrase p hps.1
    · exact satisfies_phrases ps hps.2 p' hmem
termination_by structural ps
end

/-- **One message, one meaning.** Legible patterns with the same message have the same
meaning once the ends of their shapes are what they are written like, and have it already
where they are. -/
theorem meaning_of_display {p q : Pattern} (hp : p.isLegible = true) (hq : q.isLegible = true)
    (h : p.display = q.display) :
    (∀ d, p.settled.satisfies d = q.settled.satisfies d) ∧
      (p.settled = p → q.settled = q → ∀ d, p.satisfies d = q.satisfies d) := by
  have hphrase := phrase_eq_of_displayChars_eq hp hq (String.ofList_injective h)
  have hmeaning : p.settled.satisfies = q.settled.satisfies := by
    rw [← satisfies_phrase p hp, ← satisfies_phrase q hq, hphrase]
  refine ⟨congrFun hmeaning, fun hpsettled hqsettled => ?_⟩
  rw [hpsettled, hqsettled] at hmeaning
  exact congrFun hmeaning

/-- Two groupings of one chain. -/
theorem meaning_of_display_regrouped :
    let p : Pattern := .any [sym "a", .any [.atom, .shape [.remaining]]]
    let q : Pattern := .any [.any [sym "a", .atom], .shape [.remaining]]
    (p.isLegible = true ∧ q.isLegible = true ∧ p.display = q.display ∧ p.settled = p ∧
      q.settled = q) ∧ ∀ d, p.satisfies d = q.satisfies d :=
  ⟨⟨by decide, by decide, by decide, rfl, rfl⟩,
    (meaning_of_display (by decide) (by decide) (by decide)).2 rfl rfl⟩

/-- The text of a `remaining` that stands alone in an `any` is that of a `remaining`, but
at the end of a shape it takes one slot only. -/
theorem display_confuses_ends :
    let p : Pattern := .shape [.any [.remaining]]
    let q : Pattern := .shape [.remaining]
    let d : Datum := .list none [.sym "a", .sym "b"]
    p.isLegible = true ∧ q.isLegible = true ∧ p.display = "q(___)" ∧ q.display = "q(___)" ∧
      p.satisfies d = false ∧ q.satisfies d = true := by
  decide

end Pattern
end SexprQuery
