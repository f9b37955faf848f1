import SexprQuery.Pattern.Parser

/-!
# Bracket commands

What a command makes of its arguments (`IsCommand`), with a constructor for each way to
call one, and what else can become of it (`CommandOutcome`). `Pattern.ofCommand` gives a
pattern exactly where the table has one (`ofCommand_eq_ok_iff`); the proofs about pattern
text take their cases from here. The tag of `[t …]` is data and not an argument, so `t` is
no command of this table.
-/

namespace SexprQuery

theorem TextPattern.ofSource_error {source : String} {e : PatternError}
    (h : TextPattern.ofSource source = .error e) : e = .badRegex source := by
  unfold TextPattern.ofSource at h
  split at h
  · cases h
  · cases h
    rfl

namespace Pattern

/-- A gap is spelled by a positive integer. -/
theorem eq_int_of_gap? {p : Pattern} {gap : Nat} (h : gap? p = some gap) :
    ∃ n : Int64, p = .equals (.int n) ∧ 1 ≤ n.toInt ∧ gap = n.toInt.toNat := by
  unfold gap? at h
  split at h
  · split at h
    · next hn =>
      cases h
      exact ⟨_, rfl, hn, rfl⟩
    · cases h
  · cases h

/-! ## What a command makes of its arguments -/

/-- The patterns that the commands make. -/
inductive IsCommand : String → List Pattern → Pattern → Prop where
  | atom : IsCommand "atom" [] .atom
  | text (re : TextPattern) : IsCommand "m" [.text re] (.text re)
  | exact {d : Datum} {re : TextPattern} (hatom : d.isList = false)
    (hre : TextPattern.exact d.text = .ok re) : IsCommand "m" [.equals d] (.text re)
  | not {name : String} (hname : name = "not?" ∨ name = "-") (p : Pattern) :
    IsCommand name [p] (.not p)
  | within (p : Pattern) : IsCommand "child" [p] (.within p)
  | includes (p : Pattern) : IsCommand "include" [p] (.includes p)
  | any (ps : List Pattern) : IsCommand "any" ps (.any ps)
  | all (ps : List Pattern) : IsCommand "all" ps (.all ps)
  | before (p q : Pattern) : IsCommand ">>" [p, q] (.sibling p q 1)
  | sibling (p q : Pattern) {g : Pattern} {gap : Nat} (hgap : gap? g = some gap) :
    IsCommand ">>" [p, q, g] (.sibling p q gap)

theorem IsCommand.ofCommand_eq {name : String} {args : List Pattern} {p : Pattern}
    (h : IsCommand name args p) (line : Nat) : ofCommand name args line = .ok p := by
  cases h with
  | exact hatom hre =>
    show (if _ then _ else Except.map Pattern.text _) = _
    rw [hatom, if_neg Bool.false_ne_true, hre]
    rfl
  | not hname => rcases hname with rfl | rfl <;> rfl
  | sibling p q hgap => simp [ofCommand, hgap]
  | _ => rfl

/-! ## What else can become of it -/

/-- A command makes a pattern, or fails for its arguments, for a text that is no regular
expression, or for its name. -/
inductive CommandOutcome (name : String) (args : List Pattern) (line : Nat) :
    Except PatternError Pattern → Prop where
  | made {p : Pattern} (h : IsCommand name args p) : CommandOutcome name args line (.ok p)
  | arity (expected : Arity) :
    CommandOutcome name args line (.error (.malformed (.arity name expected) line))
  | badRegex (source : String) : CommandOutcome name args line (.error (.badRegex source))
  | unknown : CommandOutcome name args line (.error (.unknownCommand name (suggestion? name)))

theorem commandOutcome_exact {d : Datum} (hatom : d.isList = false) (line : Nat) :
    CommandOutcome "m" [.equals d] line ((TextPattern.exact d.text).map .text) := by
  cases hre : TextPattern.exact d.text with
  | ok re => exact .made (.exact hatom hre)
  | error e =>
    cases TextPattern.ofSource_error hre
    exact .badRegex _

theorem commandOutcome_ofCommand (name : String) (args : List Pattern) (line : Nat) :
    CommandOutcome name args line (ofCommand name args line) := by
  unfold ofCommand
  dsimp only
  by_cases hname : name = "atom"
  · subst hname
    match args with
    | [] => exact .made .atom
    | _ :: _ => exact .arity .nothing
  rw [if_neg hname]
  by_cases hname : name = "m"
  · subst hname
    rw [if_pos rfl]
    split
    · exact .made (.text _)
    · next d =>
      cases hatom : d.isList with
      | false => exact commandOutcome_exact hatom line
      | true => exact .arity .regexOrAtom
    · exact .arity .regexOrAtom
  rw [if_neg hname]
  by_cases hname : name = "not?" ∨ name = "-"
  · rw [if_pos hname]
    split
    · exact .made (.not hname _)
    · exact .arity .onePattern
  rw [if_neg hname]
  by_cases hname : name = "child"
  · subst hname
    rw [if_pos rfl]
    split
    · exact .made (.within _)
    · exact .arity .onePattern
  rw [if_neg hname]
  by_cases hname : name = "include"
  · subst hname
    rw [if_pos rfl]
    split
    · exact .made (.includes _)
    · exact .arity .onePattern
  rw [if_neg hname]
  by_cases hname : name = "any"
  · subst hname
    exact .made (.any args)
  rw [if_neg hname]
  by_cases hname : name = "all"
  · subst hname
    exact .made (.all args)
  rw [if_neg hname]
  by_cases hname : name = ">>"
  · subst hname
    rw [if_pos rfl]
    split
    · exact .made (.before _ _)
    · split
      · next hgap => exact .made (.sibling _ _ hgap)
      · exact .arity .twoPatterns
    · exact .arity .twoPatterns
  rw [if_neg hname]
  exact .unknown

/-- The commands there are, and what each of them asks for. -/
theorem ofCommand_eq_ok_iff {name : String} {args : List Pattern} {line : Nat} {p : Pattern} :
    ofCommand name args line = .ok p ↔ IsCommand name args p := by
  refine ⟨fun h => ?_, fun h => h.ofCommand_eq line⟩
  have houtcome := commandOutcome_ofCommand name args line
  rw [h] at houtcome
  cases houtcome with
  | made hp => exact hp

end Pattern

end SexprQuery
