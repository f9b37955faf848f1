import SexprQuery.Proofs.PatternDescent

/-!
# The grammar of patterns

Which rows of tokens are forms, and what pattern each of them is: `IsForm`, with a
constructor for each production. The recursive descent reads a form at the front of
whatever follows it (`IsForm.gives`): nothing is needed behind a form to know where it
ends.
-/

namespace SexprQuery.Pattern

open Descent

/-! ## Productions -/

/-- The tokens of a bracket command. -/
def bracket (name : String) (args : List Token) (l₁ l₂ l₃ : Nat) : List Token :=
  ⟨.openBracket, l₁⟩ :: ⟨.word name, l₂⟩ :: (args ++ [⟨.closeBracket, l₃⟩])

/-- The tokens in parentheses. -/
def parens (inner : List Token) (l₁ l₂ : Nat) : List Token :=
  ⟨.opening, l₁⟩ :: (inner ++ [⟨.closing, l₂⟩])

mutual
/-- Data in a tag: no word of it is a wildcard. -/
inductive IsLiteral : List Token → Datum → Prop where
  | word (w : String) (l : Nat) : IsLiteral [⟨.word w, l⟩] (.ofWord w)
  | str (contents : String) (l : Nat) : IsLiteral [⟨.str contents, l⟩] (.str contents)
  | sym (name : String) (l : Nat) : IsLiteral [⟨.sym name, l⟩] (.sym name)
  | list {ts : List Token} {ds : List Datum} (h : AreLiterals ts ds) (l₁ l₂ : Nat) :
    IsLiteral (parens ts l₁ l₂) (.list (some l₁) ds)

/-- Data one behind the other. -/
inductive AreLiterals : List Token → List Datum → Prop where
  | nil : AreLiterals [] []
  | cons {ts us : List Token} {d : Datum} {ds : List Datum} (h : IsLiteral ts d)
    (hs : AreLiterals us ds) : AreLiterals (ts ++ us) (d :: ds)
end

/-- A token that stands for an atom. -/
inductive IsAtom : Token → Datum → Prop where
  | word {w : String} (hwild : w ≠ "_") (hremaining : w ≠ "___") (l : Nat) :
    IsAtom ⟨.word w, l⟩ (.ofWord w)
  | str (contents : String) (l : Nat) : IsAtom ⟨.str contents, l⟩ (.str contents)
  | sym (name : String) (l : Nat) : IsAtom ⟨.sym name, l⟩ (.sym name)

/-- What `[m …]` takes: a regular expression, another `[m …]`, or an atom whose text is to
be matched exactly. -/
inductive IsText : List Token → TextPattern → Prop where
  | regex {source : String} {re : TextPattern} (h : TextPattern.ofSource source = .ok re)
    (l : Nat) : IsText [⟨.regex source, l⟩] re
  | nested {ts : List Token} {re : TextPattern} (h : IsText ts re) (l₁ l₂ l₃ : Nat) :
    IsText (bracket "m" ts l₁ l₂ l₃) re
  | exact {t : Token} {d : Datum} {re : TextPattern} (h : IsAtom t d)
    (hre : TextPattern.exact d.text = .ok re) : IsText [t] re

mutual
/-- The tokens of a form and the pattern that they mean. -/
inductive IsForm : List Token → Pattern → Prop where
  | wild (l : Nat) : IsForm [⟨.word "_", l⟩] .wild
  | remaining (l : Nat) : IsForm [⟨.word "___", l⟩] .remaining
  | equals {t : Token} {d : Datum} (h : IsAtom t d) : IsForm [t] (.equals d)
  | regex {source : String} {re : TextPattern} (h : TextPattern.ofSource source = .ok re)
    (l : Nat) : IsForm [⟨.regex source, l⟩] (.text re)
  | shape {ts : List Token} {ps : List Pattern} (h : AreForms ts ps) (l₁ l₂ : Nat) :
    IsForm (parens ts l₁ l₂) (.shape ps)
  | atom (l₁ l₂ l₃ : Nat) : IsForm (bracket "atom" [] l₁ l₂ l₃) .atom
  | tagged {ts : List Token} {d : Datum} (h : IsLiteral ts d) (l₁ l₂ l₃ : Nat) :
    IsForm (bracket "t" ts l₁ l₂ l₃) (.tagged d)
  | text {ts : List Token} {re : TextPattern} (h : IsText ts re) (l₁ l₂ l₃ : Nat) :
    IsForm (bracket "m" ts l₁ l₂ l₃) (.text re)
  | not {name : String} (hname : name = "not?" ∨ name = "-") {ts : List Token} {p : Pattern}
    (h : IsForm ts p) (l₁ l₂ l₃ : Nat) : IsForm (bracket name ts l₁ l₂ l₃) (.not p)
  | within {ts : List Token} {p : Pattern} (h : IsForm ts p) (l₁ l₂ l₃ : Nat) :
    IsForm (bracket "child" ts l₁ l₂ l₃) (.within p)
  | includes {ts : List Token} {p : Pattern} (h : IsForm ts p) (l₁ l₂ l₃ : Nat) :
    IsForm (bracket "include" ts l₁ l₂ l₃) (.includes p)
  | any {ts : List Token} {ps : List Pattern} (h : AreForms ts ps) (l₁ l₂ l₃ : Nat) :
    IsForm (bracket "any" ts l₁ l₂ l₃) (.any ps)
  | all {ts : List Token} {ps : List Pattern} (h : AreForms ts ps) (l₁ l₂ l₃ : Nat) :
    IsForm (bracket "all" ts l₁ l₂ l₃) (.all ps)
  | before {ts us : List Token} {p q : Pattern} (hp : IsForm ts p) (hq : IsForm us q)
    (l₁ l₂ l₃ : Nat) : IsForm (bracket ">>" (ts ++ us) l₁ l₂ l₃) (.sibling p q 1)
  /-- The gap is a word for an integer of 64 bits that is at least 1. -/
  | sibling {ts us : List Token} {p q : Pattern} (hp : IsForm ts p) (hq : IsForm us q)
    {w : String} {n : Int64} (hw : Datum.ofWord w = .int n) (hn : 1 ≤ n.toInt) (l l₁ l₂ l₃ : Nat) :
    IsForm (bracket ">>" (ts ++ us ++ [⟨.word w, l⟩]) l₁ l₂ l₃) (.sibling p q n.toInt.toNat)

/-- Forms one behind the other. -/
inductive AreForms : List Token → List Pattern → Prop where
  | nil : AreForms [] []
  | cons {ts us : List Token} {p : Pattern} {ps : List Pattern} (h : IsForm ts p)
    (hs : AreForms us ps) : AreForms (ts ++ us) (p :: ps)
end

theorem IsAtom.isList_eq {t : Token} {d : Datum} (h : IsAtom t d) : d.isList = false := by
  cases h with
  | word _ _ _ => exact Datum.isList_ofWord _
  | _ => rfl

/-- A word for a number is no wildcard. -/
theorem IsAtom.of_ofWord {w : String} {n : Int64} (h : Datum.ofWord w = .int n) (l : Nat) :
    IsAtom ⟨.word w, l⟩ (.int n) := by
  rw [← h]
  refine .word ?_ ?_ l
  · rintro rfl
    cases h
  · rintro rfl
    cases h

/-! ## Reading at the front -/

/-- The computation reads a value at the front of the tokens and leaves the given rest. -/
def Gives {α : Type} {ts : List Token} (x : Except PatternError (Front α ts)) (a : α)
    (rest : List Token) : Prop :=
  ∃ r, x = .ok r ∧ r.value = a ∧ r.rest = rest

section
variable {α β : Type} {ts us rest : List Token}

theorem Gives.ok (r : Front α ts) : Gives (.ok r) r.value r.rest := ⟨r, rfl, rfl, rfl⟩

theorem gives_bind {x : Except PatternError (Front α ts)}
    {f : Front α ts → Except PatternError (Front β us)} {b : β} :
    Gives (x >>= f) b rest ↔ ∃ r, x = .ok r ∧ Gives (f r) b rest := by
  cases x with
  | error e => simp [Gives, bind, Except.bind]
  | ok r => simp [bind, Except.bind]

theorem Gives.bind {x : Except PatternError (Front α ts)}
    {f : Front α ts → Except PatternError (Front β us)} {a : α} {between : List Token} {b : β}
    (hx : Gives x a between)
    (hf : ∀ r : Front α ts, r.value = a → r.rest = between → Gives (f r) b rest) :
    Gives (x >>= f) b rest := by
  obtain ⟨r, hr, hvalue, hrest⟩ := hx
  exact gives_bind.mpr ⟨r, hr, hf r hvalue hrest⟩

end

/-! ## Literals -/

/-- A datum does not start with a token that closes something. -/
theorem Gives.literal_head {line : Nat} {d : Datum} {ts rest : List Token}
    (h : Gives (literal line ts) d rest) :
    ∃ t us, ts = t :: us ∧ t.lexeme ≠ .closing ∧ t.lexeme ≠ .closeBracket := by
  match ts with
  | [] =>
    rw [literal] at h
    obtain ⟨_, ⟨⟩, _⟩ := h
  | ⟨lexeme, l⟩ :: us =>
    rw [literal] at h
    cases lexeme with
    | closing | closeBracket => obtain ⟨_, ⟨⟩, _⟩ := h
    | _ => exact ⟨_, us, rfl, nofun, nofun⟩

theorem Gives.literals_cons {line : Nat} {d : Datum} {ds : List Datum} {ts us rest : List Token}
    (h : ∀ line, Gives (literal line ts) d us) (hs : Gives (literals line us) ds rest) :
    Gives (literals line ts) (d :: ds) rest := by
  obtain ⟨t, ts, rfl, hclosing, -⟩ := (h line).literal_head
  rw [literals, if_neg hclosing]
  refine (h line).bind ?_
  rintro r rfl rfl
  refine hs.bind ?_
  rintro rs rfl rfl
  exact Gives.ok (r.cons rs)

mutual
theorem IsLiteral.gives {ts : List Token} {d : Datum} (h : IsLiteral ts d) (rest : List Token)
    (line : Nat) : Gives (literal line (ts ++ rest)) d rest := by
  cases h with
  | word w l =>
    rw [List.singleton_append, literal]
    exact Gives.ok _
  | str contents l =>
    rw [List.singleton_append, literal]
    exact Gives.ok _
  | sym name l =>
    rw [List.singleton_append, literal]
    exact Gives.ok _
  | list h l₁ l₂ =>
    rw [parens, List.cons_append, List.append_assoc, List.singleton_append, literal]
    refine (AreLiterals.gives h l₂ rest l₁).bind ?_
    rintro r rfl hrest
    exact ⟨_, rfl, rfl, hrest⟩
termination_by sizeOf d

theorem AreLiterals.gives {ts : List Token} {ds : List Datum} (h : AreLiterals ts ds)
    (l : Nat) (rest : List Token) (line : Nat) :
    Gives (literals line (ts ++ ⟨.closing, l⟩ :: rest)) ds rest := by
  cases h with
  | nil =>
    rw [List.nil_append, literals, if_pos rfl]
    exact Gives.ok _
  | cons h hs =>
    rw [List.append_assoc]
    exact Gives.literals_cons (IsLiteral.gives h _) (AreLiterals.gives hs l rest line)
termination_by sizeOf ds
end

mutual
theorem isLiteral_of_gives (line : Nat) {ts rest : List Token} {d : Datum}
    (h : Gives (literal line ts) d rest) : ∃ us, ts = us ++ rest ∧ IsLiteral us d := by
  match ts with
  | [] =>
    rw [literal] at h
    obtain ⟨_, ⟨⟩, _⟩ := h
  | ⟨lexeme, l⟩ :: ts =>
    rw [literal] at h
    cases lexeme with
    | opening =>
      obtain ⟨r, hr, _, ⟨⟩, rfl, rfl⟩ := gives_bind.mp h
      obtain ⟨us, l₂, hus, hslots⟩ := areLiterals_of_gives l ⟨r, hr, rfl, rfl⟩
      refine ⟨parens us l l₂, (congrArg (List.cons _) hus).trans ?_, .list hslots l l₂⟩
      rw [parens, List.cons_append, List.append_assoc]
      rfl
    | word w =>
      obtain ⟨_, ⟨⟩, rfl, rfl⟩ := h
      exact ⟨_, rfl, .word w l⟩
    | str contents =>
      obtain ⟨_, ⟨⟩, rfl, rfl⟩ := h
      exact ⟨_, rfl, .str contents l⟩
    | sym name =>
      obtain ⟨_, ⟨⟩, rfl, rfl⟩ := h
      exact ⟨_, rfl, .sym name l⟩
    | _ => obtain ⟨_, ⟨⟩, _⟩ := h
termination_by (ts.length, 0)

theorem areLiterals_of_gives (line : Nat) {ts rest : List Token} {ds : List Datum}
    (h : Gives (literals line ts) ds rest) :
    ∃ us l, ts = us ++ ⟨.closing, l⟩ :: rest ∧ AreLiterals us ds := by
  match ts with
  | [] =>
    rw [literals] at h
    obtain ⟨_, ⟨⟩, _⟩ := h
  | t :: ts =>
    rw [literals] at h
    split at h
    · next hclosing =>
      obtain ⟨_, ⟨⟩, rfl, rfl⟩ := h
      obtain ⟨_, l⟩ := t
      obtain rfl := hclosing
      exact ⟨[], l, rfl, .nil⟩
    · obtain ⟨r, hr, hrs⟩ := gives_bind.mp h
      obtain ⟨rs, hrs', _, ⟨⟩, rfl, rfl⟩ := gives_bind.mp hrs
      have := r.shorter
      obtain ⟨us, hus, hhead⟩ := isLiteral_of_gives line ⟨r, hr, rfl, rfl⟩
      obtain ⟨vs, l, hvs, htail⟩ := areLiterals_of_gives line ⟨rs, hrs', rfl, rfl⟩
      refine ⟨us ++ vs, l, ?_, .cons hhead htail⟩
      exact (hus.trans (congrArg (us ++ ·) hvs)).trans (List.append_assoc us vs _).symm
termination_by (ts.length, 1)
end

/-- What stands behind the name `t` is a datum and the bracket. -/
theorem IsLiteral.gives_typeCommand {ts : List Token} {d : Datum} (h : IsLiteral ts d)
    (line l : Nat) (rest : List Token) :
    Gives (typeCommand line (ts ++ ⟨.closeBracket, l⟩ :: rest)) (.tagged d) rest := by
  have hgives := h.gives (⟨.closeBracket, l⟩ :: rest) line
  obtain ⟨t, us, hts, -, hbracket⟩ := hgives.literal_head
  have hhead : (ts ++ ⟨.closeBracket, l⟩ :: rest).head?.map Token.lexeme ≠
      some .closeBracket := by
    rw [hts]
    simpa using hbracket
  rw [typeCommand, if_neg hhead]
  refine hgives.bind ?_
  rintro ⟨_, _, _⟩ rfl rfl
  exact Gives.ok _

theorem isLiteral_of_gives_typeCommand {line : Nat} {ts rest : List Token} {p : Pattern}
    (h : Gives (typeCommand line ts) p rest) :
    ∃ us l d, ts = us ++ ⟨.closeBracket, l⟩ :: rest ∧ IsLiteral us d ∧ p = .tagged d := by
  unfold typeCommand at h
  split at h
  · obtain ⟨_, ⟨⟩, _⟩ := h
  · obtain ⟨⟨d, between, _⟩, hr, hend⟩ := gives_bind.mp h
    obtain ⟨us, hus, hd⟩ := isLiteral_of_gives line ⟨_, hr, rfl, rfl⟩
    cases between with
    | nil => obtain ⟨_, ⟨⟩, _⟩ := hend
    | cons t vs =>
      dsimp only at hend
      split at hend
      · next hbracket =>
        obtain ⟨_, ⟨⟩, rfl, rfl⟩ := hend
        obtain ⟨_, l⟩ := t
        obtain rfl := hbracket
        exact ⟨us, l, d, hus, hd, rfl⟩
      · obtain ⟨_, ⟨⟩, _⟩ := hend

/-! ## Forms are read -/

/-- A form does not start with a token that closes something. -/
theorem Gives.form_head {lastLine : Nat} {p : Pattern} {ts rest : List Token}
    (h : Gives (form lastLine ts) p rest) :
    ∃ t us, ts = t :: us ∧ t.lexeme ≠ .closing ∧ t.lexeme ≠ .closeBracket := by
  match ts with
  | [] =>
    rw [form] at h
    obtain ⟨_, ⟨⟩, _⟩ := h
  | ⟨lexeme, l⟩ :: us =>
    rw [form] at h
    cases lexeme with
    | closing | closeBracket => obtain ⟨_, ⟨⟩, _⟩ := h
    | _ => exact ⟨_, us, rfl, nofun, nofun⟩

section
variable {lastLine line : Nat} {close : Lexeme} {unclosed : Malformed} {ts us rest : List Token}

theorem gives_formsUntil_nil (l : Nat) :
    Gives (formsUntil lastLine close unclosed line (⟨close, l⟩ :: rest)) [] rest := by
  rw [formsUntil, if_pos rfl]
  exact Gives.ok _

theorem Gives.formsUntil_cons (hclose : close = .closing ∨ close = .closeBracket) {p : Pattern}
    {ps : List Pattern} (h : Gives (form lastLine ts) p us)
    (hs : Gives (formsUntil lastLine close unclosed line us) ps rest) :
    Gives (formsUntil lastLine close unclosed line ts) (p :: ps) rest := by
  obtain ⟨t, ts, rfl, hclosing, hbracket⟩ := h.form_head
  have hopen : t.lexeme ≠ close := by rcases hclose with rfl | rfl <;> assumption
  rw [formsUntil, if_neg hopen]
  refine h.bind ?_
  rintro r rfl rfl
  refine hs.bind ?_
  rintro rs rfl rfl
  exact Gives.ok (r.cons rs)

/-- A form with brackets is what the command behind its bracket is. -/
theorem Gives.form_bracket {name : String} {args : List Token} {p : Pattern} {l₁ l₂ l₃ : Nat}
    (h : Gives (command lastLine l₁
      (⟨.word name, l₂⟩ :: (args ++ ⟨.closeBracket, l₃⟩ :: rest))) p rest) :
    Gives (form lastLine (bracket name args l₁ l₂ l₃ ++ rest)) p rest := by
  rw [bracket, List.cons_append, List.cons_append, List.append_assoc, List.singleton_append, form]
  refine h.bind ?_
  rintro r rfl hrest
  exact ⟨_, rfl, rfl, hrest⟩

/-- A command other than `[t …]` is made of the forms in it. -/
theorem Gives.bracket {name : String} (hname : name ≠ "t") {args : List Token}
    {ps : List Pattern} {p : Pattern} {l₁ l₂ l₃ : Nat}
    (h : Gives (formsUntil lastLine .closeBracket .unclosedBracket l₁
      (args ++ ⟨.closeBracket, l₃⟩ :: rest)) ps rest) (hp : ofCommand name ps l₁ = .ok p) :
    Gives (form lastLine (Pattern.bracket name args l₁ l₂ l₃ ++ rest)) p rest := by
  refine Gives.form_bracket ?_
  rw [command]
  dsimp only
  rw [if_neg hname]
  refine h.bind ?_
  rintro r rfl hrest
  rw [hp]
  exact ⟨_, rfl, rfl, hrest⟩

/-- A bracket command with one argument. -/
theorem Gives.bracket_single {name : String} (hname : name ≠ "t") {arg : List Token}
    {q p : Pattern} {l₁ l₂ l₃ : Nat}
    (h : Gives (form lastLine (arg ++ ⟨.closeBracket, l₃⟩ :: rest)) q (⟨.closeBracket, l₃⟩ :: rest))
    (hp : ofCommand name [q] l₁ = .ok p) :
    Gives (form lastLine (Pattern.bracket name arg l₁ l₂ l₃ ++ rest)) p rest :=
  Gives.bracket hname (h.formsUntil_cons (.inr rfl) (gives_formsUntil_nil l₃)) hp

end

theorem IsAtom.gives {t : Token} {d : Datum} (h : IsAtom t d) (lastLine : Nat)
    (rest : List Token) : Gives (form lastLine (t :: rest)) (.equals d) rest := by
  rw [form]
  cases h with
  | word hwild hremaining l =>
    dsimp only
    rw [ofWord, if_neg hwild, if_neg hremaining]
    exact Gives.ok _
  | _ => exact Gives.ok _

theorem gives_regex {source : String} {re : TextPattern} (h : TextPattern.ofSource source = .ok re)
    (lastLine l : Nat) (rest : List Token) :
    Gives (form lastLine (⟨.regex source, l⟩ :: rest)) (.text re) rest := by
  rw [form]
  dsimp only
  rw [h]
  exact Gives.ok _

/-- What `[m …]` takes is a form of which the command makes its pattern. -/
theorem IsText.gives {ts : List Token} {re : TextPattern} (h : IsText ts re) :
    ∃ p, (∀ lastLine rest, Gives (form lastLine (ts ++ rest)) p rest) ∧
      ∀ line, ofCommand "m" [p] line = .ok (.text re) := by
  induction h with
  | regex h l => exact ⟨_, fun lastLine rest => gives_regex h lastLine l rest, fun _ => rfl⟩
  | nested h l₁ l₂ l₃ ih =>
    obtain ⟨p, hp, hcommand⟩ := ih
    exact ⟨_, fun lastLine rest => .bracket_single (by decide) (hp lastLine _) (hcommand l₁),
      fun _ => rfl⟩
  | exact h hre => exact ⟨_, h.gives, (IsCommand.exact h.isList_eq hre).ofCommand_eq⟩

mutual
/-- A form is read at the front of whatever follows it. -/
theorem IsForm.gives {ts : List Token} {p : Pattern} (h : IsForm ts p) (lastLine : Nat)
    (rest : List Token) : Gives (form lastLine (ts ++ rest)) p rest := by
  cases h with
  | wild l =>
    rw [List.singleton_append, form]
    exact Gives.ok _
  | remaining l =>
    rw [List.singleton_append, form]
    exact Gives.ok _
  | equals h => exact h.gives lastLine rest
  | regex h l => exact gives_regex h lastLine l rest
  | shape h l₁ l₂ =>
    rw [parens, List.cons_append, List.append_assoc, List.singleton_append, form]
    refine (AreForms.gives h lastLine (.inl rfl) .unclosedList l₁ l₂ rest).bind ?_
    rintro r rfl hrest
    exact ⟨_, rfl, rfl, hrest⟩
  | atom l₁ l₂ l₃ => exact .bracket (by decide) (gives_formsUntil_nil l₃) rfl
  | tagged h l₁ l₂ l₃ =>
    refine Gives.form_bracket ?_
    rw [command]
    refine (h.gives_typeCommand l₁ l₃ rest).bind ?_
    rintro r hvalue hrest
    exact ⟨_, rfl, hvalue, hrest⟩
  | text h l₁ l₂ l₃ =>
    obtain ⟨p, hp, hcommand⟩ := h.gives
    exact .bracket_single (by decide) (hp lastLine _) (hcommand l₁)
  | not hname h l₁ l₂ l₃ =>
    have harg := IsForm.gives h lastLine (⟨.closeBracket, l₃⟩ :: rest)
    rcases hname with rfl | rfl <;> exact .bracket_single (by decide) harg rfl
  | within h l₁ l₂ l₃ => exact .bracket_single (by decide) (IsForm.gives h lastLine _) rfl
  | includes h l₁ l₂ l₃ => exact .bracket_single (by decide) (IsForm.gives h lastLine _) rfl
  | any h l₁ l₂ l₃ =>
    exact .bracket (by decide) (AreForms.gives h lastLine (.inr rfl) _ l₁ l₃ rest) rfl
  | all h l₁ l₂ l₃ =>
    exact .bracket (by decide) (AreForms.gives h lastLine (.inr rfl) _ l₁ l₃ rest) rfl
  | before hp hq l₁ l₂ l₃ =>
    have hend : Gives (formsUntil lastLine .closeBracket .unclosedBracket l₁
        (⟨.closeBracket, l₃⟩ :: rest)) [] rest := gives_formsUntil_nil l₃
    have hargs := (IsForm.gives hp lastLine _).formsUntil_cons (.inr rfl)
      ((IsForm.gives hq lastLine _).formsUntil_cons (.inr rfl) hend)
    rw [← List.append_assoc] at hargs
    exact .bracket (by decide) hargs rfl
  | @sibling _ _ _ _ hp hq w n hw hn l l₁ l₂ l₃ =>
    have hend : Gives (formsUntil lastLine .closeBracket .unclosedBracket l₁
        (⟨.closeBracket, l₃⟩ :: rest)) [] rest := gives_formsUntil_nil l₃
    have hgap := ((IsAtom.of_ofWord hw l).gives lastLine _).formsUntil_cons (.inr rfl) hend
    have hargs := (IsForm.gives hp lastLine _).formsUntil_cons (.inr rfl)
      ((IsForm.gives hq lastLine _).formsUntil_cons (.inr rfl) hgap)
    rw [← List.append_assoc, ← List.singleton_append, ← List.append_assoc] at hargs
    have hspelled : gap? (.equals (.int n)) = some n.toInt.toNat := if_pos hn
    exact .bracket (by decide) hargs ((IsCommand.sibling _ _ hspelled).ofCommand_eq l₁)
termination_by sizeOf p

theorem AreForms.gives {ts : List Token} {ps : List Pattern} (h : AreForms ts ps) (lastLine : Nat)
    {close : Lexeme} (hclose : close = .closing ∨ close = .closeBracket) (unclosed : Malformed)
    (line l : Nat) (rest : List Token) :
    Gives (formsUntil lastLine close unclosed line (ts ++ ⟨close, l⟩ :: rest)) ps rest := by
  cases h with
  | nil => exact gives_formsUntil_nil l
  | cons h hs =>
    rw [List.append_assoc]
    exact (IsForm.gives h lastLine _).formsUntil_cons hclose
      (AreForms.gives hs lastLine hclose unclosed line l rest)
termination_by sizeOf ps
end

end SexprQuery.Pattern
