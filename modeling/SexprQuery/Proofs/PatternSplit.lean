import SexprQuery.Proofs.PatternGrammar

/-!
# Pattern text as a row of forms

What the recursive descent reads at the front of the tokens is a form of the grammar
(`isForm_of_gives`), and it reads every form there is, so a row of tokens is a row of
forms in one way at most (`IsSplit.unique`). `parse_eq_last_form` is the specification of
`Pattern.parse` by the grammar.
-/

namespace SexprQuery.Pattern

open Descent

/-! ## What is read is a form -/

theorem AreForms.eq_nil {ts : List Token} (h : AreForms ts []) : ts = [] := by
  cases h
  rfl

theorem AreForms.exists_append {ts : List Token} {p : Pattern} {ps : List Pattern}
    (h : AreForms ts (p :: ps)) : ∃ us vs, ts = us ++ vs ∧ IsForm us p ∧ AreForms vs ps := by
  cases h with
  | cons h hs => exact ⟨_, _, rfl, h, hs⟩

theorem AreForms.isForm {ts : List Token} {p : Pattern} (h : AreForms ts [p]) : IsForm ts p := by
  obtain ⟨us, vs, rfl, hp, hnil⟩ := h.exists_append
  rwa [hnil.eq_nil, List.append_nil]

theorem IsForm.isText {ts : List Token} {re : TextPattern} (h : IsForm ts (.text re)) :
    IsText ts re := by
  cases h with
  | regex h l => exact .regex h l
  | text h l₁ l₂ l₃ => exact .nested h l₁ l₂ l₃

theorem IsForm.isAtom {ts : List Token} {d : Datum} (h : IsForm ts (.equals d)) :
    ∃ t, ts = [t] ∧ IsAtom t d := by
  cases h with
  | equals h => exact ⟨_, rfl, h⟩

/-- Only a word spells an integer. -/
theorem IsAtom.exists_word {t : Token} {n : Int64} (h : IsAtom t (.int n)) :
    ∃ w l, t = ⟨.word w, l⟩ ∧ Datum.ofWord w = .int n := by
  generalize hd : Datum.int n = d at h
  cases h with
  | word _ _ l => exact ⟨_, l, rfl, rfl⟩
  | _ => cases hd

/-- A command with the forms of its arguments is a form. -/
theorem AreForms.isForm_bracket {name : String} {args : List Token} {ps : List Pattern}
    {p : Pattern} {line : Nat} (hargs : AreForms args ps) (h : ofCommand name ps line = .ok p)
    (l₁ l₂ l₃ : Nat) : IsForm (bracket name args l₁ l₂ l₃) p := by
  cases ofCommand_eq_ok_iff.mp h with
  | atom =>
    obtain rfl := hargs.eq_nil
    exact .atom l₁ l₂ l₃
  | text re => exact .text hargs.isForm.isText l₁ l₂ l₃
  | exact _ hre =>
    obtain ⟨t, rfl, hd⟩ := hargs.isForm.isAtom
    exact .text (.exact hd hre) l₁ l₂ l₃
  | not hname => exact .not hname hargs.isForm l₁ l₂ l₃
  | within => exact .within hargs.isForm l₁ l₂ l₃
  | includes => exact .includes hargs.isForm l₁ l₂ l₃
  | any => exact .any hargs l₁ l₂ l₃
  | all => exact .all hargs l₁ l₂ l₃
  | before =>
    obtain ⟨us, vs, rfl, hp, hq⟩ := hargs.exists_append
    exact .before hp hq.isForm l₁ l₂ l₃
  | sibling _ _ hgap =>
    obtain ⟨us, vs, rfl, hp, hrest⟩ := hargs.exists_append
    obtain ⟨vs, ws, rfl, hq, hlast⟩ := hrest.exists_append
    obtain ⟨n, rfl, hn, rfl⟩ := eq_int_of_gap? hgap
    obtain ⟨t, rfl, hatom⟩ := hlast.isForm.isAtom
    obtain ⟨w, l, rfl, hw⟩ := hatom.exists_word
    rw [← List.append_assoc]
    exact .sibling hp hq hw hn l l₁ l₂ l₃

mutual
/-- What is read at the front is a form. -/
theorem isForm_of_gives (lastLine : Nat) {ts rest : List Token} {p : Pattern}
    (h : Gives (form lastLine ts) p rest) : ∃ us, ts = us ++ rest ∧ IsForm us p := by
  match ts with
  | [] =>
    rw [form] at h
    obtain ⟨_, ⟨⟩, _⟩ := h
  | ⟨lexeme, l⟩ :: ts =>
    rw [form] at h
    cases lexeme with
    | opening =>
      obtain ⟨r, hr, _, ⟨⟩, rfl, rfl⟩ := gives_bind.mp h
      obtain ⟨us, l₂, hus, hforms⟩ := areForms_of_gives lastLine ⟨r, hr, rfl, rfl⟩
      refine ⟨parens us l l₂, (congrArg (List.cons _) hus).trans ?_, .shape hforms l l₂⟩
      rw [parens, List.cons_append, List.append_assoc]
      rfl
    | openBracket =>
      obtain ⟨r, hr, _, ⟨⟩, rfl, rfl⟩ := gives_bind.mp h
      obtain ⟨name, args, l₂, l₃, hus, hform⟩ := isForm_of_gives_command lastLine ⟨r, hr, rfl, rfl⟩
      refine ⟨bracket name args l l₂ l₃, (congrArg (List.cons _) hus).trans ?_, hform⟩
      rw [bracket, List.cons_append, List.cons_append, List.append_assoc]
      rfl
    | word w =>
      obtain ⟨_, ⟨⟩, rfl, rfl⟩ := h
      refine ⟨[⟨.word w, l⟩], rfl, ?_⟩
      show IsForm _ (ofWord w)
      unfold ofWord
      split
      · next hw =>
        subst hw
        exact .wild l
      split
      · next hw =>
        subst hw
        exact .remaining l
      · next hwild hremaining => exact .equals (.word hwild hremaining l)
    | str contents =>
      obtain ⟨_, ⟨⟩, rfl, rfl⟩ := h
      exact ⟨_, rfl, .equals (.str contents l)⟩
    | sym name =>
      obtain ⟨_, ⟨⟩, rfl, rfl⟩ := h
      exact ⟨_, rfl, .equals (.sym name l)⟩
    | regex source =>
      dsimp only at h
      cases hre : TextPattern.ofSource source with
      | error e =>
        rw [hre] at h
        obtain ⟨_, ⟨⟩, _⟩ := h
      | ok re =>
        rw [hre] at h
        obtain ⟨_, ⟨⟩, rfl, rfl⟩ := h
        exact ⟨_, rfl, .regex hre l⟩
    | _ => obtain ⟨_, ⟨⟩, _⟩ := h
termination_by (ts.length, 0)

theorem areForms_of_gives (lastLine : Nat) {close : Lexeme} {unclosed : Malformed} {line : Nat}
    {ts rest : List Token} {ps : List Pattern}
    (h : Gives (formsUntil lastLine close unclosed line ts) ps rest) :
    ∃ us l, ts = us ++ ⟨close, l⟩ :: rest ∧ AreForms us ps := by
  match ts with
  | [] =>
    rw [formsUntil] at h
    obtain ⟨_, ⟨⟩, _⟩ := h
  | t :: ts =>
    rw [formsUntil] at h
    split at h
    · next hclose =>
      obtain ⟨_, ⟨⟩, rfl, rfl⟩ := h
      obtain ⟨_, l⟩ := t
      obtain rfl := hclose
      exact ⟨[], l, rfl, .nil⟩
    · obtain ⟨r, hr, hrs⟩ := gives_bind.mp h
      obtain ⟨rs, hrs', _, ⟨⟩, rfl, rfl⟩ := gives_bind.mp hrs
      have := r.shorter
      obtain ⟨us, hus, hhead⟩ := isForm_of_gives lastLine ⟨r, hr, rfl, rfl⟩
      obtain ⟨vs, l, hvs, htail⟩ := areForms_of_gives lastLine ⟨rs, hrs', rfl, rfl⟩
      refine ⟨us ++ vs, l, ?_, .cons hhead htail⟩
      exact (hus.trans (congrArg (us ++ ·) hvs)).trans (List.append_assoc us vs _).symm
termination_by (ts.length, 1)

/-- What is read behind a bracket is the rest of a command. -/
theorem isForm_of_gives_command (lastLine : Nat) {line : Nat} {ts rest : List Token} {p : Pattern}
    (h : Gives (command lastLine line ts) p rest) :
    ∃ name args l₂ l₃, ts = ⟨.word name, l₂⟩ :: (args ++ ⟨.closeBracket, l₃⟩ :: rest) ∧
      IsForm (bracket name args line l₂ l₃) p := by
  match ts with
  | [] =>
    rw [command] at h
    obtain ⟨_, ⟨⟩, _⟩ := h
  | ⟨lexeme, l⟩ :: ts =>
    rw [command] at h
    cases lexeme with
    | word name =>
      dsimp only at h
      split at h
      · next hname =>
        subst hname
        obtain ⟨r, hr, _, ⟨⟩, rfl, rfl⟩ := gives_bind.mp h
        obtain ⟨args, l₃, d, hts, hd, hp⟩ := isLiteral_of_gives_typeCommand ⟨r, hr, rfl, rfl⟩
        refine ⟨"t", args, l, l₃, congrArg (List.cons _) hts, ?_⟩
        show IsForm _ r.value
        rw [hp]
        exact .tagged hd line l l₃
      · obtain ⟨r, hr, hcommand⟩ := gives_bind.mp h
        cases hp : ofCommand name r.value line with
        | error e =>
          rw [hp] at hcommand
          obtain ⟨_, ⟨⟩, _⟩ := hcommand
        | ok q =>
          rw [hp] at hcommand
          obtain ⟨_, ⟨⟩, rfl, rfl⟩ := hcommand
          obtain ⟨args, l₃, hts, hargs⟩ := areForms_of_gives lastLine ⟨r, hr, rfl, rfl⟩
          exact ⟨name, args, l, l₃, congrArg (List.cons _) hts, hargs.isForm_bracket hp line l l₃⟩
    | _ => obtain ⟨_, ⟨⟩, _⟩ := h
termination_by (ts.length, 0)
end

/-! ## Rows of forms -/

theorem Gives.unique {α : Type} {ts : List Token} {x : Except PatternError (Front α ts)}
    {a b : α} {rest rest' : List Token} (ha : Gives x a rest) (hb : Gives x b rest') :
    a = b ∧ rest = rest' := by
  obtain ⟨r, hr, rfl, rfl⟩ := ha
  obtain ⟨r', hr', rfl, rfl⟩ := hb
  cases hr.symm.trans hr'
  exact ⟨rfl, rfl⟩

/-- A row of tokens starts with one form at most, and that has one meaning. -/
theorem IsForm.unique {ts us rest rest' : List Token} {p q : Pattern} (hp : IsForm ts p)
    (hq : IsForm us q) (h : ts ++ rest = us ++ rest') : ts = us ∧ p = q ∧ rest = rest' := by
  have hpgives := hp.gives 0 rest
  rw [h] at hpgives
  obtain ⟨rfl, rfl⟩ := hpgives.unique (hq.gives 0 rest')
  exact ⟨List.append_cancel_right h, rfl, rfl⟩

theorem IsForm.ne_nil {ts : List Token} {p : Pattern} (h : IsForm ts p) : ts ≠ [] := by
  obtain ⟨t, us, hts, -⟩ := (h.gives 0 []).form_head
  rw [List.append_nil] at hts
  rw [hts]
  exact List.cons_ne_nil t us

/-- The tokens are those of the forms, one form behind the other. -/
def IsSplit (forms : List (List Token × Pattern)) (ts : List Token) : Prop :=
  (∀ f ∈ forms, IsForm f.1 f.2) ∧ forms.flatMap Prod.fst = ts

theorem isSplit_nil {ts : List Token} : IsSplit [] ts ↔ ts = [] := by
  simp [IsSplit, eq_comm]

theorem isSplit_cons {f : List Token × Pattern} {forms : List (List Token × Pattern)}
    {ts : List Token} :
    IsSplit (f :: forms) ts ↔ IsForm f.1 f.2 ∧ ∃ rest, ts = f.1 ++ rest ∧ IsSplit forms rest := by
  simp only [IsSplit, List.forall_mem_cons, List.flatMap_cons, and_assoc]
  refine and_congr_right fun _ => ⟨?_, ?_⟩
  · rintro ⟨hforms, rfl⟩
    exact ⟨_, rfl, hforms, rfl⟩
  · rintro ⟨_, rfl, hforms, rfl⟩
    exact ⟨hforms, rfl⟩

/-- There is one way at most to split tokens into forms. -/
theorem IsSplit.unique {forms forms' : List (List Token × Pattern)} {ts : List Token}
    (h : IsSplit forms ts) (h' : IsSplit forms' ts) : forms = forms' := by
  induction forms generalizing forms' ts with
  | nil =>
    obtain rfl := isSplit_nil.mp h
    cases forms' with
    | nil => rfl
    | cons f' forms' =>
      obtain ⟨hf', rest', hts, -⟩ := isSplit_cons.mp h'
      exact absurd (List.append_eq_nil_iff.mp hts.symm).1 hf'.ne_nil
  | cons f forms ih =>
    obtain ⟨hf, rest, hts, hrest⟩ := isSplit_cons.mp h
    cases forms' with
    | nil =>
      obtain rfl := isSplit_nil.mp h'
      exact absurd (List.append_eq_nil_iff.mp hts.symm).1 hf.ne_nil
    | cons f' forms' =>
      obtain ⟨hf', rest', hts', hrest'⟩ := isSplit_cons.mp h'
      obtain ⟨htokens, hmeaning, rfl⟩ := hf.unique hf' (hts.symm.trans hts')
      rw [ih hrest hrest', Prod.ext htokens hmeaning]

theorem IsSplit.lastForm {forms : List (List Token × Pattern)} {ts : List Token}
    (h : IsSplit forms ts) (lastLine : Nat) (last : Option Pattern) :
    lastForm lastLine last ts = .ok ((forms.getLast?.map Prod.snd).or last) := by
  induction forms generalizing ts last with
  | nil =>
    obtain rfl := isSplit_nil.mp h
    rw [Descent.lastForm]
    rfl
  | cons f forms ih =>
    obtain ⟨hf, rest, rfl, hrest⟩ := isSplit_cons.mp h
    have hgives := hf.gives lastLine rest
    obtain ⟨t, us, hts, -⟩ := hgives.form_head
    rw [hts] at hgives ⊢
    obtain ⟨r, hr, hvalue, hr'⟩ := hgives
    rw [Descent.lastForm, hr]
    show Descent.lastForm lastLine (some r.value) r.rest = _
    rw [hr', hvalue, ih hrest, List.getLast?_cons]
    cases forms.getLast? <;> rfl

theorem exists_isSplit_of_lastForm (lastLine : Nat) {last p : Option Pattern} {ts : List Token}
    (h : lastForm lastLine last ts = .ok p) :
    ∃ forms, IsSplit forms ts ∧ p = (forms.getLast?.map Prod.snd).or last := by
  match ts with
  | [] =>
    rw [lastForm] at h
    cases h
    exact ⟨[], isSplit_nil.mpr rfl, rfl⟩
  | t :: ts =>
    rw [lastForm] at h
    cases hr : form lastLine (t :: ts) with
    | error e =>
      rw [hr] at h
      cases h
    | ok r =>
      rw [hr] at h
      obtain ⟨us, hus, hform⟩ := isForm_of_gives lastLine ⟨r, hr, rfl, rfl⟩
      have hrest : lastForm lastLine (some r.value) r.rest = .ok p := h
      obtain ⟨forms, hforms, rfl⟩ := exists_isSplit_of_lastForm lastLine hrest
      refine ⟨(us, r.value) :: forms, isSplit_cons.mpr ⟨hform, r.rest, hus, hforms⟩, ?_⟩
      rw [List.getLast?_cons]
      cases forms.getLast? <;> rfl
termination_by ts.length
decreasing_by exact r.shorter

theorem program_eq_iff (ts : List Token) (p : Option Pattern) :
    program ts = .ok p ↔ ∃ forms, IsSplit forms ts ∧ forms.getLast?.map Prod.snd = p := by
  constructor
  · intro h
    obtain ⟨forms, hforms, rfl⟩ := exists_isSplit_of_lastForm _ h
    exact ⟨forms, hforms, Option.or_none.symm⟩
  · rintro ⟨forms, hforms, rfl⟩
    rw [program, hforms.lastForm, Option.or_none]

/-- **The grammar.** Pattern text that can be scanned is read as the recursive descent reads
its tokens. There is no pattern in it and no error exactly where there are no tokens; there
is a pattern exactly where the tokens split into forms, and it is that of the last form.
There is one way at most to split them. No form is ever missed at the end of the tokens. -/
theorem parse_eq_last_form {text : String} {ts : List Token}
    (h : tokenize .pattern text.toList = .ok ts) :
    parse text = program ts ∧
      (parse text = .ok none ↔ ts = []) ∧
      (∀ p, parse text = .ok (some p) ↔
        ∃ forms, IsSplit forms ts ∧ forms.getLast?.map Prod.snd = some p) ∧
      (∀ forms forms', IsSplit forms ts → IsSplit forms' ts → forms = forms') ∧
      ∀ line, parse text ≠ .error (.malformed .unexpectedEnd line) := by
  have hparse : parse text = program ts := by
    rw [parse, h]
    exact ofTokens_eq_program ts
  rw [hparse]
  refine ⟨rfl, ⟨fun hnone => ?_, ?_⟩, fun p => program_eq_iff ts (some p),
    fun _ _ => IsSplit.unique, program_ne_unexpectedEnd ts⟩
  · obtain ⟨forms, hforms, hlast⟩ := (program_eq_iff ts none).mp hnone
    obtain rfl := List.getLast?_eq_none_iff.mp (Option.map_eq_none_iff.mp hlast)
    exact isSplit_nil.mp hforms
  · rintro rfl
    exact (program_eq_iff [] none).mpr ⟨[], isSplit_nil.mpr rfl, rfl⟩

/-- Two forms, of which the second nests a negation in a pair with a gap. -/
theorem parse_eq_last_form_gap :
    ∃ ts, tokenize .pattern "(a) [>> _ [- ___] 2] ; c".toList = .ok ts ∧
      parse "(a) [>> _ [- ___] 2] ; c" = .ok (some (.sibling .wild (.not .remaining) 2)) ∧
      ∃ forms, IsSplit forms ts ∧
        forms.getLast?.map Prod.snd = some (.sibling .wild (.not .remaining) 2) := by
  have htokens : tokenize .pattern "(a) [>> _ [- ___] 2] ; c".toList = .ok
      [⟨.opening, 1⟩, ⟨.word "a", 1⟩, ⟨.closing, 1⟩, ⟨.openBracket, 1⟩, ⟨.word ">>", 1⟩,
        ⟨.word "_", 1⟩, ⟨.openBracket, 1⟩, ⟨.word "-", 1⟩, ⟨.word "___", 1⟩, ⟨.closeBracket, 1⟩,
        ⟨.word "2", 1⟩, ⟨.closeBracket, 1⟩] := by rfl
  have hparse : parse "(a) [>> _ [- ___] 2] ; c" =
      .ok (some (.sibling .wild (.not .remaining) 2)) := by rfl
  obtain ⟨-, -, hsome, -⟩ := parse_eq_last_form htokens
  exact ⟨_, htokens, hparse, (hsome _).mp hparse⟩

end SexprQuery.Pattern
