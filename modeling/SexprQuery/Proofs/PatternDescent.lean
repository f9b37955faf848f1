import SexprQuery.Pattern.Descent
import SexprQuery.Proofs.PatternText

/-!
# The parser and the recursive descent

From any state of the parser a form at the front of the tokens has the effect that the
descent says (`run_form`): it becomes a pattern that is put where it belongs, and the run
goes on behind it, or it is the same error. Lists and commands that are open already are
finished likewise (`run_formsUntil`). So both read every row of tokens alike
(`ofTokens_eq_program`).

The descent looks for a form in front of a token only, so it never misses one at the end
of the tokens (`program_ne_unexpectedEnd`).
-/

open SexprQuery.Pattern.Parser

namespace SexprQuery.Pattern.Descent

variable {stack : List Open} {last : Option Pattern}

/-- A run of the parser to the end of the tokens. -/
def run (s : Parser) (ts : List Token) : Except PatternError (Option Pattern) := do
  (← ts.foldlM step s).finish

theorem run_cons (s : Parser) (t : Token) (ts : List Token) :
    run s (t :: ts) = s.step t >>= fun s' => run s' ts := by
  rw [run, List.foldlM_cons, bind_assoc]
  rfl

theorem run_of_step {s s' : Parser} {t : Token} (h : s.step t = .ok s') (ts : List Token) :
    run s (t :: ts) = run s' ts := by
  rw [run_cons, h]
  rfl

theorem run_of_error {s : Parser} {t : Token} {e : PatternError} (h : s.step t = .error e)
    (ts : List Token) : run s (t :: ts) = .error e := by
  rw [run_cons, h]
  rfl

/-! ## Tags -/

mutual
/-- A datum of a tag, where the token in front does not end what is open. -/
theorem run_literal (line outer : Nat) (lists : List (Nat × List Datum)) (t : Token)
    (ts : List Token) (hclosing : t.lexeme = .closing → lists = [])
    (hbracket : t.lexeme = .closeBracket → lists ≠ []) :
    run ⟨.tag line lists, stack, last⟩ (t :: ts) = literal outer (t :: ts) >>= fun r =>
      run (pushDatum ⟨.tag line lists, stack, last⟩ line lists r.value) r.rest := by
  obtain ⟨lexeme, l⟩ := t
  rw [literal]
  cases lexeme with
  | opening =>
    have hstep : step ⟨.tag line lists, stack, last⟩ ⟨.opening, l⟩ =
        .ok ⟨.tag line ((l, []) :: lists), stack, last⟩ := rfl
    rw [run_of_step hstep, run_literals, bind_assoc]
    rfl
  | closing =>
    obtain rfl := hclosing rfl
    exact run_of_error rfl ts
  | closeBracket =>
    obtain ⟨list, rest, rfl⟩ := List.exists_cons_of_ne_nil (hbracket rfl)
    exact run_of_error rfl ts
  | openBracket => exact run_of_error rfl ts
  | regex source => exact run_of_error rfl ts
  | _ => exact run_of_step rfl ts
termination_by (ts.length + 1, 0)

/-- The data up to the end of a list of a tag. -/
theorem run_literals (line first : Nat) (slots : List Datum) (lists : List (Nat × List Datum))
    (ts : List Token) :
    run ⟨.tag line ((first, slots) :: lists), stack, last⟩ ts = literals first ts >>= fun r =>
      run (pushDatum ⟨.tag line lists, stack, last⟩ line lists
        (.list (some first) (slots.reverse ++ r.value))) r.rest := by
  match ts with
  | [] => rw [literals]; rfl
  | t :: ts =>
    rw [literals]
    split
    · next hclosing =>
      obtain ⟨_, l⟩ := t
      obtain rfl := hclosing
      show _ = run (pushDatum _ line lists (.list (some first) (slots.reverse ++ []))) ts
      rw [List.append_nil]
      cases lists <;> exact run_of_step rfl ts
    · next hclosing =>
      rw [run_literal line first _ t ts (absurd · hclosing) (fun _ => List.cons_ne_nil _ _),
        bind_assoc]
      refine bind_congr fun r => ?_
      have := r.shorter
      rw [show pushDatum _ line ((first, slots) :: lists) r.value =
        ⟨.tag line ((first, r.value :: slots) :: lists), stack, last⟩ from rfl, run_literals,
        bind_assoc]
      refine bind_congr fun rs => ?_
      simp [Front.cons]
termination_by (ts.length, 1)
end

theorem run_typeCommand (line : Nat) (ts : List Token) :
    run ⟨.tag line [], stack, last⟩ ts = typeCommand line ts >>= fun r =>
      run (push ⟨.form, stack, last⟩ r.value) r.rest := by
  match ts with
  | [] => rw [typeCommand, if_neg (by simp), literal]; rfl
  | t :: ts =>
    rw [typeCommand]
    split
    · next hbracket =>
      obtain ⟨_, l⟩ := t
      cases hbracket
      exact run_of_error rfl ts
    · next hbracket =>
      have hbracket : t.lexeme ≠ .closeBracket := fun h => hbracket (congrArg some h)
      rw [run_literal line line [] t ts (fun _ => rfl) (absurd · hbracket), bind_assoc]
      refine bind_congr fun r => ?_
      obtain ⟨tag, rest, shorter⟩ := r
      cases rest with
      | nil => rfl
      | cons u us =>
        show run ⟨.tagEnd line tag, stack, last⟩ (u :: us) = _
        obtain ⟨lexeme, l⟩ := u
        cases lexeme with
        | closeBracket => exact run_of_step rfl us
        | _ => exact run_of_error rfl us

/-! ## Forms -/

end Descent

namespace Open

/-- The line it was opened on. -/
def line : Open → Nat
  | .shape line _ | .command line _ _ => line

/-- The token that closes it. -/
def closer : Open → Lexeme
  | .shape _ _ => .closing
  | .command _ _ _ => .closeBracket

/-- What is wrong where it is never closed. -/
def unclosed : Open → Malformed
  | .shape _ _ => .unclosedList
  | .command _ _ _ => .unclosedBracket

/-- What it becomes with some more patterns in it. -/
def close : Open → List Pattern → Except PatternError Pattern
  | .shape _ elements, qs => .ok (.shape (elements.reverse ++ qs))
  | .command line name args, qs => ofCommand name (args.reverse ++ qs) line

theorem close_adding (o : Open) (q : Pattern) (qs : List Pattern) :
    (o.adding [q]).close qs = o.close (q :: qs) := by
  cases o <;> simp [adding, close]

end Open

namespace Descent

/-- The token that closes the innermost list or command. -/
theorem step_closer (o : Open) (stack : List Open) (last : Option Pattern) (l : Nat) :
    step ⟨.form, o :: stack, last⟩ ⟨o.closer, l⟩ =
      o.close [] >>= fun p => pure (push ⟨.form, stack, last⟩ p) := by
  cases o with
  | shape line elements =>
    show Except.ok (push _ (.shape elements.reverse)) = Except.ok (push _ (.shape (_ ++ [])))
    rw [List.append_nil]
  | command line name args =>
    show ofCommand name args.reverse line >>= _ = ofCommand name (args.reverse ++ []) line >>= _
    rw [List.append_nil]

mutual
/-- A form, where the token in front does not end what is open. -/
theorem run_form (lastLine : Nat) (stack : List Open) (last : Option Pattern) (t : Token)
    (ts : List Token) (hclose : ∀ o ∈ stack.head?, t.lexeme ≠ o.closer) :
    run ⟨.form, stack, last⟩ (t :: ts) = form lastLine (t :: ts) >>= fun r =>
      run (push ⟨.form, stack, last⟩ r.value) r.rest := by
  obtain ⟨lexeme, l⟩ := t
  rw [form]
  cases lexeme with
  | opening =>
    have hstep : step ⟨.form, stack, last⟩ ⟨.opening, l⟩ =
        .ok ⟨.form, .shape l [] :: stack, last⟩ := rfl
    rw [run_of_step hstep, run_formsUntil lastLine, bind_assoc]
    rfl
  | openBracket =>
    have hstep : step ⟨.form, stack, last⟩ ⟨.openBracket, l⟩ =
        .ok ⟨.commandName l, stack, last⟩ := rfl
    rw [run_of_step hstep, run_command lastLine, bind_assoc]
    rfl
  | closing =>
    refine run_of_error ?_ ts
    match stack with
    | [] | .command _ _ _ :: _ => rfl
    | .shape _ _ :: _ => exact absurd rfl (hclose _ rfl)
  | closeBracket =>
    refine run_of_error ?_ ts
    match stack with
    | [] | .shape _ _ :: _ => rfl
    | .command _ _ _ :: _ => exact absurd rfl (hclose _ rfl)
  | regex source =>
    rw [run_cons]
    show (TextPattern.ofSource source >>= _) >>= _ = _
    rw [bind_assoc, bind_assoc]
    rfl
  | _ => exact run_of_step rfl ts
termination_by (ts.length + 1, 0)

/-- What is left of a list or a command that is open. -/
theorem run_formsUntil (lastLine : Nat) (o : Open) (stack : List Open) (last : Option Pattern)
    (ts : List Token) :
    run ⟨.form, o :: stack, last⟩ ts =
      formsUntil lastLine o.closer o.unclosed o.line ts >>= fun r =>
        o.close r.value >>= fun p => run (push ⟨.form, stack, last⟩ p) r.rest := by
  match ts with
  | [] =>
    rw [formsUntil]
    cases o <;> rfl
  | t :: ts =>
    rw [formsUntil]
    split
    · next hcloser =>
      obtain ⟨_, l⟩ := t
      obtain rfl := hcloser
      rw [run_cons, step_closer, bind_assoc]
      rfl
    · next hcloser =>
      have hcloser : ∀ o' ∈ (o :: stack).head?, t.lexeme ≠ o'.closer := by
        rintro _ ⟨⟩
        exact hcloser
      rw [run_form lastLine (o :: stack) last t ts hcloser, bind_assoc]
      refine bind_congr fun r => ?_
      have := r.shorter
      have hadding : push ⟨.form, o :: stack, last⟩ r.value =
          ⟨.form, o.adding [r.value] :: stack, last⟩ := foldl_push o stack last [r.value]
      have hopen : (o.adding [r.value]).closer = o.closer ∧
          (o.adding [r.value]).unclosed = o.unclosed ∧ (o.adding [r.value]).line = o.line := by
        cases o <;> exact ⟨rfl, rfl, rfl⟩
      rw [hadding, run_formsUntil lastLine, hopen.1, hopen.2.1, hopen.2.2, bind_assoc]
      refine bind_congr fun rs => ?_
      rw [Open.close_adding]
      rfl
termination_by (ts.length, 1)

/-- What stands behind a bracket. -/
theorem run_command (lastLine line : Nat) (stack : List Open) (last : Option Pattern)
    (ts : List Token) :
    run ⟨.commandName line, stack, last⟩ ts = command lastLine line ts >>= fun r =>
      run (push ⟨.form, stack, last⟩ r.value) r.rest := by
  match ts with
  | [] => rw [command]; rfl
  | ⟨lexeme, l⟩ :: ts =>
    rw [command]
    cases lexeme with
    | word name =>
      by_cases hname : name = "t"
      · have hstep : step ⟨.commandName line, stack, last⟩ ⟨.word name, l⟩ =
            .ok ⟨.tag line [], stack, last⟩ := if_pos hname
        rw [run_of_step hstep, run_typeCommand]
        simp only [if_pos hname, bind_assoc]
        rfl
      · have hstep : step ⟨.commandName line, stack, last⟩ ⟨.word name, l⟩ =
            .ok ⟨.form, .command line name [] :: stack, last⟩ := if_neg hname
        rw [run_of_step hstep, run_formsUntil lastLine]
        simp only [if_neg hname, bind_assoc]
        rfl
    | _ => exact run_of_error rfl ts
termination_by (ts.length, 0)
end

theorem run_lastForm (lastLine : Nat) (last : Option Pattern) (ts : List Token) :
    run ⟨.form, [], last⟩ ts = lastForm lastLine last ts := by
  match ts with
  | [] => rw [lastForm]; rfl
  | t :: ts =>
    rw [lastForm, run_form lastLine [] last t ts (by simp)]
    refine bind_congr fun r => ?_
    exact run_lastForm lastLine (some r.value) r.rest
termination_by ts.length
decreasing_by exact r.shorter

/-- The parser and the descent make the same of every row of tokens. -/
theorem ofTokens_eq_program (ts : List Token) : ofTokens ts = program ts :=
  run_lastForm _ none ts

/-! ## No form is missing at the end -/

/-- A failure other than that of a form that is missing at the end of the tokens. -/
def MissesNone {α : Type} (x : Except PatternError α) : Prop :=
  ∀ line, x ≠ .error (.malformed .unexpectedEnd line)

theorem MissesNone.bind {α β : Type} {x : Except PatternError α} {f : α → Except PatternError β}
    (hx : MissesNone x) (hf : ∀ a, MissesNone (f a)) : MissesNone (x >>= f) := by
  cases x with
  | ok a => exact hf a
  | error e =>
    rintro line ⟨⟩
    exact hx line rfl

theorem missesNone_ok {α : Type} (a : α) : MissesNone (.ok a) := nofun

theorem missesNone_ofSource (source : String) : MissesNone (TextPattern.ofSource source) :=
  fun _ h => nomatch TextPattern.ofSource_error h

theorem missesNone_ofCommand (name : String) (args : List Pattern) (line : Nat) :
    MissesNone (ofCommand name args line) := by
  intro l h
  have houtcome := commandOutcome_ofCommand name args line
  rw [h] at houtcome
  cases houtcome

mutual
theorem missesNone_literal (line : Nat) (ts : List Token) : MissesNone (literal line ts) := by
  match ts with
  | [] =>
    rw [literal]
    exact nofun
  | ⟨lexeme, l⟩ :: ts =>
    rw [literal]
    cases lexeme with
    | opening => exact (missesNone_literals l ts).bind fun _ => missesNone_ok _
    | word _ => exact missesNone_ok _
    | str _ => exact missesNone_ok _
    | sym _ => exact missesNone_ok _
    | _ => exact nofun
termination_by (ts.length, 0)

theorem missesNone_literals (line : Nat) (ts : List Token) : MissesNone (literals line ts) := by
  match ts with
  | [] =>
    rw [literals]
    exact nofun
  | t :: ts =>
    rw [literals]
    split
    · exact missesNone_ok _
    · refine (missesNone_literal line (t :: ts)).bind fun r => ?_
      have := r.shorter
      exact (missesNone_literals line r.rest).bind fun _ => missesNone_ok _
termination_by (ts.length, 1)
end

theorem missesNone_typeCommand (line : Nat) (ts : List Token) :
    MissesNone (typeCommand line ts) := by
  unfold typeCommand
  split
  · exact nofun
  · refine (missesNone_literal line ts).bind fun r => ?_
    obtain ⟨tag, rest, shorter⟩ := r
    cases rest with
    | nil => exact nofun
    | cons u us =>
      dsimp only
      split
      · exact missesNone_ok _
      · exact nofun

mutual
/-- In front of a token there is a form, or one that is at fault otherwise. -/
theorem missesNone_form (lastLine : Nat) (t : Token) (ts : List Token) :
    MissesNone (form lastLine (t :: ts)) := by
  obtain ⟨lexeme, l⟩ := t
  rw [form]
  cases lexeme with
  | opening => exact (missesNone_formsUntil lastLine (by decide) l ts).bind fun _ => missesNone_ok _
  | openBracket => exact (missesNone_command lastLine l ts).bind fun _ => missesNone_ok _
  | closing => exact nofun
  | closeBracket => exact nofun
  | regex source => exact (missesNone_ofSource source).bind fun _ => missesNone_ok _
  | _ => exact missesNone_ok _
termination_by (ts.length + 1, 0)

theorem missesNone_formsUntil (lastLine : Nat) {close : Lexeme} {unclosed : Malformed}
    (h : unclosed ≠ .unexpectedEnd) (line : Nat) (ts : List Token) :
    MissesNone (formsUntil lastLine close unclosed line ts) := by
  match ts with
  | [] =>
    rw [formsUntil]
    rintro l ⟨⟩
    exact h rfl
  | t :: ts =>
    rw [formsUntil]
    split
    · exact missesNone_ok _
    · refine (missesNone_form lastLine t ts).bind fun r => ?_
      have := r.shorter
      exact (missesNone_formsUntil lastLine h line r.rest).bind fun _ => missesNone_ok _
termination_by (ts.length, 1)

theorem missesNone_command (lastLine line : Nat) (ts : List Token) :
    MissesNone (command lastLine line ts) := by
  match ts with
  | [] =>
    rw [command]
    exact nofun
  | ⟨lexeme, l⟩ :: ts =>
    rw [command]
    cases lexeme with
    | word name =>
      dsimp only
      split
      · exact (missesNone_typeCommand line ts).bind fun _ => missesNone_ok _
      · exact (missesNone_formsUntil lastLine (by decide) line ts).bind fun _ =>
          (missesNone_ofCommand name _ line).bind fun _ => missesNone_ok _
    | _ => exact nofun
termination_by (ts.length, 0)
end

theorem missesNone_lastForm (lastLine : Nat) (last : Option Pattern) (ts : List Token) :
    MissesNone (lastForm lastLine last ts) := by
  match ts with
  | [] =>
    rw [lastForm]
    exact missesNone_ok _
  | t :: ts =>
    rw [lastForm]
    refine (missesNone_form lastLine t ts).bind fun r => ?_
    exact missesNone_lastForm lastLine (some r.value) r.rest
termination_by ts.length
decreasing_by exact r.shorter

/-- The descent never looks for a form behind the last token. -/
theorem program_ne_unexpectedEnd (ts : List Token) (line : Nat) :
    program ts ≠ .error (.malformed .unexpectedEnd line) :=
  missesNone_lastForm _ none ts line

end SexprQuery.Pattern.Descent
