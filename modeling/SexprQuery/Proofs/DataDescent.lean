import SexprQuery.Datum.Reader
import SexprQuery.Pattern.Descent

/-!
# Data text by recursive descent

The reader takes the tokens one by one and keeps the open lists on a stack. Here is the
same reading as two functions that call each other, one for a form and one for the slots of
an open list, and with them the error for a form that is missing.

From any state of the reader a form at the front of the tokens has the effect that the
descent says (`Reader.run_form`, `Reader.run_slots`), so both read every row of tokens alike
(`readTokens_eq_topForms`): an error inside open lists is the first one that is met, and the
end of the tokens is a fault of the innermost list.
-/

open SexprQuery.Pattern.Descent (Front)

namespace SexprQuery

namespace Datum.Descent

mutual
/-- A form. -/
def form : (ts : List Token) → Except ReadError (Front Datum ts)
  | [] => .error (.formCount 0)
  | t :: ts =>
    match t.lexeme with
    | .opening => do
      let r ← slots t.line ts
      return r.behind t (.list (some t.line) r.value)
    | .closing => .error (.unexpectedClose t.line)
    | .word w => .ok (.single (.ofWord w) t ts)
    | .str s => .ok (.single (.str s) t ts)
    | .sym name => .ok (.single (.sym name) t ts)
    | .openBracket => .error (.unsupportedToken "[" t.line)
    | .closeBracket => .error (.unsupportedToken "]" t.line)
    | .regex source => .error (.unsupportedToken ("/" ++ source ++ "/") t.line)
termination_by ts => (ts.length, 0)

/-- The slots of a list that was opened on the given line, up to its end. -/
def slots (line : Nat) : (ts : List Token) → Except ReadError (Front (List Datum) ts)
  | [] => .error (.unclosed line)
  | t :: ts =>
    if t.lexeme = .closing then .ok (.single [] t ts)
    else do
      let r ← form (t :: ts)
      let rs ← slots line r.rest
      return r.cons rs
termination_by ts => (ts.length, 1)
decreasing_by
  · exact Prod.Lex.right _ Nat.zero_lt_one
  · exact Prod.Lex.left _ _ r.shorter
end

/-- All forms of a row of tokens. -/
def topForms : (ts : List Token) → Except ReadError (List Datum)
  | [] => .ok []
  | t :: ts => do
    let r ← form (t :: ts)
    return r.value :: (← topForms r.rest)
termination_by ts => ts.length
decreasing_by exact r.shorter

end Datum.Descent

namespace Reader

open Datum.Descent

/-- A run of the reader to the end of the tokens. -/
def run (r : Reader) (ts : List Token) : Except ReadError (List Datum) := do
  (← ts.foldlM step r).finish

theorem run_of_step {r r' : Reader} {t : Token} (h : r.step t = .ok r') (ts : List Token) :
    r.run (t :: ts) = r'.run ts := by
  rw [run, List.foldlM_cons, h]
  rfl

theorem run_of_error {r : Reader} {t : Token} {e : ReadError} (h : r.step t = .error e)
    (ts : List Token) : r.run (t :: ts) = .error e := by
  rw [run, List.foldlM_cons, h]
  rfl

mutual
/-- A form, where the token in front does not end a list that is open. -/
theorem run_form (r : Reader) (t : Token) (ts : List Token)
    (hclosing : t.lexeme = .closing → r.stack = []) :
    r.run (t :: ts) = form (t :: ts) >>= fun f => (r.push f.value).run f.rest := by
  obtain ⟨lexeme, l⟩ := t
  rw [form]
  cases lexeme with
  | opening =>
    have hstep : r.step ⟨.opening, l⟩ = .ok ⟨⟨l, []⟩ :: r.stack, r.forms⟩ := rfl
    rw [run_of_step hstep, run_slots, bind_assoc]
    rfl
  | closing =>
    obtain ⟨stack, done⟩ := r
    obtain rfl := hclosing rfl
    exact run_of_error rfl ts
  | openBracket => exact run_of_error rfl ts
  | closeBracket => exact run_of_error rfl ts
  | regex source => exact run_of_error rfl ts
  | _ => exact run_of_step rfl ts
termination_by (ts.length + 1, 0)
decreasing_by exact Prod.Lex.left _ _ (Nat.lt_succ_self _)

/-- The slots of the list that is open, behind those that it has already. -/
theorem run_slots (line : Nat) (seen : List Datum) (stack : List OpenList) (done : List Datum)
    (ts : List Token) :
    run ⟨⟨line, seen⟩ :: stack, done⟩ ts = slots line ts >>= fun f =>
      (push ⟨stack, done⟩ (.list (some line) (seen.reverse ++ f.value))).run f.rest := by
  match ts with
  | [] => rw [slots]; rfl
  | t :: ts =>
    rw [slots]
    split
    · next hclosing =>
      obtain ⟨_, l⟩ := t
      obtain rfl := hclosing
      show _ = run (push ⟨stack, done⟩ (.list (some line) (seen.reverse ++ []))) ts
      rw [List.append_nil]
      exact run_of_step rfl ts
    · next hclosing =>
      rw [run_form _ t ts (absurd · hclosing), bind_assoc]
      refine bind_congr fun f => ?_
      -- the form is one more slot of the list that is open
      rw [show push ⟨⟨line, seen⟩ :: stack, done⟩ f.value =
        ⟨⟨line, f.value :: seen⟩ :: stack, done⟩ from rfl, run_slots, bind_assoc]
      refine bind_congr fun fs => ?_
      simp [Front.cons]
termination_by (ts.length, 1)
decreasing_by
  · exact Prod.Lex.right _ Nat.zero_lt_one
  · exact Prod.Lex.left _ _ f.shorter
end

/-- Forms behind the ones that are done. -/
theorem run_topForms (done : List Datum) (ts : List Token) :
    run ⟨[], done⟩ ts = (topForms ts).map (done.reverse ++ ·) := by
  match ts with
  | [] =>
    rw [topForms, Except.map, List.append_nil]
    rfl
  | t :: ts =>
    rw [run_form _ t ts (fun _ => rfl), topForms]
    cases form (t :: ts) with
    | error e => rfl
    | ok f =>
      show run ⟨[], f.value :: done⟩ f.rest =
        Except.map _ (do return f.value :: (← topForms f.rest))
      rw [run_topForms (f.value :: done) f.rest, List.reverse_cons]
      cases topForms f.rest with
      | error e => rfl
      | ok ds => exact congrArg Except.ok (List.append_assoc ..)
termination_by ts.length
decreasing_by exact f.shorter

end Reader

/-- The reader and the descent read alike. -/
theorem readTokens_eq_topForms (ts : List Token) : readTokens ts = Datum.Descent.topForms ts := by
  have h := Reader.run_topForms [] ts
  rw [List.reverse_nil] at h
  show Reader.start.run ts = _
  rw [show Reader.start = ⟨[], []⟩ from rfl, h]
  cases Datum.Descent.topForms ts <;> rfl

end SexprQuery
