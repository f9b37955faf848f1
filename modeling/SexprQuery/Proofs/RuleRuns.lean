import Mathlib.Data.Finset.Basic
import SexprQuery.Proofs.Atoms
import SexprQuery.Rule.Application

/-!
# Runs of rules

What comes of a rule depends on the datum that the rules before it have left and on
nothing else (`applyRules_getElem?`). A rule that is idle, because it fails, is skipped or
finds nothing to replace, leaves the datum as it is, with its lines
(`Rule.run_snd_of_isIdle`). So the rest of a run cannot tell that the rule was there:
`RuleSet.apply_without` takes any idle rules out of a rule set.
-/

namespace SexprQuery

/-- True unless something was replaced. -/
def Verdict.isIdle : Verdict → Bool
  | .applied _ => false
  | .unchanged | .skipped _ => true

/-- True where a rule failed, was skipped, or had nothing to replace. -/
def RuleResult.isIdle : RuleResult → Bool
  | .ok verdict => verdict.isIdle
  | .error _ => true

/-- The same of what is told of it. -/
def Outcome.isIdle (o : Outcome) : Bool := RuleResult.isIdle o.result

/-- The verdict where so many places were replaced. -/
def Verdict.ofCount (count : Nat) : Verdict := if count = 0 then .unchanged else .applied count

theorem Verdict.ofCount_eq_applied {found count : Nat} :
    ofCount found = .applied count ↔ found = count ∧ 1 ≤ count := by
  rw [ofCount]
  split
  · next hzero =>
    refine ⟨nofun, ?_⟩
    rintro ⟨rfl, hcount⟩
    omega
  · next hne =>
    constructor
    · intro h
      cases h
      exact ⟨rfl, Nat.pos_of_ne_zero hne⟩
    · rintro ⟨rfl, -⟩
      rfl

/-! ## One rule -/

/-- What succeeds in two steps has succeeded in the first. -/
theorem exists_of_bind_eq_ok {ε α β : Type} {x : Except ε α} {f : α → Except ε β} {b : β}
    (h : (x >>= f) = .ok b) : ∃ a, x = .ok a ∧ f a = .ok b := by
  cases x with
  | error => cases h
  | ok a => exact ⟨a, rfl, h⟩

namespace Rule

/-- Renaming that replaces nothing gives the datum back. -/
theorem eq_of_renameIn {old new d e : Datum} {v : Verdict} (hidle : v.isIdle = true)
    (h : renameIn old new d = (v, e)) : e = d := by
  rw [renameIn] at h
  cases hd : d.node? with
  | none =>
    rw [hd] at h
    dsimp only at h
    split at h
    · cases h
      cases hidle
    · cases h
      rfl
  | some n =>
    rw [hd] at h
    obtain ⟨rfl, rfl⟩ := Prod.mk.inj h
    split at hidle
    · next hzero => rw [Node.replaceAtoms_of_snd_eq_zero hzero, Datum.eq_toDatum_of_node? hd]
    · cases hidle

/-- So does replacing matches where there are none. -/
theorem eq_of_replaceIn {firstOnly : Bool} {p : Pattern} {new d e : Datum} {v : Verdict}
    (hidle : v.isIdle = true) (h : replaceIn firstOnly p new d = (v, e)) : e = d := by
  rw [replaceIn] at h
  cases hd : d.node? with
  | none =>
    rw [hd] at h
    cases h
    rfl
  | some n =>
    rw [hd] at h
    dsimp only at h
    generalize (if firstOnly then (n.outermost p).take 1 else n.outermost p) = found at h
    split at h
    · cases h
      rfl
    · cases h
      cases hidle

/-- Unless it says that something was replaced, what came of a rule comes with the datum that
the rule was applied to. -/
def Keeps (d : Datum) (result : RuleResult × Datum) : Prop :=
  RuleResult.isIdle result.1 = true → result.2 = d

theorem keeps_same (result : RuleResult) (d : Datum) : Keeps d (result, d) := fun _ => rfl

theorem keeps_applyRename (old new : String) (d : Datum) : Keeps d (applyRename old new d) := by
  unfold applyRename
  split
  · exact keeps_same _ d
  split
  · exact keeps_same _ d
  · exact fun hidle => eq_of_renameIn hidle rfl

theorem keeps_applyReplace (firstOnly : Bool) (text : String) (p : Pattern) (d : Datum) :
    Keeps d (applyReplace firstOnly text p d) := by
  unfold applyReplace
  split
  · exact keeps_same _ d
  · exact fun hidle => eq_of_replaceIn hidle rfl

/-- A rule whose pattern cannot be had fails, whatever it is to do. -/
theorem applyGuarded_of_error {r : Rule} {fault : RuleFault} (h : r.parsePattern = .error fault)
    (d : Datum) (act : Pattern → Nat → RuleResult × Datum) :
    r.applyGuarded d act = (.error fault, d) := by
  rw [applyGuarded, h]

/-- A rule with a pattern is skipped by its guard, or acts. -/
theorem applyGuarded_of_ok {r : Rule} {p : Pattern} (h : r.parsePattern = .ok p) (d : Datum)
    (act : Pattern → Nat → RuleResult × Datum) :
    r.applyGuarded d act =
      match r.skip? (d.countMatches p) with
      | some reason => (.ok (.skipped reason), d)
      | none => act p (d.countMatches p) := by
  unfold applyGuarded
  split
  · next _ hfault => cases h.symm.trans hfault
  · next q hq =>
    obtain rfl := Except.ok.inj (h.symm.trans hq)
    rfl

theorem keeps_applyGuarded (r : Rule) {d : Datum} {act : Pattern → Nat → RuleResult × Datum}
    (hact : ∀ p found, Keeps d (act p found)) : Keeps d (r.applyGuarded d act) := by
  cases hp : r.parsePattern with
  | error fault =>
    rw [applyGuarded_of_error hp]
    exact keeps_same _ d
  | ok p =>
    rw [applyGuarded_of_ok hp]
    split
    · exact keeps_same _ d
    · exact hact p _

/-- **The frame of a rule.** Where it fails, is skipped or finds nothing to replace, a rule
gives back the datum that it was applied to. -/
theorem keeps_apply (r : Rule) (d : Datum) : Keeps d (r.apply d) := by
  unfold apply
  split
  · exact keeps_applyRename _ _ d
  · -- an expectation changes nothing in any case
    refine r.keeps_applyGuarded fun _ _ => ?_
    split <;> exact keeps_same _ d
  · exact r.keeps_applyGuarded fun p _ => keeps_applyReplace false _ p d
  · exact r.keeps_applyGuarded fun p _ => keeps_applyReplace true _ p d

/-- An idle rule leaves the datum as it is. -/
theorem run_snd_of_isIdle {r : Rule} {d : Datum} (h : (r.run d).1.isIdle = true) :
    (r.run d).2 = d :=
  r.keeps_apply d h

/-- A rule that is not idle is applied. -/
theorem exists_apply_of_isIdle_eq_false {r : Rule} {d : Datum} (h : (r.run d).1.isIdle = false) :
    ∃ count e, r.apply d = (.ok (.applied count), e) := by
  replace h : RuleResult.isIdle (r.apply d).1 = false := h
  match happly : r.apply d with
  | (.ok (.applied count), e) => exact ⟨count, e, rfl⟩
  | (.error _, _) | (.ok .unchanged, _) | (.ok (.skipped _), _) =>
    rw [happly] at h
    cases h

theorem id_run (r : Rule) (d : Datum) : (r.run d).1.id = r.id := rfl

end Rule

/-! ## Rules in a row -/

/-- Every rule has one outcome, under its identifier. -/
theorem map_id_applyRules (rules : List Rule) (d : Datum) :
    (applyRules rules d).1.map Outcome.id = rules.map Rule.id := by
  induction rules generalizing d with
  | nil => rfl
  | cons r rest ih =>
    rw [applyRules, List.map_cons, List.map_cons, ih, r.id_run]

/-- What comes of a rule is what comes of it by itself, on the datum that the rules before
it have left. -/
theorem applyRules_getElem? (rules : List Rule) (d : Datum) (i : Nat) :
    (applyRules rules d).1[i]? =
      rules[i]?.map fun r => (r.run (applyRules (rules.take i) d).2).1 := by
  induction rules generalizing d i with
  | nil => rfl
  | cons r rest ih =>
    cases i with
    | zero => rfl
    | succ i =>
      rw [applyRules, List.getElem?_cons_succ, List.getElem?_cons_succ, ih, List.take_succ_cons,
        applyRules]

/-- The elements of a list that is numbered from `i`, but for those at some positions. -/
def withoutFrom {α : Type} (gone : Finset Nat) (i : Nat) (l : List α) : List α :=
  ((l.zipIdx i).filter fun a => a.2 ∉ gone).map Prod.fst

/-- The elements of a list but for those at some positions. -/
def without {α : Type} (gone : Finset Nat) (l : List α) : List α := withoutFrom gone 0 l

theorem withoutFrom_cons_of_mem {α : Type} {gone : Finset Nat} {i : Nat} (h : i ∈ gone) (a : α)
    (l : List α) : withoutFrom gone i (a :: l) = withoutFrom gone (i + 1) l := by
  rw [withoutFrom, List.zipIdx_cons, List.filter_cons_of_neg (by simpa using h)]
  rfl

theorem withoutFrom_cons_of_notMem {α : Type} {gone : Finset Nat} {i : Nat} (h : i ∉ gone) (a : α)
    (l : List α) : withoutFrom gone i (a :: l) = a :: withoutFrom gone (i + 1) l := by
  rw [withoutFrom, List.zipIdx_cons, List.filter_cons_of_pos (by simpa using h)]
  rfl

/-- Idle rules can be left out of a row: the others meet the same data as before. -/
theorem applyRules_withoutFrom (gone : Finset Nat) (i : Nat) (rules : List Rule) (d : Datum)
    (h : ∀ o ∈ (applyRules rules d).1.zipIdx i, o.2 ∈ gone → o.1.isIdle = true) :
    applyRules (withoutFrom gone i rules) d =
      (withoutFrom gone i (applyRules rules d).1, (applyRules rules d).2) := by
  induction rules generalizing i d with
  | nil => rfl
  | cons r rest ih =>
    rw [applyRules, List.zipIdx_cons] at h
    have hrest := ih (i + 1) (r.run d).2 fun o ho => h o (List.mem_cons_of_mem _ ho)
    by_cases hi : i ∈ gone
    · have hsame : (r.run d).2 = d := Rule.run_snd_of_isIdle (h _ List.mem_cons_self hi)
      rw [hsame] at hrest
      rw [withoutFrom_cons_of_mem hi, hrest, applyRules, hsame, withoutFrom_cons_of_mem hi]
    · rw [withoutFrom_cons_of_notMem hi, applyRules, hrest, applyRules,
        withoutFrom_cons_of_notMem hi]

/-- **Idle rules.** Rules that fail, are skipped or replace nothing can be taken out of a
rule set: the datum it leaves is the same, with its lines, and what comes of the other
rules is the same in the same order. And every rule has its outcome, in order and under
its identifier. -/
theorem RuleSet.apply_without (s : RuleSet) (d : Datum) (gone : Finset Nat)
    (h : ∀ i ∈ gone, ∀ o ∈ (s.apply d).1[i]?, o.isIdle = true) :
    RuleSet.apply { s with rules := without gone s.rules } d =
        (without gone (s.apply d).1, (s.apply d).2) ∧
      (s.apply d).1.map Outcome.id = s.rules.map Rule.id := by
  refine ⟨applyRules_withoutFrom gone 0 s.rules d ?_, map_id_applyRules s.rules d⟩
  rintro ⟨o, i⟩ ho hi
  exact h i hi o (List.mem_zipIdx_iff_getElem?.mp ho)

/-- A list without its end and a guard are two reasons to be idle, with a renaming between
them. -/
theorem RuleSet.apply_without_broken_and_skipped :
    ∃ (s : RuleSet) (d : Datum),
      (∀ i ∈ ({0, 2} : Finset Nat), ∀ o ∈ (s.apply d).1[i]?, o.isIdle = true) ∧
      (s.apply d).1.map Outcome.display =
        ["Failed broken: rule 'broken' pattern error: malformed pattern syntax at line 1: " ++
            "unclosed '('",
          "Applied rename (1 replaced)", "Skipped absent: pattern already absent",
          "Unchanged one"] ∧
      (RuleSet.apply { s with rules := without {0, 2} s.rules } d).1.map Outcome.display =
        ["Applied rename (1 replaced)", "Unchanged one"] ∧
      (RuleSet.apply { s with rules := without {0, 2} s.rules } d).2.source = "(defn baz)" ∧
      (RuleSet.apply { s with rules := without {0, 2} s.rules } d).2.lastLine = some 4 := by
  let s : RuleSet :=
    ⟨"", none,
      [⟨"broken", some "(defn", .replace "x", none⟩,
        ⟨"rename", none, .rename "bar" "baz", none⟩,
        ⟨"absent", some "(zzz)", .replaceFirst "x", some ⟨true, false⟩⟩,
        ⟨"one", some "(defn baz)", .expect 1, none⟩]⟩
  let d : Datum := .list (some 4) [.sym "defn", .sym "bar"]
  have hidle : ∀ i ∈ ({0, 2} : Finset Nat), ∀ o ∈ (s.apply d).1[i]?, o.isIdle = true := by
    decide +kernel
  refine ⟨s, d, hidle, ?_⟩
  rw [(s.apply_without d {0, 2} hidle).1]
  decide +kernel

end SexprQuery
