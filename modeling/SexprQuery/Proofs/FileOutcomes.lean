import SexprQuery.Proofs.DataText
import SexprQuery.Proofs.FileNames

/-!
# Outcomes for files

What came of a rule on the forms of a file is merged into one result. `overall` says what
that is: the first fault, or the sum of the counts, or the first reason to skip, or nothing.
Merging form by form gives just that (`foldl_add`), whatever the results are, and its kind
and its count do not depend on the order of the forms (`kind_overall_of_perm`).

A rule set that passes its checks has no identifier twice, so what is merged under the
identifier of a rule came of that rule (`RuleSet.IsValid.outcomes_applyToForms`). The forms
of a file are those that the batch meets there (`RuleSet.readings`).
-/

namespace SexprQuery

/-! ## Merging results -/

namespace RuleResult

/-- Why the rule failed. -/
def fault? : RuleResult → Option RuleFault
  | .error fault => some fault
  | .ok _ => none

/-- How much was replaced, if anything. -/
def count? : RuleResult → Option Nat
  | .ok (.applied count) => some count
  | _ => none

/-- Why the rule was skipped. -/
def reason? : RuleResult → Option SkipReason
  | .ok (.skipped reason) => some reason
  | _ => none

end RuleResult

-- sums start from the zero of the core library, also beside a library with others
attribute [local instance (2000)] Zero.ofOfNat0

/-- What came of a rule on several forms: it failed for the first reason if it failed at all,
or it replaced as much as it did on all of them, or it was skipped for the first reason. -/
def overall (results : List RuleResult) : RuleResult :=
  match results.findSome? RuleResult.fault?, results.filterMap RuleResult.count?,
    results.findSome? RuleResult.reason? with
  | some fault, _, _ => .error fault
  | none, count :: counts, _ => .ok (.applied (count :: counts).sum)
  | none, [], some reason => .ok (.skipped reason)
  | none, [], none => .ok .unchanged

theorem overall_append_singleton (results : List RuleResult) (r : RuleResult) :
    overall (results ++ [r]) = mergeResults (overall results) r := by
  have hfault : [r].findSome? RuleResult.fault? = r.fault? := by simp
  have hcount : [r].filterMap RuleResult.count? = r.count?.toList := by
    rw [List.filterMap_cons]
    cases r.count? <;> rfl
  have hreason : [r].findSome? RuleResult.reason? = r.reason? := by simp
  rw [overall, overall, List.findSome?_append, List.filterMap_append, List.findSome?_append,
    hfault, hcount, hreason]
  generalize results.findSome? RuleResult.fault? = fault
  generalize results.filterMap RuleResult.count? = counts
  generalize results.findSome? RuleResult.reason? = reason
  cases fault with
  | some fault => rfl
  | none =>
    match r with
    | .error fault => cases counts <;> cases reason <;> rfl
    | .ok (.applied count) =>
      cases counts with
      | nil => cases reason <;> rfl
      | cons count' counts =>
        show Except.ok (Verdict.applied (count' :: (counts ++ [count])).sum) = _
        rw [← List.cons_append, List.sum_append, List.sum_singleton]
        rfl
    | .ok .unchanged | .ok (.skipped reason') =>
      rw [show (RuleResult.count? _).toList = [] from rfl, List.append_nil]
      cases counts <;> cases reason <;> rfl

theorem mergeResults_unchanged (r : RuleResult) : mergeResults (.ok .unchanged) r = r := by
  cases r with
  | error => rfl
  | ok verdict => cases verdict <;> rfl

/-- The same, where nothing comes of a rule that has met no form. -/
def overall? (results : List RuleResult) : Option RuleResult :=
  if results.isEmpty then none else some (overall results)

theorem overall?_append_singleton (results : List RuleResult) (r : RuleResult) :
    overall? (results ++ [r]) =
      some (match overall? results with
        | none => r
        | some before => mergeResults before r) := by
  cases results with
  | nil =>
    have hone : overall [r] = mergeResults (.ok .unchanged) r := overall_append_singleton [] r
    rw [mergeResults_unchanged] at hone
    exact congrArg some hone
  | cons first rest => exact congrArg some (overall_append_singleton (first :: rest) r)

/-! ## The order of the forms -/

/-- What a result is, without its reasons. -/
inductive ResultKind where
  | failed
  | applied (count : Nat)
  | skipped
  | unchanged
deriving DecidableEq, Repr

/-- The kind of a result, and its count if something was replaced. -/
def RuleResult.kind : RuleResult → ResultKind
  | .error _ => .failed
  | .ok (.applied count) => .applied count
  | .ok (.skipped _) => .skipped
  | .ok .unchanged => .unchanged

namespace ResultKind

/-- The kind of merged results. -/
def merge : ResultKind → ResultKind → ResultKind
  | .failed, _ | _, .failed => .failed
  | .applied m, .applied n => .applied (m + n)
  | .applied m, _ => .applied m
  | _, .applied n => .applied n
  | .skipped, _ | _, .skipped => .skipped
  | .unchanged, .unchanged => .unchanged

theorem kind_mergeResults (a b : RuleResult) :
    RuleResult.kind (mergeResults a b) = (RuleResult.kind a).merge (RuleResult.kind b) := by
  match a, b with
  | .error _, .error _ => rfl
  | .error _, .ok v => cases v <;> rfl
  | .ok v, .error _ => cases v <;> rfl
  | .ok v, .ok w => cases v <;> cases w <;> rfl

/-- It does not matter which of two results is merged first. -/
instance : RightCommutative merge where
  right_comm a b c := by
    cases a <;> cases b <;> cases c
    all_goals first | rfl | simp only [merge, Nat.add_comm, Nat.add_left_comm]

end ResultKind

theorem kind_overall (results : List RuleResult) :
    RuleResult.kind (overall results) =
      (results.map RuleResult.kind).foldl ResultKind.merge .unchanged := by
  induction results using List.reverseRecOn with
  | nil => rfl
  | append_singleton results r ih =>
    rw [overall_append_singleton, ResultKind.kind_mergeResults, ih, List.map_append,
      List.foldl_append]
    rfl

/-- Neither the kind nor the count depends on the order. -/
theorem kind_overall_of_perm {results others : List RuleResult} (h : results.Perm others) :
    RuleResult.kind (overall results) = RuleResult.kind (overall others) := by
  rw [kind_overall, kind_overall, (h.map RuleResult.kind).foldl_eq]

/-- The first fault is the fault of all. -/
theorem fault?_overall (results : List RuleResult) :
    RuleResult.fault? (overall results) = results.findSome? RuleResult.fault? := by
  rw [overall]
  cases results.findSome? RuleResult.fault? with
  | some fault => rfl
  | none =>
    cases results.filterMap RuleResult.count? with
    | cons => rfl
    | nil => cases results.findSome? RuleResult.reason? <;> rfl

/-! ## The results of one rule -/

/-- Merging outcome by outcome gives, under an identifier, the result for all that have it. -/
theorem foldl_add (outcomes : List Outcome) (id : String) :
    outcomes.foldl MergedResults.add (fun _ => none) id =
      overall? ((outcomes.filter fun o => o.id = id).map Outcome.result) := by
  induction outcomes using List.reverseRecOn with
  | nil => rfl
  | append_singleton outcomes o ih =>
    rw [List.foldl_append, List.filter_append, List.map_append]
    show MergedResults.add (outcomes.foldl MergedResults.add _) o id = _
    rw [MergedResults.add, ih]
    by_cases ho : o.id = id
    · have hone : [o].filter (fun o => o.id = id) = [o] := by simp [ho]
      rw [if_pos ho, hone]
      exact (overall?_append_singleton _ _).symm
    · simp [ho]

/-- Behind other rules, no identifier stands twice in a rule set without issues. -/
theorem nodup_of_rulesIssues_eq_nil {seen : List String} {rules : List Rule}
    (h : rulesIssues seen rules = []) :
    (rules.map Rule.id).Nodup ∧ ∀ r ∈ rules, r.id ∉ seen := by
  induction rules generalizing seen with
  | nil => exact ⟨List.nodup_nil, fun _ hr => nomatch hr⟩
  | cons r rest ih =>
    rw [rulesIssues, List.append_assoc, List.append_eq_nil_iff, List.append_eq_nil_iff] at h
    obtain ⟨hid, -, hrest⟩ := h
    split at hid
    · cases hid
    · next hsome =>
      rw [if_neg hsome] at hrest
      obtain ⟨hnodup, hnew⟩ := ih hrest
      split at hid
      · cases hid
      · next hseen =>
        refine ⟨List.nodup_cons.mpr ⟨?_, hnodup⟩, ?_⟩
        · intro hmem
          obtain ⟨r', hr', heq⟩ := List.mem_map.mp hmem
          exact hnew r' hr' (heq ▸ List.mem_cons_self)
        · rintro r' (_ | ⟨_, hr'⟩)
          · simpa using hseen
          · exact fun hmem => hnew r' hr' (List.mem_cons_of_mem _ hmem)

theorem RuleSet.IsValid.nodup_ids {s : RuleSet} (h : s.IsValid) : (s.rules.map Rule.id).Nodup :=
  (nodup_of_rulesIssues_eq_nil (List.append_eq_nil_iff.mp h).2).1

/-- Among outcomes without a repeated identifier, one has its identifier alone. -/
theorem filter_id_eq_singleton {outcomes : List Outcome} (h : (outcomes.map Outcome.id).Nodup)
    {o : Outcome} (ho : o ∈ outcomes) : (outcomes.filter fun o' => o'.id = o.id) = [o] := by
  induction outcomes with
  | nil => cases ho
  | cons first rest ih =>
    obtain ⟨hfirst, hrest⟩ := List.nodup_cons.mp h
    rw [List.filter_cons]
    rcases List.mem_cons.mp ho with rfl | ho
    · have hnone : (rest.filter fun o' => o'.id = o.id) = [] := by
        rw [List.filter_eq_nil_iff]
        intro o' ho' heq
        exact hfirst (of_decide_eq_true heq ▸ List.mem_map_of_mem ho')
      rw [hnone]
      simp
    · have hne : first.id ≠ o.id := fun heq => hfirst (heq ▸ List.mem_map_of_mem ho)
      simp [hne, ih hrest ho]

/-! ## The outcomes of a file -/

namespace RuleSet

/-- What comes of a rule on a form, where it is rule number `i` and the rules before it have
been applied to the form already. -/
def resultOf (s : RuleSet) (r : Rule) (i : Nat) (d : Datum) : RuleResult :=
  (r.run (applyRules (s.rules.take i) d).2).1.result

variable {s : RuleSet}

/-- On one form, the results under the identifier of a rule are the one result of the rule. -/
theorem IsValid.filter_apply (h : s.IsValid) {r : Rule} {i : Nat} (hr : s.rules[i]? = some r)
    (d : Datum) :
    (((s.apply d).1.filter fun o => o.id = r.id).map Outcome.result) = [s.resultOf r i d] := by
  have houtcome : (s.apply d).1[i]? = some (r.run (applyRules (s.rules.take i) d).2).1 := by
    rw [apply, applyRules_getElem?, hr, Option.map_some]
  have hids : ((s.apply d).1.map Outcome.id).Nodup := by
    rw [apply, map_id_applyRules]
    exact h.nodup_ids
  have hone := filter_id_eq_singleton hids (List.mem_of_getElem? houtcome)
  rw [r.id_run] at hone
  rw [hone]
  rfl

/-- So on all forms they are its results, in order. -/
theorem IsValid.filter_flatMap_apply (h : s.IsValid) {r : Rule} {i : Nat}
    (hr : s.rules[i]? = some r) (forms : List Datum) :
    ((((forms.map s.apply).flatMap Prod.fst).filter fun o => o.id = r.id).map Outcome.result) =
      forms.map (s.resultOf r i) := by
  induction forms with
  | nil => rfl
  | cons d forms ih =>
    rw [List.map_cons, List.flatMap_cons, List.filter_append, List.map_append,
      h.filter_apply hr, ih]
    rfl

/-- What is to be told of a file: one outcome for each rule, which is what came of it on all
forms; nothing if there is no form. -/
def outcomesOn (s : RuleSet) : List Datum → List Outcome
  | [] => []
  | d :: rest => s.rules.zipIdx.map fun r =>
      ⟨r.1.id, overall ((d :: rest).map (s.resultOf r.1 r.2))⟩

/-- And that is told. -/
theorem IsValid.outcomes_applyToForms (h : s.IsValid) (name : String) (forms : List Datum) :
    (s.applyToForms name forms).outcomes = s.outcomesOn forms := by
  show mergeOutcomes s.rules ((forms.map s.apply).flatMap Prod.fst) = _
  rw [mergeOutcomes]
  simp only [foldl_add]
  cases forms with
  | nil => exact List.filterMap_eq_nil_iff.mpr fun _ _ => rfl
  | cons d rest =>
    conv_lhs => rw [← List.zipIdx_map_fst 0 s.rules]
    rw [List.filterMap_map]
    refine (List.filterMap_congr ?_).trans (congrFun List.filterMap_eq_map _)
    rintro ⟨r, i⟩ hr
    have hmerged := h.filter_flatMap_apply (List.mem_zipIdx_iff_getElem?.mp hr) (d :: rest)
    show Option.map _ (overall? _) = _
    rw [hmerged]
    rfl

/-- In another order of the forms, every rule has an outcome of the same kind and count. -/
theorem kinds_outcomesOn_of_perm (s : RuleSet) {forms others : List Datum}
    (hperm : forms.Perm others) :
    (s.outcomesOn forms).map (fun o => RuleResult.kind o.result) =
      (s.outcomesOn others).map fun o => RuleResult.kind o.result := by
  match forms, others with
  | [], [] => rfl
  | [], _ :: _ => cases hperm.nil_eq
  | _ :: _, [] => cases hperm.eq_nil
  | d :: rest, e :: others =>
    rw [outcomesOn, outcomesOn, List.map_map, List.map_map]
    exact List.map_congr_left fun r _ => kind_overall_of_perm (hperm.map _)

theorem length_outcomesOn (s : RuleSet) (forms : List Datum) :
    (s.outcomesOn forms).length = if forms.isEmpty then 0 else s.rules.length := by
  cases forms with
  | nil => rfl
  | cons => exact (List.length_map _).trans List.length_zipIdx

end RuleSet

/-! ## Tallies -/

/-- Every outcome is of one kind. -/
theorem Tally.sum_ofOutcomes (outcomes : List Outcome) :
    (Tally.ofOutcomes outcomes).applied + (Tally.ofOutcomes outcomes).unchanged +
      (Tally.ofOutcomes outcomes).skipped + (Tally.ofOutcomes outcomes).failed =
        outcomes.length := by
  induction outcomes with
  | nil => rfl
  | cons o outcomes ih =>
    obtain ⟨id, result⟩ := o
    simp only [Tally.ofOutcomes, List.countP_cons, List.length_cons, Outcome.isFailure] at ih ⊢
    match result with
    | .error _ | .ok .unchanged | .ok (.skipped _) | .ok (.applied _) =>
      simp only [if_true, if_false, Bool.false_eq_true]
      omega

namespace RuleSet

variable {s : RuleSet}

theorem isFailure_eq (o : Outcome) : o.isFailure = (RuleResult.fault? o.result).isSome := by
  obtain ⟨id, result⟩ := o
  cases result <;> rfl

/-- What comes of the rules on a form, one by one. -/
theorem mem_apply_iff (s : RuleSet) (d : Datum) (o : Outcome) :
    o ∈ (s.apply d).1 ↔ ∃ r ∈ s.rules.zipIdx, o = ⟨r.1.id, s.resultOf r.1 r.2 d⟩ := by
  rw [List.mem_iff_getElem?]
  constructor
  · rintro ⟨i, ho⟩
    rw [apply, applyRules_getElem?] at ho
    obtain ⟨r, hr, rfl⟩ := Option.map_eq_some_iff.mp ho
    exact ⟨(r, i), List.mem_zipIdx_iff_getElem?.mpr hr, rfl⟩
  · rintro ⟨⟨r, i⟩, hr, rfl⟩
    refine ⟨i, ?_⟩
    rw [apply, applyRules_getElem?, List.mem_zipIdx_iff_getElem?.mp hr, Option.map_some]
    rfl

/-- An outcome of a file is a failure exactly if a rule failed on one of its forms. -/
theorem exists_failure_outcomesOn_iff (s : RuleSet) (forms : List Datum) :
    (∃ o ∈ s.outcomesOn forms, o.isFailure = true) ↔
      ∃ d ∈ forms, ∃ o ∈ (s.apply d).1, o.isFailure = true := by
  cases forms with
  | nil => simp [outcomesOn]
  | cons d rest =>
    have hoverall : ∀ r : Rule × Nat,
        (RuleResult.fault? (overall ((d :: rest).map (s.resultOf r.1 r.2)))).isSome = true ↔
          ∃ e ∈ d :: rest, (RuleResult.fault? (s.resultOf r.1 r.2 e)).isSome = true := by
      intro r
      rw [fault?_overall, List.isSome_findSome?, List.any_map, List.any_eq_true]
      rfl
    simp only [outcomesOn, List.mem_map, exists_exists_and_eq_and, isFailure_eq, hoverall,
      mem_apply_iff]
    constructor
    · rintro ⟨r, hr, e, he, hfault⟩
      exact ⟨e, he, _, ⟨r, hr, rfl⟩, hfault⟩
    · rintro ⟨e, he, _, ⟨r, hr, rfl⟩, hfault⟩
      exact ⟨r, hr, e, he, hfault⟩

/-! ## The forms that a batch meets -/

/-- The files that a batch reads, and their forms as it finds them. -/
def readings (s : RuleSet) (dryRun : Bool) (t : FileTree) :
    List String → List (String × List Datum)
  | [] => []
  | name :: rest =>
    match t.readForms name with
    | .error _ => []
    | .ok (_, forms) =>
      (name, forms) ::
        match t.store dryRun (s.applyToForms name forms) with
        | .error _ => []
        | .ok t => s.readings dryRun t rest

theorem results_applyToFiles (s : RuleSet) (dryRun : Bool) (t : FileTree) (names : List String) :
    (s.applyToFiles dryRun t names).results =
      (s.readings dryRun t names).map fun r => s.applyToForms r.1 r.2 := by
  induction names generalizing t with
  | nil => rfl
  | cons name names ih =>
    rw [applyToFiles, readings]
    cases hread : t.readForms name with
    | error e => rfl
    | ok result =>
      dsimp only
      cases hstore : t.store dryRun (s.applyToForms name result.2) with
      | error e => rfl
      | ok u => exact congrArg (List.cons _) (ih u)

/-- Without an error they are the files of the list. -/
theorem map_fst_readings {dryRun : Bool} {t : FileTree} {names : List String}
    (h : (s.applyToFiles dryRun t names).failure = none) :
    (s.readings dryRun t names).map Prod.fst = names := by
  induction names generalizing t with
  | nil => rfl
  | cons name names ih =>
    rw [applyToFiles] at h
    rw [readings]
    cases hread : t.readForms name with
    | error e =>
      rw [hread] at h
      cases h
    | ok result =>
      rw [hread] at h
      dsimp only at h ⊢
      cases hstore : t.store dryRun (s.applyToForms name result.2) with
      | error e =>
        rw [hstore] at h
        cases h
      | ok u =>
        rw [hstore] at h
        exact congrArg (List.cons name) (ih h)

end RuleSet

namespace FileTree

/-- A file is read where its name leads, which is no directory. -/
theorem read_eq_ok_iff {t : FileTree} {name : String} {p : Place} (hp : t.locate name = .ok p)
    (content : ByteArray) :
    t.read name = .ok content ↔ t.isDirectory p = false ∧ t.file? p = some content := by
  rw [read, hp]
  show (if t.isDirectory p = true then _ else _) = _ ↔ _
  cases t.isDirectory p with
  | true => simp [throw, throwThe, MonadExceptOf.throw, bind, Except.bind]
  | false =>
    cases t.file? p with
    | none => simp [throw, throwThe, MonadExceptOf.throw]
    | some found =>
      show Except.ok found = .ok content ↔ _
      rw [Except.ok.injEq, Option.some.injEq]
      exact (and_iff_right rfl).symm

theorem fromUTF8?_toUTF8 (text : String) : String.fromUTF8? text.toUTF8 = some text := by
  rw [String.fromUTF8?]
  split
  · rfl
  · next h => exact absurd text.isValidUTF8 h

/-- What was written can be read, and so can what could be read before. -/
theorem exists_readForms_put {t : FileTree} {p : Place} (hp : (t.file? p).isSome)
    (forms : List Datum) {name : String} (hread : ∃ r, t.readForms name = .ok r) :
    ∃ r, (t.put p (renderForms forms).toUTF8).readForms name = .ok r := by
  obtain ⟨⟨text, found⟩, hread⟩ := hread
  obtain ⟨q, hq⟩ := exists_fileOf?_of_readForms hread
  have hentries := SameEntries.put hp (renderForms forms).toUTF8
  by_cases hqp : q = p
  · subst hqp
    have hlocate := (fileOf?_eq_some.mp hq).1
    rw [readForms] at hread
    obtain ⟨_, htext, -⟩ := exists_of_bind_eq_ok hread
    replace htext := eq_ok_of_mapError htext
    rw [readText] at htext
    obtain ⟨content, hcontent, -⟩ := exists_of_bind_eq_ok htext
    have hwritten : (t.put q (renderForms forms).toUTF8).read name =
        .ok (renderForms forms).toUTF8 := by
      rw [read_eq_ok_iff ((hentries.locate name).trans hlocate), hentries.isDirectory, file?_put,
        if_pos rfl]
      exact ⟨((read_eq_ok_iff hlocate content).mp hcontent).1, rfl⟩
    have hagain : (t.put q (renderForms forms).toUTF8).readText name =
        .ok (renderForms forms) := by
      rw [readText, hwritten]
      dsimp only [bind, Except.bind]
      rw [fromUTF8?_toUTF8]
      rfl
    rw [readForms, hagain]
    show ∃ r, ((readAll (renderForms forms)).mapError _ >>= _) = .ok r
    rw [readAll_renderForms]
    exact ⟨_, rfl⟩
  · refine ⟨(text, found), ?_⟩
    rw [hentries.readForms, hread]
    intro q' hq'
    cases hq.symm.trans hq'
    rw [file?_put, if_neg fun h => hqp h.symm]

end FileTree

namespace RuleSet

variable {s : RuleSet} {t u : FileTree} {dryRun : Bool} {name other text : String}
  {forms : List Datum} {names : List String}

theorem store_dry (r : FileResult) : t.store true r = .ok t := by
  simp [FileTree.store]

/-- A file that is stored is left alone, or is written where its name leads. -/
theorem eq_or_put_of_store (hread : t.readForms name = .ok (text, forms))
    (hstore : t.store dryRun (s.applyToForms name forms) = .ok u) :
    u = t ∨ dryRun = false ∧ ∃ p, t.fileOf? name = some p ∧
      u = t.put p (renderForms (s.rewrite forms)).toUTF8 := by
  cases dryRun with
  | true =>
    rw [store_dry] at hstore
    cases hstore
    exact .inl rfl
  | false =>
    rw [store_applyToForms] at hstore
    split at hstore
    · cases hstore
      exact .inl rfl
    · replace hstore := eq_ok_of_mapError hstore
      rw [FileTree.write] at hstore
      obtain ⟨p, htarget, hput⟩ := exists_of_bind_eq_ok hstore
      obtain ⟨q, hq⟩ := FileTree.exists_fileOf?_of_readForms hread
      have hqp := (FileTree.fileOf?_eq_some.mp hq).1.symm.trans (FileTree.locate_of_target htarget)
      cases hqp
      cases hput
      exact .inr ⟨rfl, _, hq, rfl⟩

theorem sameEntries_of_store (hread : t.readForms name = .ok (text, forms))
    (hstore : t.store dryRun (s.applyToForms name forms) = .ok u) : t.SameEntries u := by
  obtain rfl | ⟨-, p, hp, rfl⟩ := eq_or_put_of_store hread hstore
  · exact .refl u
  · exact .put (FileTree.fileOf?_eq_some.mp hp).2 _

/-- Behind a file, what is read elsewhere is as it was. -/
theorem readForms_of_store (hread : t.readForms name = .ok (text, forms))
    (hstore : t.store dryRun (s.applyToForms name forms) = .ok u)
    (hother : dryRun = true ∨ ∀ p, t.fileOf? name = some p → t.fileOf? other ≠ some p) :
    u.readForms other = t.readForms other := by
  obtain rfl | ⟨rfl, p, hp, rfl⟩ := eq_or_put_of_store hread hstore
  · rfl
  · refine (FileTree.SameEntries.put (FileTree.fileOf?_eq_some.mp hp).2 _).readForms ?_
    rintro q hq
    rw [FileTree.file?_put, if_neg]
    rintro rfl
    exact hother.resolve_left Bool.false_ne_true p hp hq

/-- And what could be read can be read. -/
theorem exists_readForms_of_store (hread : t.readForms name = .ok (text, forms))
    (hstore : t.store dryRun (s.applyToForms name forms) = .ok u)
    (hother : ∃ r, t.readForms other = .ok r) : ∃ r, u.readForms other = .ok r := by
  obtain rfl | ⟨-, p, hp, rfl⟩ := eq_or_put_of_store hread hstore
  · exact hother
  · exact FileTree.exists_readForms_put (FileTree.fileOf?_eq_some.mp hp).2 _ hother

/-- Where no name leads back to a file, and where nothing is written, a batch meets the forms
that the files have held from the start. -/
theorem snd_of_mem_readings (h : dryRun = true ∨ t.NamesApart names) :
    ∀ r ∈ s.readings dryRun t names, r.1 ∈ names ∧ r.2 = t.formsOf r.1 := by
  induction names generalizing t with
  | nil => exact fun _ hr => nomatch hr
  | cons name names ih =>
    rw [readings]
    cases hread : t.readForms name with
    | error e => exact fun _ hr => nomatch hr
    | ok result =>
      have hforms : result.2 = t.formsOf name := by rw [FileTree.formsOf, hread]
      dsimp only
      cases hstore : t.store dryRun (s.applyToForms name result.2) with
      | error e =>
        rintro _ (_ | ⟨_, ⟨⟩⟩)
        exact ⟨List.mem_cons_self, hforms⟩
      | ok u =>
        rintro r (_ | ⟨_, hr⟩)
        · exact ⟨List.mem_cons_self, hforms⟩
        · -- the rest of the batch runs in `u`, which has to read the later files as `t` did
          have hentries := sameEntries_of_store hread hstore
          replace h : dryRun = true ∨ t.NamesApart ([name] ++ names) := h
          have hrest : dryRun = true ∨ u.NamesApart names :=
            h.imp_right fun h => (hentries.namesApart names).mpr h.of_append
          obtain ⟨hmem, hsame⟩ := ih hrest r hr
          refine ⟨List.mem_cons_of_mem name hmem, ?_⟩
          have hkept : u.readForms r.1 = t.readForms r.1 :=
            readForms_of_store hread hstore
              (h.imp_right fun h _ hp => h.fileOf?_ne List.mem_cons_self hmem hp)
          rw [hsame, FileTree.formsOf, FileTree.formsOf, hkept]

/-- Where every file can be read, only a file that cannot be written ends a batch. -/
theorem exists_target_of_failure (hread : ∀ name ∈ names, ∃ r, t.readForms name = .ok r)
    {e : FileError} (he : (s.applyToFiles dryRun t names).failure = some e) :
    dryRun = false ∧
      ∃ name ∈ names, ∃ fault, t.target name = .error fault ∧ e = .io name fault := by
  induction names generalizing t with
  | nil => cases he
  | cons name names ih =>
    obtain ⟨⟨text, forms⟩, hfirst⟩ := hread name List.mem_cons_self
    rw [applyToFiles, hfirst] at he
    dsimp only at he
    cases hstore : t.store dryRun (s.applyToForms name forms) with
    | error e' =>
      rw [hstore] at he
      cases he
      cases dryRun with
      | true =>
        rw [store_dry] at hstore
        cases hstore
      | false =>
        refine ⟨rfl, name, List.mem_cons_self, ?_⟩
        cases refuses_of_store hfirst hstore with
        | unread h => cases hfirst.symm.trans h
        | unwritten _ _ htarget => exact ⟨_, htarget, rfl⟩
    | ok u =>
      rw [hstore] at he
      have hentries := sameEntries_of_store hfirst hstore
      obtain ⟨hwet, bad, hbad, fault, htarget, rfl⟩ := ih
        (fun other hother => exists_readForms_of_store hfirst hstore
          (hread other (List.mem_cons_of_mem name hother))) he
      exact ⟨hwet, bad, List.mem_cons_of_mem name hbad, fault, hentries.target bad ▸ htarget, rfl⟩

end RuleSet

end SexprQuery
