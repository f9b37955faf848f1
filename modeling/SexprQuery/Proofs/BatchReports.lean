import SexprQuery.Proofs.FileOutcomes

/-!
# What applying rules reports

A batch tells of each file that it has read one outcome for each rule
(`RuleSet.IsValid.map_outcomes_applyToFiles`). What is printed of a file is its name with a
line for each outcome (`RuleSet.printedFile`); failures are told among the errors instead
(`Outcome.printedError`), and the tallies are told last.

`Command.apply_reports_outcomes` puts this together with the exit code.
-/

namespace SexprQuery

/-! ## The report of a batch -/

namespace RuleSet

variable {s : RuleSet} {t : FileTree} {dryRun : Bool} {names : List String}

/-- What a batch tells of each file that it has read. -/
theorem IsValid.map_outcomes_applyToFiles (h : s.IsValid) (dryRun : Bool) (t : FileTree)
    (names : List String) :
    (s.applyToFiles dryRun t names).results.map (fun r => (r.name, r.outcomes)) =
      (s.readings dryRun t names).map fun r => (r.1, s.outcomesOn r.2) := by
  rw [results_applyToFiles, List.map_map]
  refine List.map_congr_left fun r _ => ?_
  exact Prod.ext rfl (h.outcomes_applyToForms r.1 r.2)

theorem IsValid.flatMap_outcomes_applyToFiles (h : s.IsValid) (dryRun : Bool) (t : FileTree)
    (names : List String) :
    (s.applyToFiles dryRun t names).results.flatMap FileResult.outcomes =
      (s.readings dryRun t names).flatMap fun r => s.outcomesOn r.2 := by
  have hmap := congrArg (List.flatMap Prod.snd) (h.map_outcomes_applyToFiles dryRun t names)
  rwa [List.flatMap_map, List.flatMap_map] at hmap

/-- The four tallies add up to one for each rule and each file with a form. -/
theorem IsValid.sum_tally (h : s.IsValid) (dryRun : Bool) (t : FileTree) (names : List String) :
    let tally := (s.applyToFiles dryRun t names).tally
    tally.applied + tally.unchanged + tally.skipped + tally.failed =
      s.rules.length * (s.readings dryRun t names).countP fun r => !r.2.isEmpty := by
  intro tally
  show (Tally.ofOutcomes _).applied + (Tally.ofOutcomes _).unchanged +
    (Tally.ofOutcomes _).skipped + (Tally.ofOutcomes _).failed = _
  rw [Tally.sum_ofOutcomes, h.flatMap_outcomes_applyToFiles]
  induction s.readings dryRun t names with
  | nil => rfl
  | cons r rest ih =>
    rw [List.flatMap_cons, List.length_append, ih, length_outcomesOn, List.countP_cons]
    cases r.2.isEmpty
    · simp only [Bool.not_false, if_true, Bool.false_eq_true, if_false]
      rw [Nat.mul_add, Nat.mul_one, Nat.add_comm]
    · simp only [Bool.not_true, if_true, Bool.false_eq_true, if_false, Nat.zero_add, Nat.add_zero]

/-- None of the outcomes is a failure exactly if no rule failed on any form. -/
theorem IsValid.failed_tally_eq_zero_iff (h : s.IsValid) (dryRun : Bool) (t : FileTree)
    (names : List String) :
    (s.applyToFiles dryRun t names).tally.failed = 0 ↔
      ¬ ∃ r ∈ s.readings dryRun t names, ∃ d ∈ r.2, ∃ o ∈ (s.apply d).1, o.isFailure = true := by
  show (List.countP Outcome.isFailure _) = 0 ↔ _
  rw [List.countP_eq_zero, h.flatMap_outcomes_applyToFiles]
  simp only [← exists_failure_outcomesOn_iff, List.mem_flatMap]
  constructor
  · rintro hno ⟨r, hr, o, ho, hfailure⟩
    exact hno o ⟨r, hr, ho⟩ hfailure
  · rintro hno o ⟨r, hr, ho⟩ hfailure
    exact hno ⟨r, hr, o, ho, hfailure⟩

end RuleSet

/-- Rules that are read from a file have passed their checks. -/
theorem FileTree.isValid_of_readRules {t : FileTree} {name : String} {s : RuleSet}
    (h : t.readRules name = .ok s) : s.IsValid := by
  rw [readRules] at h
  obtain ⟨text, -, h⟩ := exists_of_bind_eq_ok h
  replace h := eq_ok_of_mapError h
  rw [RuleSet.ofText] at h
  split at h
  · cases h
  split at h
  · cases h
  split at h
  · next hvalid =>
    cases h
    exact hvalid
  · cases h

/-! ## What is printed -/

/-- The line that tells of an outcome. A failure is told elsewhere. -/
def Outcome.printed (o : Outcome) : String :=
  match o.result with
  | .ok (.applied count) => "  ✓ " ++ o.id ++ ": " ++ toString count ++ " replaced\n"
  | .ok .unchanged => "  · " ++ o.id ++ ": unchanged\n"
  | .ok (.skipped reason) => "  ⊘ " ++ o.id ++ ": Skipped (" ++ reason.message ++ ")\n"
  | .error _ => ""

/-- The line among the errors that tells of a failure. -/
def Outcome.printedError (o : Outcome) : String :=
  match o.result with
  | .ok _ => ""
  | .error fault => "  ✗ " ++ o.id ++ ": Failed - " ++ fault.message o.id ++ "\n"

/-- What is printed of a file with its forms: the name, a line for each outcome, and the
changes where they are asked for. -/
def RuleSet.printedFile (s : RuleSet) (withDiff : Bool) (name : String) (forms : List Datum) :
    String :=
  let result := s.applyToForms name forms
  name ++ "\n" ++ String.join ((s.outcomesOn forms).map Outcome.printed) ++
    if withDiff && result.isChanged then Command.showDiff result else ""

/-- What is printed behind the last file. -/
def Tally.printed (t : Tally) : String :=
  "\nSummary:\n" ++ "  " ++ toString t.applied ++ " applied\n" ++ "  " ++ toString t.unchanged ++
    " unchanged\n" ++ "  " ++ toString t.skipped ++ " skipped\n" ++ "  " ++ toString t.failed ++
    " failed\n"

namespace Command

/-- Lines that some elements have, and others have not. -/
theorem lines_filterMap {α : Type} {line? : α → Option String} {text : α → String}
    (h : ∀ a, text a = ((line? a).map (· ++ "\n")).getD "") (as : List α) :
    lines (as.filterMap line?) = String.join (as.map text) := by
  induction as with
  | nil => rfl
  | cons a as ih =>
    rw [List.filterMap_cons, List.map_cons, String.join_cons, ← ih, h a]
    cases line? a with
    | none => exact String.empty_append.symm
    | some l => exact lines_cons l _

/-- The end of a line with a number in it. -/
theorem number_append_end (before after : String) (n : Nat) :
    toString before ++ toString n ++ toString after ++ "\n" =
      before ++ toString n ++ (after ++ "\n") :=
  String.append_assoc

theorem printed_eq (o : Outcome) : o.printed = ((showOutcome o).map (· ++ "\n")).getD "" := by
  obtain ⟨id, result⟩ := o
  have hreplaced : " replaced" ++ "\n" = " replaced\n" := rfl
  match result with
  | .ok (.applied count) =>
    show _ = "  ✓ " ++ id ++ (toString ": " ++ toString count ++ toString " replaced") ++ "\n"
    rw [String.append_assoc, number_append_end, hreplaced]
    simp only [Outcome.printed, String.append_assoc]
  | .ok .unchanged | .ok (.skipped _) | .error _ =>
    simp [Outcome.printed, showOutcome, String.append_assoc]

theorem printedError_eq (o : Outcome) :
    o.printedError = ((showFailure o).map (· ++ "\n")).getD "" := by
  obtain ⟨id, result⟩ := o
  cases result <;> simp [Outcome.printedError, showFailure]

/-- Of a file its outcomes are printed one by one. -/
theorem showResult_applyToForms {s : RuleSet} (h : s.IsValid) (withDiff : Bool) (name : String)
    (forms : List Datum) :
    showResult withDiff (s.applyToForms name forms) = s.printedFile withDiff name forms := by
  rw [showResult, RuleSet.printedFile, lines_cons, h.outcomes_applyToForms,
    lines_filterMap printed_eq]
  rfl

theorem showTally_eq (t : Tally) : showTally t = t.printed := by
  have hhead : "" ++ "\n" ++ ("Summary:" ++ "\n") = "\nSummary:\n" := rfl
  have happlied : " applied" ++ "\n" = " applied\n" := rfl
  have hunchanged : " unchanged" ++ "\n" = " unchanged\n" := rfl
  have hskipped : " skipped" ++ "\n" = " skipped\n" := rfl
  have hfailed : " failed" ++ "\n" = " failed\n" := rfl
  have hnil : lines [] = "" := rfl
  unfold showTally Tally.printed
  simp only [lines_cons, number_append_end, happlied, hunchanged, hskipped, hfailed, hnil,
    String.append_empty, ← hhead]
  simp only [String.append_assoc]

/-! ## The command -/

/-- What is printed of the files of a batch, one behind the other. -/
theorem join_showResult {s : RuleSet} (h : s.IsValid) (dryRun withDiff : Bool) (t : FileTree)
    (names : List String) :
    String.join ((s.applyToFiles dryRun t names).results.map (showResult withDiff)) =
      String.join ((s.readings dryRun t names).map fun r => s.printedFile withDiff r.1 r.2) := by
  rw [RuleSet.results_applyToFiles, List.map_map]
  exact congrArg String.join
    (List.map_congr_left fun r _ => showResult_applyToForms h withDiff r.1 r.2)

/-- And what is told of it among the errors. -/
theorem lines_showFailure {s : RuleSet} (h : s.IsValid) (dryRun : Bool) (t : FileTree)
    (names : List String) :
    lines ((s.applyToFiles dryRun t names).results.flatMap fun r =>
        r.outcomes.filterMap showFailure) =
      String.join (((s.readings dryRun t names).flatMap fun r => s.outcomesOn r.2).map
        Outcome.printedError) := by
  rw [← List.filterMap_flatMap, h.flatMap_outcomes_applyToFiles, lines_filterMap printedError_eq]

/-- Applying a rule file tells of every file that was read, and then the tallies, or the error
that has ended it. -/
theorem apply_eq {t : FileTree} {rules : String} {s : RuleSet} (hrules : t.readRules rules = .ok s)
    (paths : List String) (dryRun withDiff : Bool) :
    let batch := s.applyToFiles dryRun t (t.dataFiles paths)
    let readings := s.readings dryRun t (t.dataFiles paths)
    apply t rules paths dryRun withDiff =
      ⟨batch.failure.elim (if batch.tally.failed = 0 then 0 else 1) fun _ => 1,
        "Loading rules from " ++ rules ++ "...\n" ++ showRules s dryRun ++
          String.join (readings.map fun r => s.printedFile withDiff r.1 r.2) ++
          batch.failure.elim batch.tally.printed fun _ => "",
        String.join ((readings.flatMap fun r => s.outcomesOn r.2).map Outcome.printedError) ++
          batch.failure.elim "" fun e => (Failure.file e).report,
        batch.tree⟩ := by
  intro batch readings
  have hvalid := FileTree.isValid_of_readRules hrules
  have hloading : lines ["Loading rules from " ++ rules ++ "..."] =
      "Loading rules from " ++ rules ++ "...\n" := by
    rw [lines_cons, String.append_assoc, String.append_assoc]
    rfl
  rw [apply, hrules]
  dsimp only
  rw [hloading, join_showResult hvalid, lines_showFailure hvalid, showTally_eq]
  cases batch.failure with
  | none =>
    simp only [Option.elim, String.append_empty]
    rfl
  | some e =>
    simp only [Option.elim, String.append_empty, failed]
    rfl

/-- **What is reported of files.** Where the rules and all data files can be read, applying
the rules tells of each file that has a form one outcome for each rule, under its identifier
and in the order of the rules: the first fault if the rule failed on any form, or else the sum
of the counts if it replaced anything, or else the first reason to skip, or else that nothing
was done (`overall`). That is what is printed, line by line, and the failures are printed among
the errors. In another order of the forms the kinds and the counts are the same. The tallies,
which are printed last, add up to one for each rule and each file with a form. Only a file that
cannot be written ends the batch early; without that every file is reported, and the exit code
is one exactly if some rule failed on some form. The forms are those that the files have held
from the start, where nothing is written or no two names lead to one file. -/
theorem apply_reports_outcomes {t : FileTree} {rules : String} {paths : List String} {s : RuleSet}
    (hrules : t.readRules rules = .ok s)
    (hread : ∀ name ∈ t.dataFiles paths, ∃ r, t.readForms name = .ok r)
    (dryRun withDiff : Bool) :
    let names := t.dataFiles paths
    let batch := s.applyToFiles dryRun t names
    let readings := s.readings dryRun t names
    let report := apply t rules paths dryRun withDiff
    batch.results.map (fun r => (r.name, r.outcomes)) =
      readings.map (fun r => (r.1, s.outcomesOn r.2)) ∧
    report.out = "Loading rules from " ++ rules ++ "...\n" ++ showRules s dryRun ++
      String.join (readings.map fun r => s.printedFile withDiff r.1 r.2) ++
      (batch.failure.elim batch.tally.printed fun _ => "") ∧
    report.err =
      String.join ((readings.flatMap fun r => s.outcomesOn r.2).map Outcome.printedError) ++
      (batch.failure.elim "" fun e => (Failure.file e).report) ∧
    (∀ forms others, forms.Perm others →
      (s.outcomesOn forms).map (fun o => RuleResult.kind o.result) =
        (s.outcomesOn others).map fun o => RuleResult.kind o.result) ∧
    batch.tally.applied + batch.tally.unchanged + batch.tally.skipped + batch.tally.failed =
      s.rules.length * readings.countP (fun r => !r.2.isEmpty) ∧
    (∀ e, batch.failure = some e →
      dryRun = false ∧ ∃ name ∈ names, ∃ fault, t.target name = .error fault ∧ e = .io name fault) ∧
    (batch.failure = none →
      readings.map Prod.fst = names ∧
      (report.code = 1 ↔
        ∃ r ∈ readings, ∃ d ∈ r.2, ∃ o ∈ (s.apply d).1, o.isFailure = true)) ∧
    (dryRun = true ∨ t.NamesApart names → ∀ r ∈ readings, r.2 = t.formsOf r.1) := by
  intro names batch readings report
  have hvalid := FileTree.isValid_of_readRules hrules
  have hreport := apply_eq hrules paths dryRun withDiff
  refine ⟨hvalid.map_outcomes_applyToFiles dryRun t names, congrArg Report.out hreport,
    congrArg Report.err hreport, fun _ _ hperm => s.kinds_outcomesOn_of_perm hperm,
    hvalid.sum_tally dryRun t names, fun e he => RuleSet.exists_target_of_failure hread he, ?_,
    fun h r hr => (RuleSet.snd_of_mem_readings h r hr).2⟩
  intro hnone
  refine ⟨RuleSet.map_fst_readings hnone, ?_⟩
  have hcode : report.code = if batch.tally.failed = 0 then 0 else 1 := by
    rw [show report.code = _ from congrArg Report.code hreport, hnone]
    rfl
  have hfailed : batch.tally.failed = 0 ↔ _ := hvalid.failed_tally_eq_zero_iff dryRun t names
  rw [hcode]
  by_cases hzero : batch.tally.failed = 0
  · rw [if_pos hzero]
    exact ⟨fun h => (nomatch h), fun h => absurd h (hfailed.mp hzero)⟩
  · rw [if_neg hzero]
    exact ⟨fun _ => not_not.mp fun h => hzero (hfailed.mpr h), fun _ => rfl⟩

/-- Two rules, a file with two forms and a file without any: one rule holds on one form and fails
on the other one, and the other rule replaces one form and does not find anything in the other. -/
theorem apply_reports_outcomes_two_forms :
    let t : FileTree := ⟨[],
      [(["r"], ("rules=[\x7bid='one',pattern='(s _)',action=['expect',1]\x7d,\n" ++
          "\x7bid='two',pattern='(s _)',action=['replace','x']\x7d]").toUTF8),
        (["a.sexp"], "(s a)\n(t b)".toUTF8), (["b.sexp"], "; nothing".toUTF8)], []⟩
    let report := apply t "r" ["."] true false
    ∃ s, t.readRules "r" = .ok s ∧
      (∀ name ∈ t.dataFiles ["."], ∃ r, t.readForms name = .ok r) ∧
      (∃ d ∈ t.formsOf "./a.sexp", ∃ o ∈ (s.apply d).1, o.isFailure = true) ∧
      report.code = 1 ∧
      report.out = "Loading rules from r...\n[DRY RUN - showing what would be applied]\n\n" ++
        "./a.sexp\n  ✓ two: 1 replaced\n./b.sexp\n" ++
        "\nSummary:\n  1 applied\n  0 unchanged\n  0 skipped\n  1 failed\n" ∧
      report.err = "  ✗ one: Failed - rule 'one' expected 1 matches, found 0\n" := by
  intro t report
  have hnames : t.dataFiles ["."] = ["./a.sexp", "./b.sexp"] := by decide +kernel
  have hread : ∀ name ∈ t.dataFiles ["."], ∃ r, t.readForms name = .ok r := by
    rw [hnames]
    rintro _ (_ | ⟨_, _ | ⟨_, ⟨⟩⟩⟩) <;> exact ⟨_, rfl⟩
  have hrun : (t.readRules "r").toOption.isSome = true ∧ report.code = 1 ∧
      report.out = "Loading rules from r...\n[DRY RUN - showing what would be applied]\n\n" ++
        "./a.sexp\n  ✓ two: 1 replaced\n./b.sexp\n" ++
        "\nSummary:\n  1 applied\n  0 unchanged\n  0 skipped\n  1 failed\n" ∧
      report.err = "  ✗ one: Failed - rule 'one' expected 1 matches, found 0\n" := by
    decide +kernel
  obtain ⟨hsome, hcode, hout, herr⟩ := hrun
  cases hrules : t.readRules "r" with
  | error e => rw [hrules] at hsome; cases hsome
  | ok s =>
    refine ⟨s, rfl, hread, ?_, hcode, hout, herr⟩
    obtain ⟨-, -, -, -, -, hfailure, hnone, hforms⟩ :=
      apply_reports_outcomes hrules hread true false
    cases hbatch : (s.applyToFiles true t (t.dataFiles ["."])).failure with
    | some e => cases (hfailure e hbatch).1
    | none =>
      obtain ⟨hreadings, hfailed⟩ := hnone hbatch
      obtain ⟨⟨name, forms⟩, hr, d, hd, hrule⟩ := hfailed.mp hcode
      have hname := List.mem_map_of_mem (f := Prod.fst) hr
      obtain rfl : forms = t.formsOf name := hforms (.inl rfl) _ hr
      rw [hreadings, hnames] at hname
      -- the second file has no form to fail on
      rcases hname with _ | ⟨_, _ | ⟨_, ⟨⟩⟩⟩
      · exact ⟨d, hd, hrule⟩
      · cases hd

end Command

end SexprQuery
