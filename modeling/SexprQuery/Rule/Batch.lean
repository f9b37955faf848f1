import SexprQuery.File.Data
import SexprQuery.Rule.Application

/-!
# Applying rules to data files

The rules of a set are applied to every form of a file by itself, and what came of
a rule on the forms is merged into one outcome for the file: a failure on any form
is a failure, and else counts add up, and else a skip outdoes nothing done.

A file is written where the rendering of its forms has changed, and not where only
its layout would. A file that cannot be read ends the batch: those before it have
been written, it and those behind it are as they were.
-/

namespace SexprQuery

/-- What came of a rule on two parts of a file: the first failure, or the sum of the
counts, or the first reason to skip. -/
def mergeResults (a b : RuleResult) : RuleResult :=
  match a, b with
  | .error fault, _ => .error fault
  | _, .error fault => .error fault
  | .ok (.applied m), .ok (.applied n) => .ok (.applied (m + n))
  | .ok (.applied m), _ => .ok (.applied m)
  | _, .ok (.applied n) => .ok (.applied n)
  | .ok (.skipped reason), _ => .ok (.skipped reason)
  | _, .ok (.skipped reason) => .ok (.skipped reason)
  | .ok .unchanged, .ok .unchanged => .ok .unchanged

/-- What has come of rules so far, under their identifiers. -/
abbrev MergedResults := String → Option RuleResult

/-- Merge one more outcome into what there is under its identifier. -/
def MergedResults.add (merged : MergedResults) (o : Outcome) : MergedResults :=
  fun id =>
    if o.id = id then
      some (match merged id with
        | none => o.result
        | some before => mergeResults before o.result)
    else merged id

/-- The merged outcomes of rules, in the order of the rules. A rule of which nothing came
has none. -/
def mergeOutcomes (rules : List Rule) (outcomes : List Outcome) : List Outcome :=
  let merged := outcomes.foldl MergedResults.add fun _ => none
  rules.filterMap fun r => (merged r.id).map fun result => ⟨r.id, result⟩

/-- What applying rules makes of a file. -/
structure FileResult where
  name : String
  /-- One outcome for each rule. -/
  outcomes : List Outcome
  /-- The rendering of the forms as they were read. -/
  before : String
  /-- The rendering of the forms that the rules have left. -/
  after : String

/-- True where the file has to be written. -/
def FileResult.isChanged (r : FileResult) : Bool := r.after != r.before

/-- Apply a rule set to the forms of a file. -/
def RuleSet.applyToForms (s : RuleSet) (name : String) (forms : List Datum) : FileResult :=
  let results := forms.map s.apply
  { name := name
    outcomes := mergeOutcomes s.rules (results.flatMap Prod.fst)
    before := renderForms forms
    after := renderForms (results.map Prod.snd) }

/-- What a batch has done: the results of the files that were read, the files as they
are behind it, and the error that has ended it early. -/
structure Batch where
  results : List FileResult
  tree : FileTree
  failure : Option FileError

/-- The files behind a result: as they were in a dry run and where nothing has changed. -/
def FileTree.store (t : FileTree) (dryRun : Bool) (r : FileResult) : Except FileError FileTree :=
  if r.isChanged && !dryRun then (t.write r.name r.after).mapError (.io r.name) else .ok t

/-- Apply a rule set to data files, one by one. -/
def RuleSet.applyToFiles (s : RuleSet) (dryRun : Bool) (t : FileTree) : List String → Batch
  | [] => ⟨[], t, none⟩
  | name :: rest =>
    match t.readForms name with
    | .error e => ⟨[], t, some e⟩
    | .ok (_, forms) =>
      let result := s.applyToForms name forms
      match t.store dryRun result with
      | .error e => ⟨[result], t, some e⟩
      | .ok t =>
        let batch := s.applyToFiles dryRun t rest
        { batch with results := result :: batch.results }

/-- How many outcomes there are of each kind. -/
structure Tally where
  applied : Nat
  unchanged : Nat
  skipped : Nat
  failed : Nat
deriving DecidableEq, Repr

/-- The tally of some outcomes. -/
def Tally.ofOutcomes (outcomes : List Outcome) : Tally where
  applied := outcomes.countP fun o => match o.result with
    | .ok (.applied _) => true
    | _ => false
  unchanged := outcomes.countP fun o => match o.result with
    | .ok .unchanged => true
    | _ => false
  skipped := outcomes.countP fun o => match o.result with
    | .ok (.skipped _) => true
    | _ => false
  failed := outcomes.countP Outcome.isFailure

/-- The tally of a batch. -/
def Batch.tally (b : Batch) : Tally := Tally.ofOutcomes (b.results.flatMap FileResult.outcomes)

end SexprQuery
