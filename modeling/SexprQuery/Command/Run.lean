import SexprQuery.Command.Arguments
import SexprQuery.Command.Failure
import SexprQuery.Rule.Batch
import SexprQuery.Search.Report
import SexprQuery.Text.LineDiff

/-!
# Running commands

A command is a function of its arguments and of the files that it can reach. It
gives the exit code, what it prints, and the files as they are behind it. What was
printed and written before a failure stays.

* `search` prints the findings of a pattern in data files;
* `parse` prints how a pattern is understood;
* `apply` applies a rule file to data files and prints what came of each rule.
-/

namespace SexprQuery.Command

/-- What a command leaves behind. -/
structure Report where
  code : Nat
  out : String
  err : String
  tree : FileTree

/-- Lines, each with its end. -/
def lines (ls : List String) : String := String.join (ls.map fun l => l ++ "\n")

theorem lines_cons (l : String) (ls : List String) : lines (l :: ls) = l ++ "\n" ++ lines ls := by
  rw [lines, List.map_cons, String.join_cons]
  rfl

theorem lines_append (ls ms : List String) : lines (ls ++ ms) = lines ls ++ lines ms := by
  rw [lines, List.map_append, String.join_append]
  rfl

/-- A command that failed after it printed something. -/
def failed (out err : String) (f : Failure) (t : FileTree) : Report :=
  ⟨1, out, err ++ f.report, t⟩

/-! ## Searching -/

/-- What a search prints. -/
def showFindings (style : SearchStyle) (files : Nat) (found : List Finding) : String :=
  match style with
  | .count => lines [toString found.length]
  | .json => lines [Json.objects (found.map Finding.fields)]
  | .lines => lines (found.map Finding.display ++
      ["", s!"{found.length} match(es) in {files} file(s)"])

/-- Find the matches of a pattern in data files. -/
def findIn (t : FileTree) (text : String) (paths : List String) (style : SearchStyle) :
    Except Failure String := do
  let p ← readPattern text
  let files := t.dataFiles paths
  let found ← (t.findings p files).mapError .file
  return showFindings style files.length found

/-- Search data files. -/
def search (t : FileTree) (text : String) (paths : List String) (style : SearchStyle) : Report :=
  match findIn t text paths style with
  | .ok out => ⟨0, out, "", t⟩
  | .error f => failed "" "" f t

/-! ## Parsing -/

/-- Show a pattern in its three forms. -/
def parse (t : FileTree) (text : String) : Report :=
  match readPattern text with
  | .ok p =>
    let greedy := if p.isGreedy then ["(greedy)"] else []
    ⟨0, lines (["debug:   " ++ p.display, "calls:   " ++ p.calls, "pattern: " ++ p.source] ++ greedy),
      "", t⟩
  | .error f => ⟨1, "", "✗ " ++ f.chain ++ "\n", t⟩

/-! ## Applying rules -/

/-- The line for an outcome, but for a failure. -/
def showOutcome (o : Outcome) : Option String :=
  match o.result with
  | .ok (.applied count) => some ("  ✓ " ++ o.id ++ s!": {count} replaced")
  | .ok .unchanged => some ("  · " ++ o.id ++ ": unchanged")
  | .ok (.skipped reason) => some ("  ⊘ " ++ o.id ++ ": Skipped (" ++ reason.message ++ ")")
  | .error _ => none

/-- The line for a failure. -/
def showFailure (o : Outcome) : Option String :=
  match o.result with
  | .ok _ => none
  | .error fault => some ("  ✗ " ++ o.id ++ ": Failed - " ++ fault.message o.id)

/-- The changes of a file, below the names of its two versions. -/
def showDiff (r : FileResult) : String :=
  lines ["", "--- " ++ r.name ++ " (original)", "+++ " ++ r.name ++ " (rewritten)"] ++
    LineDiff.render r.before r.after

/-- What is printed of a file. -/
def showResult (withDiff : Bool) (r : FileResult) : String :=
  lines (r.name :: r.outcomes.filterMap showOutcome) ++
    if withDiff && r.isChanged then showDiff r else ""

/-- The numbers of outcomes. -/
def showTally (t : Tally) : String :=
  lines ["", "Summary:", s!"  {t.applied} applied", s!"  {t.unchanged} unchanged",
    s!"  {t.skipped} skipped", s!"  {t.failed} failed"]

/-- What is printed before the first file. -/
def showRules (s : RuleSet) (dryRun : Bool) : String :=
  lines ((if s.name.isEmpty then [] else ["Rule set: " ++ s.name]) ++
    (if dryRun then ["[DRY RUN - showing what would be applied]"] else []) ++ [""])

/-- The exit code where reading a rule file breaks down. -/
def breakdownCode : Nat := 101

/-- Apply the rules of a file to data files. -/
def apply (t : FileTree) (rules : String) (paths : List String) (dryRun withDiff : Bool) :
    Report :=
  let loading := lines ["Loading rules from " ++ rules ++ "..."]
  match t.readRules rules with
  | .error (.text _ .breakdown) => ⟨breakdownCode, loading, "", t⟩
  | .error e => failed loading "" (.rules e) t
  | .ok s =>
    let batch := s.applyToFiles dryRun t (t.dataFiles paths)
    let out := loading ++ showRules s dryRun ++
      String.join (batch.results.map (showResult withDiff))
    let err := lines (batch.results.flatMap fun r => r.outcomes.filterMap showFailure)
    match batch.failure with
    | some e => failed out err (.file e) batch.tree
    | none => ⟨if batch.tally.failed = 0 then 0 else 1, out ++ showTally batch.tally, err, batch.tree⟩

/-! ## All commands -/

/-- How the program is called. -/
def usage : String :=
  lines ["Usage: sexp-path [--verbose] search [--count | --json] PATTERN PATH...",
    "       sexp-path [--verbose] parse PATTERN",
    "       sexp-path [--verbose] apply --rules FILE [--dry-run] [--diff] PATH..."]

/-- What the program says of its version. -/
def version : String := "sexp-path 0.1.0\n"

/-- Do what is asked for. -/
def answer (t : FileTree) : Request → Report
  | .search pattern paths style => search t pattern paths style
  | .parse pattern => parse t pattern
  | .apply rules paths dryRun withDiff => apply t rules paths dryRun withDiff
  | .help => ⟨0, usage, "", t⟩
  | .version => ⟨0, version, "", t⟩

/-- Run the program on its arguments; arguments that make no sense have an exit code of
their own. -/
def run (arguments : List String) (t : FileTree) : Report :=
  match readArguments arguments with
  | some request => answer t request
  | none => ⟨2, "", usage, t⟩

end SexprQuery.Command
