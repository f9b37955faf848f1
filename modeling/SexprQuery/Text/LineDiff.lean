/-!
# Differences between two texts

A script turns one list of lines into another by runs of lines that stay, go or
come. `script` looks for a shortest one by divide and conquer: a search from the
front and one from the back go on by turns until they meet on a diagonal, and the
halves before and behind that point are treated alone.

Among scripts of one length, `compact` prefers few long runs: a run that comes is
moved past lines that stay as long as they repeat its own, towards the front and
then towards the back, and runs of one kind that touch become one.

`changes` lists the result line by line; between two lines that stay, the lines
that go stand before those that come.
-/

namespace SexprQuery.LineDiff

-- sums start from the zero of the core library, also beside a library with others
attribute [local instance (2000)] Zero.ofOfNat0

/-- What becomes of a line. -/
inductive Change where
  | same
  | removed
  | added
deriving DecidableEq, Repr

variable {α : Type} [DecidableEq α]

/-- Lines in a row with the same change. -/
structure Run (α : Type) where
  change : Change
  lines : List α

/-- A run, left out where it has no lines. -/
def runOf (change : Change) (lines : List α) : List (Run α) :=
  if lines.isEmpty then [] else [⟨change, lines⟩]

/-- The number of lines that two lists have in common at their fronts. -/
def commonLength : List α → List α → Nat
  | a :: as, b :: bs => if a = b then commonLength as bs + 1 else 0
  | _, _ => 0

/-! ## The middle of a shortest script -/

/-- How many lines of the old text a search has come past on each diagonal; the number
of a diagonal is how many more lines of the old text than of the new one are past. -/
structure Reach where
  offset : Nat
  cells : Array Nat

namespace Reach

/-- A search that has not started, with diagonals up to a bound. -/
def start (bound : Nat) : Reach := ⟨bound, Array.replicate (2 * bound + 1) 0⟩

/-- The reach on a diagonal. -/
def get (v : Reach) (k : Int) : Nat := v.cells.getD (k + v.offset).toNat 0

/-- The reach after a change on one diagonal. -/
def set (v : Reach) (k : Int) (x : Nat) : Reach :=
  { v with cells := v.cells.setIfInBounds (k + v.offset).toNat x }

end Reach

/-- The number of lines in common from a line of each text on. -/
def snakeLength (old new : Array α) : Nat → Nat → Nat → Nat
  | 0, _, _ => 0
  | left + 1, x, y =>
    match old[x]?, new[y]? with
    | some a, some b => if a = b then snakeLength old new left (x + 1) (y + 1) + 1 else 0
    | _, _ => 0

/-- One round of a search: on every diagonal it takes one more line that goes or
comes, and then all lines in common. Stops on the first diagonal where `meets` holds
of it and its reach, and gives the diagonal with the line of the old text where the
lines in common start and where they end. -/
def round (old new : Array α) (d : Int) (meets : Int → Nat → Bool) :
    List Int → Reach → Reach × Option (Int × Nat × Nat)
  | [], v => (v, none)
  | k :: ks, v =>
    let down := k = -d || (k != d && v.get (k - 1) < v.get (k + 1))
    let first := if down then v.get (k + 1) else v.get (k - 1) + 1
    let last := first + snakeLength old new old.size first (first - k).toNat
    let v := v.set k last
    if meets k last then (v, some (k, first, last)) else round old new d meets ks v

/-- The diagonals of a round, highest first. -/
def diagonals (d : Nat) : List Int :=
  (List.range (d + 1)).map fun (i : Nat) => (d : Int) - 2 * (i : Int)

/-- Rounds of the two searches by turns, from round `d` on; gives the numbers of lines
of the old and the new text before the point where they meet. The search from the back
runs on the reversed texts. -/
def meeting (old new oldBack newBack : Array α) : Nat → Nat → Reach → Reach → Option (Nat × Nat)
  | 0, _, _, _ => none
  | rounds + 1, d, front, back =>
    let delta := (old.size : Int) - new.size
    let isOdd := delta % 2 != 0
    let reaches (other : Reach) (bound : Int) (k : Int) (x : Nat) : Bool :=
      (k - delta).natAbs ≤ bound && old.size ≤ x + other.get (delta - k)
    match round old new d (fun k x => isOdd && reaches back (d - 1) k x) (diagonals d) front with
    | (_, some (k, first, _)) => some (first, (first - k).toNat)
    | (front, none) =>
      match round oldBack newBack d (fun k x => !isOdd && reaches front d k x) (diagonals d)
          back with
      | (_, some (k, _, last)) => some (old.size - last, new.size - (last - k).toNat)
      | (back, none) => meeting old new oldBack newBack rounds (d + 1) front back

/-- Where a shortest script between two texts can be divided. -/
def middle? (old new : List α) : Option (Nat × Nat) :=
  let bound := (old.length + new.length + 1) / 2 + 1
  meeting old.toArray new.toArray old.reverse.toArray new.reverse.toArray bound 0
    (Reach.start bound) (Reach.start bound)

/-- A script between two texts. What they have in common in front and behind stays, and
what is between is divided; `depth` bounds how often. -/
def script (depth : Nat) (old new : List α) : List (Run α) :=
  let front := commonLength old new
  let oldRest := old.drop front
  let newRest := new.drop front
  let behind := commonLength oldRest.reverse newRest.reverse
  let oldMid := oldRest.take (oldRest.length - behind)
  let newMid := newRest.take (newRest.length - behind)
  let between :=
    if oldMid.isEmpty || newMid.isEmpty then runOf .removed oldMid ++ runOf .added newMid
    else
      match depth, middle? oldMid newMid with
      | depth + 1, some (x, y) =>
        script depth (oldMid.take x) (newMid.take y) ++ script depth (oldMid.drop x) (newMid.drop y)
      | _, _ => runOf .removed oldMid ++ runOf .added newMid
  runOf .same (old.take front) ++ between ++ runOf .same (oldRest.drop (oldRest.length - behind))

/-! ## Compact scripts -/

/-- The number of runs and lines. -/
def weight (rs : List (Run α)) : Nat := (rs.map fun r => r.lines.length + 1).sum

/-- A script around one of its runs; the runs in front of it are latest first. -/
structure Focus (α : Type) where
  before : List (Run α)
  run : Run α
  after : List (Run α)

/-- One more line that stays, in front of a script. -/
def consSame (line : α) : List (Run α) → List (Run α)
  | ⟨.same, lines⟩ :: rest => ⟨.same, line :: lines⟩ :: rest
  | rs => ⟨.same, [line]⟩ :: rs

/-- One more line that stays, behind a script that is held latest first. -/
def snocSame (line : α) : List (Run α) → List (Run α)
  | ⟨.same, lines⟩ :: rest => ⟨.same, lines ++ [line]⟩ :: rest
  | rs => ⟨.same, [line]⟩ :: rs

/-- Move the run in focus towards the front. It passes a line that stays if that is
also its own last line, and a run of the other kind; one of its own kind it takes in.
Only a run that comes can pass a line that stays. -/
def raise : Nat → Focus α → Focus α
  | 0, f => f
  | fuel + 1, f =>
    match f.before with
    | [] => f
    | ⟨.same, lines⟩ :: rest =>
      match lines.getLast?, f.run.lines.getLast? with
      | none, _ => raise fuel { f with before := rest }
      | some line, some last =>
        if f.run.change = .added && line = last then
          raise fuel ⟨⟨.same, lines.dropLast⟩ :: rest,
            { f.run with lines := last :: f.run.lines.dropLast }, consSame line f.after⟩
        else f
      | some _, none => f
    | other :: rest =>
      if other.change = f.run.change then
        raise fuel { f with before := rest, run := { f.run with lines := other.lines ++ f.run.lines } }
      else raise fuel { f with before := rest, after := other :: f.after }

/-- Move the run in focus towards the back, in the same way. -/
def lower : Nat → Focus α → Focus α
  | 0, f => f
  | fuel + 1, f =>
    match f.after with
    | [] => f
    | ⟨.same, lines⟩ :: rest =>
      match lines, f.run.lines with
      | [], _ => lower fuel { f with after := rest }
      | line :: lines, first :: own =>
        if f.run.change = .added && line = first then
          lower fuel ⟨snocSame line f.before, { f.run with lines := own ++ [first] },
            ⟨.same, lines⟩ :: rest⟩
        else f
      | _ :: _, [] => f
    | other :: rest =>
      if other.change = f.run.change then
        lower fuel { f with run := { f.run with lines := f.run.lines ++ other.lines }, after := rest }
      else lower fuel { f with before := other :: f.before, after := rest }

/-- Move every run of a kind, in order, towards the front and then towards the back.
The runs that are done are held latest first. -/
def compactRuns (change : Change) : Nat → List (Run α) → List (Run α) → List (Run α)
  | 0, done, rs => done.reverse ++ rs
  | _, done, [] => done.reverse
  | fuel + 1, done, r :: rest =>
    if r.change = change then
      let raised := raise (weight done) ⟨done, r, rest⟩
      let f := lower (weight raised.after) raised
      compactRuns change fuel (f.run :: f.before) f.after
    else compactRuns change fuel (r :: done) rest

/-- The compact form of a script. -/
def compact (rs : List (Run α)) : List (Run α) :=
  let fuel := (weight rs + 1) * (weight rs + 1)
  compactRuns .added fuel [] (compactRuns .removed fuel [] rs)

/-! ## Line by line -/

/-- The lines of a script with their changes. Lines that go and come wait for the next
line that stays, so that all that go are in front. -/
def listRuns (removed added : List α) : List (Run α) → List (Change × α)
  | [] => removed.map (Change.removed, ·) ++ added.map (Change.added, ·)
  | ⟨.removed, lines⟩ :: rest => listRuns (removed ++ lines) added rest
  | ⟨.added, lines⟩ :: rest => listRuns removed (added ++ lines) rest
  | ⟨.same, lines⟩ :: rest =>
    removed.map (Change.removed, ·) ++ added.map (Change.added, ·) ++
      lines.map (Change.same, ·) ++ listRuns [] [] rest

/-- What has changed between two lists of lines. -/
def changes (old new : List α) : List (Change × α) :=
  listRuns [] [] (compact (script (old.length + new.length) old new))

/-- The lines of a text, each with its end. -/
def splitLines : List Char → List (List Char)
  | [] => []
  | c :: cs =>
    match splitLines cs with
    | [] => [[c]]
    | line :: rest =>
      if c = '\n' || (c = '\r' && line.head? != some '\n') then [c] :: line :: rest
      else (c :: line) :: rest

/-- The sign of a change. -/
def Change.sign : Change → Char
  | .same => ' '
  | .removed => '-'
  | .added => '+'

/-- The changes between two texts, every line behind its sign. -/
def render (old new : String) : String :=
  String.ofList <|
    (changes (splitLines old.toList) (splitLines new.toList)).flatMap fun (change, line) =>
      change.sign :: line

end SexprQuery.LineDiff
