import SexprQuery.Text.Hexadecimal

/-!
# Sets of characters

A set is held as its ranges of code points, in rising order and with a gap
between any two, so that equal sets have equal ranges. `ofRanges` brings any
ranges into that form.

The functions at the end read the tables of the modules beside this one.
-/

namespace SexprQuery.Unicode

/-- A set of code points. -/
structure CharSet where
  /-- First and last member of each range. -/
  ranges : List (Nat × Nat)
deriving DecidableEq, Repr

namespace CharSet

/-- The largest code point. -/
def top : Nat := 0x10FFFF

/-- No character. -/
def empty : CharSet := ⟨[]⟩

/-- Every character. -/
def all : CharSet := ⟨[(0, top)]⟩

/-- Membership of a code point. -/
def contains (s : CharSet) (c : Nat) : Bool := s.ranges.any fun r => r.1 ≤ c && c ≤ r.2

/-- Join ranges that are sorted by their first members, where they touch;
`current` is the range under construction. -/
def joinFrom (current : Nat × Nat) : List (Nat × Nat) → List (Nat × Nat)
  | [] => [current]
  | r :: rest =>
    if r.1 ≤ current.2 + 1 then joinFrom (current.1, max current.2 r.2) rest
    else current :: joinFrom r rest

/-- Join sorted ranges. -/
def joinSorted : List (Nat × Nat) → List (Nat × Nat)
  | [] => []
  | r :: rest => joinFrom r rest

/-- The set of the members of some ranges. -/
def ofRanges (rs : List (Nat × Nat)) : CharSet :=
  ⟨joinSorted ((rs.filter fun r => r.1 ≤ r.2).mergeSort fun a b => a.1 ≤ b.1)⟩

/-- The set of one character. -/
def single (c : Char) : CharSet := ⟨[(c.toNat, c.toNat)]⟩

/-- Members of either. -/
def union (a b : CharSet) : CharSet := ofRanges (a.ranges ++ b.ranges)

/-- The gaps between sorted ranges from a code point on. -/
def gapsFrom (start : Nat) : List (Nat × Nat) → List (Nat × Nat)
  | [] => if start ≤ top then [(start, top)] else []
  | r :: rest =>
    if start < r.1 then (start, r.1 - 1) :: gapsFrom (r.2 + 1) rest
    else gapsFrom (r.2 + 1) rest

/-- All other characters. -/
def compl (s : CharSet) : CharSet := ⟨gapsFrom 0 s.ranges⟩

/-- Members of both. -/
def inter (a b : CharSet) : CharSet := (a.compl.union b.compl).compl

/-- Members of the first alone. -/
def diff (a b : CharSet) : CharSet := (a.compl.union b).compl

/-- Members of exactly one. -/
def symmDiff (a b : CharSet) : CharSet := (a.diff b).union (b.diff a)

/-- The members that are characters: surrogates are none. -/
def scalars (s : CharSet) : CharSet :=
  ⟨s.ranges.flatMap fun r =>
    [(r.1, min r.2 0xD7FF), (max r.1 0xE000, r.2)].filter fun part => part.1 ≤ part.2⟩

/-- No member past the ASCII characters. -/
def isAscii (s : CharSet) : Bool := s.ranges.all fun r => r.2 ≤ 0x7F

end CharSet

/-! ## Reading tables -/

/-- A code point, or the first and the last of a range with a dash between. -/
def decodeRange (entry : String) : Option (Nat × Nat) :=
  match entry.splitOn "-" with
  | [a] => if a.isEmpty then none else some (Hexadecimal.value a.toList, Hexadecimal.value a.toList)
  | [a, b] => some (Hexadecimal.value a.toList, Hexadecimal.value b.toList)
  | _ => none

/-- The entries of a table, which is written in lines with spaces between entries. -/
def entries (table : List String) : List String := table.flatMap fun line => line.splitOn " "

/-- The set of a table of ranges. -/
def decodeRanges (table : List String) : CharSet :=
  CharSet.ofRanges ((entries table).filterMap decodeRange)

/-- A table of `start:label`. -/
def decodeRuns (table : List String) : List (Nat × String) :=
  (entries table).filterMap fun entry =>
    match entry.splitOn ":" with
    | [start, label] => some (Hexadecimal.value start.toList, label)
    | _ => none

/-- The code points of the runs whose label passes a test; a run ends where the
next one starts. -/
def setOfRuns (runs : List (Nat × String)) (test : String → Bool) : CharSet :=
  let ends := (runs.drop 1).map (fun run => run.1 - 1) ++ [CharSet.top]
  CharSet.ofRanges ((runs.zip ends).filterMap fun (run, last) =>
    if test run.2 then some (run.1, last) else none)

/-- The spelling of a name that comparison goes by: ASCII only, small letters, and
no blanks, dashes or underscores; a leading `is` does not count. -/
def plainName (name : String) : String :=
  let cs := name.toList
  let (hasIs, body) := match cs with
    | a :: b :: rest => if a.toLower = 'i' ∧ b.toLower = 's' then (true, rest) else (false, cs)
    | _ => (false, cs)
  let kept := (body.filter fun c =>
    c.toNat ≤ 0x7F && c != ' ' && c != '_' && c != '-').map Char.toLower
  if hasIs && kept = ['c'] then "isc" else String.ofList kept

end SexprQuery.Unicode
