/-!
# Edit distance

The least number of insertions, deletions and substitutions of single
characters that turn one word into another, computed row by row: the row of `cs`
lists the distances from `cs` to every part of the other word that starts at its
front.
-/

namespace SexprQuery.EditDistance

/-- The rest of the next row. `left` is the entry before, `diagonal` the one above
that. -/
def nextEntries (c : Char) (left diagonal : Nat) : List Char → List Nat → List Nat
  | d :: ds, up :: above =>
    let entry := min (min (left + 1) (up + 1)) (diagonal + if c = d then 0 else 1)
    entry :: nextEntries c entry up ds above
  | _, _ => []

/-- The row behind one more character. -/
def nextRow (target : List Char) (row : List Nat) (c : Char) : List Nat :=
  match row with
  | [] => []
  | first :: above => (first + 1) :: nextEntries c (first + 1) first target above

/-- The edit distance of two words. -/
def distance (source target : List Char) : Nat :=
  ((source.foldl (nextRow target) (List.range (target.length + 1))).getLast?).getD 0

end SexprQuery.EditDistance
