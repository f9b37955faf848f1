import SexprQuery.Pattern.Basic

/-!
# Shapes and siblings by position

`Pattern.fits` takes the elements of a shape and the slots of a list off together, and
`Pattern.hasPair` looks behind one slot after the other. Both questions can be put to
positions instead:

* `fitsByCount` reads off the last element how many slots a shape asks for, and pairs
  the other elements with the slots in front;
* `pairByPositions?` lists the positions of either side and compares their differences
  with the gap. A difference of positions is unsigned, so there is none where the
  second stands before the first (`distance?`), and a test that asked for such a one
  would have no answer.
-/

namespace SexprQuery.Pattern

/-! ## Shapes -/

/-- True if the last element takes all slots that are left. -/
def isOpenEnded (elements : List Pattern) : Bool :=
  match elements.getLast? with
  | some .remaining => true
  | _ => false

/-- Elements against slots, as long as there are both. -/
def pairsUp (elements : List Pattern) (slots : List Datum) : Bool :=
  (elements.zip slots).all fun pair => pair.1.satisfies pair.2

/-- The elements of a shape against the slots of a list: first how many there are, then
pair by pair. -/
def fitsByCount (elements : List Pattern) (slots : List Datum) : Bool :=
  let isOpen := isOpenEnded elements
  let fixed := if isOpen then elements.length - 1 else elements.length
  let rightCount := if isOpen then decide (fixed ≤ slots.length) else slots.length == fixed
  rightCount && pairsUp (elements.take fixed) slots

/-! ## Siblings -/

/-- The positions of the slots that pass a test. -/
def positions (test : Datum → Bool) (slots : List Datum) : List Nat :=
  (slots.zipIdx.filter fun slot => test slot.1).map Prod.snd

/-- The way from position `i` to position `j`, as an unsigned difference. -/
def distance? (i j : Nat) : Option Nat :=
  if i ≤ j then some (j - i) else none

/-- True if `j` stands behind `i`, at least `gap` places away. The difference is formed
only where it is known to exist. -/
def isBehind? (gap i j : Nat) : Option Bool :=
  if i < j then (distance? i j).map fun distance => decide (gap ≤ distance) else some false

/-- A pair of slots as `hasPair` looks for it, by the positions of both sides. Where no
slot passes the first test, the second is not tried. -/
def pairByPositions? (first second : Datum → Bool) (gap : Nat) (slots : List Datum) :
    Option Bool :=
  let firsts := positions first slots
  if firsts.isEmpty then some false
  else
    let seconds := positions second slots
    firsts.anyM fun i => seconds.anyM fun j => isBehind? gap i j

end SexprQuery.Pattern
