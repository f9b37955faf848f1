import SexprQuery.Binary64.Basic
import SexprQuery.Text.Decimal

/-!
# Floating-point numbers as text

Reading takes an optional sign, digits with an optional point, and an optional
exponent; the words `nan`, `inf` and `infinity` are read in any case.

Writing uses the fewest digits that read back, and of several such numerals the
one nearest to the number. The two written forms differ in layout only:
`debugChars` always shows a point or an exponent, `plainChars` never an
exponent.
-/

namespace SexprQuery.Binary64

-- powers are those of the core library, also beside a library with others
attribute [local instance (2000)] instPowNat

open Decimal

/-! ## Reading -/

/-- The exponent part: nothing, or `e` with an optional sign and digits. -/
def exponent? : List Char → Option Int
  | [] => some 0
  | c :: cs => if c == 'e' || c == 'E' then integer? cs else none

/-- A numeral without a sign. At least one digit stands before or after the
point. -/
def unsigned? (negative : Bool) (cs : List Char) : Option Binary64 :=
  let whole := cs.takeWhile isDigit
  let rest := cs.dropWhile isDigit
  let (fraction, rest) := match rest with
    | '.' :: r => (r.takeWhile isDigit, r.dropWhile isDigit)
    | r => ([], r)
  if whole.isEmpty && fraction.isEmpty then none
  else (exponent? rest).map fun e =>
    ofDecimal negative (value (whole ++ fraction)) (e - fraction.length)

/-- The words for what is not finite, in any case. -/
def special? (negative : Bool) (cs : List Char) : Option Binary64 :=
  let word := cs.map Char.toLower
  if word = ['n', 'a', 'n'] then some .nan
  else if word = ['i', 'n', 'f'] ∨ word = "infinity".toList then some (.infinite negative)
  else none

/-- Read a number. -/
def parse? (cs : List Char) : Option Binary64 :=
  let (negative, body) := splitSign cs
  match unsigned? negative body with
  | some x => some x
  | none => special? negative body

/-! ## The fewest digits -/

/-- The number of places before the point of `num / 2 ^ 1074`, not positive when
the first digit stands behind the point. Zero is not asked for. -/
def places (num : Nat) : Int :=
  (digitCount (num * 10 ^ (400 : Nat) / 2 ^ (1074 : Nat)) : Int) - 400

/-- The two neighbours of `± num / 2 ^ 1074` on the grid of `10 ^ exponent`, as the
lower coefficient and whether the upper one is at least as near. -/
def gridNeighbour (num : Nat) (exponent : Int) : Nat × Bool :=
  let (n, d) := if 0 ≤ exponent then (num, 2 ^ (1074 : Nat) * 10 ^ exponent.toNat)
    else (num * 10 ^ (-exponent).toNat, 2 ^ (1074 : Nat))
  (n / d, decide (d ≤ 2 * (n % d)))

/-- A numeral for `x` on the grid of `10 ^ exponent` that reads back, the nearer of
two. -/
def onGrid? (x : Finite64) (exponent : Int) : Option (Nat × Int) :=
  let (lower, upperNear) := gridNeighbour (x.mantissa * 2 ^ x.scale) exponent
  let readsBack (c : Nat) : Bool := decide (ofDecimal x.negative c exponent = .finite x)
  let (first, second) := if upperNear then (lower + 1, lower) else (lower, lower + 1)
  if readsBack first then some (first, exponent)
  else if readsBack second then some (second, exponent)
  else none

/-- Coefficient and exponent of the shortest numeral for `x`. Seventeen digits
always suffice; the exact expansion stands in the place of a proof of that. -/
def shortest (x : Finite64) : Nat × Int :=
  if x.mantissa = 0 then (0, 0) else
    let num := x.mantissa * 2 ^ x.scale
    let top := places num
    ((List.range 17).findSome? fun i => onGrid? x (top - (i + 1 : Nat))).getD
      (num * 5 ^ (1074 : Nat), -1074)

/-- Drop trailing zeros of a coefficient into the exponent. -/
def dropZeros (ds : List Char) (exponent : Int) : List Char × Int :=
  let kept := (ds.reverse.dropWhile (· == '0')).reverse
  (kept, exponent + (ds.length - kept.length : Nat))

/-! ## Layout -/

/-- The significant digits of a finite number and where the point stands
relative to the first of them. -/
def significant (x : Finite64) : List Char × Int :=
  let (coefficient, exponent) := shortest x
  let (ds, e) := dropZeros (digits coefficient) exponent
  (ds, ds.length + e)

/-- Digits with the point after the first `point` of them, zeros filled in;
`whole` follows a numeral that has no fraction. -/
def positional (ds : List Char) (point : Int) (whole : List Char) : List Char :=
  if point ≤ 0 then '0' :: '.' :: (List.replicate (-point).toNat '0' ++ ds)
  else
    let p := point.toNat
    if ds.length ≤ p then ds ++ List.replicate (p - ds.length) '0' ++ whole
    else ds.take p ++ '.' :: ds.drop p

/-- One digit, the others behind a point, and the exponent of ten. -/
def scientific (ds : List Char) (point : Int) : List Char :=
  let fraction := match ds.drop 1 with
    | [] => []
    | r => '.' :: r
  ds.take 1 ++ fraction ++ 'e' :: signedDigits (point - 1)

/-- Digits are positional from `0.0001` up to below `10 ^ 16`. -/
def isPositional (point : Int) : Bool := decide (-3 ≤ point ∧ point ≤ 16)

/-- The sign of a number, where it is negative. -/
def signChars (negative : Bool) : List Char := if negative then ['-'] else []

/-- The form that always reads back as a number: a point or an exponent is
always shown. -/
def debugChars : Binary64 → List Char
  | .nan => "NaN".toList
  | .infinite negative => signChars negative ++ "inf".toList
  | .finite x =>
    let body := if x.mantissa = 0 then ['0', '.', '0'] else
      let (ds, point) := significant x
      if isPositional point then positional ds point ['.', '0'] else scientific ds point
    signChars x.negative ++ body

/-- The form without an exponent, and without a point where nothing follows it. -/
def plainChars : Binary64 → List Char
  | .nan => "NaN".toList
  | .infinite negative => signChars negative ++ "inf".toList
  | .finite x =>
    let body := if x.mantissa = 0 then ['0'] else
      let (ds, point) := significant x
      positional ds point []
    signChars x.negative ++ body

end SexprQuery.Binary64
