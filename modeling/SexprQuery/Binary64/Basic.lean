/-!
# Binary floating point of 64 bits

Numbers are held exactly: a finite one is `± mantissa · 2 ^ (scale - 1074)`
with a mantissa of at most 53 bits, and the proof fields make that form
unique. Nothing here uses machine floating point, so every statement about
these numbers is a statement about natural numbers.

* `ofRatio` rounds an exact quotient to the nearest number, ties to even.
* `ofDecimal` rounds `coefficient · 10 ^ exponent`.
* `==` compares as numbers: the two zeros are equal, and no NaN equals itself.
-/

namespace SexprQuery

-- powers are those of the core library, also beside a library with others
attribute [local instance (2000)] instPowNat

/-- A finite number `± mantissa · 2 ^ (scale - 1074)` in its unique form. -/
structure Finite64 where
  /-- The sign; zero has one too. -/
  negative : Bool
  mantissa : Nat
  scale : Nat
  mantissa_lt : mantissa < 2 ^ (53 : Nat)
  scale_le : scale ≤ 2045
  /-- Small numbers have scale 0; all others use the full mantissa. -/
  normal : scale = 0 ∨ 2 ^ (52 : Nat) ≤ mantissa
deriving DecidableEq

/-- A 64-bit floating-point number. -/
inductive Binary64 where
  | nan
  | infinite (negative : Bool)
  | finite (x : Finite64)
deriving DecidableEq

namespace Binary64

/-- Zero with a sign. -/
def zero (negative : Bool) : Binary64 :=
  .finite ⟨negative, 0, 0, by decide, by decide, Or.inl rfl⟩

/-- Equality as numbers. -/
protected def beq : Binary64 → Binary64 → Bool
  | .infinite a, .infinite b => a == b
  | .finite x, .finite y => x == y || (x.mantissa == 0 && y.mantissa == 0)
  | _, _ => false

instance : BEq Binary64 := ⟨Binary64.beq⟩

/-! ## Rounding -/

/-- The quotient rounded to the nearest integer, a half to the even one. -/
def roundDiv (num den : Nat) : Nat :=
  let q := num / den
  let r := num % den
  if den < 2 * r ∨ (den = 2 * r ∧ q % 2 = 1) then q + 1 else q

/-- The number with these parts. Parts that no finite number has are too
large for one, so they stand for an infinity. -/
def ofParts (negative : Bool) (mantissa scale : Nat) : Binary64 :=
  if h : mantissa < 2 ^ (53 : Nat) ∧ scale ≤ 2045 ∧ (scale = 0 ∨ 2 ^ (52 : Nat) ≤ mantissa) then
    .finite ⟨negative, mantissa, scale, h.1, h.2.1, h.2.2⟩
  else .infinite negative

/-- The number nearest to `± num / den`, ties to even. -/
def ofRatio (negative : Bool) (num den : Nat) : Binary64 :=
  let scaled := num * 2 ^ (1074 : Nat)
  let scale := Nat.log2 (scaled / den) - 52
  let mantissa := roundDiv scaled (den * 2 ^ scale)
  if mantissa = 2 ^ (53 : Nat) then ofParts negative (2 ^ (52 : Nat)) (scale + 1)
  else ofParts negative mantissa scale

/-- The count of decimal digits of `n`; one for zero. -/
def digitCount (n : Nat) : Nat :=
  if n < 10 then 1 else digitCount (n / 10) + 1
termination_by n
decreasing_by omega

/-- The number nearest to `± coefficient · 10 ^ exponent`. A value of more than
310 places before the point is past every finite number, and one whose first
digit stands behind the 330th place is nearer to zero than to any other. -/
def ofDecimal (negative : Bool) (coefficient : Nat) (exponent : Int) : Binary64 :=
  let places := (digitCount coefficient : Int) + exponent
  if coefficient = 0 ∨ places < -330 then zero negative
  else if 310 < places then .infinite negative
  else if 0 ≤ exponent then ofRatio negative (coefficient * 10 ^ exponent.toNat) 1
  else ofRatio negative coefficient (10 ^ (-exponent).toNat)

end Binary64
end SexprQuery
