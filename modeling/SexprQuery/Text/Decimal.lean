/-!
# Decimal numerals

Natural numbers and integers as text. A numeral is written with the fewest
digits; reading accepts leading zeros. `value_digits` says that a written
numeral reads back.
-/

namespace SexprQuery.Decimal

/-- An ASCII digit. -/
def isDigit (c : Char) : Bool := '0' ≤ c && c ≤ '9'

/-- The character of the digit `d < 10`. -/
def digitChar (d : Nat) : Char := Char.ofNat (48 + d)

/-- The number a digit stands for. -/
def digitValue (c : Char) : Nat := c.toNat - 48

/-- The numeral of `n`, most significant digit first. -/
def digits (n : Nat) : List Char :=
  if n < 10 then [digitChar n] else digits (n / 10) ++ [digitChar (n % 10)]
termination_by n
decreasing_by omega

/-- The number that a row of digits stands for. -/
def value (cs : List Char) : Nat := cs.foldl (fun n c => 10 * n + digitValue c) 0

/-- The numeral of `n` as a string. -/
def text (n : Nat) : String := String.ofList (digits n)

/-- An integer: a minus sign where it is negative, then its digits. -/
def signedDigits (n : Int) : List Char :=
  if n < 0 then '-' :: digits n.natAbs else digits n.natAbs

/-- Split off one leading sign; the flag says whether it was a minus. -/
def splitSign : List Char → Bool × List Char
  | '-' :: cs => (true, cs)
  | '+' :: cs => (false, cs)
  | cs => (false, cs)

/-- Read an optional sign followed by digits only, at least one of them. -/
def integer? (cs : List Char) : Option Int :=
  let (negative, ds) := splitSign cs
  if ds.isEmpty || !ds.all isDigit then none
  else if negative then some (-(value ds : Int)) else some (value ds : Int)

/-- Read an integer that fits in 64 bits with sign. -/
def int64? (cs : List Char) : Option Int64 :=
  match integer? cs with
  | some n => if Int64.minValue.toInt ≤ n ∧ n ≤ Int64.maxValue.toInt then some (Int64.ofInt n) else none
  | none => none

/-! ## Written numerals read back -/

theorem digitValue_digitChar {d : Nat} (h : d < 10) : digitValue (digitChar d) = d := by
  have : ∀ d : Fin 10, digitValue (digitChar d) = d := by decide
  exact this ⟨d, h⟩

theorem isDigit_digitChar {d : Nat} (h : d < 10) : isDigit (digitChar d) = true := by
  have : ∀ d : Fin 10, isDigit (digitChar d) = true := by decide
  exact this ⟨d, h⟩

theorem digits_ne_nil (n : Nat) : digits n ≠ [] := by
  rw [digits]; split <;> simp

theorem all_isDigit_digits (n : Nat) : (digits n).all isDigit = true := by
  induction n using Nat.strongRecOn with
  | ind n ih =>
    rw [digits]
    split
    · next h => simp [isDigit_digitChar h]
    · simp [ih (n / 10) (by omega), isDigit_digitChar (Nat.mod_lt n (by decide : 0 < 10))]

theorem value_append (cs : List Char) (c : Char) :
    value (cs ++ [c]) = 10 * value cs + digitValue c := by
  simp [value]

/-- A written numeral reads back. -/
theorem value_digits (n : Nat) : value (digits n) = n := by
  induction n using Nat.strongRecOn with
  | ind n ih =>
    rw [digits]
    split
    · next h => simp [value, digitValue_digitChar h]
    · rw [value_append, ih (n / 10) (by omega),
        digitValue_digitChar (Nat.mod_lt n (by decide : 0 < 10))]
      omega

end SexprQuery.Decimal
