import SexprQuery.Text.Decimal

/-!
# Hexadecimal numerals

Numbers and characters by hexadecimal digits. Digits are written small and read in
both cases; `digitValue_digitChar` says that a written digit reads back.
-/

namespace SexprQuery.Hexadecimal

/-- A hexadecimal digit. -/
def isDigit (c : Char) : Bool :=
  Decimal.isDigit c || ('a' ≤ c && c ≤ 'f') || ('A' ≤ c && c ≤ 'F')

/-- The character of the digit `d < 16`. -/
def digitChar (d : Nat) : Char := Char.ofNat (if d < 10 then 48 + d else 87 + d)

/-- The number a digit stands for; 0 for another character. -/
def digitValue (c : Char) : Nat :=
  if '0' ≤ c ∧ c ≤ '9' then c.toNat - 48
  else if 'a' ≤ c ∧ c ≤ 'f' then c.toNat - 87
  else if 'A' ≤ c ∧ c ≤ 'F' then c.toNat - 55
  else 0

/-- The number that a row of digits stands for. -/
def value (cs : List Char) : Nat := cs.foldl (fun n c => 16 * n + digitValue c) 0

/-- The character whose code point a row of digits stands for. Surrogates and numbers
past the last code point are no characters. -/
def character? (cs : List Char) : Option Char :=
  let n := value cs
  if n ≤ 0x10FFFF ∧ ¬(0xD800 ≤ n ∧ n ≤ 0xDFFF) then some (Char.ofNat n) else none

/-- A written digit reads back. -/
theorem digitValue_digitChar {d : Nat} (h : d < 16) : digitValue (digitChar d) = d := by
  have : ∀ d : Fin 16, digitValue (digitChar d) = d := by decide
  exact this ⟨d, h⟩

end SexprQuery.Hexadecimal
