import SexprQuery.Toml.Value
import SexprQuery.Binary64.Text
import SexprQuery.Text.Hexadecimal

/-!
# Unquoted values of a rule file

Booleans, integers of 64 bits with sign, floating-point numbers, and dates and
times. Digits may be grouped by single underscores; decimal numbers have no
leading zeros.
-/

namespace SexprQuery.Toml

open Decimal

/-- The digits of a number without the underscores between them; `behindDigit` says
that one may follow. -/
def ungroup? (isDigit : Char → Bool) (behindDigit : Bool) : List Char → Option (List Char)
  | [] => if behindDigit then some [] else none
  | c :: cs =>
    if isDigit c then (ungroup? isDigit true cs).map (c :: ·)
    else if c = '_' ∧ behindDigit = true then ungroup? isDigit false cs
    else none

/-- Decimal digits without a leading zero. -/
def wholeDigits? (cs : List Char) : Option (List Char) :=
  match ungroup? isDigit false cs with
  | some ('0' :: _ :: _) => none
  | found => found

/-- An integer that fits in 64 bits with sign. -/
def fits? (n : Int) : Option Int :=
  if Int64.minValue.toInt ≤ n ∧ n ≤ Int64.maxValue.toInt then some n else none

/-- A digit of a base up to sixteen. -/
def isBaseDigit (base : Nat) (c : Char) : Bool :=
  Hexadecimal.isDigit c && Hexadecimal.digitValue c < base

/-- Digits of a base, as an integer. -/
def based? (base : Nat) (cs : List Char) : Option Int := do
  let ds ← ungroup? (isBaseDigit base) false cs
  fits? (ds.foldl (fun n c => base * n + Hexadecimal.digitValue c) 0 : Nat)

/-- An integer. -/
def integer? : List Char → Option Int
  | '0' :: 'x' :: cs => based? 16 cs
  | '0' :: 'o' :: cs => based? 8 cs
  | '0' :: 'b' :: cs => based? 2 cs
  | cs => do
    let (negative, body) := splitSign cs
    let n := value (← wholeDigits? body)
    fits? (if negative then -(n : Int) else n)

/-- True for a floating-point number: one of the words, or digits with a fraction or
an exponent, not past the largest finite number. -/
def isFloat (cs : List Char) : Bool :=
  let (negative, body) := splitSign cs
  let isMark (c : Char) : Bool := c == 'e' || c == 'E'
  let whole := body.takeWhile fun c => c != '.' && !isMark c
  let rest := body.dropWhile fun c => c != '.' && !isMark c
  let (fraction, rest) := match rest with
    | '.' :: r => (some (r.takeWhile fun c => !isMark c), r.dropWhile fun c => !isMark c)
    | r => (none, r)
  let exponent := (rest.drop 1)
  let grouped (ds : List Char) : Bool := (ungroup? isDigit false ds).isSome
  let wellFormed := (wholeDigits? whole).isSome && fraction.all grouped &&
    (rest.isEmpty || grouped (splitSign exponent).2) && (fraction.isSome || !rest.isEmpty)
  let finite := match Binary64.unsigned? negative (body.filter (· != '_')) with
    | some (.finite _) => true
    | _ => false
  body = ['i', 'n', 'f'] || body = ['n', 'a', 'n'] || (wellFormed && finite)

/-! ## Dates and times -/

/-- The number of exactly this many digits, and what is behind them. -/
def fixedDigits? (count : Nat) (cs : List Char) : Option (Nat × List Char) :=
  let ds := cs.take count
  if ds.length = count ∧ ds.all isDigit then some (value ds, cs.drop count) else none

/-- The number of days in a month. -/
def daysInMonth (year month : Nat) : Nat :=
  if month = 2 then
    if year % 4 = 0 ∧ (year % 100 ≠ 0 ∨ year % 400 = 0) then 29 else 28
  else if month = 4 ∨ month = 6 ∨ month = 9 ∨ month = 11 then 30
  else 31

/-- What is behind a character. -/
def behind? (c : Char) : List Char → Option (List Char)
  | d :: rest => if c = d then some rest else none
  | [] => none

/-- What is behind a date. -/
def date? (cs : List Char) : Option (List Char) := do
  let (year, cs) ← fixedDigits? 4 cs
  let (month, cs) ← fixedDigits? 2 (← behind? '-' cs)
  let (day, cs) ← fixedDigits? 2 (← behind? '-' cs)
  if 1 ≤ month ∧ month ≤ 12 ∧ 1 ≤ day ∧ day ≤ daysInMonth year month then some cs
  else none

/-- What is behind a time of day. Seconds may be left out. -/
def time? (cs : List Char) : Option (List Char) := do
  let (hour, cs) ← fixedDigits? 2 cs
  let (minute, cs) ← fixedDigits? 2 (← behind? ':' cs)
  if 23 < hour ∨ 59 < minute then none
  else
    match cs with
    | ':' :: rest => do
      let (second, rest) ← fixedDigits? 2 rest
      if 60 < second then none
      else
        match rest with
        | '.' :: fraction =>
          if (fraction.takeWhile isDigit).isEmpty then none
          else some (fraction.dropWhile isDigit)
        | _ => some rest
    | _ => some cs

/-- True for an offset from universal time, or for none. -/
def isOffset : List Char → Bool
  | [] | ['Z'] | ['z'] => true
  | sign :: cs =>
    (sign == '+' || sign == '-') &&
      match fixedDigits? 2 cs with
      | some (hour, ':' :: rest) =>
        match fixedDigits? 2 rest with
        | some (minute, []) => hour ≤ 23 && minute ≤ 59
        | _ => false
      | _ => false

/-- True for a date, a time, or both. -/
def isDateTime (cs : List Char) : Bool :=
  match date? cs with
  | some [] => true
  | some (c :: rest) =>
    (c == 'T' || c == 't' || c == ' ') && (time? rest).any isOffset
  | none => time? cs == some []

/-- The value that an unquoted text spells. -/
def scalar? (cs : List Char) : Option Toml :=
  if cs = "true".toList then some (.boolean true)
  else if cs = "false".toList then some (.boolean false)
  else
    match integer? cs with
    | some n => some (.integer n)
    | none =>
      if isFloat cs then some .float else if isDateTime cs then some .dateTime else none

end SexprQuery.Toml
