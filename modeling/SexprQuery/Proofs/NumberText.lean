import SexprQuery.Datum.Word
import SexprQuery.Proofs.Rounding

/-!
# Numbers as words

A written number is one word, and the word reads back as the number: an integer as
an integer (`number?_signedDigits`), a finite floating-point number as that number
with its sign and all (`number?_debugChars`). The second one holds for both layouts,
since each of them spells the significant digits and the place of the point.
-/

namespace SexprQuery

-- powers are those of the core library, also beside a library with others
attribute [local instance (2000)] instPowNat

namespace Decimal

/-! ## Digits -/

theorem isDigit_of_mem_digits {n : Nat} {c : Char} (h : c ∈ digits n) : isDigit c = true :=
  List.all_eq_true.mp (all_isDigit_digits n) c h

theorem value_foldl (cs : List Char) (n : Nat) :
    cs.foldl (fun n c => 10 * n + digitValue c) n = n * 10 ^ cs.length + value cs := by
  induction cs generalizing n with
  | nil => simp [value]
  | cons c cs ih =>
    have hrest : value (c :: cs) = digitValue c * 10 ^ cs.length + value cs := by
      show cs.foldl (fun n c => 10 * n + digitValue c) (10 * 0 + digitValue c) = _
      rw [ih, Nat.mul_zero, Nat.zero_add]
    rw [List.foldl_cons, ih, hrest, List.length_cons, Nat.pow_succ, Nat.add_mul]
    have : 10 * n * 10 ^ cs.length = n * (10 ^ cs.length * 10) := by
      rw [Nat.mul_comm 10 n, Nat.mul_assoc, Nat.mul_comm 10]
    omega

/-- The value of digits in two parts. -/
theorem value_append_list (as bs : List Char) :
    value (as ++ bs) = value as * 10 ^ bs.length + value bs := by
  rw [value, List.foldl_append]
  exact value_foldl bs (value as)

theorem value_replicate_zero (k : Nat) : value (List.replicate k '0') = 0 := by
  induction k with
  | zero => rfl
  | succ k ih =>
    rw [List.replicate_succ', value_append, ih]
    rfl

/-- Zeros in front do not count. -/
theorem value_zeros_append (k : Nat) (ds : List Char) :
    value (List.replicate k '0' ++ ds) = value ds := by
  rw [value_append_list, value_replicate_zero, Nat.zero_mul, Nat.zero_add]

/-- Zeros at the end are powers of ten. -/
theorem value_append_zeros (ds : List Char) (k : Nat) :
    value (ds ++ List.replicate k '0') = value ds * 10 ^ k := by
  rw [value_append_list, value_replicate_zero, List.length_replicate, Nat.add_zero]

theorem isDigit_of_mem_zeros {k : Nat} {c : Char} (h : c ∈ List.replicate k '0') :
    isDigit c = true := by
  rw [List.eq_of_mem_replicate h]
  rfl

/-! ## Signs and integers -/

/-- A digit is no sign. -/
theorem splitSign_of_digit {c : Char} (h : isDigit c = true) (cs : List Char) :
    splitSign (c :: cs) = (false, c :: cs) := by
  unfold splitSign
  split
  · next heq => cases heq; cases h
  · next heq => cases heq; cases h
  · rfl

theorem exists_cons_digits (n : Nat) : ∃ c cs, digits n = c :: cs ∧ isDigit c = true := by
  match h : digits n with
  | [] => exact absurd h (digits_ne_nil n)
  | c :: cs =>
    refine ⟨c, cs, rfl, isDigit_of_mem_digits (n := n) ?_⟩
    rw [h]
    exact List.mem_cons_self

theorem splitSign_digits (n : Nat) : splitSign (digits n) = (false, digits n) := by
  obtain ⟨c, cs, h, hc⟩ := exists_cons_digits n
  rw [h, splitSign_of_digit hc]

theorem signedDigits_natCast (n : Nat) : signedDigits n = digits n := by
  rw [signedDigits, if_neg (by omega), Int.natAbs_natCast]

/-- An integer is written with digits and perhaps a sign. -/
theorem forall_mem_signedDigits {P : Char → Prop} (hdigit : ∀ c, isDigit c = true → P c)
    (hsign : P '-') (n : Int) : ∀ c ∈ signedDigits n, P c := by
  intro c hc
  rw [signedDigits] at hc
  split at hc
  · rcases List.mem_cons.mp hc with rfl | hc
    · exact hsign
    · exact hdigit c (isDigit_of_mem_digits hc)
  · exact hdigit c (isDigit_of_mem_digits hc)

theorem splitSign_signedDigits (n : Int) :
    splitSign (signedDigits n) = (decide (n < 0), digits n.natAbs) := by
  rw [signedDigits]
  by_cases hn : n < 0
  · rw [if_pos hn, decide_eq_true hn]
    rfl
  · rw [if_neg hn, decide_eq_false hn, splitSign_digits]

/-- A written integer reads back. -/
theorem integer?_signedDigits (n : Int) : integer? (signedDigits n) = some n := by
  have hempty : (digits n.natAbs).isEmpty = false :=
    Bool.eq_false_iff.mpr fun h => digits_ne_nil _ (List.isEmpty_iff.mp h)
  simp only [integer?, splitSign_signedDigits, hempty, all_isDigit_digits, value_digits,
    Bool.not_true, Bool.or_false, Bool.false_eq_true, if_false]
  by_cases hn : n < 0
  · rw [if_pos (decide_eq_true hn)]
    exact congrArg some (by omega)
  · rw [if_neg (by simp [hn])]
    exact congrArg some (by omega)

theorem int64?_signedDigits (n : Int64) : int64? (signedDigits n.toInt) = some n := by
  rw [int64?, integer?_signedDigits]
  dsimp only
  rw [if_pos ⟨n.minValue_le_toInt, n.toInt_le⟩, Int64.ofInt_toInt]

end Decimal

open Decimal

theorem looksNumeric_of_digit {cs : List Char} {negative : Bool} {c : Char} {rest : List Char}
    (h : splitSign cs = (negative, c :: rest)) (hc : isDigit c = true) :
    looksNumeric cs = true := by
  rw [looksNumeric, h]
  simp [hc]

/-- A written integer is a word for it. -/
theorem Datum.number?_signedDigits (n : Int64) :
    number? (signedDigits n.toInt) = some (.int n) := by
  obtain ⟨c, cs, h, hc⟩ := exists_cons_digits n.toInt.natAbs
  have hsplit := splitSign_signedDigits n.toInt
  rw [h] at hsplit
  rw [number?, if_pos (looksNumeric_of_digit hsplit hc), int64?_signedDigits]

namespace Binary64

/-! ## Reading a numeral -/

/-- Digits end where something else stands. -/
theorem takeWhile_digits {ds rest : List Char} (hds : ∀ c ∈ ds, isDigit c = true)
    (hrest : ∀ c ∈ rest.head?, isDigit c = false) :
    (ds ++ rest).takeWhile isDigit = ds ∧ (ds ++ rest).dropWhile isDigit = rest := by
  rw [List.takeWhile_append_of_pos hds, List.dropWhile_append_of_pos hds]
  cases rest with
  | nil => exact ⟨List.append_nil ds, rfl⟩
  | cons c rest => simp [hrest c rfl]

/-- A numeral with a point. -/
theorem unsigned?_point (negative : Bool) (whole fraction rest : List Char)
    (hw : ∀ c ∈ whole, isDigit c = true) (hf : ∀ c ∈ fraction, isDigit c = true)
    (hne : whole ≠ []) (hrest : ∀ c ∈ rest.head?, isDigit c = false) :
    unsigned? negative (whole ++ '.' :: (fraction ++ rest)) =
      (exponent? rest).map fun e =>
        ofDecimal negative (value (whole ++ fraction)) (e - fraction.length) := by
  have hpoint : ∀ c ∈ ('.' :: (fraction ++ rest)).head?, isDigit c = false := by
    intro c hc
    cases hc
    rfl
  obtain ⟨htake, hdrop⟩ := takeWhile_digits hw hpoint
  obtain ⟨htake', hdrop'⟩ := takeWhile_digits hf hrest
  simp only [unsigned?, htake, hdrop, htake', hdrop']
  rw [if_neg (by simp [hne])]

/-- A numeral without one. -/
theorem unsigned?_whole (negative : Bool) (whole rest : List Char)
    (hw : ∀ c ∈ whole, isDigit c = true) (hne : whole ≠ [])
    (hrest : ∀ c ∈ rest.head?, isDigit c = false ∧ c ≠ '.') :
    unsigned? negative (whole ++ rest) =
      (exponent? rest).map fun e => ofDecimal negative (value whole) e := by
  obtain ⟨htake, hdrop⟩ := takeWhile_digits hw fun c hc => (hrest c hc).1
  simp only [unsigned?, htake, hdrop]
  cases rest with
  | nil =>
    rw [if_neg (by simp [hne])]
    simp
  | cons c rest =>
    split
    · next hparts =>
      cases hparts
      exact absurd rfl (hrest '.' rfl).2
    · rw [if_neg (by simp [hne])]
      simp

theorem exponent?_signedDigits (n : Int) : exponent? ('e' :: signedDigits n) = some n := by
  rw [exponent?, integer?_signedDigits]
  rfl

/-! ## The significant digits -/

/-- A text without its trailing zeros, and those zeros. -/
theorem trailing_zeros (ds : List Char) :
    ds = (ds.reverse.dropWhile (· == '0')).reverse ++
      List.replicate (ds.reverse.takeWhile (· == '0')).length '0' := by
  have hzeros : ∀ c ∈ ds.reverse.takeWhile (· == '0'), c = '0' := fun c hc =>
    eq_of_beq (List.all_eq_true.mp List.all_takeWhile c hc)
  have hsplit := List.takeWhile_append_dropWhile (p := (· == '0')) (l := ds.reverse)
  calc ds = ds.reverse.reverse := (List.reverse_reverse ds).symm
    _ = (ds.reverse.takeWhile (· == '0') ++ ds.reverse.dropWhile (· == '0')).reverse := by
      rw [hsplit]
    _ = _ := by
      rw [List.reverse_append, List.eq_replicate_of_mem hzeros, List.reverse_replicate,
        List.length_replicate]

/-- Dropping zeros moves powers of ten into the exponent. -/
theorem dropZeros_spec (ds : List Char) (e : Int) :
    ∃ k : Nat, ds = (dropZeros ds e).1 ++ List.replicate k '0' ∧ (dropZeros ds e).2 = e + k := by
  have hds := trailing_zeros ds
  generalize hkept : (ds.reverse.dropWhile (· == '0')).reverse = kept at hds
  generalize (ds.reverse.takeWhile (· == '0')).length = k at hds
  have hlength : ds.length = kept.length + k := by
    rw [congrArg List.length hds, List.length_append, List.length_replicate]
  refine ⟨k, ?_, ?_⟩
  · rw [dropZeros, hkept]
    exact hds
  · rw [dropZeros, hkept]
    show e + ((ds.length - kept.length : Nat) : Int) = e + k
    omega

/-- What is known of the significant digits of a number: at least one, and with the point
in its place they read back. -/
structure IsSignificant (x : Finite64) (ds : List Char) (point : Int) : Prop where
  digit : ∀ c ∈ ds, isDigit c = true
  ne_nil : ds ≠ []
  reads : ofDecimal x.negative (value ds) (point - ds.length) = .finite x

theorem significant_spec {x : Finite64} (h : x.mantissa ≠ 0) :
    IsSignificant x (significant x).1 (significant x).2 := by
  have hshortest := ofDecimal_shortest h
  obtain ⟨k, hds, he⟩ := dropZeros_spec (digits (shortest x).1) (shortest x).2
  have hsig : significant x = ((dropZeros (digits (shortest x).1) (shortest x).2).1,
      (dropZeros (digits (shortest x).1) (shortest x).2).1.length +
        (dropZeros (digits (shortest x).1) (shortest x).2).2) := rfl
  rw [hsig]
  generalize (dropZeros (digits (shortest x).1) (shortest x).2).1 = ds at hds
  generalize (dropZeros (digits (shortest x).1) (shortest x).2).2 = e at he
  dsimp only
  -- the coefficient is what is left of its digits, times the powers of ten that went
  have hvalue : (shortest x).1 = value ds * 10 ^ k := by
    rw [← value_append_zeros, ← hds, value_digits]
  have hreads : ofDecimal x.negative (value ds) e = .finite x := by
    rw [he, ← ofDecimal_mul_pow, ← hvalue, hshortest]
  refine ⟨?_, ?_, ?_⟩
  · intro c hc
    refine isDigit_of_mem_digits (n := (shortest x).1) ?_
    rw [hds]
    exact List.mem_append_left _ hc
  · rintro rfl
    have hzero : ofDecimal x.negative (value []) e = zero x.negative := by
      simp [ofDecimal, value]
    rw [hzero, zero] at hreads
    injection hreads with hx
    exact h (congrArg Finite64.mantissa hx).symm
  · have hexp : (ds.length : Int) + e - ds.length = e := by omega
    rw [hexp, hreads]

/-! ## Layout -/

theorem splitSign_signChars {c : Char} (h : isDigit c = true) (negative : Bool)
    (cs : List Char) :
    splitSign (signChars negative ++ c :: cs) = (negative, c :: cs) := by
  cases negative with
  | true => rfl
  | false => exact splitSign_of_digit h cs

/-- What is written behind the sign of a number: it starts with a digit, shows a point or
an exponent, and reads as that number. -/
structure IsBody (negative : Bool) (body : List Char) (x : Binary64) : Prop where
  head : ∃ c cs, body = c :: cs ∧ isDigit c = true
  shown : '.' ∈ body ∨ 'e' ∈ body
  plain : ∀ c ∈ body, isDigit c = true ∨ c = '.' ∨ c = 'e' ∨ c = '-'
  reads : unsigned? negative body = some x

theorem exists_cons_of_digits {ds : List Char} (hds : ∀ c ∈ ds, isDigit c = true) (hne : ds ≠ [])
    (rest : List Char) : ∃ c cs, ds ++ rest = c :: cs ∧ isDigit c = true := by
  cases ds with
  | nil => exact absurd rfl hne
  | cons c ds => exact ⟨c, ds ++ rest, rfl, hds c List.mem_cons_self⟩

theorem plain_exponent (e : Int) :
    ∀ c ∈ 'e' :: signedDigits e, isDigit c = true ∨ c = '.' ∨ c = 'e' ∨ c = '-' := by
  intro c hc
  rcases List.mem_cons.mp hc with rfl | hc
  · exact .inr (.inr (.inl rfl))
  · have hplain : ∀ c ∈ signedDigits e, isDigit c = true ∨ c = '.' ∨ c = 'e' ∨ c = '-' := by
      apply forall_mem_signedDigits
      · exact fun c => .inl
      · exact .inr (.inr (.inr rfl))
    exact hplain c hc

/-- A point among digits, and nothing behind. -/
theorem isBody_point (negative : Bool) (whole fraction : List Char) {x : Binary64}
    (hw : ∀ c ∈ whole, isDigit c = true) (hf : ∀ c ∈ fraction, isDigit c = true)
    (hne : whole ≠ [])
    (hx : ofDecimal negative (value (whole ++ fraction)) (0 - fraction.length) = x) :
    IsBody negative (whole ++ '.' :: fraction) x := by
  refine ⟨exists_cons_of_digits hw hne _, .inl (by simp), ?_, ?_⟩
  · intro c hc
    rcases List.mem_append.mp hc with hc | hc
    · exact .inl (hw c hc)
    · rcases List.mem_cons.mp hc with rfl | hc
      · exact .inr (.inl rfl)
      · exact .inl (hf c hc)
  · have hreads := unsigned?_point negative whole fraction [] hw hf hne (by simp)
    rw [List.append_nil] at hreads
    rw [hreads, ← hx]
    rfl

/-- A point among digits, and an exponent. -/
theorem isBody_point_exponent (negative : Bool) (whole fraction : List Char) (e : Int)
    {x : Binary64} (hw : ∀ c ∈ whole, isDigit c = true) (hf : ∀ c ∈ fraction, isDigit c = true)
    (hne : whole ≠ [])
    (hx : ofDecimal negative (value (whole ++ fraction)) (e - fraction.length) = x) :
    IsBody negative (whole ++ '.' :: (fraction ++ 'e' :: signedDigits e)) x := by
  refine ⟨exists_cons_of_digits hw hne _, .inl (by simp), ?_, ?_⟩
  · intro c hc
    rcases List.mem_append.mp hc with hc | hc
    · exact .inl (hw c hc)
    · rcases List.mem_cons.mp hc with rfl | hc
      · exact .inr (.inl rfl)
      · rcases List.mem_append.mp hc with hc | hc
        · exact .inl (hf c hc)
        · exact plain_exponent e c hc
  · rw [unsigned?_point negative whole fraction _ hw hf hne, exponent?_signedDigits, ← hx]
    · rfl
    · intro c hc
      cases hc
      rfl

/-- Digits and an exponent. -/
theorem isBody_exponent (negative : Bool) (whole : List Char) (e : Int) {x : Binary64}
    (hw : ∀ c ∈ whole, isDigit c = true) (hne : whole ≠ [])
    (hx : ofDecimal negative (value whole) e = x) :
    IsBody negative (whole ++ 'e' :: signedDigits e) x := by
  refine ⟨exists_cons_of_digits hw hne _, .inr (by simp), ?_, ?_⟩
  · intro c hc
    rcases List.mem_append.mp hc with hc | hc
    · exact .inl (hw c hc)
    · exact plain_exponent e c hc
  · rw [unsigned?_whole negative whole _ hw hne, exponent?_signedDigits, ← hx]
    · rfl
    · intro c hc
      cases hc
      exact ⟨rfl, by decide⟩

/-- The layout with a point. -/
theorem isBody_positional {x : Finite64} {ds : List Char} {point : Int}
    (h : IsSignificant x ds point) :
    IsBody x.negative (positional ds point ['.', '0']) (.finite x) := by
  rw [positional]
  by_cases hpoint : point ≤ 0
  · -- zeros stand between the point and the digits
    rw [if_pos hpoint]
    refine isBody_point x.negative ['0'] _ ?_ ?_ (List.cons_ne_nil _ _) ?_
    · simp [isDigit]
    · intro c hc
      rcases List.mem_append.mp hc with hc | hc
      · exact isDigit_of_mem_zeros hc
      · exact h.digit c hc
    · have hvalue : value (['0'] ++ (List.replicate (-point).toNat '0' ++ ds)) = value ds :=
        value_zeros_append ((-point).toNat + 1) ds
      rw [← h.reads, hvalue]
      congr 1
      simp
      omega
  rw [if_neg hpoint]
  dsimp only
  by_cases hshort : ds.length ≤ point.toNat
  · -- zeros fill up to the point, and one stands behind it
    rw [if_pos hshort]
    refine isBody_point x.negative (ds ++ List.replicate (point.toNat - ds.length) '0') ['0']
      ?_ ?_ ?_ ?_
    · intro c hc
      rcases List.mem_append.mp hc with hc | hc
      · exact h.digit c hc
      · exact isDigit_of_mem_zeros hc
    · simp [isDigit]
    · simp [h.ne_nil]
    · rw [← h.reads, List.append_assoc, ← List.replicate_succ', value_append_zeros,
        ofDecimal_mul_pow]
      congr 1
      simp
      omega
  · -- the point stands among the digits
    rw [if_neg hshort]
    refine isBody_point x.negative _ _ (fun c hc => h.digit c (List.mem_of_mem_take hc))
      (fun c hc => h.digit c (List.mem_of_mem_drop hc)) ?_ ?_
    · have hpos : 0 < (ds.take point.toNat).length := by rw [List.length_take]; omega
      exact List.ne_nil_of_length_pos hpos
    · rw [← h.reads, List.take_append_drop]
      congr 1
      simp
      omega

/-- The layout with an exponent. -/
theorem isBody_scientific {x : Finite64} {ds : List Char} {point : Int}
    (h : IsSignificant x ds point) :
    IsBody x.negative (scientific ds point) (.finite x) := by
  obtain ⟨hdigit, hne, hreads⟩ := h
  match ds, hne with
  | [d], _ =>
    refine isBody_exponent x.negative [d] _ hdigit (List.cons_ne_nil d []) ?_
    rw [← hreads]
    rfl
  | d :: f :: fs, _ =>
    have hlayout : scientific (d :: f :: fs) point =
        [d] ++ '.' :: ((f :: fs) ++ 'e' :: signedDigits (point - 1)) := by
      simp [scientific]
    rw [hlayout]
    refine isBody_point_exponent x.negative _ _ _ (fun c hc => hdigit c ?_)
      (fun c hc => hdigit c (List.mem_cons_of_mem d hc)) (List.cons_ne_nil d []) ?_
    · rw [List.mem_singleton.mp hc]
      exact List.mem_cons_self
    · rw [← hreads]
      show ofDecimal x.negative (value (d :: f :: fs)) _ = _
      congr 1
      simp
      omega

/-- A finite number is its sign and a body that reads as the number. -/
theorem exists_body (x : Finite64) :
    ∃ body, debugChars (.finite x) = signChars x.negative ++ body ∧
      IsBody x.negative body (.finite x) := by
  by_cases h : x.mantissa = 0
  · refine ⟨['0', '.', '0'], by rw [debugChars, if_pos h], ?_⟩
    have hx : zero x.negative = .finite x := by
      obtain ⟨negative, mantissa, scale, _, _, hnormal⟩ := x
      obtain rfl : mantissa = 0 := h
      obtain rfl : scale = 0 := by omega
      rfl
    refine isBody_point x.negative ['0'] ['0'] (by simp [isDigit]) (by simp [isDigit])
      (List.cons_ne_nil _ _) ?_
    rw [← hx]
    simp [ofDecimal, value, digitValue]
  · have hsig := significant_spec h
    cases hpos : isPositional (significant x).2 with
    | true => 
      refine ⟨_, ?_, isBody_positional hsig⟩
      rw [debugChars, if_neg h]
      simp only [hpos, if_true]
    | false =>
      refine ⟨_, ?_, isBody_scientific hsig⟩
      rw [debugChars, if_neg h]
      simp only [hpos, Bool.false_eq_true, if_false]

/-- A number is written with digits, a point, an exponent and a sign, or as one of two
words. -/
theorem forall_mem_debugChars {test : Char → Bool} (hdigit : ∀ c, isDigit c = true → test c = true)
    (hplain : ".e-".toList.all test = true) (hnan : "NaN".toList.all test = true)
    (hinf : "inf".toList.all test = true) (x : Binary64) : ∀ c ∈ x.debugChars, test c = true := by
  intro c hc
  have hother : test '.' = true ∧ test 'e' = true ∧ test '-' = true := by simpa using hplain
  have hsign : ∀ negative, c ∈ signChars negative → test c = true := by
    intro negative hc
    cases negative with
    | true =>
      rw [List.mem_singleton.mp hc]
      exact hother.2.2
    | false => cases hc
  cases x with
  | nan => exact List.all_eq_true.mp hnan c hc
  | infinite negative =>
    rcases List.mem_append.mp hc with hc | hc
    · exact hsign negative hc
    · exact List.all_eq_true.mp hinf c hc
  | finite x =>
    obtain ⟨body, hbody, hparts⟩ := exists_body x
    rw [hbody] at hc
    rcases List.mem_append.mp hc with hc | hc
    · exact hsign x.negative hc
    · rcases hparts.plain c hc with hc | rfl | rfl | rfl
      · exact hdigit c hc
      · exact hother.1
      · exact hother.2.1
      · exact hother.2.2

/-- Behind its sign, a written number is a body that reads as the number. -/
theorem exists_splitSign_debugChars (x : Finite64) :
    ∃ body, splitSign (debugChars (.finite x)) = (x.negative, body) ∧
      IsBody x.negative body (.finite x) := by
  obtain ⟨body, hbody, hparts⟩ := exists_body x
  obtain ⟨c, cs, hcs, hc⟩ := hparts.head
  exact ⟨body, by rw [hbody, hcs, splitSign_signChars hc], hparts⟩

/-- A point or an exponent makes it no integer. -/
theorem integer?_debugChars (x : Finite64) : integer? (debugChars (.finite x)) = none := by
  obtain ⟨body, hsplit, hparts⟩ := exists_splitSign_debugChars x
  have hall : body.all isDigit = false := by
    rw [List.all_eq_false]
    rcases hparts.shown with h | h
    · exact ⟨'.', h, by decide⟩
    · exact ⟨'e', h, by decide⟩
  rw [integer?, hsplit]
  simp [hall]

/-- A written number reads back. -/
theorem parse?_debugChars (x : Finite64) :
    parse? (debugChars (.finite x)) = some (.finite x) := by
  obtain ⟨body, hsplit, hparts⟩ := exists_splitSign_debugChars x
  rw [parse?, hsplit]
  simp only [hparts.reads]

end Binary64

/-- A written finite number is a word for it. -/
theorem Datum.number?_debugChars (x : Finite64) :
    number? (Binary64.debugChars (.finite x)) = some (.float (.finite x)) := by
  obtain ⟨body, hsplit, hparts⟩ := Binary64.exists_splitSign_debugChars x
  obtain ⟨c, cs, hcs, hc⟩ := hparts.head
  have hint : int64? (Binary64.debugChars (.finite x)) = none := by
    rw [int64?, Binary64.integer?_debugChars]
  rw [hcs] at hsplit
  rw [number?, if_pos (looksNumeric_of_digit hsplit hc), hint, Binary64.parse?_debugChars]
  rfl

/-! ## Words for atoms -/

namespace Datum

/-- A text that is a number is a word for it, since no keyword is a number. -/
theorem ofWord_of_number? {cs : List Char} {d : Datum} (h : number? cs = some d) :
    ofWord (String.ofList cs) = d := by
  have hkeyword : ∀ word : String, number? word.toList = none → String.ofList cs ≠ word := by
    rintro _ hword rfl
    rw [String.toList_ofList, h] at hword
    cases hword
  rw [ofWord, if_neg (hkeyword "nil" rfl), if_neg (hkeyword "true" rfl),
    if_neg (hkeyword "false" rfl), String.toList_ofList, h]
  rfl

/-- No number is a symbol. -/
theorem symbol?_of_number? {cs : List Char} {d : Datum} (h : number? cs = some d) :
    d.symbol? = none := by
  unfold number? at h
  split at h
  · split at h
    · cases h
      rfl
    · obtain ⟨x, _, rfl⟩ := Option.map_eq_some_iff.mp h
      rfl
  · cases h

/-- A word for a symbol is the name of the symbol. -/
theorem ofWord_eq_sym {word : String} (h : (ofWord word).symbol?.isSome = true) :
    ofWord word = .sym word := by
  rw [ofWord] at h ⊢
  by_cases hnil : word = "nil"
  · rw [if_pos hnil] at h
    cases h
  by_cases htrue : word = "true"
  · rw [if_neg hnil, if_pos htrue] at h
    cases h
  by_cases hfalse : word = "false"
  · rw [if_neg hnil, if_neg htrue, if_pos hfalse] at h
    cases h
  rw [if_neg hnil, if_neg htrue, if_neg hfalse] at h ⊢
  cases hnumber : number? word.toList with
  | none => rfl
  | some d =>
    rw [hnumber, Option.getD_some, symbol?_of_number? hnumber] at h
    cases h

end Datum

/-! ## What words are made of -/

/-- A character that may stand anywhere in a bare word, also at the start of one in
pattern text. -/
def isWordChar (c : Char) : Bool := !endsWord c && c != '/'

theorem endsWord_of_isWordChar {c : Char} (h : isWordChar c = true) : endsWord c = false := by
  rw [isWordChar, Bool.and_eq_true] at h
  exact (Bool.not_eq_eq_eq_not.mp h.1)

theorem ne_slash_of_isWordChar {c : Char} (h : isWordChar c = true) : c ≠ '/' := by
  rw [isWordChar, Bool.and_eq_true] at h
  exact bne_iff_ne.mp h.2

theorem isWordChar_of_isDigit {c : Char} (h : isDigit c = true) : isWordChar c = true := by
  have hrange : 48 ≤ c.toNat ∧ c.toNat ≤ 57 := by
    simp only [isDigit, Bool.and_eq_true, decide_eq_true_eq] at h
    exact ⟨h.1, h.2⟩
  have hdigits : ∀ d : Fin 10, isWordChar (Char.ofNat (48 + d)) = true := by decide
  have hc : c = Char.ofNat (48 + (c.toNat - 48)) := by
    rw [show 48 + (c.toNat - 48) = c.toNat by omega, Char.ofNat_toNat]
  rw [hc]
  exact hdigits ⟨c.toNat - 48, by omega⟩

theorem isWordChar_of_mem_digits {n : Nat} {c : Char} (h : c ∈ digits n) :
    isWordChar c = true :=
  isWordChar_of_isDigit (isDigit_of_mem_digits h)

theorem isWordChar_of_mem_signedDigits {n : Int} {c : Char} (h : c ∈ signedDigits n) :
    isWordChar c = true :=
  forall_mem_signedDigits (fun _ => isWordChar_of_isDigit) rfl n c h

theorem isWordChar_of_mem_debugChars {x : Binary64} {c : Char} (h : c ∈ x.debugChars) :
    isWordChar c = true :=
  Binary64.forall_mem_debugChars (fun _ => isWordChar_of_isDigit) (by decide) (by decide)
    (by decide) x c h

theorem debugChars_ne_nil (x : Binary64) : x.debugChars ≠ [] := by
  intro h
  cases x with
  | nan => cases h
  | infinite negative => cases negative <;> cases h
  | finite x =>
    obtain ⟨body, hbody, ⟨c, cs, hcs, _⟩, _⟩ := Binary64.exists_body x
    rw [hbody, hcs] at h
    exact absurd (List.append_eq_nil_iff.mp h).2 (List.cons_ne_nil c cs)

theorem signedDigits_ne_nil (n : Int) : signedDigits n ≠ [] := by
  rw [signedDigits]
  split
  · exact List.cons_ne_nil _ _
  · exact digits_ne_nil _

end SexprQuery
