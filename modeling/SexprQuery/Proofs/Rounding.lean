import SexprQuery.Binary64.Text

/-!
# Exactness of rounding

Rounding depends on the number alone and not on how it is written as a quotient or
as a coefficient with an exponent (`ofRatio_mul_right`, `ofDecimal_mul_pow`), and a
finite number is its own rounding (`ofRatio_exact`). So the shortest numeral of a
number always reads back: either it has been tried, or it is the exact expansion,
which lies within the bounds on places (`ofDecimal_shortest`).
-/

namespace SexprQuery.Binary64

-- powers are those of the core library, also beside a library with others
attribute [local instance (2000)] instPowNat

/-! ## Rounding depends on the number alone -/

theorem roundDiv_mul_right {k : Nat} (hk : 0 < k) (num den : Nat) :
    roundDiv (num * k) (den * k) = roundDiv num den := by
  have hless : den * k < 2 * (num % den * k) ↔ den < 2 * (num % den) := by
    rw [← Nat.mul_assoc]
    exact Nat.mul_lt_mul_right hk
  have hhalf : den * k = 2 * (num % den * k) ↔ den = 2 * (num % den) := by
    rw [← Nat.mul_assoc]
    exact Nat.mul_left_inj (Nat.ne_of_gt hk)
  simp only [roundDiv, Nat.mul_div_mul_right _ _ hk, Nat.mul_mod_mul_right, hless, hhalf]

/-- A factor that numerator and denominator share does not count. -/
theorem ofRatio_mul_right {k : Nat} (hk : 0 < k) (negative : Bool) (num den : Nat) :
    ofRatio negative (num * k) (den * k) = ofRatio negative num den := by
  have hnum : ∀ a : Nat, num * k * a = num * a * k := fun a => Nat.mul_right_comm num k a
  have hden : ∀ a : Nat, den * k * a = den * a * k := fun a => Nat.mul_right_comm den k a
  simp only [ofRatio, hnum, hden, Nat.mul_div_mul_right _ _ hk, roundDiv_mul_right hk]

theorem digitCount_mul_ten {n : Nat} (hn : 0 < n) : digitCount (n * 10) = digitCount n + 1 := by
  rw [digitCount, if_neg (by omega), Nat.mul_div_cancel n (by decide)]

theorem digitCount_mul_pow {n : Nat} (hn : 0 < n) (k : Nat) :
    digitCount (n * 10 ^ k) = digitCount n + k := by
  induction k with
  | zero => simp
  | succ k ih =>
    have hpos : 0 < n * 10 ^ k := Nat.mul_pos hn (Nat.pow_pos (by decide))
    rw [Nat.pow_succ, ← Nat.mul_assoc, digitCount_mul_ten hpos, ih, Nat.add_assoc]

/-- A power of ten can move between coefficient and exponent. -/
theorem ofDecimal_mul_pow (negative : Bool) (c k : Nat) (e : Int) :
    ofDecimal negative (c * 10 ^ k) e = ofDecimal negative c (e + k) := by
  have hpow : ∀ j : Nat, 0 < 10 ^ j := fun j => Nat.pow_pos (by decide)
  rcases Nat.eq_zero_or_pos c with rfl | hc
  · simp [ofDecimal]
  have hne : c * 10 ^ k ≠ 0 := Nat.ne_of_gt (Nat.mul_pos hc (hpow k))
  have hplaces : (digitCount c : Int) + (k : Nat) + e = digitCount c + (e + k) := by omega
  simp only [ofDecimal, digitCount_mul_pow hc, Int.natCast_add, hplaces, hne,
    Nat.ne_of_gt hc, false_or]
  congr 2
  by_cases he : 0 ≤ e
  · have hexp : (e + k).toNat = k + e.toNat := by omega
    rw [if_pos he, if_pos (by omega), hexp, Nat.pow_add, Nat.mul_assoc]
  rw [if_neg he]
  by_cases hek : 0 ≤ e + k
  · -- the denominator divides the power in the numerator
    have hexp : k = (e + k).toNat + (-e).toNat := by omega
    have hnum : c * 10 ^ k = c * 10 ^ (e + k).toNat * 10 ^ (-e).toNat := by
      rw [Nat.mul_assoc, ← Nat.pow_add, ← hexp]
    rw [if_pos hek, hnum]
    have := ofRatio_mul_right (hpow (-e).toNat) negative (c * 10 ^ (e + k).toNat) 1
    rwa [Nat.one_mul] at this
  · have hexp : (-e).toNat = (-(e + k)).toNat + k := by omega
    rw [if_neg hek, hexp, Nat.pow_add]
    exact ofRatio_mul_right (hpow k) negative c _

/-! ## Finite numbers are exact -/

theorem roundDiv_mul_self {den : Nat} (hden : 0 < den) (m : Nat) : roundDiv (m * den) den = m := by
  have hdiv : m * den / den = m := Nat.mul_div_cancel m hden
  have hmod : m * den % den = 0 := Nat.mul_mod_left m den
  simp only [roundDiv, hdiv, hmod]
  rw [if_neg (by omega)]

/-- The scale of a number is what its size over 53 bits asks for. -/
theorem log2_sub_eq_scale (x : Finite64) : Nat.log2 (x.mantissa * 2 ^ x.scale) - 52 = x.scale := by
  rcases x.normal with hscale | hfull
  · rw [hscale, Nat.pow_zero, Nat.mul_one]
    rcases Nat.eq_zero_or_pos x.mantissa with hzero | hpos
    · rw [hzero]; rfl
    · have := (Nat.log2_lt (Nat.ne_of_gt hpos)).mpr x.mantissa_lt
      omega
  · have hpow : 0 < 2 ^ x.scale := Nat.pow_pos (by decide)
    have hpos : 0 < x.mantissa := by omega
    have hne : x.mantissa * 2 ^ x.scale ≠ 0 := Nat.ne_of_gt (Nat.mul_pos hpos hpow)
    have hlow : 52 + x.scale ≤ Nat.log2 (x.mantissa * 2 ^ x.scale) := by
      rw [Nat.le_log2 hne, Nat.pow_add]
      exact Nat.mul_le_mul_right _ hfull
    have hhigh : Nat.log2 (x.mantissa * 2 ^ x.scale) < 53 + x.scale := by
      rw [Nat.log2_lt hne, Nat.pow_add]
      exact Nat.mul_lt_mul_of_pos_right x.mantissa_lt hpow
    omega

theorem ofParts_eq (x : Finite64) : ofParts x.negative x.mantissa x.scale = .finite x := by
  rw [ofParts, dif_pos ⟨x.mantissa_lt, x.scale_le, x.normal⟩]

/-- A finite number is its own rounding. -/
theorem ofRatio_exact (x : Finite64) :
    ofRatio x.negative (x.mantissa * 2 ^ x.scale) (2 ^ (1074 : Nat)) = .finite x := by
  have hden : 0 < 2 ^ (1074 : Nat) := Nat.two_pow_pos 1074
  unfold ofRatio
  generalize 2 ^ (1074 : Nat) = den at hden
  have hpos : 0 < den * 2 ^ x.scale := Nat.mul_pos hden (Nat.pow_pos (by decide))
  have hround : roundDiv (x.mantissa * 2 ^ x.scale * den) (den * 2 ^ x.scale) = x.mantissa := by
    rw [Nat.mul_assoc, Nat.mul_comm (2 ^ x.scale)]
    exact roundDiv_mul_self hpos x.mantissa
  have := x.mantissa_lt
  simp only [Nat.mul_div_cancel _ hden, log2_sub_eq_scale, hround]
  rw [if_neg (by omega), ofParts_eq]

/-! ## The shortest numeral -/

theorem lt_pow_digitCount (n : Nat) : n < 10 ^ digitCount n := by
  induction n using Nat.strongRecOn with
  | ind n ih =>
    rw [digitCount]
    split
    · omega
    · have := ih (n / 10) (by omega)
      rw [Nat.pow_succ]
      omega

theorem pow_digitCount_le {n : Nat} (hn : 0 < n) : 10 ^ (digitCount n - 1) ≤ n := by
  induction n using Nat.strongRecOn with
  | ind n ih =>
    rw [digitCount]
    split
    · exact hn
    · have hrest := ih (n / 10) (by omega) (by omega)
      have hpos : 0 < digitCount (n / 10) := by rw [digitCount]; split <;> omega
      have hexp : digitCount (n / 10) + 1 - 1 = digitCount (n / 10) - 1 + 1 := by omega
      rw [hexp, Nat.pow_succ]
      omega

/-- A number between two powers of ten has a count of digits between their exponents. -/
theorem digitCount_bounds {n a b : Nat} (hlow : 10 ^ a ≤ n) (hhigh : n < 10 ^ b) :
    a < digitCount n ∧ digitCount n ≤ b := by
  have hn : 0 < n := Nat.lt_of_lt_of_le (Nat.pow_pos (by decide)) hlow
  constructor
  · exact (Nat.pow_lt_pow_iff_right (by decide)).mp
      (Nat.lt_of_le_of_lt hlow (lt_pow_digitCount n))
  · have := (Nat.pow_lt_pow_iff_right (by decide)).mp
      (Nat.lt_of_le_of_lt (pow_digitCount_le hn) hhigh)
    omega

/-- A bound on the size of a number in units of the smallest one. -/
theorem mantissa_mul_lt (x : Finite64) {k : Nat} (h : x.scale ≤ k) :
    x.mantissa * 2 ^ x.scale < 2 ^ (53 + k) := by
  rw [Nat.pow_add]
  exact Nat.mul_lt_mul_of_lt_of_le x.mantissa_lt (Nat.pow_le_pow_right Nat.two_pos h)
    (Nat.two_pow_pos k)

/-- The exact expansion of a number reads back. -/
theorem ofDecimal_expansion {x : Finite64} (h : x.mantissa ≠ 0) :
    ofDecimal x.negative (x.mantissa * 2 ^ x.scale * 5 ^ (1074 : Nat)) (-1074) = .finite x := by
  have hpos : 0 < x.mantissa * 2 ^ x.scale :=
    Nat.mul_pos (Nat.pos_of_ne_zero h) (Nat.two_pow_pos x.scale)
  have hsize : x.mantissa * 2 ^ x.scale < 2 ^ (53 + 2045) :=
    mantissa_mul_lt (k := 2045) x x.scale_le
  -- the power is given a name so that nothing tries to compute it
  obtain ⟨five, hfive⟩ : ∃ n, n = 5 ^ (1074 : Nat) := ⟨_, rfl⟩
  have hmany : 10 ^ (743 : Nat) ≤ five := by rw [hfive]; decide +kernel
  have hfew : 2 ^ (53 + 2045) * five ≤ 10 ^ (1384 : Nat) := by rw [hfive]; decide +kernel
  have hten : 10 ^ (1074 : Nat) = 2 ^ (1074 : Nat) * five := by rw [hfive]; decide +kernel
  rw [← hfive]
  have hfivePos : 0 < five := Nat.lt_of_lt_of_le (Nat.pow_pos (by decide)) hmany
  obtain ⟨hlow, hhigh⟩ := digitCount_bounds
    (Nat.le_trans hmany (Nat.le_mul_of_pos_left five hpos))
    (Nat.lt_of_lt_of_le (Nat.mul_lt_mul_of_pos_right hsize hfivePos) hfew)
  have hne : x.mantissa * 2 ^ x.scale * five ≠ 0 := Nat.ne_of_gt (Nat.mul_pos hpos hfivePos)
  unfold ofDecimal
  rw [if_neg (by omega), if_neg (by omega), if_neg (by decide)]
  have hexponent : (-(-1074 : Int)).toNat = 1074 := by decide
  have hshared := ofRatio_mul_right hfivePos x.negative (x.mantissa * 2 ^ x.scale) (2 ^ (1074 : Nat))
  rw [hexponent, hten, hshared, ofRatio_exact]

/-- The first of two that passes a test has passed it. -/
private theorem passes_of_first (test : Nat → Bool) {a b : Nat} {e : Int} {numeral : Nat × Int}
    (h : (if test a then some (a, e) else if test b then some (b, e) else none) = some numeral) :
    test numeral.1 = true ∧ numeral.2 = e := by
  split at h
  · next ha => cases h; exact ⟨ha, rfl⟩
  · split at h
    · next hb => cases h; exact ⟨hb, rfl⟩
    · cases h

/-- A numeral on a grid is one that has been tried. -/
theorem ofDecimal_onGrid? {x : Finite64} {e : Int} {numeral : Nat × Int}
    (h : onGrid? x e = some numeral) :
    ofDecimal x.negative numeral.1 numeral.2 = .finite x := by
  suffices hpass : decide (ofDecimal x.negative numeral.1 e = .finite x) = true ∧
      numeral.2 = e by
    rw [hpass.2]
    exact of_decide_eq_true hpass.1
  unfold onGrid? at h
  split at h
  next lower upperNear _ =>
    cases upperNear with
    | true => exact passes_of_first (fun c => decide (ofDecimal x.negative c e = .finite x)) h
    | false => exact passes_of_first (fun c => decide (ofDecimal x.negative c e = .finite x)) h

/-- The shortest numeral of a number reads back. -/
theorem ofDecimal_shortest {x : Finite64} (h : x.mantissa ≠ 0) :
    ofDecimal x.negative (shortest x).1 (shortest x).2 = .finite x := by
  have hshortest : shortest x =
      ((List.range 17).findSome? fun i =>
        onGrid? x (places (x.mantissa * 2 ^ x.scale) - (i + 1 : Nat))).getD
          (x.mantissa * 2 ^ x.scale * 5 ^ (1074 : Nat), -1074) := by
    rw [shortest, if_neg h]
  rw [hshortest]
  cases hfound : (List.range 17).findSome? fun i =>
      onGrid? x (places (x.mantissa * 2 ^ x.scale) - (i + 1 : Nat)) with
  | none =>
    rw [Option.getD_none]
    exact ofDecimal_expansion h
  | some numeral =>
    obtain ⟨i, _, hi⟩ := List.exists_of_findSome?_eq_some hfound
    rw [Option.getD_some]
    exact ofDecimal_onGrid? hi

end SexprQuery.Binary64
