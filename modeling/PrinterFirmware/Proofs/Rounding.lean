/-
  PrinterFirmware.Proofs.Rounding
  ───────────────────────────────
  **THE NEAREST DOUBLE.**

  The magnitude bits of the doubles number the points of a grid.  In a binade the
  points are multiples of its quantum, and the points below the binade are at least half
  a quantum under its first point.  The grid is taken to go on beyond the largest
  double, so that a number which is too large for a double is near to a point as well.

      gridValue                   the point with given magnitude bits
      roundHalfEven_nearest       rounding gives the nearest whole number
      nearestMagnitude_nearest    and the nearest point of the grid

  A decimal literal denotes an exact fraction, and its double is the nearest one.

  Main result: `double?_nearest`.
-/
import Mathlib.Algebra.Order.Field.Power
import Mathlib.Data.Rat.Cast.Order
import Mathlib.Tactic.FieldSimp
import Mathlib.Tactic.Linarith
import Mathlib.Tactic.NormNum.Pow
import Mathlib.Tactic.Positivity
import Mathlib.Tactic.Ring
import Mathlib.Tactic.SplitIfs
import PrinterFirmware.Binary64.Literal

namespace PrinterFirmware

/-! ## §1. Powers. -/

/-- A fraction whose parts are scaled by powers is the fraction, scaled by one power. -/
theorem scaled_fraction {base : ℕ} (hbase : 0 < base) (num den up down : ℕ) :
    ((num * Nat.pow base up : ℕ) : ℚ) / ((den * Nat.pow base down : ℕ) : ℚ)
      = (num : ℚ) / den / (base : ℚ) ^ ((down : ℤ) - up) := by
  have hne : (base : ℚ) ≠ 0 := by exact_mod_cast hbase.ne'
  simp only [Nat.pow_eq, Nat.cast_mul, Nat.cast_pow]
  rw [zpow_sub₀ hne, zpow_natCast, zpow_natCast, div_div_eq_mul_div, div_mul_eq_mul_div, div_div]

section Powers

variable {base num den k : ℕ}

/-- The powers around a fraction which is at least one are those around its whole part. -/
theorem pow_bounds_of_floor (hden : 0 < den) (hlow : base ^ k ≤ num / den)
    (hhigh : num / den < base ^ (k + 1)) :
    (base : ℚ) ^ (k : ℤ) ≤ (num : ℚ) / den ∧ (num : ℚ) / den < (base : ℚ) ^ ((k : ℤ) + 1) := by
  have hpos : (0 : ℚ) < den := by exact_mod_cast hden
  constructor
  · rw [le_div_iff₀ hpos, zpow_natCast]
    exact_mod_cast (Nat.le_div_iff_mul_le hden).1 hlow
  · rw [div_lt_iff₀ hpos, show ((k : ℤ) + 1) = ((k + 1 : ℕ) : ℤ) by simp, zpow_natCast]
    exact_mod_cast (Nat.div_lt_iff_lt_mul hden).1 hhigh

/-- Those around a fraction below one are found from the largest whole number below its
inverse. -/
theorem pow_bounds_of_inverse (hnum : 0 < num) (hden : 0 < den) (hbase : 0 < base)
    (hlow : base ^ k ≤ (den - 1) / num) (hhigh : (den - 1) / num < base ^ (k + 1)) :
    (base : ℚ) ^ (-(k : ℤ) - 1) ≤ (num : ℚ) / den ∧ (num : ℚ) / den < (base : ℚ) ^ (-(k : ℤ)) := by
  have hpos : (0 : ℚ) < den := by exact_mod_cast hden
  have hb : (0 : ℚ) < base := by exact_mod_cast hbase
  have hlow' := (Nat.le_div_iff_mul_le hnum).1 hlow
  have hhigh' := (Nat.div_lt_iff_lt_mul hnum).1 hhigh
  constructor
  · have hle : den ≤ num * base ^ (k + 1) := by
      rw [Nat.mul_comm]
      omega
    rw [show -(k : ℤ) - 1 = -((k + 1 : ℕ) : ℤ) by push_cast; ring, zpow_neg, zpow_natCast,
      le_div_iff₀ hpos, inv_mul_le_iff₀ (by positivity)]
    rw [mul_comm]
    exact_mod_cast hle
  · have hlt : num * base ^ k < den := by
      rw [Nat.mul_comm]
      omega
    rw [zpow_neg, zpow_natCast, div_lt_iff₀ hpos, lt_inv_mul_iff₀ (by positivity), mul_comm]
    exact_mod_cast hlt

end Powers

/-- The decimal logarithm is the exponent of the largest power of ten. -/
theorem Numeral.log10_bounds {n : ℕ} (hn : 0 < n) : 10 ^ log10 n ≤ n ∧ n < 10 ^ (log10 n + 1) := by
  induction n using log10.induct with
  | case1 n hlt =>
      rw [log10, if_pos hlt]
      omega
  | case2 n hge ih =>
      rw [log10, if_neg hge]
      obtain ⟨hlow, hhigh⟩ := ih (by omega)
      constructor
      · rw [pow_succ]
        omega
      · rw [pow_succ]
        omega

/-! ## §2. The nearest whole number. -/

/-- Different whole numbers are at least one apart. -/
theorem one_le_abs_sub {a b : ℕ} (h : a ≠ b) : (1 : ℚ) ≤ |(a : ℚ) - b| := by
  have hint : (1 : ℤ) ≤ |(a : ℤ) - b| := Int.one_le_abs (by omega)
  exact_mod_cast hint

section Whole

variable (num : ℕ) {den : ℕ}

theorem roundHalfEven_bounds (hden : 0 < den) :
    2 * (den * roundHalfEven num den) ≤ 2 * num + den ∧
      2 * num ≤ 2 * (den * roundHalfEven num den) + den := by
  have hdiv := Nat.div_add_mod num den
  have hmod := Nat.mod_lt num hden
  have hnext : den * (num / den + 1) = den * (num / den) + den := Nat.mul_succ den (num / den)
  unfold roundHalfEven
  simp only
  split_ifs
  all_goals omega

/-- Rounding moves a fraction by at most one half. -/
theorem roundHalfEven_near (hden : 0 < den) :
    |(num : ℚ) / den - roundHalfEven num den| ≤ 1 / 2 := by
  obtain ⟨hlow, hhigh⟩ := roundHalfEven_bounds num hden
  have hpos : (0 : ℚ) < den := by exact_mod_cast hden
  have hlow' : 2 * ((den : ℚ) * roundHalfEven num den) ≤ 2 * num + den := by exact_mod_cast hlow
  have hhigh' : 2 * (num : ℚ) ≤ 2 * (den * roundHalfEven num den) + den := by exact_mod_cast hhigh
  rw [div_sub' hpos.ne', abs_div, abs_of_pos hpos, div_le_iff₀ hpos, abs_le]
  constructor
  · linarith
  · linarith

/-- Rounding to the multiples of a unit moves a number by at most half a unit. -/
theorem roundHalfEven_mul_near {q unit : ℚ} (hden : 0 < den) (hunit : 0 < unit)
    (h : (num : ℚ) / den = q / unit) : 2 * |q - roundHalfEven num den * unit| ≤ unit := by
  have hnear := mul_le_mul_of_nonneg_right (roundHalfEven_near num hden) hunit.le
  rw [h] at hnear
  have hsplit : q - roundHalfEven num den * unit = (q / unit - roundHalfEven num den) * unit := by
    rw [sub_mul, div_mul_cancel₀ _ hunit.ne']
  rw [hsplit, abs_mul, abs_of_pos hunit]
  linarith

/-- **No whole number is nearer to a fraction than the rounded one.** -/
theorem roundHalfEven_nearest (hden : 0 < den) (k : ℕ) :
    |(num : ℚ) / den - roundHalfEven num den| ≤ |(num : ℚ) / den - k| := by
  by_cases heq : roundHalfEven num den = k
  · rw [heq]
  · have hnear := roundHalfEven_near num hden
    have hone := one_le_abs_sub heq
    have htriangle := abs_sub_le (roundHalfEven num den : ℚ) ((num : ℚ) / den) k
    rw [abs_sub_comm (roundHalfEven num den : ℚ) (num / den)] at htriangle
    linarith

/-- A fraction is not rounded past a whole number. -/
theorem roundHalfEven_le {n : ℕ} (hden : 0 < den) (h : (num : ℚ) / den ≤ n) :
    roundHalfEven num den ≤ n := by
  have hnear := abs_le.1 (roundHalfEven_near num hden)
  have hlt : (roundHalfEven num den : ℚ) < (n + 1 : ℕ) := by
    push_cast
    linarith [hnear.1]
  exact Nat.le_of_lt_succ (by exact_mod_cast hlt)

theorem le_roundHalfEven {n : ℕ} (hden : 0 < den) (h : (n : ℚ) ≤ (num : ℚ) / den) :
    n ≤ roundHalfEven num den := by
  have hnear := abs_le.1 (roundHalfEven_near num hden)
  have hlt : (n : ℚ) < (roundHalfEven num den + 1 : ℕ) := by
    push_cast
    linarith [hnear.2]
  exact Nat.le_of_lt_succ (by exact_mod_cast hlt)

end Whole

namespace Binary64

/-! ## §3. The grid of the magnitudes. -/

/-- The distance of the points in a binade. -/
def quantum (binade : ℕ) : ℚ := 2 ^ ((binade : ℤ) - 1075)

/-- The binade of the point with magnitude bits `m`.  The smallest numbers have the quantum of
the first binade. -/
def gridBinade (m : ℕ) : ℕ := max (m / exponentWeight) 1

/-- What is left of the magnitude bits, with the leading bit which the exponent bits imply. -/
def gridSignificand (m : ℕ) : ℕ := m - (gridBinade m - 1) * exponentWeight

/-- The point with magnitude bits `m`. -/
def gridValue (m : ℕ) : ℚ := gridSignificand m * quantum (gridBinade m)

theorem quantum_pos (b : ℕ) : 0 < quantum b := zpow_pos (by norm_num) _

theorem quantum_add (b k : ℕ) : quantum (b + k) = 2 ^ k * quantum b := by
  unfold quantum
  rw [← zpow_natCast, ← zpow_add₀ (by norm_num)]
  congr 1
  push_cast
  ring

/-- The first point of a binade is a power of two. -/
theorem weight_mul_quantum (b : ℕ) : exponentWeight * quantum b = (2 : ℚ) ^ ((b : ℤ) - 1023) := by
  have hweight : (exponentWeight : ℚ) = 2 ^ (52 : ℤ) := by norm_num [exponentWeight]
  rw [hweight, quantum, ← zpow_add₀ (by norm_num)]
  congr 1
  ring

theorem gridBinade_pos (m : ℕ) : 1 ≤ gridBinade m := le_max_right _ _

theorem gridSignificand_lt (m : ℕ) : gridSignificand m < 2 * exponentWeight := by
  unfold gridSignificand gridBinade exponentWeight
  omega

theorem le_gridSignificand {m : ℕ} (h : 1 < gridBinade m) : exponentWeight ≤ gridSignificand m := by
  unfold gridSignificand gridBinade exponentWeight at *
  omega

theorem gridValue_nonneg (m : ℕ) : 0 ≤ gridValue m :=
  mul_nonneg (Nat.cast_nonneg _) (quantum_pos _).le

theorem gridValue_zero : gridValue 0 = 0 := by
  simp [gridValue, gridSignificand]

/-- In its binade and in those below a point is a multiple of the quantum. -/
theorem gridValue_multiple {b m : ℕ} (h : b ≤ gridBinade m) :
    ∃ k : ℕ, gridValue m = k * quantum b := by
  obtain ⟨d, hd⟩ := Nat.exists_eq_add_of_le h
  refine ⟨gridSignificand m * 2 ^ d, ?_⟩
  rw [gridValue, hd, quantum_add]
  push_cast
  ring

/-- A point of a lower binade is at least half a quantum below the first point of the binade. -/
theorem gridValue_below {b m : ℕ} (h : gridBinade m < b) :
    gridValue m ≤ ((exponentWeight : ℚ) - 1 / 2) * quantum b := by
  obtain ⟨d, rfl⟩ := Nat.exists_eq_add_of_lt h
  have hsignificand : (gridSignificand m : ℚ) + 1 ≤ 2 * exponentWeight := by
    exact_mod_cast gridSignificand_lt m
  -- One binade higher the quantum is twice as large, and the last significand is one too small.
  have hquantum : 2 * quantum (gridBinade m) ≤ quantum (gridBinade m + d + 1) := by
    rw [quantum_add, quantum_add, pow_one]
    have hpow : (1 : ℚ) ≤ 2 ^ d := one_le_pow₀ (by norm_num)
    have hle := mul_le_mul_of_nonneg_right hpow (quantum_pos (gridBinade m)).le
    linarith
  have hhalf : (0 : ℚ) ≤ exponentWeight - 1 / 2 := by norm_num [exponentWeight]
  calc gridValue m ≤ (2 * exponentWeight - 1) * quantum (gridBinade m) :=
        mul_le_mul_of_nonneg_right (by linarith) (quantum_pos _).le
    _ = (exponentWeight - 1 / 2) * (2 * quantum (gridBinade m)) := by ring
    _ ≤ (exponentWeight - 1 / 2) * quantum (gridBinade m + d + 1) :=
        mul_le_mul_of_nonneg_left hquantum hhalf

/-- A significand which is too large by one carries into the exponent bits. -/
theorem gridValue_carry {b s : ℕ} (hb : 1 ≤ b) (hs : s ≤ 2 * exponentWeight)
    (hlow : b = 1 ∨ exponentWeight ≤ s) :
    gridValue ((b - 1) * exponentWeight + s) = s * quantum b := by
  by_cases hcarry : s = 2 * exponentWeight
  · -- The point is the first one of the next binade.
    have hbinade : gridBinade ((b - 1) * exponentWeight + s) = b + 1 := by
      unfold gridBinade exponentWeight at *
      omega
    have hsignificand : gridSignificand ((b - 1) * exponentWeight + s) = exponentWeight := by
      unfold gridSignificand
      rw [hbinade]
      unfold exponentWeight at *
      omega
    rw [gridValue, hbinade, hsignificand, quantum_add, hcarry]
    push_cast
    ring
  · have hbinade : gridBinade ((b - 1) * exponentWeight + s) = b := by
      unfold gridBinade exponentWeight at *
      omega
    have hsignificand : gridSignificand ((b - 1) * exponentWeight + s) = s := by
      unfold gridSignificand
      rw [hbinade]
      omega
    rw [gridValue, hbinade, hsignificand]

/-- **The points grow with their magnitude bits.** -/
theorem gridValue_strictMono : StrictMono gridValue := by
  intro m m' hlt
  have hle : gridBinade m ≤ gridBinade m' := by
    unfold gridBinade
    exact max_le_max_right 1 (Nat.div_le_div_right hlt.le)
  by_cases hbinade : gridBinade m = gridBinade m'
  · have hsignificand : gridSignificand m < gridSignificand m' := by
      unfold gridSignificand
      rw [hbinade]
      unfold gridBinade exponentWeight at *
      omega
    rw [gridValue, gridValue, hbinade]
    exact mul_lt_mul_of_pos_right (by exact_mod_cast hsignificand) (quantum_pos _)
  · have hfirst := gridBinade_pos m
    have hsignificand : (exponentWeight : ℚ) ≤ gridSignificand m' := by
      exact_mod_cast le_gridSignificand (by omega)
    have hquantum := quantum_pos (gridBinade m')
    calc gridValue m ≤ (exponentWeight - 1 / 2) * quantum (gridBinade m') :=
          gridValue_below (by omega)
      _ < exponentWeight * quantum (gridBinade m') := by linarith
      _ ≤ gridValue m' := mul_le_mul_of_nonneg_right hsignificand hquantum.le

/-- The first point which is too large for a finite double. -/
theorem gridValue_infinity : gridValue infinityMagnitude = 2 ^ (1024 : ℤ) := by
  have hcarry := gridValue_carry (b := 2047) (s := exponentWeight) (by omega) (by omega)
    (Or.inr (by omega))
  have hmagnitude : (2047 - 1) * exponentWeight + exponentWeight = infinityMagnitude := rfl
  rw [hmagnitude, weight_mul_quantum] at hcarry
  rw [hcarry, show ((2047 : ℕ) : ℤ) - 1023 = 1024 by omega]

/-- Every point but zero is at least one quantum of the first binade. -/
theorem quantum_le_gridValue {m : ℕ} (h : 0 < m) : quantum 1 ≤ gridValue m := by
  have hone : gridValue 1 = quantum 1 := by
    simp [gridValue, gridSignificand, gridBinade, exponentWeight]
  rw [← hone]
  exact gridValue_strictMono.monotone h

/-! ## §4. The nearest point of the grid. -/

section Nearest

variable {num den : ℕ}

/-- A fraction is in its binade, or below the first one. -/
theorem binadeOf_bounds (hnum : 0 < num) (hden : 0 < den) :
    1 ≤ binadeOf num den ∧ (num : ℚ) / den ≤ exponentWeight * quantum (binadeOf num den + 1) ∧
      (binadeOf num den = 1 ∨ exponentWeight * quantum (binadeOf num den) ≤ (num : ℚ) / den) := by
  rw [weight_mul_quantum, weight_mul_quantum]
  unfold binadeOf
  -- The binade is that of the whole part, or of the inverse if there is no whole part.
  by_cases hle : den ≤ num
  · rw [if_pos hle]
    have hne : num / den ≠ 0 := (Nat.div_pos hle hden).ne'
    obtain ⟨hlow, hhigh⟩ := pow_bounds_of_floor hden (Nat.log2_self_le hne) Nat.lt_log2_self
    rw [Nat.cast_ofNat] at hlow hhigh
    generalize Nat.log2 (num / den) = k at *
    refine ⟨by omega, ?_, Or.inr ?_⟩
    · rw [show ((k + 1023 + 1 : ℕ) : ℤ) - 1023 = k + 1 by omega]
      exact hhigh.le
    · rw [show ((k + 1023 : ℕ) : ℤ) - 1023 = k by omega]
      exact hlow
  · rw [if_neg hle]
    have hne : (den - 1) / num ≠ 0 := (Nat.div_pos (by omega) hnum).ne'
    obtain ⟨hlow, hhigh⟩ := pow_bounds_of_inverse hnum hden (by norm_num)
      (Nat.log2_self_le hne) Nat.lt_log2_self
    generalize Nat.log2 ((den - 1) / num) = k at *
    refine ⟨by omega, ?_, ?_⟩
    · refine hhigh.le.trans (zpow_le_zpow_right₀ (by norm_num) ?_)
      push_cast
      omega
    · by_cases hfirst : 1022 ≤ k
      · -- The binade would be below the first one.
        exact Or.inl (by omega)
      · refine Or.inr (le_trans (zpow_le_zpow_right₀ (by norm_num) ?_) hlow)
        omega

/-- The rounded point is the rounded multiple of the quantum. -/
theorem gridValue_nearestMagnitude (hnum : 0 < num) (hden : 0 < den) :
    ∃ scaled unit : ℕ, 0 < unit ∧
      (num : ℚ) / den = (scaled : ℚ) / unit * quantum (binadeOf num den) ∧
      gridValue (nearestMagnitude num den)
        = roundHalfEven scaled unit * quantum (binadeOf num den) := by
  obtain ⟨hfirst, hhigh, hlow⟩ := binadeOf_bounds hnum hden
  unfold nearestMagnitude
  rw [if_neg hnum.ne']
  simp only
  generalize binadeOf num den = b at *
  have hquantum := quantum_pos b
  have hunit : 0 < den * Nat.pow 2 (b - 1075) := Nat.mul_pos hden (Nat.pow_pos (by omega))
  have hscaled : ((num * Nat.pow 2 (1075 - b) : ℕ) : ℚ) / ((den * Nat.pow 2 (b - 1075) : ℕ) : ℚ)
      = (num : ℚ) / den / quantum b := by
    rw [scaled_fraction (by omega), quantum, Nat.cast_ofNat,
      show ((b - 1075 : ℕ) : ℤ) - (1075 - b : ℕ) = b - 1075 by omega]
  generalize num * Nat.pow 2 (1075 - b) = scaled at *
  generalize den * Nat.pow 2 (b - 1075) = unit at *
  refine ⟨scaled, unit, hunit, ?_, gridValue_carry hfirst ?_ ?_⟩
  · rw [hscaled, div_mul_cancel₀ _ hquantum.ne']
  · -- The significand may be rounded up to the next binade, but not past its first point.
    refine roundHalfEven_le scaled hunit ?_
    rw [hscaled, div_le_iff₀ hquantum]
    rw [quantum_add, pow_one] at hhigh
    push_cast
    linarith
  · refine hlow.imp_right fun hlow => le_roundHalfEven scaled hunit ?_
    rw [hscaled, le_div_iff₀ hquantum]
    exact hlow

/-- **No point of the grid is nearer to a fraction than the one it is rounded to.** -/
theorem nearestMagnitude_nearest (num : ℕ) (hden : 0 < den) (m : ℕ) :
    |(num : ℚ) / den - gridValue (nearestMagnitude num den)| ≤ |(num : ℚ) / den - gridValue m| := by
  by_cases hnum : num = 0
  · simp [hnum, nearestMagnitude, gridValue_zero]
  · have hnum := Nat.pos_of_ne_zero hnum
    obtain ⟨scaled, unit, hunit, hscaled, hpoint⟩ := gridValue_nearestMagnitude hnum hden
    have hquantum := quantum_pos (binadeOf num den)
    have hmultiple : ∀ k : ℕ, |(num : ℚ) / den - gridValue (nearestMagnitude num den)|
        ≤ |(num : ℚ) / den - k * quantum (binadeOf num den)| := by
      intro k
      rw [hpoint, hscaled, ← sub_mul, ← sub_mul, abs_mul, abs_mul]
      exact mul_le_mul_of_nonneg_right (roundHalfEven_nearest scaled hunit k) (abs_nonneg _)
    by_cases hbinade : binadeOf num den ≤ gridBinade m
    · obtain ⟨k, hk⟩ := gridValue_multiple hbinade
      rw [hk]
      exact hmultiple k
    · -- A point of a lower binade is further away than the first point of the binade.
      obtain ⟨-, -, hlow⟩ := binadeOf_bounds hnum hden
      have hfirst := gridBinade_pos m
      have hle := hlow.resolve_left (by omega)
      have hbelow := gridValue_below (Nat.lt_of_not_le hbinade)
      refine (hmultiple exponentWeight).trans ?_
      rw [abs_of_nonneg (by linarith), abs_of_nonneg (by linarith)]
      linarith

end Nearest

/-! ## §5. The values of doubles. -/

/-- The magnitude bits of a double. -/
def magnitude (v : Binary64) : ℕ := v.word.toNat % signWeight

/-- The factor of a sign. -/
def signFactor (negative : Bool) : ℚ := if negative then -1 else 1

/-- The number which a finite double stands for. -/
def value (v : Binary64) : ℚ := signFactor v.negative * ((v.numerator : ℚ) / v.denominator)

/-- The exact magnitude of a double is the point with its magnitude bits. -/
theorem gridValue_magnitude (v : Binary64) :
    (v.numerator : ℚ) / v.denominator = gridValue v.magnitude := by
  have hexponent : v.exponent = v.magnitude / exponentWeight := by
    unfold exponent magnitude exponentWeight signWeight
    omega
  have hbinade : gridBinade v.magnitude = max v.exponent 1 := by
    rw [gridBinade, hexponent]
  have hsignificand : gridSignificand v.magnitude = v.significand := by
    unfold significand gridSignificand
    rw [hbinade, hexponent]
    unfold fraction magnitude exponentWeight signWeight
    split_ifs
    all_goals omega
  rw [gridValue, hsignificand, hbinade, numerator, denominator]
  generalize max v.exponent 1 = b
  have hscaled := scaled_fraction (show 0 < 2 by omega) v.significand 1 (b - 1075) (1075 - b)
  rw [Nat.one_mul, Nat.cast_one, div_one, Nat.cast_ofNat] at hscaled
  rw [hscaled, quantum, div_eq_mul_inv, ← zpow_neg,
    show -(((1075 - b : ℕ) : ℤ) - (b - 1075 : ℕ)) = b - 1075 by omega]

theorem value_eq (v : Binary64) : v.value = signFactor v.negative * gridValue v.magnitude := by
  rw [value, gridValue_magnitude]

theorem isFinite_iff (v : Binary64) : v.isFinite = true ↔ v.magnitude < infinityMagnitude := by
  unfold isFinite exponent magnitude infinityMagnitude exponentWeight signWeight
  rw [decide_eq_true_eq]
  omega

/-- A double is known by its sign and its magnitude bits. -/
theorem ofSignAndMagnitude_parts (v : Binary64) :
    ofSignAndMagnitude v.negative v.magnitude = v := by
  have hword := v.word.toNat_lt
  have hparts : (if v.negative then signWeight else 0) + v.magnitude = v.word.toNat := by
    unfold negative magnitude signWeight
    simp only [decide_eq_true_eq]
    split_ifs
    all_goals omega
  unfold ofSignAndMagnitude
  rw [hparts, UInt64.ofNat_toNat]

theorem parts_ofSignAndMagnitude (s : Bool) {m : ℕ} (h : m < infinityMagnitude) :
    (ofSignAndMagnitude s m).negative = s ∧ (ofSignAndMagnitude s m).magnitude = m := by
  have hword : (ofSignAndMagnitude s m).word.toNat = (if s then signWeight else 0) + m := by
    unfold ofSignAndMagnitude
    rw [UInt64.toNat_ofNat_of_lt']
    unfold infinityMagnitude exponentWeight at h
    unfold signWeight UInt64.size
    split_ifs
    all_goals omega
  unfold infinityMagnitude exponentWeight at h
  unfold negative magnitude
  rw [hword]
  unfold signWeight
  cases s with
  | true =>
      simp
      omega
  | false =>
      simp
      omega

section Signs

variable {s s' : Bool} {p q : ℚ}

theorem abs_signFactor_sub (s : Bool) (p q : ℚ) :
    |signFactor s * p - signFactor s * q| = |p - q| := by
  rw [← mul_sub, abs_mul]
  cases s <;> simp [signFactor]

/-- Numbers of different signs are as far apart as their magnitudes together. -/
theorem abs_signFactor_sub_of_ne (h : s ≠ s') (hp : 0 ≤ p) (hq : 0 ≤ q) :
    |signFactor s * p - signFactor s' * q| = p + q := by
  have hsum : |p + q| = p + q := abs_of_nonneg (add_nonneg hp hq)
  cases s with
  | true =>
      obtain rfl : s' = false := by simpa using h.symm
      rw [← hsum, ← abs_neg]
      simp [signFactor, add_comm]
  | false =>
      obtain rfl : s' = true := by simpa using h.symm
      simp [signFactor, hsum]

end Signs

/-! ## §6. Reading gives the nearest double. -/

/-- No finite double is nearer to `q` than `v`. -/
def Nearest (q : ℚ) (v : Binary64) : Prop :=
  v.isFinite = true ∧ ∀ w : Binary64, w.isFinite = true → |q - v.value| ≤ |q - w.value|

/-- The nearest point with the sign of a number is nearest among the points of both signs. -/
theorem nearest_of_grid {s : Bool} {v : Binary64} {q : ℚ} (hfinite : v.isFinite = true)
    (hv : v.negative = s) (hq : 0 ≤ q)
    (h : ∀ m, |q - gridValue v.magnitude| ≤ |q - gridValue m|) : Nearest (signFactor s * q) v := by
  refine ⟨hfinite, fun w hw => ?_⟩
  rw [value_eq v, value_eq w, hv, abs_signFactor_sub]
  by_cases hsign : s = w.negative
  · rw [← hsign, abs_signFactor_sub]
    exact h w.magnitude
  · have hzero := h 0
    have hnonneg := gridValue_nonneg w.magnitude
    rw [gridValue_zero, sub_zero, abs_of_nonneg hq] at hzero
    rw [abs_signFactor_sub_of_ne hsign hq hnonneg]
    linarith

section Decimals

variable (n : ℕ) (e : ℤ)

/-- The power of ten at the first digit of a numeral tells how large the number is. -/
theorem leading_bounds (hn : 0 < n) :
    (10 : ℚ) ^ ((Numeral.log10 n : ℤ) + e) ≤ n * 10 ^ e ∧
      (n : ℚ) * 10 ^ e < 10 ^ ((Numeral.log10 n : ℤ) + e + 1) := by
  obtain ⟨hlow, hhigh⟩ := Numeral.log10_bounds hn
  have hpow : (0 : ℚ) < 10 ^ e := zpow_pos (by norm_num) e
  have hlow' : (10 : ℚ) ^ Numeral.log10 n ≤ n := by exact_mod_cast hlow
  have hhigh' : (n : ℚ) < 10 ^ (Numeral.log10 n + 1) := by exact_mod_cast hhigh
  constructor
  · rw [zpow_add₀ (by norm_num), zpow_natCast]
    exact mul_le_mul_of_nonneg_right hlow' hpow.le
  · rw [show (Numeral.log10 n : ℤ) + e + 1 = ((Numeral.log10 n + 1 : ℕ) : ℤ) + e by omega,
      zpow_add₀ (by norm_num), zpow_natCast]
    exact mul_lt_mul_of_pos_right hhigh' hpow

/-- The fraction which a decimal is read as. -/
theorem decimal_fraction :
    ((n * Nat.pow 10 e.toNat : ℕ) : ℚ) / (Nat.pow 10 (-e).toNat : ℕ) = n * 10 ^ e := by
  have hfraction := scaled_fraction (show 0 < 10 by omega) n 1 e.toNat (-e).toNat
  rw [Nat.one_mul, Nat.cast_one, div_one, Nat.cast_ofNat] at hfraction
  rw [hfraction, div_eq_mul_inv, ← zpow_neg, show -(((-e).toNat : ℤ) - e.toNat) = e by omega]

/-- A number with so large a first digit is beyond all finite doubles. -/
theorem infinity_le_decimal (hn : 0 < n) (h : 310 < (Numeral.log10 n : ℤ) + e) :
    gridValue infinityMagnitude ≤ n * 10 ^ e := by
  have hpow : (2 : ℚ) ^ 1024 ≤ 10 ^ 311 := by
    exact_mod_cast (show 2 ^ 1024 ≤ 10 ^ 311 by decide +kernel)
  calc gridValue infinityMagnitude = (2 : ℚ) ^ 1024 := gridValue_infinity
    _ ≤ 10 ^ (311 : ℤ) := hpow
    _ ≤ 10 ^ ((Numeral.log10 n : ℤ) + e) := zpow_le_zpow_right₀ (by norm_num) (by omega)
    _ ≤ n * 10 ^ e := (leading_bounds n e hn).1

/-- A number with so small a first digit is less than half of the least point above zero. -/
theorem decimal_le_quantum (hn : 0 < n) (h : (Numeral.log10 n : ℤ) + e < -400) :
    2 * ((n : ℚ) * 10 ^ e) ≤ quantum 1 := by
  have hpow : (2 : ℚ) ^ 1074 * 2 ≤ 10 ^ 400 := by
    exact_mod_cast (show 2 ^ 1074 * 2 ≤ 10 ^ 400 by decide +kernel)
  have hquantum : quantum 1 = ((2 : ℚ) ^ 1074)⁻¹ := by
    rw [quantum, show ((1 : ℕ) : ℤ) - 1075 = -((1074 : ℕ) : ℤ) by omega, zpow_neg, zpow_natCast]
  have hsmall : (n : ℚ) * 10 ^ e ≤ ((10 : ℚ) ^ 400)⁻¹ := by
    rw [← zpow_natCast, ← zpow_neg]
    exact (leading_bounds n e hn).2.le.trans (zpow_le_zpow_right₀ (by norm_num) (by omega))
  rw [hquantum, ← one_div, le_div_iff₀ (by positivity)]
  calc 2 * ((n : ℚ) * 10 ^ e) * 2 ^ 1074 = n * 10 ^ e * (2 ^ 1074 * 2) := by
        rw [mul_comm 2, mul_assoc, mul_comm 2]
    _ ≤ ((10 : ℚ) ^ 400)⁻¹ * 10 ^ 400 := mul_le_mul hsmall hpow (by positivity) (by positivity)
    _ = 1 := inv_mul_cancel₀ (by positivity)

end Decimals

section Outside

variable {q : ℚ}

/-- A number beyond all finite doubles is not rounded to one. -/
theorem infinity_le_of_nearest {m : ℕ} (hq : gridValue infinityMagnitude ≤ q)
    (h : ∀ k, |q - gridValue m| ≤ |q - gridValue k|) : infinityMagnitude ≤ m := by
  by_contra hlt
  have hbelow := gridValue_strictMono (Nat.lt_of_not_le hlt)
  have hcloser := h infinityMagnitude
  rw [abs_of_nonneg (by linarith), abs_of_nonneg (by linarith)] at hcloser
  linarith

/-- A number less than half of the least point above zero is nearest to zero. -/
theorem zero_nearest (hq : 0 ≤ q) (h : 2 * q ≤ quantum 1) (k : ℕ) :
    |q - gridValue 0| ≤ |q - gridValue k| := by
  by_cases hk : k = 0
  · rw [hk]
  · have hpoint := quantum_le_gridValue (Nat.pos_of_ne_zero hk)
    rw [gridValue_zero, sub_zero, abs_of_nonneg hq, abs_sub_comm, abs_of_nonneg (by linarith)]
    linarith

end Outside

/-- Reading a decimal rounds it to the nearest point, also where its magnitude settles it. -/
theorem ofDecimal?_eq (s : Bool) (n : ℕ) (e : ℤ) : ∃ m : ℕ,
    (∀ k, |(n : ℚ) * 10 ^ e - gridValue m| ≤ |(n : ℚ) * 10 ^ e - gridValue k|) ∧
      ofDecimal? s n e = if m < infinityMagnitude then some (ofSignAndMagnitude s m) else none := by
  have hpositive : 0 < infinityMagnitude := by decide
  by_cases hn : n = 0
  · refine ⟨0, fun k => ?_, ?_⟩
    · simp [hn, gridValue_zero]
    · rw [if_pos hpositive]
      exact if_pos hn
  · have hn' := Nat.pos_of_ne_zero hn
    have hden : 0 < Nat.pow 10 (-e).toNat := Nat.pow_pos (by omega)
    have hnearest := nearestMagnitude_nearest (n * Nat.pow 10 e.toNat) hden
    rw [decimal_fraction] at hnearest
    unfold ofDecimal?
    rw [if_neg hn]
    simp only
    by_cases hlarge : 310 < (Numeral.log10 n : ℤ) + e
    · have hinfinite := infinity_le_of_nearest (infinity_le_decimal n e hn' hlarge) hnearest
      refine ⟨_, hnearest, ?_⟩
      rw [if_pos hlarge, if_neg (Nat.not_lt.2 hinfinite)]
    · rw [if_neg hlarge]
      by_cases hsmall : (Numeral.log10 n : ℤ) + e < -400
      · refine ⟨0, zero_nearest (by positivity) (decimal_le_quantum n e hn' hsmall), ?_⟩
        rw [if_pos hsmall, if_pos hpositive]
      · rw [if_neg hsmall]
        exact ⟨_, hnearest, rfl⟩

end Binary64

namespace Literal

open Binary64

/-- The number which a literal denotes, without its sign. -/
def unsigned (l : Literal) : ℚ :=
  (Numeral.value (l.whole ++ l.places) : ℚ) * 10 ^ (l.exponent - l.places.length)

/-- The number which a literal denotes. -/
def value (l : Literal) : ℚ := signFactor l.negative * l.unsigned

theorem unsigned_nonneg (l : Literal) : 0 ≤ l.unsigned :=
  mul_nonneg (Nat.cast_nonneg _) (zpow_nonneg (by norm_num) _)

/-- The double of a literal is the point which its number is rounded to. -/
theorem double?_eq (l : Literal) : ∃ m : ℕ,
    (∀ k, |l.unsigned - gridValue m| ≤ |l.unsigned - gridValue k|) ∧
      l.double? = if m < infinityMagnitude
        then some (ofSignAndMagnitude l.negative m) else none := by
  unfold double? unsigned
  exact ofDecimal?_eq l.negative (Numeral.value (l.whole ++ l.places))
    (l.exponent - l.places.length)

/-- **A literal is read as the nearest double, with its sign.** -/
theorem double?_nearest {l : Literal} {v : Binary64} (h : l.double? = some v) :
    v.negative = l.negative ∧ Nearest l.value v := by
  obtain ⟨m, hnearest, heq⟩ := double?_eq l
  rw [heq] at h
  by_cases hfinite : m < infinityMagnitude
  · rw [if_pos hfinite] at h
    obtain rfl := Option.some.inj h
    obtain ⟨hsign, hmagnitude⟩ := parts_ofSignAndMagnitude l.negative hfinite
    refine ⟨hsign, ?_⟩
    refine nearest_of_grid ?_ hsign l.unsigned_nonneg ?_
    · rw [isFinite_iff, hmagnitude]
      exact hfinite
    · rw [hmagnitude]
      exact hnearest
  · rw [if_neg hfinite] at h
    cases h

/-- A literal which is nearer to the magnitude of a finite double than to any other point is
read as that double. -/
theorem double?_eq_some {l : Literal} {v : Binary64} (hfinite : v.isFinite = true)
    (hsign : l.negative = v.negative)
    (h : ∀ m, m ≠ v.magnitude → |l.unsigned - gridValue v.magnitude| < |l.unsigned - gridValue m|) :
    l.double? = some v := by
  obtain ⟨m, hnearest, heq⟩ := double?_eq l
  have hm : m = v.magnitude := by
    by_contra hne
    exact absurd (hnearest v.magnitude) (not_le.2 (h m hne))
  have hbound : m < infinityMagnitude := by
    rw [hm]
    exact (isFinite_iff v).1 hfinite
  rw [heq, if_pos hbound, hm, hsign, ofSignAndMagnitude_parts]

end Literal

end PrinterFirmware
