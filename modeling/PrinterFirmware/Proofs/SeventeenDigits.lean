/-
  PrinterFirmware.Proofs.SeventeenDigits
  ──────────────────────────────────────
  **SEVENTEEN DIGITS TELL ALL FINITE DOUBLES APART.**

  The text of a double is off by at most one half in the last of its seventeen digits,
  and its first digit is not zero: the error is at most the number over `2 · 10 ^ 16`.
  Two doubles are further apart than the number over `10 ^ 16`.  They are, because a
  significand is less than `2 ^ 53`, and the gap below a power of two, which is only
  half as wide, is next to the significand `2 ^ 52`.

      significantDigits_near   the error of the digits
      gridValue_separated      the distance of two points
      ofChars?_scientific      the text is read as the digits which it was made of
      literal_nearer           the number of a text is nearer to its double than to others

  Main result: `scientific_faithful`.
-/
import PrinterFirmware.Binary64.Scientific
import PrinterFirmware.Proofs.DecimalLiteral
import PrinterFirmware.Proofs.Rounding

namespace PrinterFirmware

namespace Binary64

/-! ## §1. The error of seventeen digits. -/

section Digits

variable {num den : ℕ}

/-- The decimal exponent is that of the first digit. -/
theorem decimalExponent_bounds (hnum : 0 < num) (hden : 0 < den) :
    (10 : ℚ) ^ decimalExponent num den ≤ (num : ℚ) / den ∧
      (num : ℚ) / den < 10 ^ (decimalExponent num den + 1) := by
  unfold decimalExponent
  by_cases hle : den ≤ num
  · rw [if_pos hle]
    obtain ⟨hlow, hhigh⟩ := Numeral.log10_bounds (Nat.div_pos hle hden)
    have hbounds := pow_bounds_of_floor hden hlow hhigh
    rw [Nat.cast_ofNat] at hbounds
    exact hbounds
  · rw [if_neg hle]
    obtain ⟨hlow, hhigh⟩ := Numeral.log10_bounds (Nat.div_pos (by omega : num ≤ den - 1) hnum)
    have hbounds := pow_bounds_of_inverse hnum hden (by omega) hlow hhigh
    rw [Nat.cast_ofNat] at hbounds
    generalize Numeral.log10 ((den - 1) / num) = k at *
    rw [show -((k : ℤ) + 1) + 1 = -k by omega, show -((k : ℤ) + 1) = -k - 1 by omega]
    exact hbounds

/-- The rounded number of units, before a carry into an eighteenth digit is moved to the
exponent. -/
theorem roundedUnits_bounds (hnum : 0 < num) (hden : 0 < den) :
    ∃ r : ℕ, 10 ^ 16 ≤ r ∧ r ≤ 10 ^ 17 ∧
      2 * |(num : ℚ) / den - r * 10 ^ (decimalExponent num den - 16)|
        ≤ 10 ^ (decimalExponent num den - 16) ∧
      significantDigits num den = if r = 10 ^ 17 then (10 ^ 16, decimalExponent num den + 1)
        else (r, decimalExponent num den) := by
  obtain ⟨hlow, hhigh⟩ := decimalExponent_bounds hnum hden
  unfold significantDigits
  generalize decimalExponent num den = e at *
  have hunit : (0 : ℚ) < 10 ^ (e - 16) := zpow_pos (by norm_num) _
  have hshift : ∀ k : ℕ, (10 : ℚ) ^ (e - 16 + k) = 10 ^ k * 10 ^ (e - 16) := by
    intro k
    rw [zpow_add₀ (by norm_num), zpow_natCast, mul_comm]
  have hfirst := hshift 16
  have hlast := hshift 17
  rw [show e - 16 + (16 : ℕ) = e by omega] at hfirst
  rw [show e - 16 + (17 : ℕ) = e + 1 by omega] at hlast
  have hden' : 0 < den * Nat.pow 10 (e - 16).toNat := Nat.mul_pos hden (Nat.pow_pos (by omega))
  have hscaled : ((num * Nat.pow 10 (16 - e).toNat : ℕ) : ℚ)
      / (den * Nat.pow 10 (e - 16).toNat : ℕ) = (num : ℚ) / den / 10 ^ (e - 16) := by
    rw [scaled_fraction (by omega), Nat.cast_ofNat,
      show ((e - 16).toNat : ℤ) - (16 - e).toNat = e - 16 by omega]
  have hnear := roundHalfEven_mul_near (num * Nat.pow 10 (16 - e).toNat) hden' hunit hscaled
  -- Both bounds are integers, so rounding does not cross them.
  have hge := le_roundHalfEven (n := 10 ^ 16) (num * Nat.pow 10 (16 - e).toNat) hden'
  have hle := roundHalfEven_le (n := 10 ^ 17) (num * Nat.pow 10 (16 - e).toNat) hden'
  rw [hscaled] at hge hle
  refine ⟨_, hge ?_, hle ?_, hnear, rfl⟩
  · rw [le_div_iff₀ hunit]
    push_cast
    linarith
  · rw [div_le_iff₀ hunit]
    push_cast
    linarith

/-- **Seventeen digits, the first of which is not zero, are off by half a unit at most.** -/
theorem significantDigits_near (hnum : 0 < num) (hden : 0 < den) :
    ∃ units e, significantDigits num den = (units, e) ∧ 10 ^ 16 ≤ units ∧ units < 10 ^ 17 ∧
      2 * 10 ^ 16 * |(num : ℚ) / den - units * 10 ^ (e - 16)| ≤ (num : ℚ) / den := by
  obtain ⟨hlow, -⟩ := decimalExponent_bounds hnum hden
  obtain ⟨r, hge, hle, hnear, heq⟩ := roundedUnits_bounds hnum hden
  generalize decimalExponent num den = e at *
  have hfirst : (10 : ℚ) ^ e = 10 ^ 16 * 10 ^ (e - 16) := by
    rw [← zpow_natCast, ← zpow_add₀ (by norm_num), show ((16 : ℕ) : ℤ) + (e - 16) = e by omega]
  by_cases hcarry : r = 10 ^ 17
  · rw [if_pos hcarry] at heq
    -- Ten to the seventeenth units are ten to the sixteenth units which are ten times as large.
    have hunit : ((10 ^ 16 : ℕ) : ℚ) * 10 ^ (e + 1 - 16) = r * 10 ^ (e - 16) := by
      rw [hcarry, show e + 1 - 16 = e - 16 + 1 by omega, zpow_add_one₀ (by norm_num)]
      push_cast
      ring
    refine ⟨10 ^ 16, e + 1, heq, by norm_num, by norm_num, ?_⟩
    rw [hunit]
    linarith
  · rw [if_neg hcarry] at heq
    refine ⟨r, e, heq, hge, lt_of_le_of_ne hle hcarry, ?_⟩
    linarith

/-- The double nearest to `10 ^ (-14)` is below it, and its digits carry. -/
example : (ofRatio false 1 100000000000000).scientific = "1.0000000000000000E-14" := by
  decide +kernel

end Digits

/-! ## §2. The distance of two points. -/

/-- **Two points are further apart than the one over `10 ^ 16`.** -/
theorem gridValue_separated {m m' : ℕ} (hne : m ≠ m') :
    gridValue m < 10 ^ 16 * |gridValue m - gridValue m'| := by
  have hquantum := quantum_pos (gridBinade m)
  by_cases hbinade : gridBinade m ≤ gridBinade m'
  · -- The points are different multiples of the quantum.
    obtain ⟨k, hk⟩ := gridValue_multiple hbinade
    have hkne : gridSignificand m ≠ k := by
      intro heq
      apply hne
      apply gridValue_strictMono.injective
      rw [hk, ← heq, gridValue]
    have hone := one_le_abs_sub hkne
    have hsignificand : (gridSignificand m : ℚ) < 10 ^ 16 := by
      have hlt := gridSignificand_lt m
      unfold exponentWeight at hlt
      have hlt' : gridSignificand m < 10 ^ 16 := by omega
      exact_mod_cast hlt'
    rw [hk, gridValue, ← sub_mul, abs_mul, abs_of_pos hquantum, ← mul_assoc]
    exact mul_lt_mul_of_pos_right (by linarith) hquantum
  · -- The other point is in a lower binade.
    have hfirst := gridBinade_pos m'
    have hbelow := gridValue_below (Nat.lt_of_not_le hbinade)
    have hsignificand : (exponentWeight : ℚ) ≤ gridSignificand m := by
      exact_mod_cast le_gridSignificand (by omega)
    have hlow : exponentWeight * quantum (gridBinade m) ≤ gridValue m :=
      mul_le_mul_of_nonneg_right hsignificand hquantum.le
    have hdistance := le_abs_self (gridValue m - gridValue m')
    have hweight : (exponentWeight : ℚ) = 4503599627370496 := by norm_num [exponentWeight]
    rw [hweight] at hbelow hlow
    linarith

/-! ## §3. The number of a text. -/

theorem value_seventeenDigits (units : ℕ) : Numeral.value (seventeenDigits units) = units := by
  rw [seventeenDigits, Numeral.value_zeros, Numeral.value_digits]

theorem length_seventeenDigits {units : ℕ} (h : units < 10 ^ 17) :
    (seventeenDigits units).length = 17 := by
  have hdigits : Numeral.log10 units < 17 := by
    by_cases hzero : units = 0
    · rw [hzero, Numeral.log10, if_pos (by omega)]
      omega
    · have hlow := (Numeral.log10_bounds (Nat.pos_of_ne_zero hzero)).1
      exact (Nat.pow_lt_pow_iff_right (by omega)).1 (hlow.trans_lt h)
  unfold seventeenDigits
  simp only [List.length_append, List.length_replicate, Numeral.length_digits]
  omega

/-- The literal which the text of a finite double is. -/
def literal (v : Binary64) : Literal :=
  ⟨v.negative, (seventeenDigits v.magnitudeDigits.1).take 1,
    (seventeenDigits v.magnitudeDigits.1).drop 1, v.magnitudeDigits.2⟩

/-- The digits of a finite double are off by a small part of it. -/
theorem magnitudeDigits_near (v : Binary64) :
    v.magnitudeDigits.1 < 10 ^ 17 ∧
      2 * 10 ^ 16 * |gridValue v.magnitude
        - v.magnitudeDigits.1 * 10 ^ (v.magnitudeDigits.2 - 16)| ≤ gridValue v.magnitude := by
  have hden : 0 < v.denominator := Nat.pow_pos (by omega)
  rw [← gridValue_magnitude]
  unfold magnitudeDigits
  by_cases hnum : v.numerator = 0
  · rw [if_pos hnum, hnum]
    simp
  · rw [if_neg hnum]
    obtain ⟨units, e, heq, -, hlt, hnear⟩ := significantDigits_near (Nat.pos_of_ne_zero hnum) hden
    rw [heq]
    exact ⟨hlt, hnear⟩

theorem ofChars?_scientific {v : Binary64} (h : v.isFinite = true) :
    Literal.ofChars? v.scientific.toList = some v.literal := by
  have hnan : v.isNaN = false := by
    unfold isFinite at h
    unfold isNaN
    rw [decide_eq_true_eq] at h
    simp [h.ne]
  have hdigits := isDigit_seventeenDigits v.magnitudeDigits.1
  have hlength := length_seventeenDigits v.magnitudeDigits_near.1
  have htext : v.scientificChars = (if v.negative then ['-'] else [])
      ++ (seventeenDigits v.magnitudeDigits.1).take 1
      ++ '.' :: (seventeenDigits v.magnitudeDigits.1).drop 1
      ++ 'E' :: Numeral.signed v.magnitudeDigits.2 := by
    simp [scientificChars, hnan, h]
  rw [scientific, String.toList_ofList, htext, literal]
  refine Literal.ofChars?_parts v.negative v.magnitudeDigits.2 ?_
    (fun ch hch => hdigits ch (List.mem_of_mem_take hch))
    (fun ch hch => hdigits ch (List.mem_of_mem_drop hch))
  refine Numeral.beginsWithDigit_of_length ?_ (fun ch hch => hdigits ch (List.mem_of_mem_take hch))
  rw [List.length_take, hlength]
  omega

theorem length_literal (v : Binary64) :
    v.literal.whole.length = 1 ∧ v.literal.places.length = 16 := by
  have hlength := length_seventeenDigits v.magnitudeDigits_near.1
  unfold literal
  simp only [List.length_take, List.length_drop]
  omega

theorem unsigned_literal (v : Binary64) :
    v.literal.unsigned = v.magnitudeDigits.1 * 10 ^ (v.magnitudeDigits.2 - 16) := by
  rw [Literal.unsigned, v.length_literal.2]
  unfold literal
  rw [List.take_append_drop, value_seventeenDigits, Nat.cast_ofNat]

theorem literal_near (v : Binary64) :
    2 * 10 ^ 16 * |v.literal.unsigned - gridValue v.magnitude| ≤ gridValue v.magnitude := by
  rw [unsigned_literal, abs_sub_comm]
  exact v.magnitudeDigits_near.2

/-- **The number of a text is nearer to its double than to any other point.** -/
theorem literal_nearer (v : Binary64) {m : ℕ} (hm : m ≠ v.magnitude) :
    |v.literal.unsigned - gridValue v.magnitude| < |v.literal.unsigned - gridValue m| := by
  have hnear := v.literal_near
  have hseparated := gridValue_separated hm.symm
  have htriangle := abs_sub_le (gridValue v.magnitude) v.literal.unsigned (gridValue m)
  rw [abs_sub_comm (gridValue v.magnitude) v.literal.unsigned] at htriangle
  linarith

/-! ## §4. What a text tells. -/

/-- A double is known by its sign and the number it stands for. -/
theorem eq_of_value_eq {v w : Binary64} (hsign : v.negative = w.negative)
    (h : v.value = w.value) : v = w := by
  rw [value_eq, value_eq, hsign] at h
  have hzero := abs_signFactor_sub w.negative (gridValue v.magnitude) (gridValue w.magnitude)
  rw [h, sub_self, abs_zero] at hzero
  have hmagnitude := gridValue_strictMono.injective (sub_eq_zero.1 (abs_eq_zero.1 hzero.symm))
  rw [← ofSignAndMagnitude_parts v, ← ofSignAndMagnitude_parts w, hsign, hmagnitude]

/-- Only the two zeros are different doubles of one value. -/
theorem value_eq_zero_of_ne {v w : Binary64} (hne : w ≠ v) (h : w.value = v.value) :
    v.value = 0 ∧ w.value = 0 := by
  have hsign : v.negative ≠ w.negative := fun hsign => hne (eq_of_value_eq hsign.symm h)
  have hv := gridValue_nonneg v.magnitude
  have hw := gridValue_nonneg w.magnitude
  have hdistance := abs_signFactor_sub_of_ne hsign hv hw
  rw [← value_eq, ← value_eq, h, sub_self, abs_zero] at hdistance
  have hzero : gridValue v.magnitude = 0 := by linarith
  have hvalue : v.value = 0 := by rw [value_eq, hzero, mul_zero]
  exact ⟨hvalue, h.trans hvalue⟩

/-- The number of a text is nearer to its double than to every double of another value. -/
theorem literal_closer {v w : Binary64} (h : w.value ≠ v.value) :
    |v.literal.value - v.value| < |v.literal.value - w.value| := by
  have hliteral : v.literal.value = signFactor v.negative * v.literal.unsigned := rfl
  rw [hliteral, value_eq v, value_eq w, abs_signFactor_sub]
  by_cases hsign : v.negative = w.negative
  · rw [← hsign, abs_signFactor_sub]
    refine v.literal_nearer fun hmagnitude => h ?_
    rw [value_eq, value_eq, hsign, hmagnitude]
  · have hv := gridValue_nonneg v.magnitude
    have hw := gridValue_nonneg w.magnitude
    have hsum : 0 < gridValue v.magnitude + gridValue w.magnitude := by
      rw [← abs_signFactor_sub_of_ne hsign hv hw, ← value_eq, ← value_eq]
      exact abs_pos.2 (sub_ne_zero.2 h.symm)
    have hnear := v.literal_near
    have hlow := neg_abs_le (v.literal.unsigned - gridValue v.magnitude)
    rw [abs_signFactor_sub_of_ne hsign v.literal.unsigned_nonneg hw]
    linarith

end Binary64

/-- What a literal tells of a finite double. -/
structure Literal.Tells (l : Literal) (v : Binary64) : Prop where
  /-- One digit stands before the point and sixteen after it. -/
  digits : l.whole.length = 1 ∧ l.places.length = 16
  sign : l.negative = v.negative
  /-- Its number is nearer to the double than to any other one, but for the other zero. -/
  closer : ∀ w : Binary64, w.isFinite = true → w ≠ v → ¬ (v.value = 0 ∧ w.value = 0) →
    |l.value - v.value| < |l.value - w.value|
  /-- The double is the only one with its sign which the number can be rounded to. -/
  nearest : ∀ w : Binary64, Binary64.Nearest l.value w ∧ w.negative = l.negative ↔ w = v
  read : l.double? = some v

namespace Binary64

theorem literal_tells {v : Binary64} (h : v.isFinite = true) : v.literal.Tells v := by
  refine ⟨v.length_literal, rfl, ?_, ?_, ?_⟩
  · intro w _ hne hzeros
    exact literal_closer fun hvalue => hzeros (value_eq_zero_of_ne hne hvalue)
  · intro w
    constructor
    · intro h'
      obtain ⟨⟨-, hnearest⟩, hsign⟩ := h'
      by_contra hne
      have hvalue : w.value ≠ v.value := fun hvalue => hne (eq_of_value_eq hsign hvalue)
      exact absurd (hnearest v h) (not_le.2 (literal_closer hvalue))
    · rintro rfl
      refine ⟨⟨h, fun u _ => ?_⟩, rfl⟩
      by_cases hvalue : u.value = w.value
      · rw [hvalue]
      · exact (literal_closer hvalue).le
  · exact Literal.double?_eq_some h rfl fun m hm => v.literal_nearer hm

/-- **The text of a finite double tells it apart from all others**: its number is nearest to the
double, reading it gives the double back, and no other finite double has the text. -/
theorem scientific_faithful {v : Binary64} (h : v.isFinite = true) :
    (∃ l, Literal.ofChars? v.scientific.toList = some l ∧ l.Tells v) ∧
      ∀ w : Binary64, w.isFinite = true → w.scientific = v.scientific → w = v := by
  refine ⟨⟨v.literal, ofChars?_scientific h, literal_tells h⟩, fun w hw htext => ?_⟩
  have hliteral : w.literal = v.literal := by
    have hread := ofChars?_scientific hw
    rw [htext, ofChars?_scientific h] at hread
    exact (Option.some.inj hread).symm
  have hdouble := (literal_tells hw).read
  rw [hliteral, (literal_tells h).read] at hdouble
  exact (Option.some.inj hdouble).symm

/-- The least normal number, below which the gap does not shrink, with its sign set. -/
theorem negative_leastNormal_faithful :
    let v : Binary64 := ⟨0x8010000000000000⟩
    v.isFinite = true ∧
      (∃ l, Literal.ofChars? v.scientific.toList = some l ∧ l.Tells v) ∧
        ∀ w : Binary64, w.isFinite = true → w.scientific = v.scientific → w = v := by
  intro v
  have hfinite : v.isFinite = true := by decide
  exact ⟨hfinite, scientific_faithful hfinite⟩

end Binary64

end PrinterFirmware
