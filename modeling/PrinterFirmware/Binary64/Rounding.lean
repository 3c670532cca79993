/-
  PrinterFirmware.Binary64.Rounding
  ─────────────────────────────────
  **ROUNDING TO NEAREST, TIES TO EVEN.**

  One function rounds an exact fraction to a whole number.  Everything that
  rounds goes through it: the double nearest to a fraction, to a decimal
  numeral or to a whole number, and (in `Binary64.Scientific`) the seventeen
  digits a double is written with.
-/
import PrinterFirmware.Binary64
import PrinterFirmware.Numeral

namespace PrinterFirmware

/-- The whole number nearest to `num / den`; a tie goes to the even
neighbour. -/
def roundHalfEven (num den : Nat) : Nat :=
  let floor := num / den
  let rest := 2 * (num % den)
  if rest < den then floor
  else if den < rest then floor + 1
  else if floor % 2 = 0 then floor
  else floor + 1

namespace Binary64

/-- The magnitude bits from which on a number is infinite. -/
def infinityMagnitude : Nat := 2047 * exponentWeight

/-- The biased exponent of the binade which holds `num / den`, at least that
of the smallest numbers.  For `num < den` the binade is found from the largest
whole number below `den / num`. -/
def binadeOf (num den : Nat) : Nat :=
  if den ≤ num then Nat.log2 (num / den) + 1023
  else max 1 (1022 - Nat.log2 ((den - 1) / num))

/-- The magnitude bits of the double nearest to `num / den`.  Significands
round to even, and a significand rounded up to the next binade carries into
the exponent bits by itself. -/
def nearestMagnitude (num den : Nat) : Nat :=
  if num = 0 then 0
  else
    let binade := binadeOf num den
    (binade - 1) * exponentWeight
      + roundHalfEven (num * Nat.pow 2 (1075 - binade)) (den * Nat.pow 2 (binade - 1075))

/-- The double nearest to `± num / den`, or `none` if that is too large for
a finite one. -/
def ofRatio? (negative : Bool) (num den : Nat) : Option Binary64 :=
  let magnitude := nearestMagnitude num den
  if magnitude < infinityMagnitude then some (ofSignAndMagnitude negative magnitude)
  else none

/-- The double nearest to `± num / den`, infinite if that is too large. -/
def ofRatio (negative : Bool) (num den : Nat) : Binary64 :=
  ofSignAndMagnitude negative (min (nearestMagnitude num den) infinityMagnitude)

/-- The double nearest to a whole number. -/
def ofInt (n : Int) : Binary64 := ofRatio (n < 0) n.natAbs 1

/-- The double nearest to `± n · 10 ^ exponent`, or `none` if that is too
large for a finite one.  Numerals far outside the range of doubles are settled
by their magnitude alone, so that no huge power is ever computed. -/
def ofDecimal? (negative : Bool) (n : Nat) (exponent : Int) : Option Binary64 :=
  if n = 0 then some (ofSignAndMagnitude negative 0)
  else
    let leading := (Numeral.log10 n : Int) + exponent
    if 310 < leading then none
    else if leading < -400 then some (ofSignAndMagnitude negative 0)
    else ofRatio? negative (n * Nat.pow 10 exponent.toNat) (Nat.pow 10 (-exponent).toNat)

end Binary64

end PrinterFirmware
