/-
  PrinterFirmware.Binary64.Scientific
  ───────────────────────────────────
  **THE SEVENTEEN DIGIT TEXT OF A DOUBLE.**

  A generated program states every number in scientific notation with one
  digit before the point, sixteen after it and a decimal exponent without
  padding, such as `-1.2500000000000000E-2`.  The digits are the exact value
  rounded once, to nearest with ties to even.  Seventeen digits tell all finite
  doubles apart.
-/
import PrinterFirmware.Binary64.Rounding

namespace PrinterFirmware.Binary64

/-- The decimal exponent of a positive fraction: the largest `e` with
`10 ^ e ≤ num / den`. -/
def decimalExponent (num den : Nat) : Int :=
  if den ≤ num then (Numeral.log10 (num / den) : Int)
  else -((Numeral.log10 ((den - 1) / num) : Int) + 1)

/-- Seventeen significant digits of a positive fraction as a whole number of
units `10 ^ (e − 16)`, with `e` the decimal exponent after rounding. -/
def significantDigits (num den : Nat) : Nat × Int :=
  let e := decimalExponent num den
  let units := roundHalfEven (num * Nat.pow 10 (16 - e).toNat) (den * Nat.pow 10 (e - 16).toNat)
  if units = 100000000000000000 then (10000000000000000, e + 1) else (units, e)

/-- The digits and the exponent of the magnitude of a finite number; zero has
exponent zero. -/
def magnitudeDigits (v : Binary64) : Nat × Int :=
  if v.numerator = 0 then (0, 0) else significantDigits v.numerator v.denominator

/-- Seventeen digits, filled up with zeros in front. -/
def seventeenDigits (units : Nat) : List Char :=
  let ds := Numeral.digits units
  List.replicate (17 - ds.length) '0' ++ ds

/-- The scientific notation of a double. -/
def scientificChars (v : Binary64) : List Char :=
  if v.isNaN then ['N', 'a', 'N']
  else
    let sign := if v.negative then ['-'] else []
    if v.isFinite then
      let (units, e) := v.magnitudeDigits
      let ds := seventeenDigits units
      sign ++ ds.take 1 ++ '.' :: ds.drop 1 ++ 'E' :: Numeral.signed e
    else sign ++ ['i', 'n', 'f']

/-- The text of a number in a generated program. -/
def scientific (v : Binary64) : String := String.ofList v.scientificChars

end PrinterFirmware.Binary64
