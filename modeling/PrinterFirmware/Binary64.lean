/-
  PrinterFirmware.Binary64
  ────────────────────────
  **DOUBLE PRECISION NUMBERS AS EXACT FRACTIONS.**

  A double is its 64 bit word: one sign bit, eleven exponent bits and
  fifty-two fraction bits.  A finite double is, up to its sign, the exact
  fraction `numerator / denominator` of naturals; nothing in the library
  calculates with rounded arithmetic, so every statement about a number of a
  description is a statement about fractions.

      numerator / denominator = significand · 2 ^ (max exponent 1 − 1075)
-/

namespace PrinterFirmware

/-- A double precision number, given by its word. -/
structure Binary64 where
  word : UInt64
  deriving DecidableEq, Repr, Inhabited

namespace Binary64

/-! ## §1. The fields of the word. -/

/-- The weight of the sign bit, two to the sixty-third. -/
def signWeight : Nat := 9223372036854775808

/-- The weight of the lowest exponent bit, two to the fifty-second. -/
def exponentWeight : Nat := 4503599627370496

/-- Whether the sign bit is set. -/
def negative (v : Binary64) : Bool := signWeight ≤ v.word.toNat

/-- The eleven bits of the biased exponent. -/
def exponent (v : Binary64) : Nat := v.word.toNat / exponentWeight % 2048

/-- The fifty-two bits of the fraction. -/
def fraction (v : Binary64) : Nat := v.word.toNat % exponentWeight

/-- The largest exponent marks the infinities and the non-numbers. -/
def isFinite (v : Binary64) : Bool := v.exponent < 2047

def isNaN (v : Binary64) : Bool := v.exponent == 2047 && v.fraction != 0

/-! ## §2. The exact magnitude of a finite number. -/

/-- The fraction with the leading bit that all but the smallest numbers
imply. -/
def significand (v : Binary64) : Nat :=
  if v.exponent = 0 then v.fraction else exponentWeight + v.fraction

/-- Numerator of the exact magnitude. -/
def numerator (v : Binary64) : Nat :=
  v.significand * Nat.pow 2 (max v.exponent 1 - 1075)

/-- Denominator of the exact magnitude, a power of two. -/
def denominator (v : Binary64) : Nat := Nat.pow 2 (1075 - max v.exponent 1)

/-- The word of a sign and of the remaining sixty-three bits. -/
def ofSignAndMagnitude (negative : Bool) (magnitude : Nat) : Binary64 :=
  ⟨UInt64.ofNat ((if negative then signWeight else 0) + magnitude)⟩

end Binary64

end PrinterFirmware
