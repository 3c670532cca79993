/-
  PrinterFirmware.Binary64.Literal
  ────────────────────────────────
  **DECIMAL LITERALS.**

  The shared core of all number syntaxes: a sign, decimal digits with a point
  somewhere among them, and a power of ten.  A literal denotes an exact decimal
  fraction; its double is the nearest one.
-/
import PrinterFirmware.Binary64.Rounding

namespace PrinterFirmware

/-- A decimal literal, by its parts. -/
structure Literal where
  negative : Bool
  /-- The digits before the point. -/
  whole : List Char
  /-- The digits after the point. -/
  places : List Char
  /-- The power of ten. -/
  exponent : Int
  deriving DecidableEq, Repr

namespace Literal

/-- The double nearest to the number which a literal denotes, or `none` if
that is too large for a finite one. -/
def double? (l : Literal) : Option Binary64 :=
  Binary64.ofDecimal? l.negative (Numeral.value (l.whole ++ l.places))
    (l.exponent - l.places.length)

/-! ## §1. Parts of a literal. -/

/-- The longest run of digits in front, and the rest. -/
def takeDigits (cs : List Char) : List Char × List Char := cs.span Numeral.isDigit

/-- An optional sign: whether it is a minus sign, and the rest. -/
def takeSign : List Char → Bool × List Char
  | '-' :: rest => (true, rest)
  | '+' :: rest => (false, rest)
  | cs => (false, cs)

/-- A power of ten after `e` or `E`, with an optional sign and at least one
digit; `none` if the mark is there and the digits are not.  Without the mark
the power is zero. -/
def takeExponent? : List Char → Option (Int × List Char)
  | [] => some (0, [])
  | c :: cs =>
      if c = 'e' ∨ c = 'E' then
        let (negative, rest) := takeSign cs
        match takeDigits rest with
        | ([], _) => none
        | (ds, rest) =>
            let n : Int := Numeral.value ds
            some (if negative then -n else n, rest)
      else some (0, c :: cs)

/-! ## §2. Free standing numerals. -/

/-- Reads a whole text as a decimal literal: an optional sign, digits with at
most one point before, among or after them, and an optional power of ten. -/
def ofChars? (cs : List Char) : Option Literal :=
  let (negative, rest) := takeSign cs
  let (whole, rest) := takeDigits rest
  let (places, rest) :=
    match rest with
    | '.' :: rest => takeDigits rest
    | rest => ([], rest)
  if whole.isEmpty && places.isEmpty then none
  else
    match takeExponent? rest with
    | some (exponent, []) => some ⟨negative, whole, places, exponent⟩
    | _ => none

end Literal

end PrinterFirmware
