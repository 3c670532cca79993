/-
  PrinterFirmware.Document.Yaml.Scalar
  ────────────────────────────────────
  **WHAT A SCALAR STANDS FOR.**

  A plain scalar without a tag is resolved by its text: `~` and `null`, `true` and
  `false`, whole numbers in four bases, decimal numbers, and strings for all the
  rest.  Only these spellings count; `True` and `yes` are strings, and so are digits
  after a leading zero.  A whole number in base ten which fits into 128 bits, with
  or without a sign, but not into 64 is an error; a longer one is read as a decimal
  number.  A number without a finite double becomes a string, or nothing if it is
  spelled as infinite or as not a number.
-/
import PrinterFirmware.Binary64.Literal
import PrinterFirmware.Document.Value

namespace PrinterFirmware.Document.Yaml

/-! ## §1. Numerals. -/

/-- The value of a digit in a base up to sixteen. -/
def digitIn? (base : Nat) (c : Char) : Option Nat :=
  let d :=
    if Numeral.isDigit c then some (c.toNat - '0'.toNat)
    else if 'a' ≤ c && c ≤ 'f' then some (c.toNat - 'a'.toNat + 10)
    else if 'A' ≤ c && c ≤ 'F' then some (c.toNat - 'A'.toNat + 10)
    else none
  d.filter (· < base)

/-- The number written by one or more digits in a base. -/
def digitsIn? (base : Nat) : List Char → Option Nat
  | [] => none
  | cs => cs.foldlM (fun n c => (digitIn? base c).map (base * n + ·)) 0

/-- Digits with an optional plus sign. -/
def unsignedIn? (base : Nat) : List Char → Option Nat
  | '+' :: cs => digitsIn? base cs
  | cs => digitsIn? base cs

/-- The base which a text is marked with, and the text after the mark. -/
def baseMark? : List Char → Option (Nat × List Char)
  | '0' :: 'x' :: cs => some (16, cs)
  | '0' :: 'o' :: cs => some (8, cs)
  | '0' :: 'b' :: cs => some (2, cs)
  | _ => none

/-- The whole number of a numeral with a base mark after an optional sign, if it
fits into 64 bits. -/
def marked? : List Char → Option Int
  | '-' :: cs => do
      let (base, rest) ← baseMark? cs
      let n ← digitsIn? base rest
      if (n : Int) ≤ signedBound then some (-(n : Int)) else none
  | cs => do
      let (base, rest) ← baseMark? (match cs with | '+' :: rest => rest | cs => cs)
      let n ← unsignedIn? base rest
      if (n : Int) < unsignedBound then some (n : Int) else none

/-- Two or more digits, the first of which is a zero, after an optional sign. -/
def hasLeadingZero (cs : List Char) : Bool :=
  match (Literal.takeSign cs).2 with
  | '0' :: c :: rest => (c :: rest).all Numeral.isDigit
  | _ => false

/-- A whole number in base ten: an optional sign and digits. -/
def decimal? : List Char → Option Int
  | '-' :: cs => (digitsIn? 10 cs).map fun n => -(n : Int)
  | cs => (unsignedIn? 10 cs).map fun n => (n : Int)

/-- The words for infinite numbers and for those which are none, in lower
case. -/
def numberWords : List String := ["inf", "infinity", "nan"]

/-- A word for a number without a finite double, in any case, after an optional
sign. -/
def isNumberWord (cs : List Char) : Bool :=
  numberWords.contains (String.ofList ((Literal.takeSign cs).2.map Char.toLower))

/-- Whether a text reads as a decimal number or as a word for one. -/
def readsAsNumber (s : String) : Bool :=
  (Literal.ofChars? s.toList).isSome || isNumberWord s.toList

/-! ## §2. Resolution. -/

/-- The spellings of infinite numbers and of those which are none. -/
def isNonFinite (cs : List Char) : Bool :=
  [".inf", ".Inf", ".INF"].contains (String.ofList (cs.dropWhile (· == '+')))
    || ["-.inf", "-.Inf", "-.INF", ".nan", ".NaN", ".NAN"].contains (String.ofList cs)

/-- A text as a decimal number, or as a string if it is none. -/
def numberOrString (s : String) : Value :=
  match (Literal.ofChars? s.toList).bind Literal.double? with
  | some v => .number v
  | none => .string s

/-- Two to the hundred and twenty-seventh. -/
def wideSignedBound : Int := 170141183460469231731687303715884105728

/-- Two to the hundred and twenty-eighth. -/
def wideUnsignedBound : Int := 340282366920938463463374607431768211456

/-- What a plain scalar without a tag stands for. -/
def resolve? (s : String) : Option Value :=
  let cs := s.toList
  if s = "~" ∨ s = "null" then some .null
  else if s = "true" then some (.bool true)
  else if s = "false" then some (.bool false)
  else
    match marked? cs with
    | some n => some (.int n)
    | none =>
        if hasLeadingZero cs then some (.string s)
        else
          match decimal? cs with
          | some n =>
              if -signedBound ≤ n ∧ n < unsignedBound then some (.int n)
              else if -wideSignedBound ≤ n ∧ n < wideUnsignedBound then none
              else some (numberOrString s)
          | none => some (if isNonFinite cs then .null else numberOrString s)

/-- A tag: its handle and its suffix. -/
structure Tag where
  handle : String
  suffix : String
  deriving DecidableEq, Repr

/-- What a scalar with a tag stands for.  The standard tags read its text in
their way; all others leave it a string. -/
def resolveTagged? (tag : Tag) (s : String) : Option Value :=
  if tag.handle ≠ "!!" then some (.string s)
  else if tag.suffix = "bool" then
    if s = "true" then some (.bool true) else if s = "false" then some (.bool false) else none
  else if tag.suffix = "int" then
    match decimal? s.toList with
    | some n => if -signedBound ≤ n ∧ n < signedBound then some (.int n) else none
    | none => none
  else if tag.suffix = "float" then
    if isNumberWord s.toList then some .null
    else (Literal.ofChars? s.toList).map fun l =>
      match l.double? with
      | some v => .number v
      | none => .null
  else if tag.suffix = "null" then
    if s = "~" ∨ s = "null" then some .null else none
  else some (.string s)

end PrinterFirmware.Document.Yaml
