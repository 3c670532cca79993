/-
  PrinterFirmware.Document.Value
  ──────────────────────────────
  **DOCUMENTS.**

  The value model which descriptions of every format are read into.  Whole
  numbers and doubles are kept apart, as they are in the text: `5` is whole and
  `5.0` is not.  The fields of an object are in ascending order of their keys,
  each key once.
-/
import PrinterFirmware.Ascending
import PrinterFirmware.Binary64.Rounding

namespace PrinterFirmware.Document

/-- Whole numbers of 64 bits with a sign lie below this, two to the sixty-third,
and not below its opposite. -/
def signedBound : Int := 9223372036854775808

/-- Whole numbers of 64 bits without a sign lie below this, two to the
sixty-fourth. -/
def unsignedBound : Int := 18446744073709551616

/-- The number which a word of 64 bits stands for when its highest bit is a sign:
from `signedBound` on, the words are the negative numbers in order. -/
def signedOfWord (w : Nat) : Int :=
  if (w : Int) < signedBound then w else w - unsignedBound

/-- The word of 64 bits which stands for a number that has a sign. -/
def wordOfSigned (n : Int) : Nat := (if n < 0 then n + unsignedBound else n).toNat

/-- A word without its highest bit is the number itself. -/
theorem signedOfWord_of_lt {w : Nat} (h : (w : Int) < signedBound) : signedOfWord w = w := by
  simp [signedOfWord, h]

/-- A number without a sign is its own word. -/
theorem wordOfSigned_natCast (w : Nat) : wordOfSigned w = w := by
  have h : ¬ (w : Int) < 0 := by omega
  simp [wordOfSigned, h]

/-- A document, or a part of one. -/
inductive Value where
  | null
  | bool (b : Bool)
  | int (n : Int)
  | number (v : Binary64)
  | string (s : String)
  | list (elems : List Value)
  | object (fields : List (String × Value))
  deriving Inhabited, Repr

namespace Value

/-- The object with the given fields; of two fields with one key the later one
counts. -/
def ofFields (fields : List (String × Value)) : Value := .object (Ascending.mapOf fields)

/-- The field `key` of an object. -/
def field? (v : Value) (key : String) : Option Value :=
  match v with
  | .object fields => fields.lookup key
  | _ => none

def isObject : Value → Bool
  | .object _ => true
  | _ => false

/-! ## §1. Leaves. -/

def string? : Value → Option String
  | .string s => some s
  | _ => none

def bool? : Value → Option Bool
  | .bool b => some b
  | _ => none

def list? : Value → Option (List Value)
  | .list elems => some elems
  | _ => none

/-- A whole number in the range of 64 bits with a sign. -/
def int64? : Value → Option Int
  | .int n => if -signedBound ≤ n ∧ n < signedBound then some n else none
  | _ => none

/-- A number, as a double; whole numbers are converted to the nearest one. -/
def number? : Value → Option Binary64
  | .int n => some (Binary64.ofInt n)
  | .number v => some v
  | _ => none

end Value

end PrinterFirmware.Document
