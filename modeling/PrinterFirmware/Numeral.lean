/-
  PrinterFirmware.Numeral
  ───────────────────────
  **DECIMAL NUMERALS.**

  The digits of a natural number, most significant first and without leading
  zeros, and the number that a run of digits stands for.  Every whole number
  of a generated program, of an error location and of a message is written
  through this module.

      value (digits n) = n          (`value_digits`)

  so a numeral determines its number.
-/

namespace PrinterFirmware.Numeral

/-! ## §1. Digits. -/

/-- The character of the decimal digit `d`, for `d < 10`. -/
def digitChar (d : Nat) : Char := Char.ofNat ('0'.toNat + d)

/-- An ASCII decimal digit. -/
def isDigit (c : Char) : Bool := '0' ≤ c && c ≤ '9'

/-- The number a decimal digit stands for. -/
def digitValue (c : Char) : Nat := c.toNat - '0'.toNat

/-- The decimal digits of `n`, most significant first; zero has one digit. -/
def digits (n : Nat) : List Char :=
  if n < 10 then [digitChar n] else digits (n / 10) ++ [digitChar (n % 10)]
termination_by n
decreasing_by omega

/-- The number written by a run of decimal digits. -/
def value (cs : List Char) : Nat :=
  cs.foldl (fun n c => 10 * n + digitValue c) 0

/-! ## §2. Whole numbers with a sign. -/

/-- A minus sign for negative numbers, then the digits of the magnitude. -/
def signed : Int → List Char
  | .ofNat n => digits n
  | .negSucc n => '-' :: digits (n + 1)

/-- The text of a natural number. -/
def ofNat (n : Nat) : String := String.ofList (digits n)

/-- The text of a whole number. -/
def ofInt (n : Int) : String := String.ofList (signed n)

/-- The largest `k` with `10 ^ k ≤ n`, and zero for zero. -/
def log10 (n : Nat) : Nat :=
  if n < 10 then 0 else log10 (n / 10) + 1
termination_by n
decreasing_by omega

/-! ## §3. Reading a numeral back. -/

theorem digitValue_digitChar {d : Nat} (h : d < 10) : digitValue (digitChar d) = d := by
  match d, h with
  | 0, _ | 1, _ | 2, _ | 3, _ | 4, _ | 5, _ | 6, _ | 7, _ | 8, _ | 9, _ => rfl

theorem value_append_singleton (cs : List Char) (c : Char) :
    value (cs ++ [c]) = 10 * value cs + digitValue c := by
  simp [value]

/-- Reading the digits of a number gives the number back. -/
theorem value_digits (n : Nat) : value (digits n) = n := by
  induction n using digits.induct with
  | case1 n h =>
    rw [digits, if_pos h]
    simp [value, digitValue_digitChar h]
  | case2 n h ih =>
    rw [digits, if_neg h, value_append_singleton, ih,
      digitValue_digitChar (Nat.mod_lt n (by omega))]
    omega

end PrinterFirmware.Numeral
