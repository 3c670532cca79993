/-
  PrinterFirmware.Proofs.DecimalLiteral
  ─────────────────────────────────────
  **READING A DECIMAL LITERAL.**

  A literal is read from the left: a sign, the digits up to the first character which is
  none, a point and more digits, and the power of ten.  Each part ends where the next one
  begins, so that a text which is put together from such parts is read as these parts.

  Main result: `ofChars?_parts`.
-/
import Mathlib.Data.List.TakeDrop
import Mathlib.Data.List.TakeWhile
import PrinterFirmware.Binary64.Literal
import PrinterFirmware.Proofs.Text

namespace PrinterFirmware

/-! ## §1. Digits. -/

namespace Numeral

theorem length_digits (n : Nat) : (digits n).length = log10 n + 1 := by
  induction n using digits.induct with
  | case1 n hlt => rw [digits, log10, if_pos hlt, if_pos hlt, List.length_singleton]
  | case2 n hge ih =>
      rw [digits, log10, if_neg hge, if_neg hge, List.length_append, ih, List.length_singleton]

/-- Zeros in front do not change the number. -/
theorem value_zeros (k : Nat) (ds : List Char) : value (List.replicate k '0' ++ ds) = value ds := by
  induction k with
  | zero => rfl
  | succ k ih =>
      rw [List.replicate_succ, List.cons_append]
      exact ih

/-- The text begins with a digit. -/
def BeginsWithDigit (cs : List Char) : Prop := ∃ ch, cs.head? = some ch ∧ isDigit ch = true

theorem beginsWithDigit_of_length {ds : List Char} (hlength : 0 < ds.length)
    (hds : ∀ ch ∈ ds, isDigit ch = true) : BeginsWithDigit ds := by
  cases ds with
  | nil => exact absurd hlength (by decide)
  | cons ch rest => exact ⟨ch, rfl, hds ch List.mem_cons_self⟩

theorem beginsWithDigit_digits (n : Nat) : BeginsWithDigit (digits n) := by
  refine beginsWithDigit_of_length ?_ (isDigit_digits n)
  rw [length_digits]
  omega

end Numeral

namespace Literal

open Numeral

/-! ## §2. The parts of a literal. -/

theorem takeSign_digit {cs : List Char} (h : BeginsWithDigit cs) : takeSign cs = (false, cs) := by
  obtain ⟨ch, hhead, hdigit⟩ := h
  unfold takeSign
  split
  · obtain rfl : '-' = ch := Option.some.inj hhead
    cases hdigit
  · obtain rfl : '+' = ch := Option.some.inj hhead
    cases hdigit
  · rfl

/-- Digits are read up to the first character which is none. -/
theorem takeDigits_append {ds rest : List Char} (hds : ∀ ch ∈ ds, isDigit ch = true)
    (hrest : ∀ ch ∈ rest.head?, isDigit ch = false) : takeDigits (ds ++ rest) = (ds, rest) := by
  unfold takeDigits
  rw [List.span_eq_takeWhile_dropWhile, List.takeWhile_append_of_pos hds,
    List.dropWhile_append_of_pos hds]
  cases rest with
  | nil => simp
  | cons ch cs => simp [hrest ch rfl]

theorem takeDigits_all {ds : List Char} (hds : ∀ ch ∈ ds, isDigit ch = true) :
    takeDigits ds = (ds, []) := by
  have hall : takeDigits (ds ++ []) = (ds, []) := takeDigits_append hds (by simp)
  rwa [List.append_nil] at hall

theorem takeExponent?_mark {cs ds : List Char} {negative : Bool}
    (hsign : takeSign cs = (negative, ds)) (hfirst : BeginsWithDigit ds)
    (hds : ∀ ch ∈ ds, isDigit ch = true) :
    takeExponent? ('E' :: cs) = some (if negative then -(Numeral.value ds : Int)
      else Numeral.value ds, []) := by
  obtain ⟨ch, hhead, -⟩ := hfirst
  cases ds with
  | nil => cases hhead
  | cons ch rest => simp [takeExponent?, hsign, takeDigits_all hds]

theorem takeExponent?_signed (e : Int) : takeExponent? ('E' :: signed e) = some (e, []) := by
  cases e with
  | ofNat n =>
      have hmark := takeExponent?_mark (takeSign_digit (beginsWithDigit_digits n))
        (beginsWithDigit_digits n) (isDigit_digits n)
      rw [value_digits] at hmark
      exact hmark
  | negSucc n =>
      have hsign : takeSign ('-' :: digits (n + 1)) = (true, digits (n + 1)) := rfl
      have hmark := takeExponent?_mark hsign (beginsWithDigit_digits (n + 1))
        (isDigit_digits (n + 1))
      rw [value_digits] at hmark
      exact hmark

/-! ## §3. The whole literal. -/

/-- **A sign, digits around a point and a power of ten are read as they are.** -/
theorem ofChars?_parts (negative : Bool) {whole places : List Char} (e : Int)
    (hfirst : BeginsWithDigit whole) (hwhole : ∀ ch ∈ whole, isDigit ch = true)
    (hplaces : ∀ ch ∈ places, isDigit ch = true) :
    ofChars? ((if negative then ['-'] else []) ++ whole ++ '.' :: places ++ 'E' :: signed e)
      = some ⟨negative, whole, places, e⟩ := by
  have hsign : takeSign ((if negative then ['-'] else []) ++ whole ++ '.' :: places
      ++ 'E' :: signed e) = (negative, whole ++ '.' :: (places ++ 'E' :: signed e)) := by
    cases negative with
    | true => simp [takeSign]
    | false =>
        obtain ⟨ch, hhead, hdigit⟩ := hfirst
        have hbegins : BeginsWithDigit (whole ++ '.' :: (places ++ 'E' :: signed e)) := by
          refine ⟨ch, ?_, hdigit⟩
          rw [List.head?_append, hhead, Option.some_or]
        simpa using takeSign_digit hbegins
  -- Digits are taken up to a character which is none: the point, and then the mark.
  have hpoint : takeDigits (whole ++ '.' :: (places ++ 'E' :: signed e))
      = (whole, '.' :: (places ++ 'E' :: signed e)) :=
    takeDigits_append hwhole (by simp; decide)
  have hmark : takeDigits (places ++ 'E' :: signed e) = (places, 'E' :: signed e) :=
    takeDigits_append hplaces (by simp; decide)
  have hne : whole.isEmpty = false := by
    obtain ⟨ch, hhead, -⟩ := hfirst
    cases whole with
    | nil => cases hhead
    | cons => rfl
  unfold ofChars?
  rw [hsign]
  simp [hpoint, hmark, hne, takeExponent?_signed]

end Literal

end PrinterFirmware
