/-
  PrinterFirmware.Proofs.ByteOrder
  ────────────────────────────────
  **STRINGS ARE ORDERED AS THEIR BYTES ARE.**

  Strings are compared character by character.  The lead byte of an encoded character
  grows with the number of bytes which follow, and every byte with its digits, so that
  a smaller character has the smaller code, whatever follows either of them.

      encode_lt    a smaller character has a smaller code
      bytes_lt     a smaller string has smaller bytes
-/
import Mathlib.Data.List.Lex
import Mathlib.Tactic.SplitIfs
import PrinterFirmware.Ascending

namespace PrinterFirmware.ByteOrder

/-! ## §1. Characters. -/

theorem toNat_lt (c : Char) : c.val.toNat < 0x110000 := by
  rcases c.valid with h | h
  · exact Nat.lt_trans h (by decide)
  · exact h.2

theorem ofNat_lt_ofNat {a b : Nat} (ha : a < 256) (hb : b < 256) :
    UInt8.ofNat a < UInt8.ofNat b ↔ a < b := by
  rw [UInt8.lt_iff_toNat_lt, UInt8.toNat_ofNat', UInt8.toNat_ofNat', Nat.mod_eq_of_lt ha,
    Nat.mod_eq_of_lt hb]

theorem ofNat_eq_ofNat {a b : Nat} (ha : a < 256) (hb : b < 256) :
    UInt8.ofNat a = UInt8.ofNat b ↔ a = b := by
  rw [← UInt8.toNat_inj, UInt8.toNat_ofNat', UInt8.toNat_ofNat', Nat.mod_eq_of_lt ha,
    Nat.mod_eq_of_lt hb]

/-- Four bytes are compared at the first digit which differs. -/
theorem four_digits_lt {m n : Nat} (h : m < n) (hn : n < 0x110000) (later : Prop) :
    m / 262144 % 8 + 240 < n / 262144 % 8 + 240 ∨
      m / 262144 % 8 + 240 = n / 262144 % 8 + 240 ∧
        (m / 4096 % 64 + 128 < n / 4096 % 64 + 128 ∨
          m / 4096 % 64 + 128 = n / 4096 % 64 + 128 ∧
            (m / 64 % 64 + 128 < n / 64 % 64 + 128 ∨
              m / 64 % 64 + 128 = n / 64 % 64 + 128 ∧
                (m % 64 + 128 < n % 64 + 128 ∨ m % 64 + 128 = n % 64 + 128 ∧ later))) := by
  rw [Nat.mod_eq_of_lt (show m / 262144 < 8 by omega),
    Nat.mod_eq_of_lt (show n / 262144 < 8 by omega)]
  by_cases hfirst : m / 262144 = n / 262144
  · by_cases hsecond : m / 4096 = n / 4096
    · by_cases hthird : m / 64 = n / 64
      · omega
      · omega
    · omega
  · omega

/-- A smaller character has a smaller code, whatever follows either of them. -/
theorem encode_lt {c d : Char} (h : c < d) (x y : List UInt8) :
    String.utf8EncodeChar c ++ x < String.utf8EncodeChar d ++ y := by
  have hlt : c.val.toNat < d.val.toNat := h
  have hd := toNat_lt d
  unfold String.utf8EncodeChar
  generalize c.val.toNat = m at *
  generalize d.val.toNat = n at *
  dsimp only
  by_cases hfour : m ≤ 0xffff
  · -- The number of bytes tells apart, or there are two digits or three.
    rw [if_pos hfour]
    split_ifs <;>
      simp (disch := omega) only [List.cons_append, List.nil_append, List.cons_lt_cons_iff,
        ofNat_lt_ofNat, ofNat_eq_ofNat] <;> omega
  · have hm : ¬m ≤ 0x7f ∧ ¬m ≤ 0x7ff := by omega
    have hn : ¬n ≤ 0x7f ∧ ¬n ≤ 0x7ff ∧ ¬n ≤ 0xffff := by omega
    rw [if_neg hm.1, if_neg hm.2, if_neg hfour, if_neg hn.1, if_neg hn.2.1, if_neg hn.2.2]
    simp (disch := omega) only [List.cons_append, List.nil_append, List.cons_lt_cons_iff,
      ofNat_lt_ofNat, ofNat_eq_ofNat]
    exact four_digits_lt hlt hd _

/-! ## §2. Strings. -/

/-- The bytes of a string. -/
def bytes (s : String) : List UInt8 := s.toUTF8.data.toList

theorem bytes_eq (s : String) : bytes s = s.toList.flatMap String.utf8EncodeChar := by
  unfold bytes String.toUTF8
  rw [← String.utf8Encode_toList, List.utf8Encode, List.toList_data_toByteArray]

theorem flatMap_encode_lt {cs ds : List Char} (h : cs < ds) :
    cs.flatMap String.utf8EncodeChar < ds.flatMap String.utf8EncodeChar := by
  induction h with
  | @nil d ds =>
      have hlength : 0 < (String.utf8EncodeChar d).length := by
        rw [String.length_utf8EncodeChar]
        exact d.utf8Size_pos
      obtain ⟨b, rest, hcode⟩ := List.exists_cons_of_length_pos hlength
      rw [List.flatMap_nil, List.flatMap_cons, hcode]
      exact List.nil_lt_cons b _
  | @rel c cs d ds hlt =>
      rw [List.flatMap_cons, List.flatMap_cons]
      exact encode_lt hlt _ _
  | @cons c cs ds _ ih =>
      rw [List.flatMap_cons, List.flatMap_cons]
      exact List.append_left_lt ih

/-- A smaller string has smaller bytes. -/
theorem bytes_lt {s t : String} (h : s < t) : bytes s < bytes t := by
  rw [bytes_eq, bytes_eq]
  exact flatMap_encode_lt (String.lt_iff.1 h)

end PrinterFirmware.ByteOrder
