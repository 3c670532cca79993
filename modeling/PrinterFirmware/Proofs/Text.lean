/-
  PrinterFirmware.Proofs.Text
  ───────────────────────────
  **TEXT WHICH CANNOT BREAK OUT OF ITS PLACE.**

  Words of a description are copied into the source of a program.  A text stays in its
  place if all its characters are harmless and all its brackets match.  Matching is a
  walk over the text which keeps the closing brackets that are still owed:

      nest owed text = some owed'   every closing bracket of the text is the one owed
                                    last, and after the text `owed'` are owed

  `Written ok owed text owed'` adds that all characters pass the check `ok`.  Such texts
  can be put together wherever what one owes is what the next begins with, and a text
  which owes nothing before and after can stand anywhere.

  The words which the grammars of a description accept owe nothing, and neither do
  numerals.
-/
import Mathlib.Data.List.Basic
import PrinterFirmware.Binary64.Scientific
import PrinterFirmware.Naming.Pin

namespace PrinterFirmware

open Naming

/-! ## §1. Matching brackets. -/

/-- The bracket which closes an opening one. -/
def closer? (ch : Char) : Option Char :=
  if ch = '<' then some '>'
  else if ch = '(' then some ')'
  else if ch = '\x7b' then some '\x7d'
  else none

/-- Whether a character closes a bracket. -/
def isCloser (ch : Char) : Bool := ch == '>' || ch == ')' || ch == '\x7d'

/-- What is owed after a closing bracket, which has to be the one owed last. -/
def settle (ch : Char) : List Char → Option (List Char)
  | [] => none
  | closer :: owed => if closer = ch then some owed else none

/-- What is owed after one more character. -/
def nestStep (owed : List Char) (ch : Char) : Option (List Char) :=
  match closer? ch with
  | some closer => some (closer :: owed)
  | none => if isCloser ch then settle ch owed else some owed

/-- What is owed after a text. -/
def nest (owed text : List Char) : Option (List Char) := text.foldlM nestStep owed

theorem nest_append (owed text text' : List Char) :
    nest owed (text ++ text') = (nest owed text).bind fun owed' => nest owed' text' :=
  List.foldlM_append

theorem settle_widen {ch : Char} {owed owed' : List Char} (h : settle ch owed = some owed')
    (more : List Char) : settle ch (owed ++ more) = some (owed' ++ more) := by
  cases owed with
  | nil => cases h
  | cons closer rest =>
      have h : (if closer = ch then some rest else none) = some owed' := h
      show (if closer = ch then some (rest ++ more) else none) = _
      by_cases heq : closer = ch
      · rw [if_pos heq] at h ⊢
        injection h with h
        rw [h]
      · rw [if_neg heq] at h
        cases h

theorem nestStep_widen {owed owed' : List Char} {ch : Char}
    (h : nestStep owed ch = some owed') (more : List Char) :
    nestStep (owed ++ more) ch = some (owed' ++ more) := by
  unfold nestStep at h ⊢
  cases hopen : closer? ch with
  | some closer =>
      simp only [hopen, Option.some.injEq] at h ⊢
      rw [← h]
      rfl
  | none =>
      simp only [hopen] at h ⊢
      by_cases hclose : isCloser ch = true
      · rw [if_pos hclose] at h ⊢
        exact settle_widen h more
      · rw [if_neg hclose] at h ⊢
        injection h with h
        rw [h]

/-- A text closes nothing but what it owes itself, whatever is owed around it. -/
theorem nest_widen {owed owed' text : List Char} (h : nest owed text = some owed')
    (more : List Char) : nest (owed ++ more) text = some (owed' ++ more) := by
  induction text generalizing owed with
  | nil =>
      injection h with h
      subst h
      rfl
  | cons ch rest ih =>
      have hsplit : (nestStep owed ch).bind (fun owed₁ => nest owed₁ rest) = some owed' := h
      obtain ⟨owed₁, hstep, hrest⟩ := Option.bind_eq_some_iff.1 hsplit
      show (nestStep (owed ++ more) ch).bind (fun owed₁ => nest owed₁ rest) = _
      rw [nestStep_widen hstep]
      exact ih hrest

/-! ## §2. Written text. -/

/-- A character of a line of source: printable, and neither a dollar sign nor a
backslash. -/
def isPrinted (ch : Char) : Bool := ' ' ≤ ch && ch ≤ '~' && ch != '$' && ch != '\\'

/-- A character of source, whose lines end in line breaks. -/
def isSource (ch : Char) : Bool := isPrinted ch || ch == '\n'

/-- A text all of whose characters pass `ok` and whose brackets lead from what is owed
before to what is owed after. -/
structure Written (ok : Char → Bool) (owed text owed' : List Char) : Prop where
  chars : ∀ ch ∈ text, ok ch = true
  nested : nest owed text = some owed'

instance {ok : Char → Bool} {owed text owed' : List Char} :
    Decidable (Written ok owed text owed') :=
  decidable_of_iff (text.all ok = true ∧ nest owed text = some owed')
    ⟨fun h => ⟨List.all_eq_true.1 h.1, h.2⟩, fun h => ⟨List.all_eq_true.2 h.chars, h.nested⟩⟩

/-- A phrase: a piece of a line of source whose brackets match. -/
def Phrase (s : String) : Prop := Written isPrinted [] s.toList []

instance : DecidablePred Phrase := fun s =>
  inferInstanceAs (Decidable (Written isPrinted [] s.toList []))

/-- Source text whose brackets match. -/
def SourceText (s : String) : Prop := Written isSource [] s.toList []

instance : DecidablePred SourceText := fun s =>
  inferInstanceAs (Decidable (Written isSource [] s.toList []))

namespace Written

variable {ok ok' : Char → Bool} {owed owed' owed'' text text' : List Char}

theorem nil : Written ok owed [] owed where
  chars := by simp
  nested := rfl

theorem append (h : Written ok owed text owed') (h' : Written ok owed' text' owed'') :
    Written ok owed (text ++ text') owed'' where
  chars := by
    intro ch hch
    rcases List.mem_append.1 hch with hch | hch
    · exact h.chars ch hch
    · exact h'.chars ch hch
  nested := by
    rw [nest_append, h.nested]
    exact h'.nested

/-- A text which owes nothing can stand anywhere. -/
theorem anywhere (h : Written ok [] text []) : Written ok owed text owed where
  chars := h.chars
  nested := nest_widen h.nested owed

theorem mono (h : Written ok owed text owed') (hok : ∀ ch, ok ch = true → ok' ch = true) :
    Written ok' owed text owed' where
  chars := fun ch hch => hok ch (h.chars ch hch)
  nested := h.nested

theorem source (h : Written isPrinted owed text owed') : Written isSource owed text owed' :=
  h.mono fun ch hch => by
    unfold isSource
    rw [hch, Bool.true_or]

/-- A string after another one. -/
theorem andThen {s s' : String} (h : Written ok owed s.toList owed')
    (h' : Written ok owed' s'.toList owed'') : Written ok owed (s ++ s').toList owed'' := by
  rw [String.toList_append]
  exact h.append h'

/-- A phrase after a text. -/
theorem phrase {s s' : String} (h : Written isPrinted owed s.toList owed') (h' : Phrase s') :
    Written isPrinted owed (s ++ s').toList owed' :=
  h.andThen (anywhere h')

/-- A text between a bracket and the one which closes it. -/
theorem bracketed {first last : Char} (h : Written ok [] text [])
    (hfirst : ok first = true) (hlast : ok last = true) (hpair : closer? first = some last)
    (hcloses : closer? last = none ∧ isCloser last = true) :
    Written ok [] (first :: (text ++ [last])) [] := by
  have hopen : Written ok [] [first] [last] := by
    refine ⟨?_, ?_⟩
    · intro ch hch
      rw [List.mem_singleton.1 hch]
      exact hfirst
    · show (nestStep [] first).bind some = _
      unfold nestStep
      rw [hpair]
      rfl
  have hclose : Written ok [last] [last] [] := by
    refine ⟨?_, ?_⟩
    · intro ch hch
      rw [List.mem_singleton.1 hch]
      exact hlast
    · show (nestStep [last] last).bind some = _
      unfold nestStep
      simp [hcloses, settle]
  exact hopen.append (h.anywhere.append hclose)

end Written

/-- A fixed text is checked character by character. -/
theorem Written.lit {ok : Char → Bool} {owed owed' text : List Char}
    (h : (text.all ok && nest owed text == some owed') = true) :
    Written ok owed (String.ofList text).toList owed' := by
  rw [String.toList_ofList]
  rw [Bool.and_eq_true, List.all_eq_true, beq_iff_eq] at h
  exact ⟨h.1, h.2⟩

@[inherit_doc Written.lit]
theorem Phrase.lit {text : List Char}
    (h : (text.all isPrinted && nest [] text == some []) = true) : Phrase (String.ofList text) :=
  Written.lit h

/-- A phrase stays on its line. -/
theorem Phrase.unbroken {s : String} (h : Phrase s) : '\n' ∉ s.toList := by
  intro hbreak
  have hprinted := h.chars _ hbreak
  revert hprinted
  decide

/-! ## §3. Characters without brackets. -/

/-- A character which is no bracket. -/
def isQuiet (ch : Char) : Bool := (closer? ch).isNone && !isCloser ch

theorem nestStep_quiet {ch : Char} (h : isQuiet ch = true) (owed : List Char) :
    nestStep owed ch = some owed := by
  obtain ⟨hopen, hclose⟩ := Bool.and_eq_true_iff.1 h
  unfold nestStep
  rw [Option.isNone_iff_eq_none.1 hopen]
  exact if_neg (by simpa using hclose)

/-- A text without brackets owes what is owed before. -/
theorem Written.quiet {ok : Char → Bool} {text : List Char}
    (h : ∀ ch ∈ text, ok ch = true ∧ isQuiet ch = true) (owed : List Char) :
    Written ok owed text owed := by
  refine ⟨fun ch hch => (h ch hch).1, ?_⟩
  induction text with
  | nil => rfl
  | cons ch rest ih =>
      show (nestStep owed ch).bind (fun owed' => nest owed' rest) = _
      rw [nestStep_quiet (h ch List.mem_cons_self).2]
      exact ih fun ch' hch' => h ch' (List.mem_cons_of_mem ch hch')

/-- The characters of words are harmless: they are neither brackets nor signs which
the preprocessor or a string literal would treat in a special way. -/
theorem isWordChar_harmless {ch : Char} (h : isWordChar ch = true) :
    isPrinted ch = true ∧ isQuiet ch = true := by
  have hother : ∀ other : Char, isWordChar other = false → ch ≠ other := by
    intro other hother heq
    rw [← heq, h] at hother
    cases hother
  have hrange : ' ' ≤ ch ∧ ch ≤ '~' := by
    simp only [isWordChar, isLetter, isUpper, Numeral.isDigit, Bool.or_eq_true, Bool.and_eq_true,
      decide_eq_true_eq, beq_iff_eq] at h
    rcases h with ((⟨h₁, h₂⟩ | ⟨h₁, h₂⟩) | ⟨h₁, h₂⟩) | rfl
    · exact ⟨Char.le_trans (by decide) h₁, Char.le_trans h₂ (by decide)⟩
    · exact ⟨Char.le_trans (by decide) h₁, Char.le_trans h₂ (by decide)⟩
    · exact ⟨Char.le_trans (by decide) h₁, Char.le_trans h₂ (by decide)⟩
    · decide
  refine ⟨?_, ?_⟩
  · simp [isPrinted, hrange.1, hrange.2, hother '$' (by decide), hother '\\' (by decide)]
  · simp [isQuiet, closer?, isCloser, hother '<' (by decide), hother '>' (by decide),
      hother '(' (by decide), hother ')' (by decide), hother '\x7b' (by decide),
      hother '\x7d' (by decide)]

theorem isUpper.wordChar {ch : Char} (h : isUpper ch = true) : isWordChar ch = true := by
  simp [isWordChar, isLetter, h]

theorem isDigit.wordChar {ch : Char} (h : Numeral.isDigit ch = true) : isWordChar ch = true := by
  simp [isWordChar, h]

/-- A text of word characters owes nothing. -/
theorem written_word {text : List Char} (h : ∀ ch ∈ text, isWordChar ch = true)
    (owed : List Char) : Written isPrinted owed text owed :=
  .quiet (fun ch hch => isWordChar_harmless (h ch hch)) owed

theorem phrase_singleton {ch : Char} (h : isWordChar ch = true) :
    Phrase (String.singleton ch) := by
  show Written isPrinted [] (String.singleton ch).toList []
  rw [String.toList_singleton]
  exact written_word (by simpa using h) []

/-! ## §4. Words of a description. -/

theorem phrase_word {s : String} (h : isWord s = true) : Phrase s := by
  simp only [isWord, Bool.and_eq_true, List.all_eq_true] at h
  exact written_word h.2 []

theorem phrase_identifier {s : String} (h : isIdentifier s = true) : Phrase s := by
  unfold isIdentifier at h
  show Written isPrinted [] s.toList []
  cases hs : s.toList with
  | nil => exact .nil
  | cons ch rest =>
      simp only [hs, Bool.and_eq_true, List.all_eq_true] at h
      refine written_word ?_ []
      intro ch' hch'
      rcases List.mem_cons.1 hch' with rfl | hmem
      · simp [isWordChar, h.1.1]
      · exact h.2 ch' hmem

theorem phrase_watchdogTimeout {s : String} (h : isWatchdogTimeout s = true) : Phrase s := by
  unfold isWatchdogTimeout at h
  cases hp : "WDTO_".toList.isPrefixOf? s.toList with
  | none =>
      rw [hp] at h
      cases h
  | some rest =>
      simp only [hp, Bool.and_eq_true, List.all_eq_true, Bool.or_eq_true] at h
      show Written isPrinted [] s.toList []
      rw [← List.append_eq_of_isPrefixOf?_eq_some hp]
      have hstem : Written isPrinted [] "WDTO_".toList [] := .lit rfl
      refine hstem.append (written_word ?_ [])
      intro ch hch
      rcases h.2 ch hch with hdigit | hupper
      · exact isDigit.wordChar hdigit
      · exact isUpper.wordChar hupper

/-- A grammar of pin names whose fixed parts are words. -/
def Naming.PinNames.Plain : PinNames → Prop
  | .identifier => True
  | .ported pin port => isWord pin = true ∧ isWord port = true

instance : DecidablePred PinNames.Plain := fun names =>
  match names with
  | .identifier => isTrue trivial
  | .ported pin port => inferInstanceAs (Decidable (isWord pin = true ∧ isWord port = true))

/-- What stands in the brackets of a pin name has the brackets around it. -/
theorem Naming.PinNames.eq_of_bracketed? {pin : String} {text inner : List Char}
    (h : bracketed? pin text = some inner) : text = pin.toList ++ '<' :: (inner ++ ['>']) := by
  unfold bracketed? at h
  cases hp : pin.toList.isPrefixOf? text with
  | none =>
      rw [hp] at h
      cases h
  | some rest =>
      rw [← List.append_eq_of_isPrefixOf?_eq_some hp]
      rw [hp] at h
      cases rest with
      | nil => cases h
      | cons ch rest =>
          by_cases hch : ch = '<'
          · subst hch
            simp only [Option.ite_none_right_eq_some, Option.some.injEq] at h
            obtain ⟨hlast, rfl⟩ := h
            obtain ⟨inner, rfl⟩ := List.getLast?_eq_some_iff.1 hlast
            rw [List.dropLast_concat]
          · simp_all

theorem Naming.PinNames.written_portAndNumber {text : List Char}
    (h : isPortAndNumber text = true) : Written isPrinted [] text [] := by
  unfold isPortAndNumber at h
  split at h
  · rename_i ch number
    simp only [Bool.and_eq_true, List.all_eq_true] at h
    have hport : Written isPrinted [] [ch] [] :=
      written_word (by simpa using isUpper.wordChar h.1.1.1) []
    have hcomma : Written isPrinted [] [','] [] := by decide
    have hnumber : Written isPrinted [] number [] :=
      written_word (fun ch hch => isDigit.wordChar (h.2 ch hch)) []
    exact hport.append (hcomma.append hnumber)
  · cases h

/-- A pin name owes nothing: the notation of a pin driver closes its bracket. -/
theorem Naming.PinNames.phrase {names : PinNames} (hnames : names.Plain) {s : String}
    (h : names.accepts s = true) : Phrase s := by
  cases names with
  | identifier => exact phrase_identifier h
  | ported pin port =>
      unfold accepts at h
      cases hb : bracketed? pin s.toList with
      | none =>
          simp only [hb] at h
          cases h
      | some inner =>
          simp only [hb] at h
          cases hp : port.toList.isPrefixOf? inner with
          | none =>
              simp only [hp] at h
              cases h
          | some rest =>
              simp only [hp] at h
              have hinner : Written isPrinted [] inner [] := by
                rw [← List.append_eq_of_isPrefixOf?_eq_some hp]
                exact (phrase_word hnames.2).append (written_portAndNumber h)
              show Written isPrinted [] s.toList []
              rw [eq_of_bracketed? hb]
              apply (phrase_word hnames.1).append
              exact hinner.bracketed (by decide) (by decide) (by decide) (by decide)

/-! ## §5. Numerals. -/

theorem Numeral.isDigit_digitChar {d : Nat} (h : d < 10) : isDigit (digitChar d) = true := by
  match d, h with
  | 0, _ | 1, _ | 2, _ | 3, _ | 4, _ | 5, _ | 6, _ | 7, _ | 8, _ | 9, _ => rfl

theorem Numeral.isDigit_digits (n : Nat) : ∀ ch ∈ digits n, isDigit ch = true := by
  induction n using digits.induct with
  | case1 n h =>
      rw [digits, if_pos h]
      intro ch hch
      rw [List.mem_singleton.1 hch]
      exact isDigit_digitChar h
  | case2 n h ih =>
      rw [digits, if_neg h]
      intro ch hch
      rcases List.mem_append.1 hch with hch | hch
      · exact ih ch hch
      · rw [List.mem_singleton.1 hch]
        exact isDigit_digitChar (Nat.mod_lt n (by omega))

theorem Numeral.written_digits (n : Nat) (owed : List Char) :
    Written isPrinted owed (digits n) owed :=
  written_word (fun ch hch => isDigit.wordChar (isDigit_digits n ch hch)) owed

theorem Numeral.written_signed (n : Int) (owed : List Char) :
    Written isPrinted owed (signed n) owed := by
  cases n with
  | ofNat n => exact written_digits n owed
  | negSucc n =>
      have hsign : Written isPrinted [] ['-'] [] := by decide
      exact hsign.anywhere.append (written_digits (n + 1) owed)

theorem Numeral.phrase_ofNat (n : Nat) : Phrase (ofNat n) := by
  show Written isPrinted [] (String.ofList (digits n)).toList []
  rw [String.toList_ofList]
  exact written_digits n []

theorem Numeral.phrase_ofInt (n : Int) : Phrase (ofInt n) := by
  show Written isPrinted [] (String.ofList (signed n)).toList []
  rw [String.toList_ofList]
  exact written_signed n []

theorem Binary64.isDigit_seventeenDigits (units : Nat) :
    ∀ ch ∈ seventeenDigits units, Numeral.isDigit ch = true := by
  intro ch hch
  rcases List.mem_append.1 hch with hch | hch
  · rw [List.eq_of_mem_replicate hch]
    rfl
  · exact Numeral.isDigit_digits units ch hch

theorem Binary64.phrase_scientific (v : Binary64) : Phrase v.scientific := by
  have hsign : Written isPrinted [] (if v.negative then ['-'] else []) [] := by
    split
    · decide
    · exact .nil
  show Written isPrinted [] (String.ofList v.scientificChars).toList []
  rw [String.toList_ofList]
  unfold scientificChars
  -- The cases are those of a double: not a number, finite, infinite.
  by_cases hnan : v.isNaN = true
  · rw [if_pos hnan]
    decide
  · rw [if_neg hnan]
    by_cases hfinite : v.isFinite = true
    · rw [if_pos hfinite]
      obtain ⟨units, e⟩ := v.magnitudeDigits
      have hdigits := isDigit_seventeenDigits units
      have hhead : Written isPrinted [] ((seventeenDigits units).take 1) [] :=
        written_word (fun ch hch => isDigit.wordChar (hdigits ch (List.mem_of_mem_take hch))) []
      have htail : Written isPrinted [] ((seventeenDigits units).drop 1) [] :=
        written_word (fun ch hch => isDigit.wordChar (hdigits ch (List.mem_of_mem_drop hch))) []
      have hpoint : Written isPrinted [] ['.'] [] := by decide
      have hexponent : Written isPrinted [] ['E'] [] := by decide
      exact ((hsign.append hhead).append (hpoint.append htail)).append
        (hexponent.append (Numeral.written_signed e []))
    · rw [if_neg hfinite]
      exact hsign.append (by decide)

end PrinterFirmware
