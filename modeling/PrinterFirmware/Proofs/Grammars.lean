/-
  PrinterFirmware.Proofs.Grammars
  ───────────────────────────────
  **EVERY RECOGNISER ACCEPTS ITS GRAMMAR.**

  A grammar is written down piece by piece: a text which stands there as it is, or a
  run of characters from a set.  Its texts are those which the pieces have one after
  another.

      [A-Za-z][A-Za-z0-9_]{0,127}       an identifier
      [A-Za-z0-9_]{1,128}               a word
      WDTO_[0-9A-Z]{1,10}               the timeout of a watchdog
      pin<port[A-Z],[0-9]{1,3}>         a pin in the notation of a driver

  The recognisers take a text apart from the left, and the one for pins from both
  ends.  Whatever they take for a part of a text has to be the part which a piece
  has there, for any texts, also for those which overlap.

      mem_text_cons, mem_one_cons       the first piece of a grammar
      isIdentifier_iff, isWord_iff,
      isWatchdogTimeout_iff             words
      timer?_iff, unit?_iff             timers and output compare units
      accepts_ported_iff                pins

  Main result: `accepts_grammars`.
-/
import Mathlib.Computability.Language
import Mathlib.Data.String.Basic
import Mathlib.Order.Interval.Set.Defs
import PrinterFirmware.Naming.Timer
import PrinterFirmware.Proofs.Text

namespace PrinterFirmware.Naming

/-! ## §1. Grammars. -/

/-- A piece of a grammar. -/
inductive Piece where
  /-- This text, as it is. -/
  | text (s : String)
  /-- Between `min` and `max` characters of a set. -/
  | run (set : Set Char) (min max : Nat)

/-- The texts of a piece. -/
def Piece.language : Piece → Language Char
  | text s => {s.toList}
  | run set min max => { cs | (min ≤ cs.length ∧ cs.length ≤ max) ∧ ∀ ch ∈ cs, ch ∈ set }

/-- The texts which have the given pieces one after another. -/
def pieced (pieces : List Piece) : Language Char := (pieces.map Piece.language).prod

/-- `[A-Z]` -/
def upper : Set Char := Set.Icc 'A' 'Z'

/-- `[A-Za-z]` -/
def letters : Set Char := upper ∪ Set.Icc 'a' 'z'

/-- `[0-9]` -/
def decimals : Set Char := Set.Icc '0' '9'

/-- `[A-Za-z0-9_]` -/
def wordChars : Set Char := letters ∪ decimals ∪ {'_'}

/-- `[A-Za-z][A-Za-z0-9_]{0,127}` -/
def identifiers : Language Char := pieced [.run letters 1 1, .run wordChars 0 127]

/-- `[A-Za-z0-9_]{1,128}` -/
def words : Language Char := pieced [.run wordChars 1 128]

/-- `WDTO_[0-9A-Z]{1,10}` -/
def watchdogTimeouts : Language Char := pieced [.text "WDTO_", .run (decimals ∪ upper) 1 10]

/-- `pin<port[A-Z],[0-9]{1,3}>` -/
def portedPins (pin port : String) : Language Char :=
  pieced [.text pin, .text "<", .text port, .run upper 1 1, .text ",", .run decimals 1 3,
    .text ">"]

/-! ## §2. The first piece. -/

section Pieces

variable {pieces : List Piece} {set : Set Char} {cs : List Char}

theorem mem_pieced_cons {p : Piece} :
    cs ∈ pieced (p :: pieces)
      ↔ ∃ first ∈ p.language, ∃ rest ∈ pieced pieces, first ++ rest = cs := by
  unfold pieced
  rw [List.map_cons, List.prod_cons, Language.mem_mul]

theorem mem_pieced_append {pieces' : List Piece} :
    cs ∈ pieced (pieces ++ pieces')
      ↔ ∃ first ∈ pieced pieces, ∃ rest ∈ pieced pieces', first ++ rest = cs := by
  unfold pieced
  rw [List.map_append, List.prod_append, Language.mem_mul]

theorem mem_text_cons {s : String} :
    cs ∈ pieced (.text s :: pieces) ↔ ∃ rest ∈ pieced pieces, s.toList ++ rest = cs := by
  rw [mem_pieced_cons]
  constructor
  · rintro ⟨first, rfl, rest, hrest, rfl⟩
    exact ⟨rest, hrest, rfl⟩
  · rintro ⟨rest, hrest, rfl⟩
    exact ⟨s.toList, rfl, rest, hrest, rfl⟩

/-- A text which goes on after the first piece. -/
theorem mem_text_of_begun {s : String} {rest : List Char}
    (h : s.toList.isPrefixOf? cs = some rest) :
    cs ∈ pieced (.text s :: pieces) ↔ rest ∈ pieced pieces := by
  rw [List.isPrefixOf?_eq_some_iff_append_eq] at h
  subst h
  rw [mem_text_cons]
  constructor
  · rintro ⟨rest', hrest', heq⟩
    exact List.append_cancel_left heq ▸ hrest'
  · intro hrest
    exact ⟨rest, hrest, rfl⟩

theorem not_mem_text_of_other {s : String} (pieces : List Piece)
    (h : s.toList.isPrefixOf? cs = none) : cs ∉ pieced (.text s :: pieces) := by
  rw [mem_text_cons]
  rintro ⟨rest, -, heq⟩
  cases (List.isPrefixOf?_eq_some_iff_append_eq.2 heq).symm.trans h

theorem mem_one_cons :
    cs ∈ pieced (.run set 1 1 :: pieces) ↔ ∃ ch ∈ set, ∃ rest ∈ pieced pieces, ch :: rest = cs := by
  rw [mem_pieced_cons]
  constructor
  · rintro ⟨first, ⟨hlength, hset⟩, rest, hrest, rfl⟩
    obtain ⟨ch, rfl⟩ := List.length_eq_one_iff.1 (Nat.le_antisymm hlength.2 hlength.1)
    exact ⟨ch, hset ch List.mem_cons_self, rest, hrest, rfl⟩
  · rintro ⟨ch, hch, rest, hrest, rfl⟩
    refine ⟨[ch], ⟨⟨Nat.le_refl 1, Nat.le_refl 1⟩, ?_⟩, rest, hrest, rfl⟩
    rw [List.forall_mem_singleton]
    exact hch

theorem mem_run_last {min max : Nat} :
    cs ∈ pieced [.run set min max]
      ↔ (min ≤ cs.length ∧ cs.length ≤ max) ∧ ∀ ch ∈ cs, ch ∈ set := by
  rw [mem_pieced_cons]
  constructor
  · rintro ⟨first, hfirst, rest, rfl, rfl⟩
    rw [List.append_nil]
    exact hfirst
  · intro h
    exact ⟨cs, h, [], rfl, List.append_nil cs⟩

end Pieces

/-! ## §3. Characters. -/

section Characters

variable {ch : Char}

theorem isUpper_iff : isUpper ch = true ↔ ch ∈ upper := by
  simp [isUpper, upper]

theorem isLetter_iff : isLetter ch = true ↔ ch ∈ letters := by
  simp [isLetter, isUpper_iff, letters]

theorem isDigit_iff : Numeral.isDigit ch = true ↔ ch ∈ decimals := by
  simp [Numeral.isDigit, decimals]

theorem isWordChar_iff : isWordChar ch = true ↔ ch ∈ wordChars := by
  simp [isWordChar, isLetter_iff, isDigit_iff, wordChars, or_comm]

theorem utf8Size_wordChar (h : ch ∈ wordChars) : ch.utf8Size = 1 := by
  have hprinted := (isWordChar_harmless (isWordChar_iff.2 h)).1
  simp only [isPrinted, Bool.and_eq_true, decide_eq_true_eq] at hprinted
  have hlast : ch ≤ '~' := hprinted.1.1.2
  rw [Char.utf8Size_eq_one_iff]
  exact UInt32.le_trans hlast (by decide)

end Characters

/-- A text of word characters has as many bytes as characters. -/
theorem utf8ByteSize_word {s : String} (h : ∀ ch ∈ s.toList, ch ∈ wordChars) :
    s.utf8ByteSize = s.length := by
  rw [← String.length_toList, ← String.ofList_toList (s := s), String.utf8ByteSize_ofList,
    String.toList_ofList]
  generalize s.toList = cs at h
  induction cs with
  | nil => rfl
  | cons ch rest ih =>
      obtain ⟨hch, hrest⟩ := List.forall_mem_cons.1 h
      rw [String.utf8Len_cons, ih hrest, utf8Size_wordChar hch, List.length_cons]

/-! ## §4. Words. -/

theorem isIdentifier_iff {s : String} : isIdentifier s = true ↔ s.toList ∈ identifiers := by
  unfold isIdentifier identifiers
  rw [mem_one_cons]
  cases s.toList with
  | nil => simp
  | cons ch rest =>
      simp [mem_run_last, maxWordLength, isLetter_iff, isWordChar_iff, Nat.lt_succ_iff, and_assoc]

theorem isWord_iff {s : String} : isWord s = true ↔ s.toList ∈ words := by
  unfold isWord words
  rw [mem_run_last]
  cases s.toList with
  | nil => simp
  | cons ch rest => simp [maxWordLength, isWordChar_iff]

/-- The letter which is given is the whole text. -/
theorem letter?_iff {s : String} {l : Char} :
    letter? s = some l ↔ l ∈ upper ∧ s.toList = [l] := by
  unfold letter?
  split
  · next ch hs =>
      rw [Option.ite_none_right_eq_some, isUpper_iff, hs]
      constructor
      · rintro ⟨hch, ⟨⟩⟩
        exact ⟨hch, rfl⟩
      · rintro ⟨hl, ⟨⟩⟩
        exact ⟨hl, rfl⟩
  · next hother =>
      refine ⟨fun h => (nomatch h), ?_⟩
      rintro ⟨-, hs⟩
      exact absurd hs (hother l)

theorem isWatchdogTimeout_iff {s : String} :
    isWatchdogTimeout s = true ↔ s.toList ∈ watchdogTimeouts := by
  unfold isWatchdogTimeout watchdogTimeouts
  split
  · next rest hp =>
      -- What follows the stem is all of the last piece, so its length is that of the run.
      rw [mem_text_of_begun hp, mem_run_last]
      cases rest with
      | nil => simp
      | cons ch more => simp [isDigit_iff, isUpper_iff]
  · next hp =>
      have hno := not_mem_text_of_other [.run (decimals ∪ upper) 1 10] hp
      exact ⟨fun h => (nomatch h), fun h => absurd h hno⟩

/-! ## §5. Timers. -/

namespace TimerNames

variable {g : TimerNames} {name : String}

theorem timer?_iff {d : Char} :
    g.timer? name = some d ↔ d ∈ decimals ∧ name.toList = g.stem.toList ++ [d] := by
  unfold timer?
  split
  · next ch hp =>
      rw [List.isPrefixOf?_eq_some_iff_append_eq] at hp
      rw [Option.ite_none_right_eq_some, isDigit_iff, ← hp, List.append_cancel_left_eq]
      constructor
      · rintro ⟨hch, ⟨⟩⟩
        exact ⟨hch, rfl⟩
      · rintro ⟨hd, ⟨⟩⟩
        exact ⟨hd, rfl⟩
  · next hother =>
      refine ⟨fun h => (nomatch h), ?_⟩
      rintro ⟨-, hname⟩
      exact absurd (List.isPrefixOf?_eq_some_iff_append_eq.2 hname.symm) (hother d)

/-- What stands between the timer and the channel. -/
def separatorChars (g : TimerNames) : List Char := g.separator.toList

theorem afterSeparator?_iff {cs rest : List Char} :
    g.afterSeparator? cs = some rest ↔ cs = g.separatorChars ++ rest := by
  unfold afterSeparator? separatorChars
  cases g.separator with
  | none => simp
  | some sep =>
      cases cs with
      | nil => simp
      | cons ch more =>
          show (if ch = sep then some more else none) = some rest ↔ _
          rw [Option.ite_none_right_eq_some]
          simp

theorem isChannel_iff {ch : Char} :
    g.isChannel ch = true ↔ ch ∈ Set.Icc g.firstChannel g.lastChannel := by
  simp [isChannel]

theorem unit?_iff {u : CompareUnit} :
    g.unit? name = some u ↔ u.timer ∈ decimals ∧ u.channel ∈ Set.Icc g.firstChannel g.lastChannel
      ∧ name.toList = g.stem.toList ++ u.timer :: (g.separatorChars ++ [u.channel]) := by
  unfold unit?
  constructor
  · intro h
    split at h
    · next d rest hp =>
        obtain ⟨hd, h⟩ := Option.ite_none_right_eq_some.1 h
        split at h
        · next ch hsep =>
            obtain ⟨hch, heq⟩ := Option.ite_none_right_eq_some.1 h
            obtain rfl := Option.some.inj heq
            rw [afterSeparator?_iff] at hsep
            rw [List.isPrefixOf?_eq_some_iff_append_eq, hsep] at hp
            exact ⟨isDigit_iff.1 hd, isChannel_iff.1 hch, hp.symm⟩
        · cases h
    · cases h
  · -- The name is taken apart where the grammar puts it together.
    rintro ⟨hd, hch, hname⟩
    have hsep : g.afterSeparator? (g.separatorChars ++ [u.channel]) = some [u.channel] :=
      afterSeparator?_iff.2 rfl
    rw [List.isPrefixOf?_eq_some_iff_append_eq.2 hname.symm]
    dsimp only
    rw [if_pos (isDigit_iff.2 hd), hsep]
    exact if_pos (isChannel_iff.2 hch)

end TimerNames

/-! ## §6. Pins. -/

namespace PinNames

theorem bracketed?_iff {pin : String} {cs inner : List Char} :
    bracketed? pin cs = some inner ↔ cs = pin.toList ++ '<' :: (inner ++ ['>']) := by
  refine ⟨eq_of_bracketed?, ?_⟩
  rintro rfl
  unfold bracketed?
  rw [List.isPrefixOf?_eq_some_iff_append_eq.2 rfl]
  simp

/-- A port letter, a comma and one to three digits. -/
def portAndNumber : List Piece := [.run upper 1 1, .text ",", .run decimals 1 3]

theorem isPortAndNumber_iff {cs : List Char} :
    isPortAndNumber cs = true ↔ cs ∈ pieced portAndNumber := by
  unfold portAndNumber
  simp only [mem_one_cons, mem_text_cons, mem_run_last]
  unfold isPortAndNumber
  split
  · next ch number =>
      have hnumber : (!number.isEmpty) = true ↔ 1 ≤ number.length := by
        cases number <;> simp
      rw [Bool.and_eq_true, Bool.and_eq_true, Bool.and_eq_true, isUpper_iff, hnumber,
        decide_eq_true_eq, List.all_eq_true]
      simp only [isDigit_iff]
      constructor
      · rintro ⟨⟨⟨hch, hmin⟩, hmax⟩, hdigits⟩
        exact ⟨ch, hch, _, ⟨number, ⟨⟨hmin, hmax⟩, hdigits⟩, rfl⟩, rfl⟩
      · rintro ⟨ch', hch, -, ⟨number', ⟨⟨hmin, hmax⟩, hdigits⟩, rfl⟩, heq⟩
        obtain ⟨rfl, hnumbers⟩ := List.cons_eq_cons.1 heq
        obtain rfl : number' = number := @List.append_cancel_left _ [','] _ _ hnumbers
        exact ⟨⟨⟨hch, hmin⟩, hmax⟩, hdigits⟩
  · next hother =>
      refine ⟨fun h => (nomatch h), ?_⟩
      rintro ⟨ch, -, -, ⟨number, -, rfl⟩, rfl⟩
      exact absurd rfl (hother ch number)

/-- A pin name with its brackets, and the port in them. -/
theorem mem_portedPins {pin port : String} {cs : List Char} :
    cs ∈ portedPins pin port ↔ ∃ inner ∈ pieced portAndNumber,
      cs = pin.toList ++ '<' :: (port.toList ++ inner ++ ['>']) := by
  have hpieces : portedPins pin port
      = pieced (.text pin :: .text "<" :: .text port :: (portAndNumber ++ [.text ">"])) := rfl
  simp only [hpieces, mem_text_cons, mem_pieced_append]
  constructor
  · rintro ⟨-, ⟨-, ⟨-, ⟨inner, hinner, -, ⟨-, rfl, rfl⟩, rfl⟩, rfl⟩, rfl⟩, rfl⟩
    exact ⟨inner, hinner, by simp⟩
  · rintro ⟨inner, hinner, rfl⟩
    exact ⟨_, ⟨_, ⟨_, ⟨inner, hinner, _, ⟨[], rfl, rfl⟩, rfl⟩, rfl⟩, rfl⟩, by simp⟩

theorem accepts_ported_iff {pin port s : String} :
    (ported pin port).accepts s = true ↔ s.toList ∈ portedPins pin port := by
  -- The bracket is taken off both ends first, so the port name is looked for only inside it.
  have haccepts : (ported pin port).accepts s = true ↔ ∃ inner rest,
      bracketed? pin s.toList = some inner ∧ port.toList.isPrefixOf? inner = some rest
        ∧ isPortAndNumber rest = true := by
    simp only [accepts]
    constructor
    · intro h
      split at h
      · cases h
      · next inner hb =>
          split at h
          · cases h
          · next rest hp => exact ⟨inner, rest, hb, hp, h⟩
    · rintro ⟨inner, rest, hb, hp, h⟩
      simp only [hb, hp, h]
  simp only [haccepts, mem_portedPins, bracketed?_iff, List.isPrefixOf?_eq_some_iff_append_eq,
    isPortAndNumber_iff]
  constructor
  · rintro ⟨-, rest, hs, rfl, hrest⟩
    exact ⟨rest, hrest, hs⟩
  · rintro ⟨rest, hrest, hs⟩
    exact ⟨_, rest, hs, rfl, hrest⟩

end PinNames

/-! ## §7. All grammars. -/

/-- **Every recogniser accepts exactly the texts of its grammar**, and gives the characters of
the text which it names.  The lengths which the grammars allow are the same in bytes as in
characters. -/
theorem accepts_grammars (s : String) :
    (isIdentifier s = true ↔ s.toList ∈ identifiers)
      ∧ (isWord s = true ↔ s.toList ∈ words)
      ∧ (∀ l, letter? s = some l ↔ l ∈ upper ∧ s.toList = [l])
      ∧ (isWatchdogTimeout s = true ↔ s.toList ∈ watchdogTimeouts)
      ∧ (∀ (g : TimerNames) (d : Char),
        g.timer? s = some d ↔ d ∈ decimals ∧ s.toList = g.stem.toList ++ [d])
      ∧ (∀ (g : TimerNames) (d c : Char), g.unit? s = some ⟨d, c⟩ ↔ d ∈ decimals
        ∧ c ∈ Set.Icc g.firstChannel g.lastChannel
        ∧ s.toList = g.stem.toList ++ d :: (g.separator.toList ++ [c]))
      ∧ (∀ pin port, (PinNames.ported pin port).accepts s = true ↔ s.toList ∈ portedPins pin port)
      ∧ ((∀ ch ∈ s.toList, ch ∈ wordChars) → s.utf8ByteSize = s.length) :=
  ⟨isIdentifier_iff, isWord_iff, fun _ => letter?_iff, isWatchdogTimeout_iff,
    fun _ _ => TimerNames.timer?_iff, fun _ _ _ => TimerNames.unit?_iff,
    fun _ _ => PinNames.accepts_ported_iff, utf8ByteSize_word⟩

/-- A timeout which is an identifier and a word, too, with as many bytes as characters. -/
theorem timeout_in_grammars : "WDTO_8S".toList ∈ watchdogTimeouts ∧ "WDTO_8S".toList ∈ identifiers
    ∧ "WDTO_8S".toList ∈ words ∧ (∀ ch ∈ "WDTO_8S".toList, ch ∈ wordChars)
    ∧ "WDTO_8S".utf8ByteSize = "WDTO_8S".length := by
  obtain ⟨hidentifier, hword, -, htimeout, -, -, -, hbytes⟩ := accepts_grammars "WDTO_8S"
  have hchars : ∀ ch ∈ "WDTO_8S".toList, ch ∈ wordChars := by
    simp only [← isWordChar_iff]
    exact List.all_eq_true.1 (by decide)
  exact ⟨htimeout.1 (by decide), hidentifier.1 (by decide), hword.1 (by decide), hchars,
    hbytes hchars⟩

end PrinterFirmware.Naming
