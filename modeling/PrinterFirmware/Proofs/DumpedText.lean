/-
  PrinterFirmware.Proofs.DumpedText
  ─────────────────────────────────
  **THE READING OF A DUMPED TEXT.**

  A text is dumped as a plain or as a quoted scalar.  Where the text is made of printable
  characters and line breaks, the scalar is cut off again exactly where it ends.  In a
  quoted one the escapes give the characters which they were made of; in a plain one there
  is nothing which could end it, and its blanks stay what they are, because neither does
  one stand at its end nor is there a line break between two of them.

      takeQuoted?_text     a quoted text is read up to its closing quote
      takePlain?_key       a plain text before a colon
      takePlain?_line      a plain text before the end of its line
      resolve?_plain       what a plain text stands for
-/
import Mathlib.Data.List.TakeDrop
import Mathlib.Data.List.TakeWhile
import PrinterFirmware.Document.Yaml.Token
import PrinterFirmware.Program.SlotDump
import PrinterFirmware.Proofs.DecimalLiteral

namespace PrinterFirmware

open Document Yaml SlotDump

/-! ## §1. Positions. -/

namespace Document.Yaml

/-- The mark some columns further to the right. -/
def Mark.right (m : Mark) (n : Nat) : Mark := ⟨m.index + n, m.line, m.column + n⟩

/-- The mark after a line break. -/
def Mark.below (m : Mark) : Mark := ⟨m.index + 1, m.line + 1, 0⟩

@[simp] theorem Mark.right_right (m : Mark) (n k : Nat) : (m.right n).right k = m.right (n + k) := by
  simp [Mark.right, Nat.add_assoc]

@[simp] theorem Mark.right_zero (m : Mark) : m.right 0 = m := rfl

@[simp] theorem Mark.index_right (m : Mark) (n : Nat) : (m.right n).index = m.index + n := rfl

@[simp] theorem Mark.line_right (m : Mark) (n : Nat) : (m.right n).line = m.line := rfl

@[simp] theorem Mark.column_right (m : Mark) (n : Nat) : (m.right n).column = m.column + n := rfl

@[simp] theorem Mark.column_below (m : Mark) : m.below.column = 0 := rfl

namespace Source

variable {c : Char} {cs : List Char} {m : Mark}

@[simp] theorem head_cons : (⟨c :: cs, m⟩ : Source).head = c := rfl

@[simp] theorem head_nil : (⟨[], m⟩ : Source).head = '\x00' := rfl

@[simp] theorem peek_one_cons : (⟨c :: cs, m⟩ : Source).peek 1 = (⟨cs, m⟩ : Source).head := rfl

theorem next_cons (h : c ≠ '\n') : (⟨c :: cs, m⟩ : Source).next = ⟨cs, m.right 1⟩ := by
  simp [next, h, Mark.right]

@[simp] theorem next_break : (⟨'\n' :: cs, m⟩ : Source).next = ⟨cs, m.below⟩ := by
  simp [next, Mark.below]

@[simp] theorem skipBreak_break : (⟨'\n' :: cs, m⟩ : Source).skipBreak = ⟨cs, m.below⟩ := by
  simp [skipBreak, isBreak]

/-- Markers of documents stand at the start of a line. -/
theorem atDocumentMarker_inside {s : Source} (h : 0 < s.mark.column) : s.atDocumentMarker = false := by
  have hcolumn : s.mark.column ≠ 0 := by omega
  simp [atDocumentMarker, atMarker, hcolumn]

theorem atMarker_of_head {s : Source} {d : Char} (h : s.head ≠ d) : s.atMarker d = false := by
  simp [atMarker, h]

end Source

end Document.Yaml

/-! ## §2. Characters of dumped texts. -/

namespace SlotDump

/-- The characters of a dumped text: the printable ones and the line break. -/
def isDumped (c : Char) : Bool := (' ' ≤ c && c ≤ '~') || c == '\n'

theorem isDumped_iff {c : Char} :
    isDumped c = true ↔ (32 ≤ c.toNat ∧ c.toNat ≤ 126) ∨ c = '\n' := by
  unfold isDumped
  rw [Bool.or_eq_true, Bool.and_eq_true, decide_eq_true_eq, decide_eq_true_eq, beq_iff_eq]
  rfl

/-- A dumped character is escaped if it is a quote, a backslash or a line break. -/
theorem escapedChar_cases {c : Char} (h : isDumped c = true) :
    ((c = '"' ∨ c = '\\') ∧ escapedChar c = ['\\', c])
      ∨ (c = '\n' ∧ escapedChar c = ['\\', 'n'])
      ∨ ((c ≠ '"' ∧ c ≠ '\\' ∧ 32 ≤ c.toNat) ∧ escapedChar c = [c]) := by
  rcases isDumped_iff.1 h with ⟨hlow, hhigh⟩ | rfl
  · by_cases hquote : c = '"' ∨ c = '\\'
    · exact .inl ⟨hquote, by simp [escapedChar, hquote]⟩
    · have hne : ∀ d : Char, d.toNat < 32 → c ≠ d := by
        rintro d hd rfl
        omega
      obtain ⟨hquote', hslash⟩ := not_or.1 hquote
      refine .inr (.inr ⟨⟨hquote', hslash, hlow⟩, ?_⟩)
      unfold escapedChar
      rw [if_neg hquote, if_neg (hne _ (by decide)), if_neg (hne _ (by decide)),
        if_neg (hne _ (by decide)), if_neg (hne _ (by decide)), if_neg (hne _ (by decide)),
        if_neg (by omega)]
  · exact .inr (.inl ⟨rfl, rfl⟩)

/-- A text begins with a run of spaces. -/
theorem exists_spaces (cs : List Char) :
    ∃ n rest, cs = List.replicate n ' ' ++ rest ∧ rest.head? ≠ some ' ' := by
  induction cs with
  | nil => exact ⟨0, [], rfl, by simp⟩
  | cons c rest ih =>
    by_cases hc : c = ' '
    · obtain ⟨n, rest', rfl, hrest⟩ := ih
      exact ⟨n + 1, rest', by rw [hc, List.replicate_succ, List.cons_append], hrest⟩
    · exact ⟨0, c :: rest, rfl, by simpa using hc⟩

/-- Texts are made up of characters and of runs of spaces. -/
theorem runInduction {motive : List Char → Prop} (nil : motive [])
    (char : ∀ c cs, c ≠ ' ' → motive cs → motive (c :: cs))
    (spaces : ∀ n cs, cs.head? ≠ some ' ' → motive cs →
      motive (List.replicate (n + 1) ' ' ++ cs)) (cs : List Char) : motive cs := by
  induction hlength : cs.length using Nat.strongRecOn generalizing cs with
  | ind k ih =>
    subst hlength
    obtain ⟨n, rest, rfl, hrest⟩ := exists_spaces cs
    rw [List.length_append, List.length_replicate] at ih
    cases n with
    | succ n => exact spaces n rest hrest (ih rest.length (by omega) rest rfl)
    | zero =>
      cases rest with
      | nil => exact nil
      | cons c rest =>
        have hshorter : rest.length < 0 + (c :: rest).length := by simp
        exact char c rest (by simpa using hrest) (ih rest.length hshorter rest rfl)

/-- Escaping leaves no character out. -/
theorem length_le_escaped (cs : List Char) : cs.length ≤ (cs.flatMap escapedChar).length := by
  induction cs with
  | nil => simp
  | cons c cs ih =>
    have hc : 1 ≤ (escapedChar c).length := by
      unfold escapedChar numericEscape
      repeat' split
      all_goals simp
    rw [List.flatMap_cons, List.length_append, List.length_cons]
    omega

@[simp] theorem escapedChar_space : escapedChar ' ' = [' '] := by decide

theorem flatMap_escaped_spaces (n : Nat) (rest : List Char) :
    (List.replicate n ' ' ++ rest).flatMap escapedChar
      = List.replicate n ' ' ++ rest.flatMap escapedChar := by
  induction n with
  | zero => rfl
  | succ n ih =>
    rw [List.replicate_succ, List.cons_append, List.flatMap_cons, ih, escapedChar_space]
    rfl

end SlotDump

/-! ## §3. Blanks. -/

namespace Document.Yaml

/-- The gap which some blanks make. -/
def Gap.ofBlanks (blanks : List Char) : Gap := ⟨blanks, false, [], []⟩

@[simp] theorem Gap.ofBlanks_nil : Gap.ofBlanks [] = Gap.none := rfl

theorem Gap.fold_ofBlanks (blanks : List Char) : (Gap.ofBlanks blanks).fold = blanks := rfl

/-- A source whose next character is no blank and no line break. -/
def Source.Solid (s : Source) : Prop := isBlank s.head = false ∧ isBreak s.head = false

/-- A gap is read up to the next character which is no blank and no line break. -/
theorem Gap.take?_spaces {limit fuel n : Nat} {blanks rest : List Char} {m : Mark} (hn : n ≤ fuel)
    (hrest : (⟨rest, m.right n⟩ : Source).Solid) :
    Gap.take? limit fuel (Gap.ofBlanks blanks) ⟨List.replicate n ' ' ++ rest, m⟩
      = some (Gap.ofBlanks (blanks ++ List.replicate n ' '), ⟨rest, m.right n⟩) := by
  induction n generalizing fuel blanks m with
  | zero =>
    cases fuel with
    | zero => simp [take?]
    | succ fuel =>
      obtain ⟨hblank, hbreak⟩ := hrest
      simp only [Mark.right_zero] at hblank hbreak
      simp [take?, hblank, hbreak]
  | succ n ih =>
    obtain ⟨fuel, rfl⟩ : ∃ f, fuel = f + 1 := ⟨fuel - 1, by omega⟩
    have hnext : (⟨' ' :: (List.replicate n ' ' ++ rest), m⟩ : Source).next
        = ⟨List.replicate n ' ' ++ rest, m.right 1⟩ := Source.next_cons (by decide)
    have hafter : (⟨rest, (m.right 1).right n⟩ : Source).Solid := by
      rw [Mark.right_right, Nat.add_comm]
      exact hrest
    have hstep := @ih fuel (blanks ++ [' ']) (m.right 1) (by omega) hafter
    rw [Mark.right_right, Nat.add_comm 1 n] at hstep
    rw [List.replicate_succ, List.cons_append, take?]
    simp only [Source.head_cons, hnext]
    rw [if_pos (by decide), if_neg (by simp [Gap.ofBlanks])]
    refine hstep.trans ?_
    simp

/-! ## §4. Quoted texts. -/

/-- What stands at the start of an escaped text which does not begin with a space. -/
theorem solid_escaped {cs rest : List Char} {m : Mark} (hcs : ∀ c ∈ cs, isDumped c = true)
    (hhead : cs.head? ≠ some ' ') :
    (⟨cs.flatMap escapedChar ++ '"' :: rest, m⟩ : Source).Solid := by
  cases cs with
  | nil => exact ⟨by rfl, by rfl⟩
  | cons c cs =>
    have hspace : c ≠ ' ' := by simpa using hhead
    rcases escapedChar_cases (hcs c List.mem_cons_self) with ⟨-, h⟩ | ⟨-, h⟩ | ⟨⟨-, -, hlow⟩, h⟩
    · rw [List.flatMap_cons, h]
      exact ⟨by rfl, by rfl⟩
    · rw [List.flatMap_cons, h]
      exact ⟨by rfl, by rfl⟩
    · have hne : ∀ d : Char, d.toNat < 32 → c ≠ d := by
        rintro d hd rfl
        omega
      rw [List.flatMap_cons, h]
      exact ⟨by simp [isBlank, hspace, hne '\t' (by decide)],
        by simp [isBreak, hne '\n' (by decide), hne '\r' (by decide)]⟩

/-- The columns which the inside of a quoted text takes, with its closing quote. -/
def quotedWidth (cs : List Char) : Nat := (cs.flatMap escapedChar).length + 1

section Steps

variable {fuel : Nat} {c : Char} {done chars : List Char} {m : Mark}

/-- A character which is neither a blank nor a quote nor a backslash is copied. -/
theorem takeQuoted?_copied (hm : 0 < m.column) (hc : c ≠ '"' ∧ c ≠ '\\' ∧ 32 ≤ c.toNat)
    (hspace : c ≠ ' ') : takeQuoted? false (fuel + 1) done ⟨c :: chars, m⟩
      = takeQuoted? false fuel (c :: done) ⟨chars, m.right 1⟩ := by
  obtain ⟨hquote, hslash, hlow⟩ := hc
  have hne : ∀ d : Char, d.toNat < 32 → c ≠ d := by
    rintro d hd rfl
    omega
  have hnext : (⟨c :: chars, m⟩ : Source).next = ⟨chars, m.right 1⟩ :=
    Source.next_cons (hne _ (by decide))
  have hinside : (⟨c :: chars, m⟩ : Source).atDocumentMarker = false :=
    Source.atDocumentMarker_inside hm
  rw [takeQuoted?]
  simp [hinside, hnext, hquote, hslash, hspace, isBlankOrEnd, isBreakOrEnd, isBlank, isBreak,
    hne '\x00' (by decide), hne '\t' (by decide), hne '\n' (by decide), hne '\r' (by decide)]

/-- An escape stands for its character. -/
theorem takeQuoted?_escape (hm : 0 < m.column) {e : Char} (hc : shortEscape? c = some e)
    (hbreak : c ≠ '\n' ∧ c ≠ '\r') : takeQuoted? false (fuel + 1) done ⟨'\\' :: c :: chars, m⟩
      = takeQuoted? false fuel (e :: done) ⟨chars, m.right 2⟩ := by
  have hinside : (⟨'\\' :: c :: chars, m⟩ : Source).atDocumentMarker = false :=
    Source.atDocumentMarker_inside hm
  have hskip : (⟨'\\' :: c :: chars, m⟩ : Source).skip 2 = ⟨chars, m.right 2⟩ := by
    rw [Source.skip, Source.next_cons (by decide), Source.skip, Source.next_cons hbreak.1]
    rw [Mark.right_right]
    rfl
  have htake : takeEscape? ⟨'\\' :: c :: chars, m⟩ = some (e, ⟨chars, m.right 2⟩) := by
    rw [takeEscape?, Source.peek_one_cons, Source.head_cons, hc]
    exact congrArg (fun s => some (e, s)) hskip
  rw [takeQuoted?]
  simp [hinside, htake, hbreak.1, hbreak.2, isBlankOrEnd, isBreakOrEnd, isBlank, isBreak]

/-- Spaces between two characters are kept. -/
theorem takeQuoted?_spaces (hm : 0 < m.column) {n : Nat} (hn : n + 1 ≤ fuel)
    (hsolid : (⟨chars, m.right (n + 1)⟩ : Source).Solid) :
    takeQuoted? false (fuel + 1) done ⟨List.replicate (n + 1) ' ' ++ chars, m⟩
      = takeQuoted? false fuel (List.replicate (n + 1) ' ' ++ done)
          ⟨chars, m.right (n + 1)⟩ := by
  have hinside : (⟨List.replicate (n + 1) ' ' ++ chars, m⟩ : Source).atDocumentMarker = false :=
    Source.atDocumentMarker_inside hm
  have hhead : (⟨List.replicate (n + 1) ' ' ++ chars, m⟩ : Source).head = ' ' := rfl
  have hgap : Gap.none.take? 0 fuel ⟨List.replicate (n + 1) ' ' ++ chars, m⟩
      = some (Gap.ofBlanks (List.replicate (n + 1) ' '), ⟨chars, m.right (n + 1)⟩) :=
    @Gap.take?_spaces 0 fuel (n + 1) [] chars m hn hsolid
  rw [takeQuoted?]
  simp only [hinside, hhead, hgap]
  simp [isBlankOrEnd, isBlank, Gap.fold_ofBlanks]

theorem takeQuoted?_close (hm : 0 < m.column) : takeQuoted? false (fuel + 1) done ⟨'"' :: chars, m⟩
    = some (String.ofList done.reverse, ⟨chars, m.right 1⟩) := by
  have hinside : (⟨'"' :: chars, m⟩ : Source).atDocumentMarker = false :=
    Source.atDocumentMarker_inside hm
  have hnext : (⟨'"' :: chars, m⟩ : Source).next = ⟨chars, m.right 1⟩ :=
    Source.next_cons (by decide)
  rw [takeQuoted?]
  simp [hinside, hnext, isBlankOrEnd, isBreakOrEnd, isBlank, isBreak]

end Steps

/-- A character of a dumped text is read from its escape. -/
theorem takeQuoted?_char {fuel : Nat} {c : Char} {done chars : List Char} {m : Mark}
    (hm : 0 < m.column) (hc : isDumped c = true) (hspace : c ≠ ' ') :
    takeQuoted? false (fuel + 1) done ⟨escapedChar c ++ chars, m⟩
      = takeQuoted? false fuel (c :: done) ⟨chars, m.right (escapedChar c).length⟩ := by
  rcases escapedChar_cases hc with ⟨hquote, h⟩ | ⟨rfl, h⟩ | ⟨hplain, h⟩
  · have hshort : shortEscape? c = some c ∧ c ≠ '\n' ∧ c ≠ '\r' := by
      rcases hquote with rfl | rfl <;> decide
    rw [h]
    exact takeQuoted?_escape hm hshort.1 hshort.2
  · rw [h]
    exact takeQuoted?_escape hm (by decide) (by decide)
  · rw [h]
    exact takeQuoted?_copied hm hplain hspace

/-- A quoted text is read up to its closing quote. -/
theorem takeQuoted?_text {cs rest : List Char} (hcs : ∀ c ∈ cs, isDumped c = true) {fuel : Nat}
    {done : List Char} {m : Mark} (hm : 0 < m.column) (hfuel : cs.length < fuel) :
    takeQuoted? false fuel done ⟨cs.flatMap escapedChar ++ '"' :: rest, m⟩
      = some (String.ofList (done.reverse ++ cs), ⟨rest, m.right (quotedWidth cs)⟩) := by
  induction cs using runInduction generalizing fuel done m with
  | nil =>
    obtain ⟨fuel, rfl⟩ : ∃ f, fuel = f + 1 := ⟨fuel - 1, by omega⟩
    rw [List.append_nil]
    exact takeQuoted?_close hm
  | char c cs hspace ih =>
    obtain ⟨fuel, rfl⟩ : ∃ f, fuel = f + 1 := ⟨fuel - 1, by omega⟩
    obtain ⟨hc, hcs⟩ := List.forall_mem_cons.1 hcs
    have hcolumn : 0 < (m.right (escapedChar c).length).column := by
      rw [Mark.column_right]
      omega
    rw [List.flatMap_cons, List.append_assoc, takeQuoted?_char hm hc hspace,
      ih hcs hcolumn (by simpa using hfuel)]
    simp [quotedWidth, Nat.add_assoc]
  | spaces n cs hhead ih =>
    obtain ⟨fuel, rfl⟩ : ∃ f, fuel = f + 1 := ⟨fuel - 1, by omega⟩
    have hcs := (List.forall_mem_append.1 hcs).2
    have hcolumn : 0 < (m.right (n + 1)).column := by
      rw [Mark.column_right]
      omega
    rw [List.length_append, List.length_replicate] at hfuel
    rw [flatMap_escaped_spaces, List.append_assoc,
      takeQuoted?_spaces hm (by omega) (solid_escaped hcs hhead), ih hcs hcolumn (by omega)]
    simp [quotedWidth, Nat.add_assoc]

/-! ## §5. Plain texts. -/

theorem isReserved_cases {c : Char} (h : isReserved c = false) :
    c ≠ ':' ∧ c ≠ '#' ∧ c ≠ '\t' ∧ c ≠ '\n' ∧ c ≠ '\r' ∧ c ≠ '\x00' := by
  refine ⟨?_, ?_, ?_, ?_, ?_, ?_⟩ <;> rintro rfl <;> revert h <;> decide

section Steps

variable {indent fuel : Nat} {c : Char} {done chars : List Char} {m : Mark}

/-- A character which may stand in a plain text is copied, with the blanks before it. -/
theorem takePlain?_copied {blanks : List Char} (hc : isReserved c = false) (hspace : c ≠ ' ')
    (hmarker : (⟨c :: chars, m⟩ : Source).atDocumentMarker = false) :
    takePlain? false indent (fuel + 1) done (Gap.ofBlanks blanks) ⟨c :: chars, m⟩
      = takePlain? false indent fuel (c :: (blanks.reverse ++ done)) .none ⟨chars, m.right 1⟩ := by
  obtain ⟨hcolon, hhash, htab, hbreak, hreturn, hend⟩ := isReserved_cases hc
  have hnext : (⟨c :: chars, m⟩ : Source).next = ⟨chars, m.right 1⟩ := Source.next_cons hbreak
  rw [takePlain?]
  simp [hmarker, hnext, endsPlain, hcolon, hhash, htab, hbreak, hreturn, hend, hspace, isBlank,
    isBreak, Gap.fold_ofBlanks]

/-- Spaces between two characters are kept. -/
theorem takePlain?_spaces (hm : 0 < m.column) {n : Nat} (hn : n + 1 ≤ fuel)
    (hindent : indent ≤ m.column) (hsolid : (⟨chars, m.right (n + 1)⟩ : Source).Solid) :
    takePlain? false indent (fuel + 1) done .none ⟨List.replicate (n + 1) ' ' ++ chars, m⟩
      = takePlain? false indent fuel done (Gap.ofBlanks (List.replicate (n + 1) ' '))
          ⟨chars, m.right (n + 1)⟩ := by
  have hinside : (⟨List.replicate (n + 1) ' ' ++ chars, m⟩ : Source).atDocumentMarker = false :=
    Source.atDocumentMarker_inside hm
  have hhead : (⟨List.replicate (n + 1) ' ' ++ chars, m⟩ : Source).head = ' ' := rfl
  have hgap : Gap.none.take? indent fuel ⟨List.replicate (n + 1) ' ' ++ chars, m⟩
      = some (Gap.ofBlanks (List.replicate (n + 1) ' '), ⟨chars, m.right (n + 1)⟩) :=
    @Gap.take?_spaces indent fuel (n + 1) [] chars m hn hsolid
  have hcolumn : ¬ m.column + (n + 1) < indent := by omega
  rw [takePlain?]
  simp only [hinside, hhead, hgap]
  simp [isBlank, hcolumn]

end Steps

/-- What stands after a plain text ends it there: whether a line has ended, and the source
after it. -/
def EndsPlain (indent : Nat) (s : Source) (broken : Bool) (after : Source) : Prop :=
  ∀ fuel done, 2 ≤ fuel → takePlain? false indent fuel done .none s
    = some (String.ofList done.reverse, broken, after)

/-- A colon before a blank ends a plain text. -/
theorem endsPlain_colon (indent : Nat) (rest : List Char) (m : Mark) :
    EndsPlain indent ⟨':' :: ' ' :: rest, m⟩ false ⟨':' :: ' ' :: rest, m⟩ := by
  intro fuel done hfuel
  obtain ⟨fuel, rfl⟩ : ∃ f, fuel = f + 1 := ⟨fuel - 1, by omega⟩
  have hmarker : (⟨':' :: ' ' :: rest, m⟩ : Source).atDocumentMarker = false := by
    unfold Source.atDocumentMarker
    rw [Source.atMarker_of_head (by simp), Source.atMarker_of_head (by simp)]
    rfl
  rw [takePlain?]
  simp [hmarker, endsPlain, isBlankOrEnd, isBlank, isBreak, Gap.none]

/-- A line break ends a plain text which has to be indented, if the next line is not. -/
theorem endsPlain_break {rest : List Char} {m : Mark}
    (hsolid : (⟨rest, m.below⟩ : Source).Solid) :
    EndsPlain 1 ⟨'\n' :: rest, m⟩ true ⟨rest, m.below⟩ := by
  intro fuel done hfuel
  obtain ⟨fuel, rfl⟩ : ∃ f, fuel = f + 2 := ⟨fuel - 2, by omega⟩
  obtain ⟨hblank, hbreak⟩ := hsolid
  have hmarker : (⟨'\n' :: rest, m⟩ : Source).atDocumentMarker = false := by
    unfold Source.atDocumentMarker
    rw [Source.atMarker_of_head (by simp), Source.atMarker_of_head (by simp)]
    rfl
  have hgap : Gap.none.take? 1 (fuel + 1) ⟨'\n' :: rest, m⟩
      = some (Gap.none.lineBreak, ⟨rest, m.below⟩) := by
    have hstop : Gap.take? 1 fuel Gap.none.lineBreak ⟨rest, m.below⟩
        = some (Gap.none.lineBreak, ⟨rest, m.below⟩) := by
      cases fuel with
      | zero => rfl
      | succ fuel =>
        rw [Gap.take?, hblank, hbreak]
        rfl
    have hfirst : isBlank '\n' = false ∧ isBreak '\n' = true := by decide
    rw [Gap.take?, Source.head_cons, hfirst.1, hfirst.2, Source.skipBreak_break, hstop]
    rfl
  rw [takePlain?, hgap]
  simp only [hmarker]
  rfl

/-- The inside of a plain text is read up to its end.  A gap is pending only after spaces,
which some character has to follow. -/
theorem takePlain?_inside {cs blanks : List Char} {indent fuel : Nat} {done chars : List Char}
    {m : Mark} {broken : Bool} {after : Source} (hcs : ∀ c ∈ cs, isReserved c = false)
    (hlast : cs.getLast? ≠ some ' ') (hblanks : blanks ≠ [] → cs ≠ [] ∧ cs.head? ≠ some ' ')
    (hm : 0 < m.column) (hindent : indent ≤ 1)
    (hend : EndsPlain indent ⟨chars, m.right cs.length⟩ broken after) (hfuel : cs.length + 2 ≤ fuel) :
    takePlain? false indent fuel done (Gap.ofBlanks blanks) ⟨cs ++ chars, m⟩
      = some (String.ofList (done.reverse ++ (blanks ++ cs)), broken, after) := by
  -- A run of spaces is read at once: the reader keeps it only after the character behind it.
  induction cs using runInduction generalizing fuel done m blanks with
  | nil =>
    cases blanks with
    | cons b bs => exact absurd rfl (hblanks (by simp)).1
    | nil => simpa using hend fuel done (by simpa using hfuel)
  | char c cs hspace ih =>
    obtain ⟨fuel, rfl⟩ : ∃ f, fuel = f + 1 := ⟨fuel - 1, by omega⟩
    obtain ⟨hc, hcs⟩ := List.forall_mem_cons.1 hcs
    have hcolumn : 0 < (m.right 1).column := by simp
    have hlast' : cs.getLast? ≠ some ' ' := by
      intro h
      exact hlast (by simp [List.getLast?_cons, h])
    have hend' : EndsPlain indent ⟨chars, (m.right 1).right cs.length⟩ broken after := by
      rw [Mark.right_right, Nat.add_comm]
      exact hend
    have hread : takePlain? false indent fuel (c :: (blanks.reverse ++ done)) .none
        ⟨cs ++ chars, m.right 1⟩
        = some (String.ofList ((c :: (blanks.reverse ++ done)).reverse ++ cs), broken, after) :=
      @ih [] fuel (c :: (blanks.reverse ++ done)) (m.right 1) hcs hlast' (by simp) hcolumn hend'
        (by simpa using hfuel)
    refine (takePlain?_copied hc hspace (Source.atDocumentMarker_inside hm)).trans
      (hread.trans ?_)
    simp
  | spaces n cs hhead ih =>
    obtain ⟨fuel, rfl⟩ : ∃ f, fuel = f + 1 := ⟨fuel - 1, by omega⟩
    cases blanks with
    | cons b bs => exact absurd (by simp [List.replicate_succ]) (hblanks (by simp)).2
    | nil =>
      have hne : cs ≠ [] := by
        rintro rfl
        exact hlast (by simp [List.getLast?_replicate])
      have hcs := (List.forall_mem_append.1 hcs).2
      have hlast' : cs.getLast? ≠ some ' ' := by
        intro h
        exact hlast (by simp [List.getLast?_append, h])
      have hcolumn : 0 < (m.right (n + 1)).column := by
        rw [Mark.column_right]
        omega
      have hend' : EndsPlain indent ⟨chars, (m.right (n + 1)).right cs.length⟩ broken after := by
        simpa using hend
      have hsolid : (⟨cs ++ chars, m.right (n + 1)⟩ : Source).Solid := by
        cases cs with
        | nil => exact absurd rfl hne
        | cons c cs =>
          have hspace : c ≠ ' ' := by simpa using hhead
          obtain ⟨-, -, htab, hbreak, hreturn, -⟩ := isReserved_cases (hcs c List.mem_cons_self)
          exact ⟨by simp [isBlank, hspace, htab], by simp [isBreak, hbreak, hreturn]⟩
      rw [List.length_append, List.length_replicate] at hfuel
      have hread := @ih (List.replicate (n + 1) ' ') fuel done (m.right (n + 1)) hcs hlast'
        (fun _ => ⟨hne, hhead⟩) hcolumn hend' (by omega)
      rw [List.append_assoc]
      exact (takePlain?_spaces hm (by omega) (by omega) hsolid).trans hread

/-- The characters of a text which is dumped as it is. -/
structure PlainText (cs : List Char) : Prop where
  ne : cs ≠ []
  chars : ∀ c ∈ cs, isReserved c = false
  head : ∀ c ∈ cs.head?, c ≠ ' ' ∧ isLeadingIndicator c = false
  last : cs.getLast? ≠ some ' '

/-- A plain text is read up to its end. -/
theorem PlainText.takePlain? {cs chars : List Char} (h : PlainText cs) {indent fuel : Nat}
    {m : Mark} {broken : Bool} {after : Source} (hindent : indent ≤ 1)
    (hend : EndsPlain indent ⟨chars, m.right cs.length⟩ broken after) (hfuel : cs.length + 2 ≤ fuel) :
    Yaml.takePlain? false indent fuel [] .none ⟨cs ++ chars, m⟩
      = some (String.ofList cs, broken, after) := by
  cases cs with
  | nil => exact absurd rfl h.ne
  | cons c cs =>
    obtain ⟨fuel, rfl⟩ : ∃ f, fuel = f + 1 := ⟨fuel - 1, by omega⟩
    obtain ⟨hc, hcs⟩ := List.forall_mem_cons.1 h.chars
    obtain ⟨hspace, hleading⟩ := h.head c rfl
    -- The first character is read apart, since a document marker could begin there.
    have hmarker : (⟨c :: (cs ++ chars), m⟩ : Source).atDocumentMarker = false := by
      have hdash : c ≠ '-' ∧ c ≠ '.' := by
        refine ⟨?_, ?_⟩ <;> rintro rfl <;> revert hleading <;> decide
      unfold Source.atDocumentMarker
      rw [Source.atMarker_of_head (by simpa using hdash.1),
        Source.atMarker_of_head (by simpa using hdash.2)]
      rfl
    have hcolumn : 0 < (m.right 1).column := by simp
    have hlast : cs.getLast? ≠ some ' ' := by
      intro hspace
      exact h.last (by simp [List.getLast?_cons, hspace])
    have hend' : EndsPlain indent ⟨chars, (m.right 1).right cs.length⟩ broken after := by
      rw [Mark.right_right, Nat.add_comm]
      exact hend
    have hcopied : Yaml.takePlain? false indent (fuel + 1) [] .none ⟨c :: (cs ++ chars), m⟩
        = Yaml.takePlain? false indent fuel [c] .none ⟨cs ++ chars, m.right 1⟩ :=
      takePlain?_copied hc hspace hmarker
    have hread : Yaml.takePlain? false indent fuel [c] .none ⟨cs ++ chars, m.right 1⟩
        = some (String.ofList ([c].reverse ++ ([] ++ cs)), broken, after) :=
      takePlain?_inside hcs hlast (by simp) hcolumn hindent hend' (by simpa using hfuel)
    exact hcopied.trans hread

/-! ## §6. What a plain text stands for. -/

/-- The characters of a decimal numeral are digits. -/
theorem isDigit_of_digitIn? {c : Char} {d : Nat} (h : digitIn? 10 c = some d) :
    Numeral.isDigit c = true := by
  unfold digitIn? at h
  obtain ⟨hd, hlow⟩ := Option.filter_eq_some_iff.1 h
  rw [decide_eq_true_eq] at hlow
  split at hd
  · assumption
  · split at hd
    · have := Option.some.inj hd
      omega
    · split at hd
      · have := Option.some.inj hd
        omega
      · cases hd

theorem isDigit_of_digitsIn? {cs : List Char} {n : Nat} (h : digitsIn? 10 cs = some n) :
    cs ≠ [] ∧ ∀ c ∈ cs, Numeral.isDigit c = true := by
  have hfold : ∀ (cs : List Char) (k n : Nat),
      cs.foldlM (fun n c => (digitIn? 10 c).map (10 * n + ·)) k = some n →
        ∀ c ∈ cs, Numeral.isDigit c = true := by
    intro cs
    induction cs with
    | nil => simp
    | cons c cs ih =>
      intro k n h
      rw [List.foldlM_cons] at h
      obtain ⟨k', hk', hrest⟩ := Option.bind_eq_some_iff.1 h
      obtain ⟨d, hd, -⟩ := Option.map_eq_some_iff.1 hk'
      exact List.forall_mem_cons.2 ⟨isDigit_of_digitIn? hd, ih k' n hrest⟩
  cases cs with
  | nil => cases h
  | cons c cs => exact ⟨by simp, hfold _ 0 n h⟩

/-- Digits are a decimal literal. -/
theorem ofChars?_digits {cs : List Char} (hne : cs ≠ [])
    (hcs : ∀ c ∈ cs, Numeral.isDigit c = true) : (Literal.ofChars? cs).isSome = true := by
  have hsign := Literal.takeSign_digit
    (Numeral.beginsWithDigit_of_length (List.length_pos_of_ne_nil hne) hcs)
  unfold Literal.ofChars?
  simp [hsign, Literal.takeDigits_all hcs, hne, Literal.takeExponent?]

/-- A whole number in base ten reads as a number. -/
theorem readsAsNumber_of_decimal? {s : String} {n : Int} (h : decimal? s.toList = some n)
    (hsign : s.toList.head? ≠ some '-' ∧ s.toList.head? ≠ some '+') : readsAsNumber s = true := by
  have hdigits : ∃ k, digitsIn? 10 s.toList = some k := by
    revert h hsign
    generalize s.toList = cs
    intro h hsign
    unfold decimal? at h
    split at h
    · simp at hsign
    · obtain ⟨_, h, -⟩ := Option.map_eq_some_iff.1 h
      obtain ⟨k, hk, -⟩ := Option.bind_eq_some_iff.1 h
      unfold unsignedIn? at hk
      split at hk
      · simp at hsign
      · exact ⟨k, hk⟩
  obtain ⟨k, hk⟩ := hdigits
  obtain ⟨hne, hcs⟩ := isDigit_of_digitsIn? hk
  unfold readsAsNumber
  rw [ofChars?_digits hne hcs, Bool.true_or]

section Unquoted

variable {s : String}

/-- What is known of a text which needs no quotes. -/
theorem needsQuotes_eq_false (h : needsQuotes s = false) :
    PlainText s.toList ∧ ['0', 'x'].isPrefixOf s.toList = false
      ∧ s ∉ reservedWords ∧ readsAsNumber s = false := by
  unfold needsQuotes at h
  simp only [Bool.or_eq_false_iff] at h
  obtain ⟨⟨⟨⟨⟨⟨⟨hempty, hfirst⟩, hlast⟩, hleading⟩, hhex⟩, hreserved⟩, hword⟩, hnumber⟩ := h
  refine ⟨⟨?_, ?_, ?_, ?_⟩, hhex, ?_, hnumber⟩
  · simpa using hempty
  · simpa using hreserved
  · intro c hc
    have hc : s.toList.head? = some c := hc
    rw [hc] at hfirst hleading
    exact ⟨by simpa using hfirst, by simpa using hleading⟩
  · simpa using hlast
  · simpa using hword

/-- **What a text which needs no quotes stands for**, if it does not begin with a plus sign:
a whole number if it is a numeral with a mark of its base, and otherwise itself. -/
theorem resolve?_plain (h : needsQuotes s = false) (hplus : s.toList.head? ≠ some '+') :
    resolve? s = some (match marked? s.toList with
      | some n => .int n
      | none => .string s) := by
  obtain ⟨hplain, -, hword, hnumber⟩ := needsQuotes_eq_false h
  have hleading : ∀ c : Char, isLeadingIndicator c = true → s.toList.head? ≠ some c := by
    intro c hc hhead
    rw [(hplain.head c hhead).2] at hc
    cases hc
  have hwords : ∀ w ∈ reservedWords, s ≠ w := by
    rintro w hw rfl
    exact hword hw
  have hdecimal : decimal? s.toList = none := by
    cases hn : decimal? s.toList with
    | none => rfl
    | some n =>
      rw [readsAsNumber_of_decimal? hn ⟨hleading '-' (by decide), hplus⟩] at hnumber
      cases hnumber
  have hnonFinite : isNonFinite s.toList = false := by
    have hdrop : s.toList.dropWhile (· == '+') = s.toList := by
      cases hchars : s.toList with
      | nil => rfl
      | cons c cs =>
        rw [hchars] at hplus
        exact List.dropWhile_cons_of_neg (by simpa using hplus)
    -- Every such spelling begins with a dot or a dash, which need quotes.
    have hspelling : ∀ w ∈ [".inf", ".Inf", ".INF", "-.inf", "-.Inf", "-.INF", ".nan", ".NaN",
        ".NAN"], s ≠ w := by
      have hheads : ∀ w ∈ [".inf", ".Inf", ".INF", "-.inf", "-.Inf", "-.INF", ".nan", ".NaN",
          ".NAN"], w.toList.head?.any isLeadingIndicator = true := by decide
      rintro w hw rfl
      obtain ⟨c, hc, hleads⟩ := (Option.any_eq_true _ _).1 (hheads s hw)
      exact hleading c hleads hc
    unfold isNonFinite
    rw [hdrop, String.ofList_toList]
    simp only [List.forall_mem_cons] at hspelling
    simp [hspelling]
  have hliteral : Literal.ofChars? s.toList = none := by
    unfold readsAsNumber at hnumber
    simpa using (Bool.or_eq_false_iff.1 hnumber).1
  unfold resolve?
  rw [if_neg, if_neg (hwords "true" (by decide)), if_neg (hwords "false" (by decide))]
  · cases marked? s.toList with
    | some n => rfl
    | none => simp [hdecimal, hnonFinite, numberOrString, hliteral]
  · rintro (rfl | rfl)
    · exact hwords "~" (by decide) rfl
    · exact hwords "null" (by decide) rfl

end Unquoted

end Document.Yaml

end PrinterFirmware
