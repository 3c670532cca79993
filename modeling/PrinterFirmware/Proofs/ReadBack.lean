/-
  PrinterFirmware.Proofs.ReadBack
  ───────────────────────────────
  **THE SLOTS CAN BE READ BACK, BUT FOR A BOARD WITH THE NAME OF A NUMBER.**

  The dump of a compiled program is always read, as an object with the slots.  Their texts
  are strings again: those which are made of lines are quoted, as is the notice, and so is
  the clock; and `MyPrinter` begins with a letter.

  What is left is the name of the board, which may be any word.  The writer quotes words
  which read as decimal numbers and those which begin like a hexadecimal numeral, but not
  the binary and octal numerals, which the reader takes for numbers.

      Firm                  texts which are read back as they are
      readText_word         what is read where a word has been dumped
      compile_firm          the texts of a compiled program

  Main result: `compile_dump_read`.
-/
import PrinterFirmware.Proofs.DumpedLines
import PrinterFirmware.Proofs.Generation

namespace PrinterFirmware

open Document Yaml Naming Build Board Machine

/-! ## §1. Texts which are read back. -/

namespace SlotDump

variable {s : String}

theorem needsQuotes_of_mem {c : Char} (h : c ∈ s.toList) (hc : isReserved c = true) :
    needsQuotes s = true := by
  have hany : s.toList.any isReserved = true := List.any_eq_true.2 ⟨c, h, hc⟩
  simp [needsQuotes, hany]

/-- A text which is quoted or begins with a letter. -/
def Firm (s : String) : Prop :=
  needsQuotes s = true ∨ ∃ c, s.toList.head? = some c ∧ isLetter c = true

theorem isLetter_ne {c d : Char} (h : isLetter c = true) (hd : isLetter d = false) : c ≠ d := by
  rintro rfl
  rw [hd] at h
  cases h

/-- A text which begins with a letter is no numeral. -/
theorem marked?_letter {c : Char} (cs : List Char) (h : isLetter c = true) :
    marked? (c :: cs) = none := by
  have hminus := isLetter_ne (d := '-') h (by decide)
  have hplus := isLetter_ne (d := '+') h (by decide)
  have hzero := isLetter_ne (d := '0') h (by decide)
  simp [marked?, baseMark?, hminus, hplus, hzero]

/-- Such a text is read back as it is. -/
theorem Firm.readText (h : Firm s) : readText s = .string s := by
  unfold SlotDump.readText
  cases hquotes : needsQuotes s with
  | true => rfl
  | false =>
    rcases h with h | ⟨c, hhead, hc⟩
    · rw [hquotes] at h
      cases h
    · cases hchars : s.toList with
      | nil => simp [hchars] at hhead
      | cons d cs =>
        rw [hchars] at hhead
        obtain rfl : d = c := Option.some.inj hhead
        simp [marked?_letter cs hc]

theorem Firm.unsigned (h : Firm s) (hquotes : needsQuotes s = false) : s.toList.head? ≠ some '+' := by
  rcases h with h | ⟨c, hhead, hc⟩
  · rw [hquotes] at h
    cases h
  · rw [hhead]
    intro heq
    exact isLetter_ne (d := '+') hc (by decide) (Option.some.inj heq)

/-- Lines are quoted, and so is no text at all. -/
theorem firm_lines {ls : List String} (h : ∀ l ∈ ls, '\n' ∈ l.toList) : Firm (Draft.lines ls) := by
  left
  cases ls with
  | nil => decide
  | cons l ls =>
    refine needsQuotes_of_mem (c := '\n') ?_ (by decide)
    unfold Draft.lines
    rw [String.join_cons, String.toList_append]
    exact List.mem_append_left _ (h l List.mem_cons_self)

/-! ## §2. Words. -/

/-- The whole number of digits in a base, if it fits into 64 bits. -/
def whole? (base : Nat) (digits : List Char) : Option Int :=
  (digitsIn? base digits).bind fun n => if (n : Int) < unsignedBound then some (n : Int) else none

/-- The whole number which a word is spelled like in base two or eight. -/
def numeral? (s : String) : Option Int :=
  match s.toList with
  | '0' :: 'b' :: digits => whole? 2 digits
  | '0' :: 'o' :: digits => whole? 8 digits
  | _ => none

/-- What is read where a word has been dumped. -/
def wordValue (s : String) : Value := (numeral? s).elim (.string s) .int

section Words

variable {cs digits : List Char} {b : Char}

/-- The characters of words have no meaning of their own. -/
theorem isReserved_word {c : Char} (h : isWordChar c = true) : isReserved c = false := by
  have hne : ∀ d : Char, isWordChar d = false → c ≠ d := by
    rintro d hd rfl
    rw [hd] at h
    cases h
  have hlow : 32 ≤ c.toNat := by
    have hprinted := (isWordChar_harmless h).1
    simp only [isPrinted, Bool.and_eq_true, decide_eq_true_eq] at hprinted
    exact hprinted.1.1.1
  have hranges : ¬ c.toNat ≤ 6 ∧ ¬ c.toNat ≤ 26 ∧ ¬ c.toNat ≤ 31 := by omega
  unfold isReserved
  simp [hranges.1, hranges.2.1, hranges.2.2, hne ':' (by decide), hne '\x7b' (by decide),
    hne '\x7d' (by decide), hne '[' (by decide), hne ']' (by decide), hne ',' (by decide),
    hne '#' (by decide), hne '\x60' (by decide), hne '"' (by decide), hne '\'' (by decide),
    hne '\\' (by decide), hne '\t' (by decide), hne '\n' (by decide), hne '\r' (by decide)]

/-- A word is read by the mark of its base alone: it has no sign. -/
theorem marked?_word (h : ∀ c ∈ cs, isWordChar c = true) :
    marked? cs = (baseMark? cs).bind fun mark => whole? mark.1 mark.2 := by
  have hne : ∀ c ∈ cs, c ≠ '-' ∧ c ≠ '+' := by
    intro c hc
    have := h c hc
    refine ⟨?_, ?_⟩ <;> rintro rfl <;> revert this <;> decide
  have hdigits : ∀ base rest, baseMark? cs = some (base, rest) →
      unsignedIn? base rest = digitsIn? base rest := by
    intro base rest hmark
    have hmem : ∀ c ∈ rest, c ∈ cs := by
      unfold baseMark? at hmark
      split at hmark <;> cases hmark <;> simp +contextual
    cases rest with
    | nil => rfl
    | cons c rest => simp [unsignedIn?, (hne c (hmem c List.mem_cons_self)).2]
  cases cs with
  | nil => rfl
  | cons c rest =>
    obtain ⟨hminus, hplus⟩ := hne c List.mem_cons_self
    cases hmark : baseMark? (c :: rest) with
    | none => simp [marked?, hminus, hplus, hmark]
    | some mark =>
      obtain ⟨base, digits⟩ := mark
      simp [marked?, hminus, hplus, hmark, hdigits base digits hmark, whole?]

/-- A numeral with the mark of base two or eight is no decimal number. -/
theorem readsAsNumber_marked (hb : b = 'b' ∨ b = 'o') (hchars : s.toList = '0' :: b :: digits) :
    readsAsNumber s = false := by
  have hdigits : Literal.takeDigits ('0' :: b :: digits) = (['0'], b :: digits) := by
    unfold Literal.takeDigits
    rw [List.span_eq_takeWhile_dropWhile]
    rcases hb with rfl | rfl <;> rfl
  have hliteral : Literal.ofChars? s.toList = none := by
    rw [hchars]
    unfold Literal.ofChars?
    rcases hb with rfl | rfl <;> simp [Literal.takeSign, hdigits, Literal.takeExponent?]
  have hword : isNumberWord s.toList = false := by
    have hheads : ∀ w ∈ numberWords, w.toList.head? ≠ some '0' := by decide
    unfold isNumberWord
    rw [hchars, List.contains_eq_mem, decide_eq_false_iff_not]
    intro hmem
    refine hheads _ hmem ?_
    rw [String.toList_ofList]
    rfl
  unfold readsAsNumber
  rw [hliteral, hword]
  rfl

/-- The writer does not quote a word with the mark of base two or eight. -/
theorem needsQuotes_marked (hb : b = 'b' ∨ b = 'o') (hchars : s.toList = '0' :: b :: digits)
    (hword : ∀ c ∈ s.toList, isWordChar c = true) : needsQuotes s = false := by
  have hlast : (b :: digits).getLast? ≠ some ' ' := by
    intro h
    have hmem : ' ' ∈ s.toList := hchars ▸ List.mem_cons_of_mem _ (List.mem_of_getLast? h)
    exact absurd (hword ' ' hmem) (by decide)
  have hreserved : s.toList.any isReserved = false := by
    rw [List.any_eq_false]
    intro c hc
    rw [isReserved_word (hword c hc)]
    simp
  have hwords : s ∉ reservedWords := by
    have hheads : ∀ w ∈ reservedWords, w.toList.head? ≠ some '0' := by decide
    intro hmem
    exact hheads s hmem (by rw [hchars]; rfl)
  have hhex : ['0', 'x'].isPrefixOf ('0' :: b :: digits) = false := by
    rcases hb with rfl | rfl <;> rfl
  have hleading : isLeadingIndicator '0' = false := by decide
  unfold needsQuotes
  simp only [hreserved, readsAsNumber_marked hb hchars]
  rw [hchars, hhex]
  simp [hlast, hwords, hleading]

/-- A word which is quoted is not spelled like a number in base two or eight. -/
theorem numeral?_quoted (hquotes : needsQuotes s = true)
    (hword : ∀ c ∈ s.toList, isWordChar c = true) : numeral? s = none := by
  unfold numeral?
  split
  · next digits hchars =>
    rw [needsQuotes_marked (.inl rfl) hchars hword] at hquotes
    cases hquotes
  · next digits hchars =>
    rw [needsQuotes_marked (.inr rfl) hchars hword] at hquotes
    cases hquotes
  · rfl

/-- A word which is not quoted has no mark of base sixteen. -/
theorem numeral?_plain (hquotes : needsQuotes s = false)
    (hword : ∀ c ∈ s.toList, isWordChar c = true) : marked? s.toList = numeral? s := by
  have hhex := (needsQuotes_eq_false hquotes).2.1
  rw [marked?_word hword]
  unfold numeral? baseMark?
  split
  · next digits hchars =>
    rw [hchars] at hhex
    cases hhex
  · next digits hchars => simp [hchars]
  · next digits hchars => simp [hchars]
  · next hbinary hoctal =>
    split
    · next digits hchars => exact absurd hchars (hoctal digits)
    · next digits hchars => exact absurd hchars (hbinary digits)
    · rfl

/-- **What is read where a word has been dumped**: a whole number if it is spelled like one in
base two or eight, and itself otherwise. -/
theorem readText_word (h : isWord s = true) : readText s = wordValue s := by
  have hword : ∀ c ∈ s.toList, isWordChar c = true := by
    simp only [isWord, Bool.and_eq_true, List.all_eq_true] at h
    exact h.2
  unfold SlotDump.readText wordValue
  cases hquotes : needsQuotes s with
  | true => simp [numeral?_quoted hquotes hword]
  | false =>
    rw [numeral?_plain hquotes hword]
    cases numeral? s <;> rfl

end Words

end SlotDump

/-! ## §3. The texts of a program. -/

namespace Draft

/-- A text which ends in a line break. -/
def IsLine (l : String) : Prop := '\n' ∈ l.toList

instance : DecidablePred IsLine := fun l => inferInstanceAs (Decidable ('\n' ∈ l.toList))

theorem isLine_append {last : String} (h : IsLine last) (before : String) : IsLine (before ++ last) := by
  unfold IsLine
  rw [String.toList_append]
  exact List.mem_append_right _ h

theorem isLine_item {i : Item} {l : String}
    (h : constantLine? i = some l ∨ optionLine? i = some l ∨ platformLine? i = some l) :
    IsLine l := by
  rcases h with h | h | h
  · cases i <;> cases h
    exact isLine_append (by decide) _
  · cases i <;> cases h
    exact isLine_append (by decide) _
  · cases i <;> cases h
    exact isLine_append (by decide) _

theorem isLine_code {i : Item} {l : Int × String} (h : codeLine? i = some l ∨ initLine? i = some l) :
    IsLine l.2 := by
  rcases h with h | h
  · cases i <;> cases h
    exact isLine_append (by decide) _
  · cases i <;> cases h
    exact isLine_append (by decide) _

/-- The slots which a program fills itself are read back: they consist of lines, but for the
notice, which has a colon. -/
theorem firm_ownSlots (d : Draft) : ∀ e ∈ d.ownSlots, SlotDump.Firm e.2 := by
  -- The lines of a slot come from sorted items, from items in order, or from other things.
  have hordered : ∀ line? : Item → Option (Int × String), (∀ i l, line? i = some l → IsLine l.2) →
      SlotDump.Firm (lines (byPriority (d.items.filterMap line?))) := by
    intro line? hline
    apply SlotDump.firm_lines
    intro l hl
    obtain ⟨priority, hl⟩ := mem_byPriority.1 hl
    obtain ⟨i, -, hi⟩ := List.mem_filterMap.1 hl
    exact hline i _ hi
  have hitems : ∀ line? : Item → Option String, (∀ i l, line? i = some l → IsLine l) →
      SlotDump.Firm (lines (d.items.filterMap line?)) := by
    intro line? hline
    apply SlotDump.firm_lines
    intro l hl
    obtain ⟨i, -, hi⟩ := List.mem_filterMap.1 hl
    exact hline i l hi
  have hmapped : ∀ {α : Type} (things : List α) (line : α → String), (∀ r, IsLine (line r)) →
      SlotDump.Firm (lines (things.map line)) := by
    intro α things line hline
    apply SlotDump.firm_lines
    intro l hl
    obtain ⟨r, -, rfl⟩ := List.mem_map.1 hl
    exact hline r
  unfold ownSlots
  simp only [List.forall_mem_cons, List.not_mem_nil, false_imp_iff, implies_true, and_true]
  refine ⟨?_, ?_, ?_, ?_, ?_, ?_, ?_, ?_, ?_, ?_, ?_⟩
  · exact .inl (SlotDump.needsQuotes_of_mem (c := ':') (by decide +kernel) (by decide))
  · exact hitems _ fun i l h => isLine_item (.inl h)
  · exact hitems _ fun i l h => isLine_item (.inr (.inl h))
  · exact hitems _ fun i l h => isLine_item (.inr (.inr h))
  · exact hmapped _ _ fun path => isLine_append (by decide) _
  · exact hordered _ fun i l h => isLine_code (.inl h)
  · exact hordered _ fun i l h => isLine_code (.inr h)
  · exact hmapped _ _ fun r => isLine_append (by decide) _
  · apply SlotDump.firm_lines
    intro l hl
    obtain ⟨r, -, hr⟩ := List.mem_filterMap.1 hl
    obtain ⟨name, -, rfl⟩ := Option.map_eq_some_iff.1 hr
    exact isLine_append (by decide) _
  · exact hmapped _ _ fun r => isLine_append (by decide) _
  · exact hmapped _ _ fun r => isLine_append (by decide) _

end Draft

/-- The text of a clock is laid out over several lines. -/
theorem firm_clock (k : Clock) : SlotDump.Firm (k.expr.render (.indented 0)) := by
  refine .inl (SlotDump.needsQuotes_of_mem (c := '\n') ?_ (by decide))
  unfold TypeExpr.render Clock.expr
  rw [String.toList_ofList]
  simp [TypeExpr.chars, TypeExpr.argumentChars, Layout.opening, Layout.newline]

/-- Where the name of the board stands among the slots of a program which has been compiled. -/
def boardSlot : String := "BoardForBuild"

variable {document : Value} {name? : Option String} {c : Compiled}

/-- **The texts of a compiled program**: the slot of the board has its name, which is a word,
and the others have texts which are read back as they are. -/
theorem compile_firm (h : compile document name? = .ok c) :
    isWord c.buildName = true ∧ (boardSlot, c.buildName) ∈ c.slots.entries
      ∧ ∀ e ∈ c.slots.entries, e = (boardSlot, c.buildName)
        ∨ e.1 ≠ boardSlot ∧ SlotDump.Firm e.2 := by
  cases compile_gives h with
  | @mk config board x parts a boardGain printerGain d hsections hboard hprinter hdeferred hd w
      hfilled =>
    have hword : isWord parts.buildName = true
        ∧ .fill boardSlot (.text parts.buildName) ∈ d.items := by
      cases hboard with
      | mk _ _ hword => exact ⟨hword, by simp [hd, boardSlot]⟩
    have hprinterItems : .fill "FastEventRoot" (.text "MyPrinter") ∈ d.items
        ∧ .fill "EmergencyProvider" (.text "MyPrinter") ∈ d.items := by
      cases hprinter with
      | mk => exact ⟨by simp [hd], by simp [hd]⟩
    have hclock : ∃ k : Clock, .fill "CLOCK" (.expr k.expr (.indented 0)) ∈ d.items := by
      refine ⟨{ x.clock with claims := (boardGain ++ printerGain).units }, ?_⟩
      rw [hd]
      refine List.mem_append_right _ (List.mem_cons_of_mem _ ?_)
      exact List.mem_append_right _ List.mem_cons_self
    have hnames : d.directSlots.map (·.1) = directSlotNames ++ ["CLOCK"] :=
      (Draft.directSlots_names d).trans hfilled
    have hdirect : ∀ {slot : String} {content : SlotContent}, .fill slot content ∈ d.items →
        (slot, content.render) ∈ d.directSlots :=
      fun hmem => List.mem_filterMap.2 ⟨_, hmem, rfl⟩
    -- Each slot is filled once, so what is known to be filled is all there is.
    have honce : ∀ {slot text text' : String}, (slot, text) ∈ d.directSlots →
        (slot, text') ∈ d.directSlots → text = text' := by
      intro slot text text' htext htext'
      have hnodup : (d.directSlots.map (·.1)).Nodup := by
        rw [hnames]
        decide
      exact Option.some.inj ((Ascending.lookup_of_mem hnodup htext).symm.trans
        (Ascending.lookup_of_mem hnodup htext'))
    have hall : ((d.directSlots ++ d.ownSlots).map (·.1)).Nodup := by
      rw [List.map_append, hnames, Draft.ownSlots_names]
      decide
    have hplain : SlotDump.Firm "MyPrinter" := .inr ⟨'M', by decide, by decide⟩
    refine ⟨hword.1, ?_, ?_⟩
    · exact (Ascending.mapOf_perm hall).mem_iff.2 (List.mem_append_left _ (hdirect hword.2))
    · rintro ⟨slot, text⟩ he
      rcases List.mem_append.1 (Ascending.mem_of_mem_mapOf he) with he | he
      · have hslot : slot ∈ directSlotNames ++ ["CLOCK"] := hnames ▸ List.mem_map_of_mem he
        simp only [directSlotNames, List.cons_append, List.nil_append, List.mem_cons,
          List.not_mem_nil, or_false] at hslot
        rcases hslot with rfl | rfl | rfl | rfl
        · left
          rw [honce he (hdirect hword.2)]
          rfl
        · right
          rw [honce he (hdirect hprinterItems.1)]
          exact ⟨by decide, hplain⟩
        · right
          rw [honce he (hdirect hprinterItems.2)]
          exact ⟨by decide, hplain⟩
        · right
          obtain ⟨k, hk⟩ := hclock
          rw [honce he (hdirect hk)]
          exact ⟨by simp [boardSlot], firm_clock k⟩
      · have hslot : slot ∈ Draft.ownNames :=
          Draft.ownSlots_names d ▸ List.mem_map_of_mem (f := Prod.fst) he
        have hother : boardSlot ∉ Draft.ownNames := by decide
        exact .inr ⟨fun heq => hother (heq ▸ hslot), Draft.firm_ownSlots d _ he⟩

theorem get?_boardSlot (h : compile document name? = .ok c) :
    c.slots.get? boardSlot = some c.buildName := by
  have hnodup : (c.slots.entries.map (·.1)).Nodup := (compile_slots h).nodup_iff.2 (by decide)
  exact Ascending.lookup_of_mem hnodup (compile_firm h).2.1

/-- Every line of the dump of a compiled program can be cut. -/
theorem legible_compiled (h : compile document name? = .ok c) :
    ∀ e ∈ c.slots.entries, SlotDump.Legible e := by
  have hnames : ∀ slot ∈ programSlots,
      SlotDump.needsQuotes slot = false ∧ slot.toList.length ≤ KeyStart.maxLength := by
    decide +kernel
  obtain ⟨hword, -, hfirm⟩ := compile_firm h
  intro e he
  obtain ⟨hname, hshort⟩ := hnames e.1 ((compile_slots h).mem_iff.1 (List.mem_map_of_mem he))
  refine ⟨hname, hshort, ?_, ?_⟩
  · intro ch hch
    have hsource := isSource_compiled h e he ch hch
    simp only [isSource, isPrinted, Bool.or_eq_true, Bool.and_eq_true] at hsource
    simp only [SlotDump.isDumped, Bool.or_eq_true, Bool.and_eq_true]
    exact hsource.imp_left fun hprinted => hprinted.1.1
  · intro hquotes
    rcases hfirm e he with rfl | ⟨-, hfirm⟩
    · intro hhead
      simp only [isWord, Bool.and_eq_true, List.all_eq_true] at hword
      exact absurd (hword.2 '+' (List.mem_of_head? hhead)) (by decide)
    · exact hfirm.unsigned hquotes

/-- The slots of a program as an object: every slot has its text, which is a string. -/
def SlotMap.object (m : SlotMap) : Value := .object (m.entries.map fun e => (e.1, .string e.2))

theorem ascending_compiled (h : compile document name? = .ok c) :
    c.slots.entries.Pairwise fun a b => a.1 < b.1 := by
  cases compile_gives h with
  | mk => exact Ascending.pairwise_mapOf _

/-- The dump of a compiled program is read: as an object in which every slot has its text,
except that for the name of the board there is what is read where that word has been dumped. -/
theorem read?_compiled (h : compile document name? = .ok c) :
    Yaml.read? (SlotDump.render c.slots) = some (.object (c.slots.entries.map fun e =>
      (e.1, if e.1 = boardSlot then SlotDump.wordValue c.buildName else .string e.2))) := by
  obtain ⟨hword, hboard, hfirm⟩ := compile_firm h
  have hne : c.slots.entries ≠ [] := List.ne_nil_of_mem hboard
  rw [read?_render hne (legible_compiled h) (ascending_compiled h)]
  refine congrArg (fun fields => some (Value.object fields)) (List.map_congr_left fun e he => ?_)
  rcases hfirm e he with rfl | ⟨hslot, hfirm⟩
  · rw [if_pos rfl, SlotDump.readText_word hword]
  · rw [if_neg hslot, hfirm.readText]

/-- That is the object of the slots if the name of the board is not spelled like a number, and
only then. -/
theorem readBack_iff (h : compile document name? = .ok c) :
    Yaml.read? (SlotDump.render c.slots) = some c.slots.object
      ↔ SlotDump.numeral? c.buildName = none := by
  obtain ⟨-, hboard, hfirm⟩ := compile_firm h
  rw [read?_compiled h, SlotMap.object, Option.some.injEq, Value.object.injEq, List.map_inj_left]
  refine ⟨?_, ?_⟩
  · intro hall
    have hvalue := (Prod.mk.inj (hall _ hboard)).2
    rw [if_pos rfl, SlotDump.wordValue] at hvalue
    cases hnumeral : SlotDump.numeral? c.buildName with
    | none => rfl
    | some n =>
      rw [hnumeral] at hvalue
      cases hvalue
  · intro hnumeral e he
    rcases hfirm e he with rfl | ⟨hslot, -⟩
    · rw [if_pos rfl, SlotDump.wordValue, hnumeral]
      rfl
    · rw [if_neg hslot]

/-- **The slots of a compiled program can be read back from their dump, unless the name of the
board is a number.**  The dump is always read, as an object with the same slots; all of them
have their texts, but a board whose name is spelled like a whole number of at most 64 bits in
base two or eight is read as that number, because the writer does not quote it. -/
theorem compile_dump_read (h : compile document name? = .ok c) :
    c.slots.get? boardSlot = some c.buildName
    ∧ Yaml.read? (SlotDump.render c.slots) = some (.object (c.slots.entries.map fun e =>
      (e.1, if e.1 = boardSlot then SlotDump.wordValue c.buildName else .string e.2)))
    ∧ (Yaml.read? (SlotDump.render c.slots) = some c.slots.object
      ↔ SlotDump.numeral? c.buildName = none) :=
  ⟨get?_boardSlot h, read?_compiled h, readBack_iff h⟩

theorem compiled_of_buildName {name : String}
    (h : (compile document name?).toOption.map (·.buildName) = some name) :
    ∃ c, compile document name? = .ok c ∧ c.buildName = name := by
  cases hc : compile document name? with
  | ok c =>
    rw [hc] at h
    exact ⟨c, rfl, Option.some.inj h⟩
  | error e =>
    rw [hc] at h
    cases h

/-- The slots of the small description are read back. -/
theorem sample_dump_read : ∃ c, compile Sample.description none = .ok c
    ∧ Yaml.read? (SlotDump.render c.slots) = some c.slots.object := by
  obtain ⟨c, hc, hname⟩ : ∃ c, compile Sample.description none = .ok c ∧ c.buildName = "b" :=
    compiled_of_buildName (by decide +kernel)
  refine ⟨c, hc, (compile_dump_read hc).2.2.2 ?_⟩
  rw [hname]
  decide

namespace Sample

/-- A board which has another name for the build. -/
def renamed (name : String) : Value → Value
  | .object fields => .object (fields.map fun
      | ("platform_config", .object config) => ("platform_config", .object (config.map fun f =>
          if f.1 = "board_for_build" then (f.1, .string name) else f))
      | f => f)
  | v => v

/-- The small description with a board whose name is a binary numeral. -/
def numbered : Value :=
  .object [("selected_config", .string "C"), ("configurations", .list [config]),
    ("boards", .list [renamed "0b1" board])]

end Sample

/-- A board whose name is a binary numeral is read as a number, so its slots are not read
back. -/
theorem numbered_not_read : ∃ c fields, compile Sample.numbered none = .ok c
    ∧ c.slots.get? boardSlot = some "0b1"
    ∧ Yaml.read? (SlotDump.render c.slots) = some (.object fields)
    ∧ (boardSlot, .int 1) ∈ fields
    ∧ Yaml.read? (SlotDump.render c.slots) ≠ some c.slots.object := by
  obtain ⟨c, hc, hname⟩ : ∃ c, compile Sample.numbered none = .ok c ∧ c.buildName = "0b1" :=
    compiled_of_buildName (by decide +kernel)
  have hnumeral : SlotDump.numeral? c.buildName = some 1 := by
    rw [hname]
    decide
  have hboard := (compile_firm hc).2.1
  refine ⟨c, _, hc, ?_, read?_compiled hc, ?_, ?_⟩
  · rw [← hname]
    exact get?_boardSlot hc
  · refine List.mem_map.2 ⟨_, hboard, ?_⟩
    rw [if_pos rfl, SlotDump.wordValue, hnumeral]
    rfl
  · rw [Ne, readBack_iff hc, hnumeral]
    simp

end PrinterFirmware
