/-
  PrinterFirmware.Proofs.DumpedLines
  ──────────────────────────────────
  **THE READING OF A DUMP, LINE BY LINE.**

  A line of a dump is cut into four tokens: a key with its name, and a value with its text.
  The first line opens the mapping, since its colon shows that a key stands at a column
  which is deeper than none, and the end of the dump closes it.  What the tokens make is one
  mapping, whose entries are the lines in their order.

      AtLine             a state of the cutting at the start of a line
      AtLine.line        a line is cut in three steps, which lead to the next one
      tokens?_render     the tokens of a dump
      read?_render       the value of a dump
-/
import PrinterFirmware.Document.Yaml.Node
import PrinterFirmware.Proofs.Ascending
import PrinterFirmware.Proofs.DumpedText

namespace PrinterFirmware

open Document Yaml SlotDump

namespace SlotDump

/-! ## §1. Lines. -/

/-- A slot whose line can be cut: its name is a plain text of a bounded length, and its text
consists of printable characters and line breaks and does not begin with a plus sign. -/
structure Legible (e : String × String) : Prop where
  name : needsQuotes e.1 = false
  short : e.1.toList.length ≤ KeyStart.maxLength
  text : ∀ c ∈ e.2.toList, isDumped c = true
  unsigned : needsQuotes e.2 = false → e.2.toList.head? ≠ some '+'

theorem length_lines (entries : List (String × String)) :
    3 * entries.length ≤ (entries.flatMap lineChars).length := by
  induction entries with
  | nil => simp
  | cons e entries ih =>
    have hline : 3 ≤ (lineChars e).length := by
      simp [lineChars]
      omega
    rw [List.flatMap_cons, List.length_append, List.length_cons]
    omega

/-- The tokens of a line. -/
def lineTokens (e : String × String) : List Token :=
  [.key, .scalar true e.1, .value, .scalar (!needsQuotes e.2) e.2]

/-- What is read where a text has been dumped. -/
def readText (s : String) : Value :=
  if needsQuotes s then .string s
  else
    match marked? s.toList with
    | some n => .int n
    | none => .string s

/-- The token which opens the mapping of a dump, before its first line. -/
def opening (opened : Bool) : List Token := if opened then [] else [.blockMappingStart]

end SlotDump

namespace Document.Yaml

/-- A character which may begin a plain text has no meaning of its own. -/
def Begins (c : Char) : Prop := isReserved c = false ∧ isLeadingIndicator c = false ∧ c ≠ ' '

/-- What follows a line break begins a line without indentation, or it is the end. -/
def StartsLine (rest : List Char) : Prop := ∀ c ∈ rest.head?, Begins c

theorem Begins.ne {c d : Char} (h : Begins c) (hd : isReserved d = true ∨ isLeadingIndicator d = true
    ∨ d = ' ') : c ≠ d := by
  rintro rfl
  obtain ⟨hreserved, hleading, hspace⟩ := h
  rcases hd with hd | hd | hd
  · rw [hreserved] at hd
    cases hd
  · rw [hleading] at hd
    cases hd
  · exact hspace hd

theorem StartsLine.solid {rest : List Char} (h : StartsLine rest) (m : Mark) :
    (⟨rest, m⟩ : Source).Solid := by
  cases rest with
  | nil => exact ⟨rfl, rfl⟩
  | cons c rest =>
    have hc := h c rfl
    exact ⟨by simp [isBlank, hc.ne (d := ' ') (by decide), hc.ne (d := '\t') (by decide)],
      by simp [isBreak, hc.ne (d := '\n') (by decide), hc.ne (d := '\r') (by decide)]⟩

theorem StartsLine.not_comment {rest : List Char} (h : StartsLine rest) (m : Mark) :
    (⟨rest, m⟩ : Source).head ≠ '#' := by
  cases rest with
  | nil => simp
  | cons c rest => exact (h c rfl).ne (by decide)

theorem PlainText.startsLine {cs : List Char} (h : PlainText cs) (chars : List Char) :
    StartsLine (cs ++ chars) := by
  cases cs with
  | nil => exact absurd rfl h.ne
  | cons c cs =>
    intro d hd
    obtain rfl : c = d := Option.some.inj hd
    exact ⟨h.chars c List.mem_cons_self, (h.head c rfl).2, (h.head c rfl).1⟩

theorem PlainText.begins {cs : List Char} (h : PlainText cs) (chars : List Char) (m : Mark) :
    Begins (⟨cs ++ chars, m⟩ : Source).head := by
  cases cs with
  | nil => exact absurd rfl h.ne
  | cons c cs => exact h.startsLine chars c rfl

/-- The key which is given up if it is too far back. -/
def KeyStart.refresh (k : KeyStart) (m : Mark) : KeyStart :=
  if k.isStale m then { k with possible := false } else k

theorem KeyStart.required_refresh {k : KeyStart} (m : Mark) : (k.refresh m).required = k.required := by
  unfold refresh
  split <;> rfl

namespace Lexer

/-! ## §2. Steps. -/

/-- Blanks are skipped up to a character which begins something. -/
theorem skipBlanks_stop {l : Lexer} {fuel : Nat} (hsolid : l.source.Solid)
    (hhash : l.source.head ≠ '#') : skipBlanks fuel l = l := by
  cases fuel with
  | zero => rfl
  | succ fuel =>
    obtain ⟨hblank, hbreak⟩ := hsolid
    have hspace : l.source.head ≠ ' ' ∧ l.source.head ≠ '\t' := by
      simpa [isBlank] using hblank
    simp [skipBlanks, hbreak, hspace.1, hspace.2, hhash]

/-- One step of the cutting, from the state after the blanks. -/
theorem run?_step {l l₁ l₂ l₃ : Lexer} {fuel : Nat}
    (hblanks : skipBlanks (l.source.chars.length + 1) l = l₁) (hkeys : l₁.dropStaleKeys? = some l₂)
    (hblocks : l₂.closeBlocks l₂.mark.column = l₂) (hhead : l₂.source.head ≠ '\x00')
    (htoken : l₂.token? = some l₃) : l.run? (fuel + 1) = l₃.run? fuel := by
  rw [run?, hblanks, hkeys]
  show (if (l₂.closeBlocks l₂.mark.column).source.head = '\x00' then _ else _) = _
  rw [hblocks, if_neg hhead, htoken]
  rfl

/-- The last step, at the end of the text. -/
theorem run?_last {l l₁ l₂ : Lexer} {fuel : Nat}
    (hblanks : skipBlanks (l.source.chars.length + 1) l = l₁) (hkeys : l₁.dropStaleKeys? = some l₂)
    (hblocks : l₂.closeBlocks l₂.mark.column = l₂) (hhead : l₂.source.head = '\x00') :
    l.run? (fuel + 1) = (l₂.streamEnd?).map Lexer.tokens := by
  rw [run?, hblanks, hkeys]
  simp only [Option.bind_eq_bind, Option.bind_some, hblocks]
  rw [if_pos hhead]

/-- A character without a meaning of its own begins a plain scalar. -/
theorem token?_plain {l : Lexer} (h : Begins l.source.head) : l.token? = l.plain? := by
  have hdash : l.source.atMarker '-' = false := Source.atMarker_of_head (h.ne (by decide))
  have hdot : l.source.atMarker '.' = false := Source.atMarker_of_head (h.ne (by decide))
  have hvalue : l.atValue = false := by
    simp [atValue, h.ne (d := ':') (by decide)]
  unfold token?
  simp [hdash, hdot, hvalue, h.ne (d := '%') (by decide), h.ne (d := '[') (by decide),
    h.ne (d := '\x7b') (by decide), h.ne (d := ']') (by decide), h.ne (d := '\x7d') (by decide),
    h.ne (d := ',') (by decide), h.ne (d := '-') (by decide), h.ne (d := '?') (by decide),
    h.ne (d := '*') (by decide), h.ne (d := '&') (by decide), h.ne (d := '!') (by decide),
    h.ne (d := '|') (by decide), h.ne (d := '>') (by decide), h.ne (d := '\'') (by decide),
    h.ne (d := '"') (by decide), h.ne (d := '@') (by decide), h.ne (d := '\x60') (by decide)]

/-- A double quote begins a quoted scalar. -/
theorem token?_quote {l : Lexer} (h : l.source.head = '"') : l.token? = l.quoted? false := by
  have hdash : l.source.atMarker '-' = false := Source.atMarker_of_head (by simp [h])
  have hdot : l.source.atMarker '.' = false := Source.atMarker_of_head (by simp [h])
  simp [token?, atValue, hdash, hdot, h]

/-- A state outside of brackets.  The mapping of the dump has been opened or not; there is
one place where a key may have begun. -/
def atBlock (s : Source) (tokens : List Token) (opened : Bool) (k : KeyStart) (allowed : Bool)
    (adjacent : Nat) : Lexer where
  source := s
  tokens := tokens
  indent := if opened then 0 else -1
  outerIndents := if opened then [-1] else []
  keyStarts := [k]
  flowDepth := 0
  keyAllowed := allowed
  adjacentValue := adjacent

section Block

variable {s after : Source} {tokens : List Token} {opened allowed broken : Bool} {k : KeyStart}
  {adjacent : Nat}

/-- A key which does not have to follow may be given up. -/
theorem dropStaleKeys?_atBlock (hk : k.required = false) :
    (atBlock s tokens opened k allowed adjacent).dropStaleKeys?
      = some (atBlock s tokens opened (k.refresh s.mark) allowed adjacent) := by
  simp [dropStaleKeys?, atBlock, hk, KeyStart.refresh, mark]

/-- No column of the text closes the mapping of the dump. -/
theorem closeBlocks_atBlock (column : Nat) :
    (atBlock s tokens opened k allowed adjacent).closeBlocks column
      = atBlock s tokens opened k allowed adjacent := by
  cases opened with
  | false => rfl
  | true =>
    have hcolumn : ¬ (column : Int) < 0 := by omega
    simp [closeBlocks, inFlow, atBlock, closeBlocks.go, hcolumn]

/-- The place which is remembered for a key, where one may begin. -/
def savedKey (tokens : List Token) (allowed : Bool) (m : Mark) (k : KeyStart) : KeyStart :=
  if allowed then ⟨true, false, tokens.length, m⟩ else k

theorem saveKey?_atBlock (hk : k.required = false) :
    (atBlock s tokens opened k allowed adjacent).saveKey?
      = some (atBlock s tokens opened (savedKey tokens allowed s.mark k) allowed adjacent) := by
  cases allowed with
  | false => rfl
  | true => simp [saveKey?, dropKey?, keyStart, setKeyStart, atBlock, inFlow, savedKey, hk, mark]

/-- A plain text is read as a scalar. -/
theorem plain?_atBlock {cs chars : List Char} {m : Mark} (hk : k.required = false)
    (hcs : PlainText cs) (hchars : chars ≠ [])
    (hend : EndsPlain (if opened then 1 else 0) ⟨chars, m.right cs.length⟩ broken after) :
    (atBlock ⟨cs ++ chars, m⟩ tokens opened k allowed adjacent).plain?
      = some (atBlock after (tokens ++ [.scalar true (String.ofList cs)]) opened
          (savedKey tokens allowed m k) broken adjacent) := by
  have hfuel : cs.length + 2 ≤ (cs ++ chars).length + 1 := by
    have := List.length_pos_iff.2 hchars
    rw [List.length_append]
    omega
  have hindent : (if opened then 1 else 0) ≤ 1 := by cases opened <;> decide
  have hread := hcs.takePlain? hindent hend hfuel
  have hcolumn : (atBlock ⟨cs ++ chars, m⟩ tokens opened (savedKey tokens allowed m k) allowed
      adjacent).innerColumn = if opened then 1 else 0 := by
    cases opened <;> rfl
  unfold plain?
  rw [saveKey?_atBlock hk]
  simp only [Option.bind_eq_bind, Option.bind_some, hcolumn]
  show (Option.bind (takePlain? false _ ((cs ++ chars).length + 1) [] .none ⟨cs ++ chars, m⟩) _) = _
  rw [hread]
  rfl

/-- A quoted text is read as a scalar. -/
theorem quoted?_atBlock {cs chars : List Char} {m : Mark} (hk : k.required = false)
    (hcs : ∀ c ∈ cs, isDumped c = true) :
    (atBlock ⟨quotedChars cs ++ chars, m⟩ tokens opened k allowed adjacent).quoted? false
      = some (atBlock ⟨chars, (m.right 1).right (quotedWidth cs)⟩
          (tokens ++ [.scalar false (String.ofList cs)]) opened (savedKey tokens allowed m k) false
          ((m.right 1).right (quotedWidth cs)).index) := by
  have hchars : quotedChars cs ++ chars = '"' :: (cs.flatMap escapedChar ++ '"' :: chars) := by
    simp [quotedChars]
  have hnext : (⟨quotedChars cs ++ chars, m⟩ : Source).next
      = ⟨cs.flatMap escapedChar ++ '"' :: chars, m.right 1⟩ := by
    rw [hchars]
    exact Source.next_cons (by decide)
  have hfuel : cs.length < (quotedChars cs ++ chars).length := by
    have := length_le_escaped cs
    rw [hchars, List.length_cons, List.length_append]
    omega
  have hread : takeQuoted? false (quotedChars cs ++ chars).length []
      ⟨cs.flatMap escapedChar ++ '"' :: chars, m.right 1⟩
      = some (String.ofList cs, ⟨chars, (m.right 1).right (quotedWidth cs)⟩) :=
    takeQuoted?_text hcs (by simp) hfuel
  unfold quoted?
  rw [saveKey?_atBlock hk]
  simp only [Option.bind_eq_bind, Option.bind_some]
  show (Option.bind (takeQuoted? false (quotedChars cs ++ chars).length []
    (⟨quotedChars cs ++ chars, m⟩ : Source).next) _) = _
  rw [hnext, hread]
  rfl

/-- A colon after a key at the start of a line makes it one, and opens the mapping. -/
theorem value?_atBlock {m m' : Mark} {chars : List Char} {t : Token} (hm : m.column = 0) :
    (atBlock ⟨':' :: chars, m'⟩ (tokens ++ [t]) opened ⟨true, false, tokens.length, m⟩ allowed
        adjacent).value?
      = some (atBlock ⟨chars, m'.right 1⟩ (tokens ++ opening opened ++ [.key, t, .value]) true
          ⟨false, false, tokens.length, m⟩ false adjacent) := by
  have hinsert : ∀ (x : Token) (more : List Token),
      (tokens ++ more).insertIdx tokens.length x = tokens ++ x :: more := by
    intro x more
    induction tokens with
    | nil => simp
    | cons t tokens ih => simpa using ih
  have hnext : (⟨':' :: chars, m'⟩ : Source).next = ⟨chars, m'.right 1⟩ :=
    Source.next_cons (by decide)
  cases opened with
  | false => simp [value?, keyStart, setKeyStart, atBlock, openBlock, inFlow, opening, hinsert, hnext,
      allowKey, pushAt, push, hm]
  | true => simp [value?, keyStart, setKeyStart, atBlock, openBlock, inFlow, opening, hinsert, hnext,
      allowKey, pushAt, push, hm]

end Block

/-! ## §3. Lines. -/

/-- A state at the start of a line, before the blanks and line breaks which lead to it. -/
def AtLine (l : Lexer) (tokens : List Token) (opened : Bool) (rest : List Char) : Prop :=
  ∃ k m adjacent, k.required = false ∧ m.column = 0
    ∧ skipBlanks (l.source.chars.length + 1) l = atBlock ⟨rest, m⟩ tokens opened k true adjacent

section Lines

variable {tokens : List Token} {opened allowed : Bool} {k : KeyStart} {adjacent : Nat} {m : Mark}
  {rest : List Char}

/-- A step at a character which begins something. -/
theorem run?_atBlock {l l' : Lexer} {s : Source} {fuel : Nat} (hk : k.required = false)
    (hblanks : skipBlanks (l.source.chars.length + 1) l
      = atBlock s tokens opened k allowed adjacent) (hhead : s.head ≠ '\x00')
    (htoken : (atBlock s tokens opened (k.refresh s.mark) allowed adjacent).token? = some l') :
    l.run? (fuel + 1) = l'.run? fuel :=
  run?_step hblanks (dropStaleKeys?_atBlock hk) (closeBlocks_atBlock s.mark.column) hhead htoken

/-- The name of a line is read as a scalar which may be a key. -/
theorem AtLine.name {l : Lexer} {name : String} (hname : needsQuotes name = false)
    (h : AtLine l tokens opened (name.toList ++ ':' :: ' ' :: rest)) :
    ∃ (m : Mark) (adjacent : Nat), m.column = 0 ∧ ∀ fuel, l.run? (fuel + 1)
      = (atBlock ⟨':' :: ' ' :: rest, m.right name.toList.length⟩ (tokens ++ [.scalar true name])
          opened ⟨true, false, tokens.length, m⟩ false adjacent).run? fuel := by
  obtain ⟨k, m, adjacent, hk, hm, hblanks⟩ := h
  have hplain := (needsQuotes_eq_false hname).1
  have hbegins := hplain.begins (':' :: ' ' :: rest) m
  have hread : (atBlock ⟨name.toList ++ ':' :: ' ' :: rest, m⟩ tokens opened (k.refresh m) true
      adjacent).plain? = some (atBlock ⟨':' :: ' ' :: rest, m.right name.toList.length⟩
        (tokens ++ [.scalar true (String.ofList name.toList)]) opened
        (savedKey tokens true m (k.refresh m)) false adjacent) :=
    plain?_atBlock ((KeyStart.required_refresh m).trans hk) hplain (by simp)
      (endsPlain_colon (if opened then 1 else 0) rest _)
  rw [String.ofList_toList] at hread
  have htoken := (token?_plain (l := atBlock ⟨name.toList ++ ':' :: ' ' :: rest, m⟩ tokens opened
    (k.refresh m) true adjacent) hbegins).trans hread
  exact ⟨m, adjacent, hm, fun fuel => run?_atBlock hk hblanks (hbegins.ne (by decide)) htoken⟩

/-- The colon after the name makes it a key. -/
theorem run?_colon {m' : Mark} {t : Token} {fuel : Nat} (hm : m.column = 0)
    (hline : m'.line = m.line) (hnear : m'.index ≤ m.index + KeyStart.maxLength) :
    (atBlock ⟨':' :: ' ' :: rest, m'⟩ (tokens ++ [t]) opened ⟨true, false, tokens.length, m⟩ false
        adjacent).run? (fuel + 1)
      = (atBlock ⟨' ' :: rest, m'.right 1⟩ (tokens ++ opening opened ++ [.key, t, .value]) true
          ⟨false, false, tokens.length, m⟩ false adjacent).run? fuel := by
  have hfresh : (⟨true, false, tokens.length, m⟩ : KeyStart).refresh m'
      = ⟨true, false, tokens.length, m⟩ := by
    have hstale : (⟨true, false, tokens.length, m⟩ : KeyStart).isStale m' = false := by
      simp [KeyStart.isStale, hline]
      omega
    simp [KeyStart.refresh, hstale]
  have hvalue : (atBlock ⟨':' :: ' ' :: rest, m'⟩ (tokens ++ [t]) opened
      ⟨true, false, tokens.length, m⟩ false adjacent).token?
      = (atBlock ⟨':' :: ' ' :: rest, m'⟩ (tokens ++ [t]) opened ⟨true, false, tokens.length, m⟩
        false adjacent).value? := by
    have hdash : (⟨':' :: ' ' :: rest, m'⟩ : Source).atMarker '-' = false :=
      Source.atMarker_of_head (by simp)
    have hdot : (⟨':' :: ' ' :: rest, m'⟩ : Source).atMarker '.' = false :=
      Source.atMarker_of_head (by simp)
    simp [token?, atBlock, atValue, hdash, hdot, isBlankOrEnd, isBlank]
  refine run?_atBlock rfl (skipBlanks_stop ⟨rfl, rfl⟩ (by simp [atBlock])) (by simp) ?_
  rw [hfresh, hvalue]
  exact value?_atBlock hm

/-- The blank after the colon is skipped. -/
theorem skipBlanks_space {fuel : Nat} (hsolid : (⟨rest, m.right 1⟩ : Source).Solid)
    (hhash : (⟨rest, m.right 1⟩ : Source).head ≠ '#') :
    skipBlanks (fuel + 1) (atBlock ⟨' ' :: rest, m⟩ tokens opened k allowed adjacent)
      = atBlock ⟨rest, m.right 1⟩ tokens opened k allowed adjacent := by
  have hnext : (⟨' ' :: rest, m⟩ : Source).next = ⟨rest, m.right 1⟩ := Source.next_cons (by decide)
  rw [skipBlanks]
  show (if _ then skipBlanks fuel { atBlock _ tokens opened k allowed adjacent with
    source := (⟨' ' :: rest, m⟩ : Source).next } else _) = _
  rw [if_pos (by simp [atBlock]), hnext]
  exact skipBlanks_stop hsolid hhash

/-- The break at the end of a line is skipped, and a key may begin after it. -/
theorem skipBlanks_break {fuel : Nat} (hrest : StartsLine rest) :
    skipBlanks (fuel + 1) (atBlock ⟨'\n' :: rest, m⟩ tokens opened k allowed adjacent)
      = atBlock ⟨rest, m.below⟩ tokens opened k true adjacent := by
  have hbreak : (⟨'\n' :: rest, m⟩ : Source).skipBreak = ⟨rest, m.below⟩ := Source.skipBreak_break
  rw [skipBlanks]
  show (if _ then _ else if _ then skipBlanks fuel (atBlock (⟨'\n' :: rest, m⟩ : Source).skipBreak
    tokens opened k true adjacent) else _) = _
  rw [if_neg (by simp [atBlock]), if_pos (by simp [atBlock, isBreak]), hbreak]
  exact skipBlanks_stop (hrest.solid m.below) (hrest.not_comment m.below)

/-- A quoted text leads to the next line. -/
theorem AtLine.quoted {text : String} (htext : ∀ c ∈ text.toList, isDumped c = true)
    (hrest : StartsLine rest) (hk : k.required = false) :
    ∃ l', (∀ fuel, (atBlock ⟨' ' :: (quotedChars text.toList ++ '\n' :: rest), m⟩ tokens true k false
        adjacent).run? (fuel + 1) = l'.run? fuel)
      ∧ AtLine l' (tokens ++ [.scalar false text]) true rest := by
  have hrefresh : (k.refresh (m.right 1)).required = false := (KeyStart.required_refresh _).trans hk
  have htoken := token?_quote (l := atBlock ⟨quotedChars text.toList ++ '\n' :: rest, m.right 1⟩
    tokens true (k.refresh (m.right 1)) false adjacent) rfl
  rw [quoted?_atBlock hrefresh htext, String.ofList_toList] at htoken
  refine ⟨_, fun fuel => run?_atBlock hk (skipBlanks_space ⟨by rfl, by rfl⟩ ?_) ?_ htoken, ?_⟩
  · show '"' ≠ '#'
    decide
  · show '"' ≠ '\x00'
    decide
  · exact ⟨_, _, _, hrefresh, Mark.column_below _, skipBlanks_break hrest⟩

/-- A plain text leads to the next line. -/
theorem AtLine.plain {text : String} (htext : needsQuotes text = false)
    (hrest : StartsLine rest) (hk : k.required = false) :
    ∃ l', (∀ fuel, (atBlock ⟨' ' :: (text.toList ++ '\n' :: rest), m⟩ tokens true k false
        adjacent).run? (fuel + 1) = l'.run? fuel)
      ∧ AtLine l' (tokens ++ [.scalar true text]) true rest := by
  have hplain := (needsQuotes_eq_false htext).1
  have hbegins := hplain.startsLine ('\n' :: rest)
  have hhead := hplain.begins ('\n' :: rest) (m.right 1)
  have hrefresh : (k.refresh (m.right 1)).required = false := (KeyStart.required_refresh _).trans hk
  have htoken := token?_plain (l := atBlock ⟨text.toList ++ '\n' :: rest, m.right 1⟩ tokens true
    (k.refresh (m.right 1)) false adjacent) hhead
  have hend : EndsPlain (if true then 1 else 0) ⟨'\n' :: rest, (m.right 1).right text.toList.length⟩
      true ⟨rest, ((m.right 1).right text.toList.length).below⟩ := endsPlain_break (hrest.solid _)
  rw [plain?_atBlock hrefresh hplain (by simp) hend, String.ofList_toList] at htoken
  refine ⟨_, fun fuel => run?_atBlock hk (skipBlanks_space (hbegins.solid _)
    (hbegins.not_comment _)) (hhead.ne (by decide)) htoken, ?_⟩
  exact ⟨_, _, _, hrefresh, Mark.column_below _,
    skipBlanks_stop (hrest.solid _) (hrest.not_comment _)⟩

/-- **A line is cut in three steps**, which lead to the start of the next one. -/
theorem AtLine.line {l : Lexer} {e : String × String} (he : Legible e) (hrest : StartsLine rest)
    (h : AtLine l tokens opened (lineChars e ++ rest)) :
    ∃ l', (∀ fuel, l.run? (fuel + 3) = l'.run? fuel)
      ∧ AtLine l' (tokens ++ opening opened ++ lineTokens e) true rest := by
  have hline : lineChars e ++ rest
      = e.1.toList ++ ':' :: ' ' :: (scalarChars e.2 ++ '\n' :: rest) := by
    simp [lineChars, scalarChars, he.name]
  rw [hline] at h
  obtain ⟨m, adjacent, hm, hname⟩ := h.name he.name
  -- A name which is short enough may still be a key when its colon comes.
  have hnear : (m.right e.1.toList.length).index ≤ m.index + KeyStart.maxLength := by
    have := he.short
    rw [Mark.index_right]
    omega
  have hlast : ∀ tokens' : List Token, ∃ l', (∀ fuel, (atBlock
      ⟨' ' :: (scalarChars e.2 ++ '\n' :: rest), (m.right e.1.toList.length).right 1⟩ tokens' true
      ⟨false, false, tokens.length, m⟩ false adjacent).run? (fuel + 1) = l'.run? fuel)
      ∧ AtLine l' (tokens' ++ [.scalar (!needsQuotes e.2) e.2]) true rest := by
    intro tokens'
    unfold scalarChars
    cases hquotes : needsQuotes e.2 with
    | true => exact AtLine.quoted he.text hrest rfl
    | false => exact AtLine.plain hquotes hrest rfl
  obtain ⟨l', hl', hat⟩ := hlast (tokens ++ opening opened ++ [.key, .scalar true e.1, .value])
  refine ⟨l', fun fuel => ?_, ?_⟩
  · have hline : (m.right e.1.toList.length).line = m.line := rfl
    rw [hname, run?_colon hm hline hnear, hl']
  · have happend : tokens ++ opening opened ++ [.key, .scalar true e.1, .value]
        ++ [.scalar (!needsQuotes e.2) e.2] = tokens ++ opening opened ++ lineTokens e := by
      simp [lineTokens]
    rwa [happend] at hat

end Lines

/-! ## §4. The tokens of a dump. -/

/-- The end of the text closes the mapping. -/
theorem AtLine.finish {l : Lexer} {tokens : List Token} {fuel : Nat} (h : AtLine l tokens true []) :
    l.run? (fuel + 1) = some (tokens ++ [.blockEnd, .streamEnd]) := by
  obtain ⟨k, m, adjacent, hk, -, hblanks⟩ := h
  have hclose : ∀ k : KeyStart, k.required = false →
      ((atBlock ⟨[], m⟩ tokens true k true adjacent).streamEnd?).map Lexer.tokens
        = some (tokens ++ [.blockEnd, .streamEnd]) := by
    intro k hk
    simp [streamEnd?, closeBlocks, closeBlocks.go, atBlock, inFlow, dropKey?, keyStart, setKeyStart,
      allowKey, push, hk]
  exact (run?_last hblanks (dropStaleKeys?_atBlock hk) (closeBlocks_atBlock m.column) rfl).trans
    (hclose _ ((KeyStart.required_refresh m).trans hk))

theorem startsLine_lines {entries : List (String × String)} (h : ∀ e ∈ entries, Legible e) :
    StartsLine (entries.flatMap lineChars) := by
  cases entries with
  | nil => simp [StartsLine]
  | cons e entries =>
    have he := h e List.mem_cons_self
    have hplain := (needsQuotes_eq_false he.name).1
    rw [List.flatMap_cons, lineChars, scalarChars, he.name]
    simpa using hplain.startsLine (':' :: ' ' :: (scalarChars e.2 ++ ['\n'])
      ++ entries.flatMap lineChars)

/-- Lines are cut one after another, up to the end of the text. -/
theorem AtLine.lines {entries : List (String × String)} (hentries : ∀ e ∈ entries, Legible e)
    {l : Lexer} {tokens : List Token} (h : AtLine l tokens true (entries.flatMap lineChars))
    {fuel : Nat} (hfuel : 3 * entries.length < fuel) :
    l.run? fuel = some (tokens ++ entries.flatMap lineTokens ++ [.blockEnd, .streamEnd]) := by
  induction entries generalizing l tokens fuel with
  | nil =>
    obtain ⟨fuel, rfl⟩ : ∃ f, fuel = f + 1 := ⟨fuel - 1, by omega⟩
    simpa using h.finish
  | cons e entries ih =>
    rw [List.length_cons] at hfuel
    obtain ⟨fuel, rfl⟩ : ∃ f, fuel = f + 3 := ⟨fuel - 3, by omega⟩
    obtain ⟨he, hentries⟩ := List.forall_mem_cons.1 hentries
    rw [List.flatMap_cons] at h
    obtain ⟨l', hl', hat⟩ := h.line he (startsLine_lines hentries)
    rw [hl', ih hentries hat (by omega)]
    simp [opening]

/-- The marker at the head of a dump leads to its first line. -/
theorem atLine_first {rest : List Char} (hrest : StartsLine rest) :
    ∃ l, (∀ fuel, (atBlock ⟨'-' :: '-' :: '-' :: '\n' :: rest, ⟨0, 0, 0⟩⟩ [] false KeyStart.none true
        0).run? (fuel + 1) = l.run? fuel)
      ∧ AtLine l [.documentStart] false rest := by
  have hskip : (⟨'-' :: '-' :: '-' :: '\n' :: rest, ⟨0, 0, 0⟩⟩ : Source).skip 3
      = ⟨'\n' :: rest, ⟨3, 0, 3⟩⟩ := by
    simp [Source.skip, Source.next]
  have htoken : (atBlock ⟨'-' :: '-' :: '-' :: '\n' :: rest, ⟨0, 0, 0⟩⟩ [] false KeyStart.none true
      0).token? = some (atBlock ⟨'\n' :: rest, ⟨3, 0, 3⟩⟩ [.documentStart] false KeyStart.none
        false 0) := by
    simp [token?, Source.atMarker, Source.peek, atBlock, isBlankOrEnd, isBreakOrEnd, isBreak,
      documentMarker?, closeBlocks, closeBlocks.go, inFlow, dropKey?, keyStart, setKeyStart,
      KeyStart.none, allowKey, pushAt, push, hskip]
  refine ⟨_, fun fuel => run?_atBlock rfl (skipBlanks_stop ⟨rfl, rfl⟩ (by simp [atBlock])) (by simp)
    htoken, ?_⟩
  exact ⟨_, _, _, rfl, Mark.column_below _, skipBlanks_break hrest⟩

end Lexer

/-- **The tokens of a dump**: the marker, and one mapping with the lines in their order. -/
theorem tokens?_render {m : SlotMap} (hne : m.entries ≠ []) (h : ∀ e ∈ m.entries, Legible e) :
    tokens? (render m) = some (.documentStart :: .blockMappingStart
      :: m.entries.flatMap lineTokens ++ [.blockEnd, .streamEnd]) := by
  obtain ⟨entries⟩ := m
  cases entries with
  | nil => exact absurd rfl hne
  | cons e entries =>
    obtain ⟨he, hentries⟩ := List.forall_mem_cons.1 h
    obtain ⟨l₁, hl₁, hat₁⟩ := Lexer.atLine_first (Lexer.startsLine_lines h)
    rw [List.flatMap_cons] at hat₁
    obtain ⟨l₂, hl₂, hat₂⟩ := hat₁.line he (Lexer.startsLine_lines hentries)
    have hchars : (render ⟨e :: entries⟩).toList
        = '-' :: '-' :: '-' :: '\n' :: (e :: entries).flatMap lineChars := String.toList_ofList
    have hlength := length_lines (e :: entries)
    rw [List.length_cons] at hlength
    obtain ⟨fuel, hfuel⟩ : ∃ f, ((e :: entries).flatMap lineChars).length + 5 = f + 3 + 1 :=
      ⟨((e :: entries).flatMap lineChars).length + 1, rfl⟩
    have hstart : tokens? (render ⟨e :: entries⟩)
        = (Lexer.atBlock ⟨'-' :: '-' :: '-' :: '\n' :: (e :: entries).flatMap lineChars, ⟨0, 0, 0⟩⟩
          [] false KeyStart.none true 0).run? (fuel + 3 + 1) := by
      unfold tokens? Lexer.start
      rw [hchars, ← hfuel]
      rfl
    rw [hstart, hl₁, hl₂, hat₂.lines hentries (by omega)]
    simp [opening]

/-! ## §5. The value of a dump. -/

/-- The nodes of a line. -/
def lineNodes (e : String × String) : Node × Node :=
  (.scalar true none e.1, .scalar (!needsQuotes e.2) none e.2)

namespace Reader

variable {block indentless plain : Bool} {fuel : Nat} {text : String} {rest : List Token}

/-- A scalar without an anchor or a tag is a node. -/
theorem node?_scalar : node? block indentless (fuel + 2) ⟨.scalar plain text :: rest, []⟩
    = some (.scalar plain none text, ⟨rest, []⟩) := by
  simp [node?, content?, head, properties, beginAnchor, endAnchor, next]

theorem blockValue?_scalar : blockValue? (fuel + 3) ⟨.value :: .scalar plain text :: rest, []⟩
    = some (.scalar plain none text, ⟨rest, []⟩) := by
  simp [blockValue?, head, next, isMissingBefore, node?_scalar]

/-- The tokens of a line are an entry of the mapping. -/
theorem blockMapping?_line {done : List (Node × Node)} (e : String × String) :
    blockMapping? done (fuel + 4) ⟨lineTokens e ++ rest, []⟩
      = blockMapping? (lineNodes e :: done) (fuel + 3) ⟨rest, []⟩ := by
  rw [blockMapping?]
  simp [lineTokens, head, next, isMissingBefore, node?_scalar, blockValue?_scalar, lineNodes]

/-- The tokens of lines are the entries of the mapping which they stand in. -/
theorem blockMapping?_lines {entries : List (String × String)} {done : List (Node × Node)}
    (hfuel : entries.length + 4 ≤ fuel) :
    blockMapping? done fuel ⟨entries.flatMap lineTokens ++ [.blockEnd, .streamEnd], []⟩
      = some (.mapping (done.reverse ++ entries.map lineNodes), ⟨[.streamEnd], []⟩) := by
  induction entries generalizing done fuel with
  | nil =>
    obtain ⟨fuel, rfl⟩ : ∃ f, fuel = f + 1 := ⟨fuel - 1, by omega⟩
    simp [blockMapping?, head, next]
  | cons e entries ih =>
    rw [List.length_cons] at hfuel
    obtain ⟨fuel, rfl⟩ : ∃ f, fuel = f + 4 := ⟨fuel - 4, by omega⟩
    rw [List.flatMap_cons, List.append_assoc, blockMapping?_line, ih (by omega)]
    simp

/-- The tokens of a dump are one mapping. -/
theorem only?_lines (entries : List (String × String)) :
    (Reader.mk (.documentStart :: .blockMappingStart
      :: entries.flatMap lineTokens ++ [.blockEnd, .streamEnd]) []).only?
      = some (.mapping (entries.map lineNodes)) := by
  obtain ⟨fuel, hfuel⟩ : ∃ f, (Reader.mk (.blockMappingStart
      :: entries.flatMap lineTokens ++ [.blockEnd, .streamEnd]) []).fuel = f + 2
        ∧ entries.length + 4 ≤ f := by
    have hlength : entries.length ≤ (entries.flatMap lineTokens).length := by
      simp [lineTokens]
      omega
    refine ⟨4 * (entries.flatMap lineTokens).length + 14, ?_, by omega⟩
    simp [Reader.fuel]
    omega
  have hmapping : blockMapping? [] fuel ⟨entries.flatMap lineTokens ++ [.blockEnd, .streamEnd], []⟩
      = some (.mapping ([].reverse ++ entries.map lineNodes), ⟨[.streamEnd], []⟩) :=
    blockMapping?_lines hfuel.2
  have hnode : node? true false (fuel + 2) ⟨.blockMappingStart
      :: entries.flatMap lineTokens ++ [.blockEnd, .streamEnd], []⟩
      = some (.mapping (entries.map lineNodes), ⟨[.streamEnd], []⟩) := by
    simp only [List.cons_append, node?, content?, head, properties, beginAnchor, endAnchor, next]
    simpa using hmapping
  rw [← hfuel.1] at hnode
  have hdocument : document? ⟨.documentStart :: .blockMappingStart
      :: entries.flatMap lineTokens ++ [.blockEnd, .streamEnd], []⟩
      = some (.mapping (entries.map lineNodes), ⟨[.streamEnd], []⟩) := hnode
  rw [only?, hdocument]
  rfl

end Reader

/-- What a dumped text is resolved to. -/
theorem value?_text {e : String × String} (he : Legible e) {depth : Nat} :
    Node.value? depth (.scalar (!needsQuotes e.2) none e.2) = some (readText e.2) := by
  unfold readText
  cases hquotes : needsQuotes e.2 with
  | true => simp [Node.value?]
  | false =>
    simp [Node.value?]
    exact resolve?_plain hquotes (he.unsigned hquotes)

theorem fields?_lines {entries : List (String × String)} (h : ∀ e ∈ entries, Legible e) {depth : Nat} :
    Node.fields? depth (entries.map lineNodes)
      = some (entries.map fun e => (e.1, readText e.2)) := by
  induction entries with
  | nil => rfl
  | cons e entries ih =>
    obtain ⟨he, hentries⟩ := List.forall_mem_cons.1 h
    have htext : (lineNodes e).1.text? = some e.1 := rfl
    have hvalue : Node.value? depth (lineNodes e).2 = some (readText e.2) := value?_text he
    show Node.fields? depth (((lineNodes e).1, (lineNodes e).2) :: entries.map lineNodes) = _
    rw [Node.fields?, htext, hvalue, ih hentries]
    rfl

/-- **The value of a dump**: an object in which every slot has what is read where its text has
been dumped. -/
theorem read?_render {m : SlotMap} (hne : m.entries ≠ []) (h : ∀ e ∈ m.entries, Legible e)
    (hascending : m.entries.Pairwise fun a b => a.1 < b.1) :
    read? (render m) = some (.object (m.entries.map fun e => (e.1, readText e.2))) := by
  have hfields : (m.entries.map fun e => (e.1, readText e.2)).Pairwise fun a b => a.1 < b.1 :=
    List.pairwise_map.2 hascending
  have hvalue : Node.value? Node.maxDepth (.mapping (m.entries.map lineNodes))
      = some (Value.ofFields (m.entries.map fun e => (e.1, readText e.2))) := by
    show (Node.fields? 127 (m.entries.map lineNodes)).map Value.ofFields = _
    rw [fields?_lines h]
    rfl
  unfold Yaml.read?
  rw [tokens?_render hne h]
  simp only [Option.bind_eq_bind, Option.bind_some, Reader.only?_lines, hvalue]
  rw [Value.ofFields, Ascending.mapOf_of_ascending hfields]

end Document.Yaml

end PrinterFirmware
