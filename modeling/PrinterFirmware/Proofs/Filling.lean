/-
  PrinterFirmware.Proofs.Filling
  ──────────────────────────────
  **A TEMPLATE IS FILLED IN A SINGLE PASS.**

  A template is texts with placeholders between them (`Template.Parts`): no text
  contains the opening of a placeholder, no name its closing brace, and after the
  last text there may be an opening which is never closed.  The result of filling can be
  read from the parts alone:

      exists_parts               every text has such parts
      parts_unique               and no others, since an opening does not overlap with
                                 itself (`opening_unique`)
      fillFrom_known             the work on one placeholder
      fillFrom_all               the work on a run of them, when all slots are there
      fillFrom_first_unknown     and when one is not

  Main result: `fill_by_parts`.
-/
import Mathlib.Data.List.Infix
import PrinterFirmware.Program.Template

namespace PrinterFirmware

namespace Template

/-! ## §1. Parts. -/

/-- What opens a placeholder. -/
def opening : List Char := ['$', '$', '\x7b']

/-- A text in which no placeholder is opened. -/
def NoOpening (text : List Char) : Prop := ¬ opening <:+: text

/-- A closed placeholder, with the text between it and the placeholder before it. -/
@[ext]
structure Hole where
  before : List Char
  name : List Char
  plain : NoOpening before
  closed : '\x7d' ∉ name

/-- The slot which a placeholder names. -/
def Hole.slot (hole : Hole) : String := String.ofList hole.name

/-- The text of a placeholder and of what stands before it. -/
def Hole.text (hole : Hole) : List Char :=
  hole.before ++ opening ++ hole.name ++ ['\x7d']

/-- A template cut at its placeholders: the closed ones, the text after them, and what
follows an opening which is never closed. -/
@[ext]
structure Parts where
  holes : List Hole
  last : List Char
  opened : Option (List Char)
  plain : NoOpening last
  unclosed : ∀ tail ∈ opened, '\x7d' ∉ tail

/-- The template up to an opening which is never closed. -/
def Parts.closedText (parts : Parts) : List Char :=
  parts.holes.flatMap Hole.text ++ parts.last

/-- The template which has the parts. -/
def Parts.text (parts : Parts) : List Char :=
  parts.closedText ++ (parts.opened.elim [] fun tail => opening ++ tail)

/-! ## §2. The first opening of a text. -/

theorem noOpening_nil : NoOpening [] := by
  intro h
  exact absurd (List.infix_nil.1 h) (by decide)

/-- A text which contains an opening has a first one. -/
theorem first_opening {s : List Char} (h : opening <:+: s) :
    ∃ text rest, s = text ++ (opening ++ rest) ∧ NoOpening text := by
  induction s with
  | nil => exact absurd (List.infix_nil.1 h) (by decide)
  | cons c s ih =>
    by_cases hhere : opening <+: c :: s
    · obtain ⟨rest, hrest⟩ := hhere
      exact ⟨[], rest, hrest.symm, noOpening_nil⟩
    · have hlater : opening <:+: s := (List.infix_cons_iff.1 h).resolve_left hhere
      obtain ⟨text, rest, rfl, hplain⟩ := ih hlater
      refine ⟨c :: text, rest, rfl, fun hin => ?_⟩
      cases List.infix_cons_iff.1 hin with
      | inl hhead => exact hhere (hhead.trans (List.prefix_append (c :: text) _))
      | inr hrest => exact hplain hrest

/-- Nothing is opened inside a text without openings when another opening follows it: an
opening does not overlap with itself. -/
theorem not_opening_before {x rest : List Char} (hx : x ≠ []) (hplain : NoOpening x) :
    ¬ opening <+: x ++ (opening ++ rest) := by
  intro h
  match x, hx with
  | [a], _ => simp [opening] at h
  | [a, b], _ => simp [opening] at h
  | a :: b :: c :: x, _ =>
    have hhere : opening <+: a :: b :: c :: x := by
      simpa [opening, List.cons_prefix_cons] using h
    exact hplain hhere.isInfix

/-- The first opening of a text is at one place only. -/
theorem opening_unique {s t r r' : List Char} (hs : NoOpening s) (ht : NoOpening t)
    (h : s ++ (opening ++ r) = t ++ (opening ++ r')) : s = t ∧ r = r' := by
  -- The longer of the two texts would contain the opening after the shorter one.
  have shorter : ∀ {s t r r' : List Char}, NoOpening t →
      s ++ (opening ++ r) = t ++ (opening ++ r') → s <+: t → s = t := by
    intro s t r r' ht h hst
    obtain ⟨x, rfl⟩ := hst
    by_cases hx : x = []
    · rw [hx, List.append_nil]
    · have hrest : opening ++ r = x ++ (opening ++ r') := by
        rw [List.append_assoc] at h
        exact List.append_cancel_left h
      have hplain : NoOpening x := fun hin => ht (hin.trans (List.suffix_append s x).isInfix)
      exact absurd ⟨r, hrest⟩ (not_opening_before hx hplain)
  have hst : s = t := by
    cases List.prefix_or_prefix_of_prefix (List.prefix_append s _)
        (h ▸ List.prefix_append t _) with
    | inl hle => exact shorter ht h hle
    | inr hle => exact (shorter hs h.symm hle).symm
  subst hst
  exact ⟨rfl, List.append_cancel_left (List.append_cancel_left h)⟩

/-! ## §3. The end of a name. -/

theorem splitAtClose_closed {name after : List Char} (h : '\x7d' ∉ name) :
    splitAtClose (name ++ '\x7d' :: after) = some (name, after) := by
  induction name with
  | nil => rfl
  | cons c name ih =>
    have hc : c ≠ '\x7d' := fun hc => h (hc ▸ List.mem_cons_self)
    rw [List.cons_append, splitAtClose, if_neg hc, ih (List.not_mem_of_not_mem_cons h)]
    rfl

theorem splitAtClose_open {tail : List Char} (h : '\x7d' ∉ tail) : splitAtClose tail = none := by
  induction tail with
  | nil => rfl
  | cons c tail ih =>
    have hc : c ≠ '\x7d' := fun hc => h (hc ▸ List.mem_cons_self)
    rw [splitAtClose, if_neg hc, ih (List.not_mem_of_not_mem_cons h)]
    rfl

/-! ## §4. Every text has parts, and no others. -/

/-- The parts of a text in which nothing is opened. -/
def Parts.done (last : List Char) (plain : NoOpening last) : Parts :=
  ⟨[], last, none, plain, by simp⟩

/-- The parts of a text with an opening only, which is never closed. -/
def Parts.open (last tail : List Char) (plain : NoOpening last) (unclosed : '\x7d' ∉ tail) :
    Parts :=
  ⟨[], last, some tail, plain, by rintro _ ⟨⟩; exact unclosed⟩

/-- The parts with one more placeholder before them. -/
def Parts.cons (hole : Hole) (parts : Parts) : Parts :=
  { parts with holes := hole :: parts.holes }

/-- Parts are made by putting one placeholder after another before what stands last. -/
theorem Parts.induction {motive : Parts → Prop}
    (done : ∀ last plain, motive (.done last plain))
    (opened : ∀ last tail plain unclosed, motive (.open last tail plain unclosed))
    (cons : ∀ hole parts, motive parts → motive (.cons hole parts)) (parts : Parts) :
    motive parts := by
  obtain ⟨holes, last, tail, plain, unclosed⟩ := parts
  induction holes with
  | nil =>
    cases tail with
    | none => exact done last plain
    | some tail => exact opened last tail plain (unclosed tail rfl)
  | cons hole holes ih => exact cons hole ⟨holes, last, tail, plain, unclosed⟩ ih

theorem Parts.text_done (last : List Char) (plain : NoOpening last) :
    (Parts.done last plain).text = last := by
  simp [Parts.done, Parts.text, Parts.closedText]

theorem Parts.text_open (last tail : List Char) (plain : NoOpening last)
    (unclosed : '\x7d' ∉ tail) :
    (Parts.open last tail plain unclosed).text = last ++ (opening ++ tail) := by
  simp [Parts.open, Parts.text, Parts.closedText]

theorem Parts.text_cons (hole : Hole) (parts : Parts) :
    (parts.cons hole).text
      = hole.before ++ (opening ++ (hole.name ++ '\x7d' :: parts.text)) := by
  simp [Parts.cons, Parts.text, Parts.closedText, Hole.text]

theorem exists_parts (s : List Char) : ∃ parts : Parts, parts.text = s := by
  induction hn : s.length using Nat.strong_induction_on generalizing s with
  | _ n ih =>
    by_cases hs : opening <:+: s
    · obtain ⟨before, inner, rfl, hplain⟩ := first_opening hs
      by_cases hinner : '\x7d' ∈ inner
      · obtain ⟨name, after, rfl, hname⟩ := List.eq_append_cons_of_mem hinner
        obtain ⟨parts, hparts⟩ := ih after.length (by simp [← hn]; omega) after rfl
        refine ⟨parts.cons ⟨before, name, hplain, hname⟩, ?_⟩
        rw [Parts.text_cons, hparts]
      · exact ⟨.open before inner hplain hinner, Parts.text_open ..⟩
    · exact ⟨.done s hs, Parts.text_done ..⟩

theorem opening_within (before rest : List Char) : opening <:+: before ++ (opening ++ rest) :=
  ⟨before, rest, List.append_assoc ..⟩

theorem parts_unique {p q : Parts} (h : p.text = q.text) : p = q := by
  -- The first opening of a placeholder stands at one place of a text, so both begin alike.
  induction p using Parts.induction generalizing q with
  | done last plain =>
    rw [Parts.text_done] at h
    cases q using Parts.induction with
    | done last' plain' =>
      rw [Parts.text_done] at h
      subst h
      rfl
    | opened last' tail' _ _ =>
      rw [Parts.text_open] at h
      exact absurd (h ▸ opening_within last' tail') plain
    | cons hole parts _ =>
      rw [Parts.text_cons] at h
      exact absurd (h ▸ opening_within hole.before _) plain
  | opened last tail plain unclosed =>
    rw [Parts.text_open] at h
    cases q using Parts.induction with
    | done last' plain' =>
      rw [Parts.text_done] at h
      exact absurd (h ▸ opening_within last tail) plain'
    | opened last' tail' plain' _ =>
      rw [Parts.text_open] at h
      obtain ⟨rfl, rfl⟩ := opening_unique plain plain' h
      rfl
    | cons hole parts _ =>
      rw [Parts.text_cons] at h
      obtain ⟨-, rfl⟩ := opening_unique plain hole.plain h
      exact absurd (by simp) unclosed
  | cons hole parts ih =>
    rw [Parts.text_cons] at h
    cases q using Parts.induction with
    | done last' plain' =>
      rw [Parts.text_done] at h
      exact absurd (h ▸ opening_within hole.before _) plain'
    | opened last' tail' plain' unclosed' =>
      rw [Parts.text_open] at h
      obtain ⟨-, rfl⟩ := opening_unique hole.plain plain' h
      exact absurd (by simp) unclosed'
    | cons hole' parts' _ =>
      rw [Parts.text_cons] at h
      obtain ⟨hbefore, hinner⟩ := opening_unique hole.plain hole'.plain h
      have hsplit : some (hole.name, parts.text) = some (hole'.name, parts'.text) := by
        rw [← splitAtClose_closed hole.closed, ← splitAtClose_closed hole'.closed, hinner]
      obtain ⟨hname, hrest⟩ := Prod.mk.inj (Option.some.inj hsplit)
      rw [ih hrest, Hole.ext hbefore hname]

/-! ## §5. Copied text. -/

theorem byteLength_append (s t : List Char) :
    byteLength (s ++ t) = byteLength s + byteLength t := by
  induction s with
  | nil => simp [byteLength]
  | cons c s ih => rw [List.cons_append, byteLength, byteLength, ih, Nat.add_assoc]

/-- The bytes of a text are counted as its encoding has them. -/
theorem byteLength_eq (s : List Char) : byteLength s = (String.ofList s).utf8ByteSize := by
  induction s with
  | nil => rfl
  | cons c s ih =>
    rw [byteLength, ih, ← List.singleton_append, String.ofList_append, String.utf8ByteSize_append,
      ← String.singleton_eq_ofList, String.utf8ByteSize_singleton]

/-- A character at which nothing is opened is copied. -/
theorem piecesFrom_literal {offset : Nat} {c : Char} {rest : List Char}
    (h : ¬ opening <+: c :: rest) :
    piecesFrom offset (c :: rest) = .literal c :: piecesFrom (offset + c.utf8Size) rest := by
  rw [piecesFrom]
  rintro inner rfl rfl
  exact h ⟨inner, rfl⟩

/-- Text is copied up to a place at which nothing has been opened. -/
theorem piecesFrom_copied {text rest : List Char} {offset : Nat}
    (h : ∀ x, x ≠ [] → x <:+ text → ¬ opening <+: x ++ rest) :
    piecesFrom offset (text ++ rest)
      = text.map .literal ++ piecesFrom (offset + byteLength text) rest := by
  induction text generalizing offset with
  | nil => rfl
  | cons c text ih =>
    have hc : ¬ opening <+: c :: (text ++ rest) :=
      h (c :: text) (List.cons_ne_nil c text) (List.suffix_refl _)
    have hrest : ∀ x, x ≠ [] → x <:+ text → ¬ opening <+: x ++ rest :=
      fun x hx hsuffix => h x hx (hsuffix.trans (List.suffix_cons c text))
    rw [List.cons_append, piecesFrom_literal hc, ih hrest, byteLength, Nat.add_assoc]
    rfl

/-- Text without an opening is copied up to its end. -/
theorem piecesFrom_last {last : List Char} {offset : Nat} (h : NoOpening last) :
    piecesFrom offset last = last.map .literal := by
  have hcopied : piecesFrom offset (last ++ [])
      = last.map .literal ++ piecesFrom (offset + byteLength last) [] := by
    refine piecesFrom_copied fun x _ hsuffix hhead => ?_
    rw [List.append_nil] at hhead
    exact h (hhead.isInfix.trans hsuffix.isInfix)
  simpa [piecesFrom] using hcopied

/-- Text without an opening is copied up to the opening after it. -/
theorem piecesFrom_before {before rest : List Char} {offset : Nat} (h : NoOpening before) :
    piecesFrom offset (before ++ (opening ++ rest))
      = before.map .literal ++ piecesFrom (offset + byteLength before) (opening ++ rest) :=
  piecesFrom_copied fun _ hx hsuffix =>
    not_opening_before hx fun hin => h (hin.trans hsuffix.isInfix)

/-! ## §6. One placeholder. -/

variable {slots : SlotMap}

/-- The filled text from byte `offset` of a template on. -/
def fillFrom (slots : SlotMap) (offset : Nat) (s : List Char) :
    Except TemplateError (List Char) :=
  fillPieces slots (piecesFrom offset s)

theorem fillPieces_copied (text : List Char) (ps : List Piece) :
    fillPieces slots (text.map .literal ++ ps) = (fillPieces slots ps).map (text ++ ·) := by
  induction text with
  | nil => cases h : fillPieces slots ps <;> simp [h, Except.map]
  | cons c text ih =>
    rw [List.map_cons, List.cons_append, fillPieces, ih]
    cases fillPieces slots ps <;> rfl

theorem fillFrom_done {last : List Char} {offset : Nat} (h : NoOpening last) :
    fillFrom slots offset last = .ok last := by
  have hcopied : fillPieces slots (last.map .literal) = (fillPieces slots []).map (last ++ ·) := by
    rw [← fillPieces_copied, List.append_nil]
  rw [fillFrom, piecesFrom_last h, hcopied]
  simp [fillPieces, Except.map]

theorem fillFrom_open {last tail : List Char} {offset : Nat} (h : NoOpening last)
    (htail : '\x7d' ∉ tail) :
    fillFrom slots offset (last ++ (opening ++ tail))
      = .error (.unterminated (offset + byteLength last)) := by
  have hopen : ∀ n, piecesFrom n (opening ++ tail) = [.openHole n] := by
    intro n
    rw [opening, List.cons_append, List.cons_append, List.cons_append, List.nil_append, piecesFrom]
    split
    · rfl
    · rename_i hsome
      rw [splitAtClose_open htail] at hsome
      cases hsome
  rw [fillFrom, piecesFrom_before h, hopen, fillPieces_copied]
  rfl

/-- A closed placeholder is one piece, and the rest begins after its closing brace. -/
theorem piecesFrom_hole (hole : Hole) (rest : List Char) (offset : Nat) :
    piecesFrom offset (hole.before ++ (opening ++ (hole.name ++ '\x7d' :: rest)))
      = hole.before.map .literal
        ++ .hole hole.name :: piecesFrom (offset + byteLength hole.text) rest := by
  have hhole : ∀ n, piecesFrom n (opening ++ (hole.name ++ '\x7d' :: rest))
      = .hole hole.name :: piecesFrom (n + 4 + byteLength hole.name) rest := by
    intro n
    rw [opening, List.cons_append, List.cons_append, List.cons_append, List.nil_append, piecesFrom]
    split
    · rename_i hnone
      rw [splitAtClose_closed hole.closed] at hnone
      cases hnone
    · rename_i name after hsome
      rw [splitAtClose_closed hole.closed] at hsome
      cases hsome
      rfl
  have hlength : byteLength hole.text = byteLength hole.before + 4 + byteLength hole.name := by
    have hopening : byteLength opening = 3 := by decide
    have hclose : byteLength ['\x7d'] = 1 := by decide
    rw [Hole.text, byteLength_append, byteLength_append, byteLength_append, hopening, hclose]
    omega
  rw [piecesFrom_before hole.plain, hhole, hlength, Nat.add_assoc, Nat.add_assoc, Nat.add_assoc]

/-- The text of a known slot stands in the place of its placeholder, and the work goes on
after the placeholder. -/
theorem fillFrom_known {hole : Hole} {text : String} (h : slots.get? hole.slot = some text)
    (rest : List Char) (offset : Nat) :
    fillFrom slots offset (hole.before ++ (opening ++ (hole.name ++ '\x7d' :: rest)))
      = (fillFrom slots (offset + byteLength hole.text) rest).map
          (hole.before ++ text.toList ++ ·) := by
  rw [Hole.slot] at h
  rw [fillFrom, piecesFrom_hole, fillPieces_copied, fillPieces, fillPiece, h, fillFrom]
  cases fillPieces slots (piecesFrom (offset + byteLength hole.text) rest) with
  | error e => rfl
  | ok more => simp [bind, Except.bind, Except.map, pure, Except.pure]

/-- At a placeholder for an unknown slot the work ends. -/
theorem fillFrom_unknown {hole : Hole} (h : slots.get? hole.slot = none)
    (rest : List Char) (offset : Nat) :
    fillFrom slots offset (hole.before ++ (opening ++ (hole.name ++ '\x7d' :: rest)))
      = .error (.unknownPlaceholder hole.slot) := by
  rw [Hole.slot] at h
  rw [fillFrom, piecesFrom_hole, fillPieces_copied, fillPieces, fillPiece, h]
  rfl

/-! ## §7. A run of placeholders. -/

/-- The slot of a placeholder is there, with the given text. -/
def Hole.FilledBy (slots : SlotMap) (hole : Hole) (text : String) : Prop :=
  slots.get? hole.slot = some text

/-- The text before a placeholder, and the text of its slot as it is. -/
def Hole.filled (hole : Hole) (text : String) : List Char := hole.before ++ text.toList

/-- The texts of the slots in the places of their placeholders. -/
def fillHoles (holes : List Hole) (texts : List String) : List Char :=
  (holes.zipWith Hole.filled texts).flatten

/-- Where all slots are there, only an opening without an end is a fault. -/
theorem fillFrom_all {parts : Parts} {texts : List String}
    (h : List.Forall₂ (Hole.FilledBy slots) parts.holes texts) (offset : Nat) :
    fillFrom slots offset parts.text
      = match parts.opened with
        | none => .ok (fillHoles parts.holes texts ++ parts.last)
        | some _ => .error (.unterminated (offset + byteLength parts.closedText)) := by
  induction parts using Parts.induction generalizing texts offset with
  | done last plain =>
    cases h
    rw [Parts.text_done, fillFrom_done plain]
    rfl
  | opened last tail plain unclosed =>
    cases h
    rw [Parts.text_open, fillFrom_open plain unclosed]
    rfl
  | cons hole parts ih =>
    cases h with
    | @cons _ text _ texts hfirst hrest =>
      have hbytes : byteLength (parts.cons hole).closedText
          = byteLength hole.text + byteLength parts.closedText := by
        rw [← byteLength_append]
        simp [Parts.cons, Parts.closedText]
      rw [Parts.text_cons, fillFrom_known hfirst, ih hrest, hbytes, ← Nat.add_assoc]
      cases hopened : parts.opened <;>
        simp [Parts.cons, hopened, Except.map, fillHoles, Hole.filled]

/-- The leftmost placeholder for an unknown slot is the one which is reported. -/
theorem fillFrom_first_unknown {parts : Parts} {before after : List Hole} {bad : Hole}
    (hparts : parts.holes = before ++ bad :: after)
    (hbefore : ∀ hole ∈ before, ∃ text, hole.FilledBy slots text)
    (hbad : slots.get? bad.slot = none) (offset : Nat) :
    fillFrom slots offset parts.text = .error (.unknownPlaceholder bad.slot) := by
  induction parts using Parts.induction generalizing before offset with
  | done last plain => cases before <;> cases hparts
  | opened last tail plain unclosed => cases before <;> cases hparts
  | cons hole parts ih =>
    rw [Parts.text_cons]
    cases before with
    | nil =>
      obtain ⟨rfl, -⟩ := List.cons.inj hparts
      exact fillFrom_unknown hbad parts.text offset
    | cons first before =>
      obtain ⟨rfl, hrest⟩ := List.cons.inj hparts
      obtain ⟨text, htext⟩ := hbefore hole List.mem_cons_self
      rw [fillFrom_known htext,
        ih hrest fun hole hmem => hbefore hole (List.mem_cons_of_mem _ hmem)]
      rfl

/-- Either all placeholders name slots which are there, or there is a leftmost one which
does not. -/
theorem filled_or_unknown (slots : SlotMap) (holes : List Hole) :
    (∃ texts, List.Forall₂ (Hole.FilledBy slots) holes texts) ∨
      ∃ before bad after, holes = before ++ bad :: after ∧
        (∀ hole ∈ before, ∃ text, hole.FilledBy slots text) ∧ slots.get? bad.slot = none := by
  induction holes with
  | nil => exact .inl ⟨[], .nil⟩
  | cons hole holes ih =>
    cases hslot : slots.get? hole.slot with
    | none => exact .inr ⟨[], hole, holes, rfl, by simp, hslot⟩
    | some text =>
      cases ih with
      | inl hall =>
        obtain ⟨texts, htexts⟩ := hall
        exact .inl ⟨text :: texts, .cons hslot htexts⟩
      | inr hsome =>
        obtain ⟨before, bad, after, rfl, hbefore, hbad⟩ := hsome
        refine .inr ⟨hole :: before, bad, after, rfl, ?_, hbad⟩
        intro other hother
        cases List.mem_cons.1 hother with
        | inl heq => exact ⟨text, heq ▸ hslot⟩
        | inr hmem => exact hbefore other hmem

/-! ## §8. The result from the parts. -/

/-- Every placeholder is closed and names a slot which is there, and `filled` is the
template with the texts of the slots in the places of their placeholders. -/
def Parts.FillsTo (slots : SlotMap) (parts : Parts) (filled : String) : Prop :=
  parts.opened = none ∧ ∃ texts, List.Forall₂ (Hole.FilledBy slots) parts.holes texts ∧
    filled.toList = fillHoles parts.holes texts ++ parts.last

/-- The leftmost fault of the parts: a placeholder for an unknown slot with only known ones
before it, or, where all slots are known, an opening without an end. -/
def Parts.FailsWith (slots : SlotMap) (parts : Parts) : TemplateError → Prop
  | .unknownPlaceholder name =>
      ∃ before bad after, parts.holes = before ++ bad :: after ∧
        (∀ hole ∈ before, ∃ text, hole.FilledBy slots text) ∧
        slots.get? bad.slot = none ∧ bad.slot = name
  | .unterminated offset =>
      (∃ texts, List.Forall₂ (Hole.FilledBy slots) parts.holes texts) ∧
        parts.opened.isSome ∧ offset = (String.ofList parts.closedText).utf8ByteSize

variable {template : String} {parts : Parts}

theorem fill_eq (slots : SlotMap) (h : parts.text = template.toList) :
    fill template slots = (fillFrom slots 0 parts.text).map String.ofList := by
  rw [h, fillFrom, fill, pieces]

theorem Parts.FillsTo.fill {filled : String} (hfills : parts.FillsTo slots filled)
    (h : parts.text = template.toList) : fill template slots = .ok filled := by
  obtain ⟨hopened, texts, htexts, hfilled⟩ := hfills
  rw [fill_eq slots h, fillFrom_all htexts, hopened]
  simp [Except.map, ← hfilled]

theorem Parts.FailsWith.fill {e : TemplateError} (hfails : parts.FailsWith slots e)
    (h : parts.text = template.toList) : fill template slots = .error e := by
  rw [fill_eq slots h]
  cases e with
  | unknownPlaceholder name =>
    obtain ⟨before, bad, after, hholes, hbefore, hbad, rfl⟩ := hfails
    rw [fillFrom_first_unknown hholes hbefore hbad]
    rfl
  | unterminated offset =>
    obtain ⟨⟨texts, htexts⟩, hopened, rfl⟩ := hfails
    obtain ⟨tail, htail⟩ := Option.isSome_iff_exists.1 hopened
    rw [fillFrom_all htexts, htail, Nat.zero_add, byteLength_eq]
    rfl

/-- Parts can be filled or have a fault. -/
theorem fillsTo_or_failsWith (slots : SlotMap) (parts : Parts) :
    (∃ filled, parts.FillsTo slots filled) ∨ ∃ e, parts.FailsWith slots e := by
  cases filled_or_unknown slots parts.holes with
  | inl hall =>
    obtain ⟨texts, htexts⟩ := hall
    cases hopened : parts.opened with
    | none =>
      exact .inl ⟨String.ofList (fillHoles parts.holes texts ++ parts.last), hopened, texts,
        htexts, String.toList_ofList⟩
    | some tail =>
      exact .inr ⟨.unterminated _, ⟨texts, htexts⟩, by rw [hopened, Option.isSome_some], rfl⟩
  | inr hunknown =>
    obtain ⟨before, bad, after, hholes, hbefore, hbad⟩ := hunknown
    exact .inr ⟨.unknownPlaceholder bad.slot, before, bad, after, hholes, hbefore, hbad, rfl⟩

/-- **A template is filled in a single pass.**  A template has parts, and no others.  It is
filled exactly when every placeholder is closed and names a slot which is there, and then
every placeholder has the text of its slot in its place, as it is.  Otherwise the leftmost
fault is reported: a placeholder for an unknown slot, by its name, or an opening without an
end, by the number of bytes before it. -/
theorem fill_by_parts (template : String) (slots : SlotMap) :
    ∃ parts : Parts, parts.text = template.toList ∧
      (∀ others : Parts, others.text = template.toList → others = parts) ∧
      (∀ filled, fill template slots = .ok filled ↔ parts.FillsTo slots filled) ∧
      ∀ e, fill template slots = .error e ↔ parts.FailsWith slots e := by
  obtain ⟨parts, hparts⟩ := exists_parts template.toList
  refine ⟨parts, hparts, fun others hothers => parts_unique (hothers.trans hparts.symm), ?_, ?_⟩
  · intro filled
    refine ⟨fun hfill => ?_, fun hfills => hfills.fill hparts⟩
    rcases fillsTo_or_failsWith slots parts with ⟨other, hother⟩ | ⟨e, he⟩
    · rw [hother.fill hparts] at hfill
      rwa [Except.ok.inj hfill] at hother
    · rw [he.fill hparts] at hfill
      cases hfill
  · intro e
    refine ⟨fun hfill => ?_, fun hfails => hfails.fill hparts⟩
    rcases fillsTo_or_failsWith slots parts with ⟨other, hother⟩ | ⟨e', he'⟩
    · rw [hother.fill hparts] at hfill
      cases hfill
    · rw [he'.fill hparts] at hfill
      rwa [Except.error.inj hfill] at he'

end Template

end PrinterFirmware
