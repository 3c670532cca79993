/-
  PrinterFirmware.Program.Template
  ────────────────────────────────
  **SOURCE TEMPLATES.**

  A template is a text with placeholders, each the name of a slot between
  `$$` with an opening brace and the next closing brace.  Filling a template
  replaces every placeholder by the text of its slot, once and from left to
  right; text which has been put in is never looked at again.

  A template is first cut into its pieces (`pieces`), which depends on the
  template alone, and then the pieces are filled one after another, so that the
  leftmost fault is the one reported.
-/
import PrinterFirmware.Numeral
import PrinterFirmware.Program.SlotMap

namespace PrinterFirmware

/-- Why a template cannot be filled. -/
inductive TemplateError where
  /-- A placeholder names a slot which does not exist. -/
  | unknownPlaceholder (name : String)
  /-- A placeholder is opened at the given offset, counted in bytes of UTF-8, and
  never closed. -/
  | unterminated (offset : Nat)
  deriving DecidableEq, Repr

/-- The text of a template error. -/
def TemplateError.message : TemplateError → String
  | .unknownPlaceholder name => "Unknown template placeholder '" ++ name ++ "'"
  | .unterminated offset =>
      "Unterminated template placeholder at offset " ++ Numeral.ofNat offset

namespace Template

/-! ## §1. Pieces. -/

/-- The pieces of a template. -/
inductive Piece where
  /-- Text which is copied as it is. -/
  | literal (c : Char)
  /-- A placeholder, by the name of its slot. -/
  | hole (name : List Char)
  /-- An opened placeholder without an end, at the given byte offset. -/
  | openHole (offset : Nat)
  deriving DecidableEq, Repr

/-- The number of bytes of a text in UTF-8. -/
def byteLength : List Char → Nat
  | [] => 0
  | c :: rest => c.utf8Size + byteLength rest

/-- The text up to the first closing brace and the text after it. -/
def splitAtClose : List Char → Option (List Char × List Char)
  | [] => none
  | c :: rest =>
      if c = '\x7d' then some ([], rest)
      else (splitAtClose rest).map fun (name, after) => (c :: name, after)

/-- What follows a closing brace is shorter than the whole. -/
theorem length_of_splitAtClose {cs name after : List Char}
    (h : splitAtClose cs = some (name, after)) : after.length < cs.length := by
  induction cs generalizing name with
  | nil => simp [splitAtClose] at h
  | cons c rest ih =>
    rw [splitAtClose] at h
    split at h
    · simp only [Option.some.injEq, Prod.mk.injEq] at h
      simp [← h.2]
    · simp only [Option.map_eq_some_iff, Prod.exists, Prod.mk.injEq] at h
      obtain ⟨n, a, hn, -, rfl⟩ := h
      exact Nat.lt_succ_of_lt (ih hn)

/-- The pieces of a text which starts at byte `offset` of the template. -/
def piecesFrom (offset : Nat) : List Char → List Piece
  | [] => []
  | '$' :: '$' :: '\x7b' :: inner =>
      match h : splitAtClose inner with
      | none => [.openHole offset]
      | some (name, after) => .hole name :: piecesFrom (offset + 4 + byteLength name) after
  | c :: rest => .literal c :: piecesFrom (offset + c.utf8Size) rest
termination_by cs => cs.length
decreasing_by
  · have := length_of_splitAtClose h
    simp only [List.length_cons]
    omega
  · simp

/-- The pieces of a template. -/
def pieces (template : String) : List Piece := piecesFrom 0 template.toList

/-! ## §2. Filling. -/

/-- The text which a piece is replaced by. -/
def fillPiece (slots : SlotMap) : Piece → Except TemplateError (List Char)
  | .literal c => .ok [c]
  | .hole name =>
      match slots.get? (String.ofList name) with
      | some text => .ok text.toList
      | none => .error (.unknownPlaceholder (String.ofList name))
  | .openHole offset => .error (.unterminated offset)

/-- The filled pieces, put together; the first fault is reported. -/
def fillPieces (slots : SlotMap) : List Piece → Except TemplateError (List Char)
  | [] => .ok []
  | p :: rest => do
      let text ← fillPiece slots p
      let more ← fillPieces slots rest
      return text ++ more

/-- Replaces every placeholder of a template by the text of its slot. -/
def fill (template : String) (slots : SlotMap) : Except TemplateError String :=
  (fillPieces slots (pieces template)).map String.ofList

end Template

end PrinterFirmware
