/-
  PrinterFirmware.Proofs.Quoting
  ──────────────────────────────
  **QUOTED STRINGS CAN BE READ BACK.**

  A quoted string of the Nix language ends at the first quote which has no backslash
  before it, and `$` before an opening brace would begin an interpolation.  The reader of
  this language is stated here on its own (`readLiteral`); against it

      readLiteral_quoted      a quoted text is read to its own end, whatever follows
      takePiece_piece,        so an expression of fixed pieces and quoted texts is cut
      takeLiteral_quoted      at the right places, and only there

  Main result: `buildExpression_read`.
-/
import Mathlib.Data.List.Infix
import PrinterFirmware.Firmware

namespace PrinterFirmware

namespace Nix

/-! ## §1. Reading quoted strings. -/

/-- What a text begins with, read as a quoted string. -/
inductive Literal where
  /-- A quoted string of the text `text`, and what follows its closing quote. -/
  | closed (text rest : List Char)
  /-- A string which opens an interpolation after `text`, and what follows the brace. -/
  | interpolated (text rest : List Char)
  /-- A string without a closing quote, or no string at all. -/
  | unclosed
  deriving DecidableEq, Repr

/-- The string with one more character at its beginning. -/
def Literal.push (c : Char) : Literal → Literal
  | closed text rest => closed (c :: text) rest
  | interpolated text rest => interpolated (c :: text) rest
  | unclosed => unclosed

/-- The character which a backslash before `c` stands for. -/
def escapeMeaning (c : Char) : Char :=
  if c = 'n' then '\n' else if c = 'r' then '\r' else if c = 't' then '\t' else c

/-- Reads a string whose opening quote has been read.  `hidden` says that a backslash stands
before the next character. -/
def readInside (hidden : Bool) : List Char → Literal
  | [] => .unclosed
  | c :: rest =>
      if hidden then (readInside false rest).push (escapeMeaning c)
      else if c = '"' then .closed [] rest
      else if c = '\\' then readInside true rest
      else if c = '$' ∧ rest.head? = some '\x7b' then .interpolated [] rest.tail
      else (readInside false rest).push c

/-- Reads a quoted string. -/
def readLiteral : List Char → Literal
  | [] => .unclosed
  | c :: rest => if c = '"' then readInside false rest else .unclosed

/-- A backslash before a character which has to be escaped stands for that character. -/
theorem escapeMeaning_of_needsEscape {c : Char} (h : needsEscape c = true) :
    escapeMeaning c = c := by
  simp only [needsEscape, Bool.or_eq_true, beq_iff_eq] at h
  rcases h with (rfl | rfl) | rfl <;> decide

/-- The escaped text is read as the text, and the quote behind it as its end. -/
theorem readInside_escaped (cs rest : List Char) :
    readInside false (escaped cs ++ '"' :: rest) = .closed cs rest := by
  induction cs with
  | nil => rfl
  | cons c cs ih =>
    by_cases hc : needsEscape c = true
    · -- The backslash hides the character, which is therefore no end and no opening.
      rw [escaped, if_pos hc]
      simp [readInside, ih, Literal.push, escapeMeaning_of_needsEscape hc]
    · rw [escaped, if_neg hc]
      simp only [needsEscape, Bool.or_eq_true, beq_iff_eq, not_or] at hc
      obtain ⟨⟨hbackslash, hquote⟩, hdollar⟩ := hc
      simp [readInside, ih, Literal.push, hbackslash, hquote, hdollar]

/-- **A quoted text is read to its own end.**  No interpolation is met, whatever the text
holds and whatever follows it. -/
theorem readLiteral_quoted (s : String) (rest : List Char) :
    readLiteral ((quoted s).toList ++ rest) = .closed s.toList rest := by
  have hinside := readInside_escaped s.toList rest
  simp [quoted, quotedChars, readLiteral, hinside]

/-- A text which looks as if it had been escaped is read back as it is. -/
example : readInside false (escaped ['\\', '$', '\x7b', '"', '\\', 'n'] ++ ['"', '$', '\x7b'])
    = .closed ['\\', '$', '\x7b', '"', '\\', 'n'] ['$', '\x7b'] := by decide

/-! ## §2. Reading build expressions. -/

/-- Takes a fixed piece from the beginning of a text. -/
def takePiece? (piece : String) (cs : List Char) : Option (List Char) :=
  piece.toList.isPrefixOf? cs

/-- Takes a quoted string from the beginning of a text. -/
def takeLiteral? (cs : List Char) : Option (String × List Char) :=
  match readLiteral cs with
  | .closed text rest => some (String.ofList text, rest)
  | _ => none

/-- Reads the directory and the firmware of a build expression. -/
def readExpression? (text : String) : Option (String × Generated) := do
  let cs ← takePiece? "with import (builtins.toPath " text.toList
  let (nixDir, cs) ← takeLiteral? cs
  let cs ← takePiece? "); aprinterFunc \x7b boardName = " cs
  let (board, cs) ← takeLiteral? cs
  let cs ← takePiece? "; buildName = \"aprinter\"; desiredOutputs = [" cs
  let (image, cs) ← takeLiteral? cs
  let cs ← takePiece? "]; mainText = " cs
  let (mainSource, cs) ← takeLiteral? cs
  let cs ← takePiece? "; \x7d" cs
  let imageFormat ← (ImageFormat.ofName image).toOption
  if cs.isEmpty then some (nixDir, ⟨mainSource, board, imageFormat⟩) else none

@[simp] theorem takePiece_piece (piece : String) (rest : List Char) :
    takePiece? piece (piece.toList ++ rest) = some rest :=
  List.isPrefixOf?_eq_some_iff_append_eq.2 rfl

@[simp] theorem takeLiteral_quoted (s : String) (rest : List Char) :
    takeLiteral? ((quoted s).toList ++ rest) = some (s, rest) := by
  rw [takeLiteral?, readLiteral_quoted]
  show some (String.ofList s.toList, rest) = _
  rw [String.ofList_toList]

end Nix

/-- The name of a format is read as that format. -/
theorem ImageFormat.ofName_display (f : ImageFormat) : ofName f.display = .ok f := by
  cases f <;> rfl

namespace Nix

/-- The directory and the firmware are read back from the expression. -/
theorem readExpression_build (nixDir : String) (g : Generated) :
    readExpression? (g.buildExpression nixDir) = some (nixDir, g) := by
  -- The last piece has nothing behind it.
  have hlast : takePiece? "; \x7d" "; \x7d".toList = some [] := by
    simpa using takePiece_piece "; \x7d" []
  unfold readExpression? Generated.buildExpression buildExpression
  simp only [String.toList_append, List.append_assoc, takePiece_piece, takeLiteral_quoted, hlast,
    ImageFormat.ofName_display, Option.bind_eq_bind, Option.bind_some]
  rfl

/-- **Quoting is self-delimiting, and build expressions keep all that enters them.**  A
quoted text is read as that text, up to its own closing quote and without any interpolation,
whatever follows it.  The directory, the board, the image format and the main source can
be read back from a build expression, so it determines them. -/
theorem buildExpression_read :
    (∀ s rest : String, readLiteral (quoted s ++ rest).toList = .closed s.toList rest.toList)
      ∧ (∀ (nixDir : String) (g : Generated),
        readExpression? (g.buildExpression nixDir) = some (nixDir, g))
      ∧ ∀ (nixDir nixDir' : String) (g g' : Generated),
        g.buildExpression nixDir = g'.buildExpression nixDir' ↔ nixDir = nixDir' ∧ g = g' := by
  refine ⟨?_, readExpression_build, ?_⟩
  · intro s rest
    rw [String.toList_append, readLiteral_quoted]
  · intro nixDir nixDir' g g'
    constructor
    · intro h
      have hread : some (nixDir, g) = some (nixDir', g') := by
        rw [← readExpression_build, h, readExpression_build]
      simpa using hread
    · rintro ⟨rfl, rfl⟩
      rfl

end Nix

end PrinterFirmware
