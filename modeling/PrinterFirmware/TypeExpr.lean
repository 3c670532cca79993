/-
  PrinterFirmware.TypeExpr
  ────────────────────────
  **THE TYPE EXPRESSIONS OF A GENERATED PROGRAM.**

  A generated program is assembled from template instantiations: a name and,
  in angle brackets, its arguments, which are again expressions.  The leaves are
  text copied as it is, whole numbers, truth values and character literals.

  A `Layout` only decides what stands between the tokens.  It is given by the
  three gaps of an argument list (before the first argument, between two and
  after the last), so that one recursion writes both layouts.
-/
import PrinterFirmware.Numeral

namespace PrinterFirmware

/-! ## §1. Expressions. -/

/-- A node of the instantiation tree. -/
inductive TypeExpr where
  /-- Text which is copied into the program as it is. -/
  | text (s : String)
  | int (n : Int)
  | bool (b : Bool)
  /-- A character literal. -/
  | char (c : Char)
  /-- The instantiation of the template `name`. -/
  | inst (name : String) (args : List TypeExpr)
  deriving Inhabited, Repr

namespace TypeExpr

instance : Coe String TypeExpr := ⟨.text⟩

/-- The template which stands for an ordered sequence of types. -/
def listName : String := "MakeTypeList"

/-- The sequence of the types `elems`. -/
def list (elems : List TypeExpr) : TypeExpr := .inst listName elems

/-- Whether an expression is a sequence of types. -/
def isList : TypeExpr → Bool
  | .inst name _ => name == listName
  | _ => false

end TypeExpr

/-! ## §2. Layouts. -/

/-- How an expression is laid out. -/
inductive Layout where
  /-- On one line, arguments separated by a comma and a space. -/
  | flat
  /-- One argument per line.  `level` is the indentation of the line which holds
  the opening bracket; arguments stand one level deeper and the closing bracket
  returns to `level`. -/
  | indented (level : Nat)
  deriving DecidableEq, Repr

namespace Layout

/-- One level of indentation. -/
def indentUnit : List Char := [' ', ' ', ' ', ' ']

/-- A line break and the indentation of the next line. -/
def newline (level : Nat) : List Char :=
  '\n' :: (List.replicate level indentUnit).flatten

/-- The layout of the arguments of an expression laid out by this one. -/
def deeper : Layout → Layout
  | .flat => .flat
  | .indented level => .indented (level + 1)

/-- The gap before the first argument. -/
def opening : Layout → List Char
  | .flat => []
  | .indented level => newline (level + 1)

/-- The gap between two arguments, with their comma. -/
def between : Layout → List Char
  | .flat => [',', ' ']
  | .indented level => ',' :: newline (level + 1)

/-- The gap after the last argument. -/
def closing : Layout → List Char
  | .flat => []
  | .indented level => newline level

end Layout

/-! ## §3. Rendering. -/

namespace TypeExpr

/-- The text of a truth value. -/
def boolText (b : Bool) : String := if b then "true" else "false"

/-- A character literal; quote and backslash are escaped by a backslash. -/
def charLiteral (c : Char) : List Char :=
  if c = '\'' ∨ c = '\\' then ['\'', '\\', c, '\''] else ['\'', c, '\'']

mutual

/-- The text of an expression. -/
def chars (layout : Layout) : TypeExpr → List Char
  | .text s => s.toList
  | .int n => Numeral.signed n
  | .bool b => (boolText b).toList
  | .char c => charLiteral c
  | .inst name args => name.toList ++ '<' :: (argumentChars layout args ++ ['>'])

/-- The text between the brackets of an argument list; nothing at all if
there are no arguments. -/
def argumentChars (layout : Layout) : List TypeExpr → List Char
  | [] => []
  | a :: rest => layout.opening ++ chars layout.deeper a ++ moreChars layout rest

/-- The text from the end of an argument to the closing bracket. -/
def moreChars (layout : Layout) : List TypeExpr → List Char
  | [] => layout.closing
  | a :: rest => layout.between ++ chars layout.deeper a ++ moreChars layout rest

end

/-- The text of an expression in the given layout. -/
def render (layout : Layout) (e : TypeExpr) : String := String.ofList (e.chars layout)

/-- An expression is displayed on one line. -/
instance : ToString TypeExpr := ⟨render .flat⟩

end TypeExpr

end PrinterFirmware
