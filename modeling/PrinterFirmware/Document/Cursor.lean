/-
  PrinterFirmware.Document.Cursor
  ───────────────────────────────
  **LOOKING AT A DOCUMENT.**

  A cursor is a part of a document together with the place where it stands.
  Every look-up checks the shape of what it reads, and every failure names the
  place which it concerns: the field that was asked for, or the first bad element
  of a list.  The number of elements of a list is checked before any of them.
-/
import PrinterFirmware.Binary64.Scientific
import PrinterFirmware.Document.Value
import PrinterFirmware.Failure
import PrinterFirmware.Naming.Word
import PrinterFirmware.TypeExpr

namespace PrinterFirmware.Document

/-- A part of a document and its place. -/
structure Cursor where
  value : Value
  path : Path
  deriving Repr

namespace Cursor

/-- The whole document. -/
def root (document : Value) : Cursor := ⟨document, .root⟩

/-- The place of the field `key`. -/
def keyPath (c : Cursor) (key : String) : Path := c.path.key key

/-- Rejects the document at this place. -/
def reject {α : Type} (c : Cursor) (v : Violation) : Reading α := .error ⟨c.path, v⟩

/-- Rejects the document at the field `key` of this place. -/
def rejectAt {α : Type} (c : Cursor) (key : String) (v : Violation) : Reading α :=
  .error ⟨c.keyPath key, v⟩

/-! ## §1. Fields. -/

/-- Whether there is a field `key`. -/
def has (c : Cursor) (key : String) : Bool := (c.value.field? key).isSome

/-- The value of the field `key`. -/
def field (c : Cursor) (key : String) : Reading Value :=
  match c.value.field? key with
  | some v => .ok v
  | none => c.rejectAt key .missingField

/-- The field `key`, read as a value of some shape. -/
def fieldAs {α : Type} (c : Cursor) (key : String) (shape : Shape) (view : Value → Option α) :
    Reading α := do
  let v ← c.field key
  match view v with
  | some a => .ok a
  | none => c.rejectAt key (.wrongShape shape)

def string (c : Cursor) (key : String) : Reading String := c.fieldAs key .string Value.string?

/-- A whole number in the range of 64 bits with a sign. -/
def int (c : Cursor) (key : String) : Reading Int := c.fieldAs key .integer Value.int64?

/-- A number; whole ones are converted. -/
def number (c : Cursor) (key : String) : Reading Binary64 := c.fieldAs key .number Value.number?

def bool (c : Cursor) (key : String) : Reading Bool := c.fieldAs key .bool Value.bool?

/-! ## §2. Lists. -/

/-- The list at `key`, which has between `min` and `max` elements. -/
def listBetween (c : Cursor) (key : String) (min max : Nat) : Reading (List Value) := do
  let elems ← c.fieldAs key .list Value.list?
  if elems.length < min ∨ max < elems.length then
    c.rejectAt key (.countOutOfRange elems.length min max)
  else .ok elems

/-- The elements of the list at `key`, each with its place. -/
def elementsOf (c : Cursor) (key : String) (elems : List Value) : List Cursor :=
  elems.zipIdx.map fun (v, i) => ⟨v, (c.keyPath key).index i⟩

/-- The strings of the list at `key`, between `min` and `max` of them. -/
def strings (c : Cursor) (key : String) (min max : Nat) : Reading (List String) := do
  let elems ← c.listBetween key min max
  (c.elementsOf key elems).mapM fun e =>
    match e.value.string? with
    | some s => .ok s
    | none => e.reject (.wrongShape .string)

/-- The objects of the list at `key`, between `min` and `max` of them. -/
def objects (c : Cursor) (key : String) (min max : Nat) : Reading (List Cursor) := do
  let elems ← c.listBetween key min max
  (c.elementsOf key elems).mapM fun e =>
    if e.value.isObject then .ok e else e.reject .notAnObject

/-! ## §3. Descending. -/

/-- The object at `key`. -/
def enter (c : Cursor) (key : String) : Reading Cursor :=
  match c.value.field? key with
  | some v => if v.isObject then .ok ⟨v, c.keyPath key⟩ else c.rejectAt key .notAnObject
  | none => c.rejectAt key .notAnObject

/-- Whether the string in the field `field` is `value`. -/
def isNamed (c : Cursor) (field value : String) : Bool :=
  (c.value.field? field).bind Value.string? == some value

/-- The first element of the list at `key` whose field `field` holds the string
`value`. -/
def find (c : Cursor) (key field value : String) : Reading Cursor := do
  let elems ← c.fieldAs key .list Value.list?
  match (c.elementsOf key elems).find? (·.isNamed field value) with
  | some e => .ok e
  | none => c.rejectAt key (.notFound field value)

/-- One step of a descent. -/
inductive Descent where
  /-- Into the object at `key`. -/
  | enter (key : String)
  /-- Into the `i`-th object of the list at `key`. -/
  | element (key : String) (i min max : Nat)
  /-- Into the first element of the list at `key` with the given name. -/
  | find (key field value : String)
  deriving DecidableEq, Repr

/-- Takes one step of a descent.  An index beyond the end of a list stays where
it is. -/
def descend (c : Cursor) : Descent → Reading Cursor
  | .enter key => c.enter key
  | .element key i min max => do
      let elems ← c.objects key min max
      .ok (elems[i]?.getD c)
  | .find key field value => c.find key field value

/-- Takes the steps of a descent one after another. -/
def follow (c : Cursor) (steps : List Descent) : Reading Cursor := steps.foldlM descend c

/-! ## §4. Words and texts of numbers. -/

/-- An identifier for which `valid` holds. -/
def identifierWhere (c : Cursor) (key : String) (valid : String → Bool) : Reading String := do
  let s ← c.string key
  if !Naming.isIdentifier s then c.rejectAt key (.badFormat "expected an identifier")
  else if !valid s then c.rejectAt key (.badFormat "custom validation failed")
  else .ok s

def identifier (c : Cursor) (key : String) : Reading String := c.identifierWhere key fun _ => true

/-- A single uppercase letter. -/
def letter (c : Cursor) (key : String) : Reading Char := do
  let s ← c.string key
  match Naming.letter? s with
  | some l => .ok l
  | none => c.rejectAt key (.badFormat "expected a single uppercase letter")

/-- The text of the whole number at `key`. -/
def intConstant (c : Cursor) (key : String) : Reading String := do
  let n ← c.int key
  .ok (Numeral.ofInt n)

/-- The text of the truth value at `key`. -/
def boolConstant (c : Cursor) (key : String) : Reading String := do
  let b ← c.bool key
  .ok (TypeExpr.boolText b)

/-- The text of the number at `key`. -/
def numberConstant (c : Cursor) (key : String) : Reading String := do
  let v ← c.number key
  .ok v.scientific

end Cursor

end PrinterFirmware.Document
