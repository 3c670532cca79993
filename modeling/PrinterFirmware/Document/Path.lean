/-
  PrinterFirmware.Document.Path
  ─────────────────────────────
  **PLACES OF A DOCUMENT.**

  A place is reached from the root of a document by a sequence of steps, each
  into the field of an object or into the element of a list.  It is displayed
  the way the document's author would write it down:

      configurations[0].steppers[1].Name
-/
import PrinterFirmware.Numeral

namespace PrinterFirmware.Document

/-- One step down into a document. -/
inductive Step where
  | key (name : String)
  | index (i : Nat)
  deriving DecidableEq, Repr

/-- The steps which lead from the root of a document to a place in it. -/
structure Path where
  steps : List Step
  deriving DecidableEq, Repr

namespace Path

/-- The place of the whole document. -/
def root : Path := ⟨[]⟩

/-- The field `name` of the object at this place. -/
def key (p : Path) (name : String) : Path := ⟨p.steps ++ [.key name]⟩

/-- The `i`-th element of the list at this place. -/
def index (p : Path) (i : Nat) : Path := ⟨p.steps ++ [.index i]⟩

def isRoot (p : Path) : Bool := p.steps.isEmpty

/-! ## §1. Display. -/

/-- A step which follows another one: a key after a dot, an index in
brackets. -/
def laterStepChars : Step → List Char
  | .key name => '.' :: name.toList
  | .index i => '[' :: (Numeral.digits i ++ [']'])

/-- The first step; a key is written without a dot. -/
def firstStepChars : Step → List Char
  | .key name => name.toList
  | .index i => laterStepChars (.index i)

/-- The displayed form of a sequence of steps; the root has a text of its
own. -/
def displayChars : List Step → List Char
  | [] => ['<', 'r', 'o', 'o', 't', '>']
  | s :: rest => firstStepChars s ++ rest.flatMap laterStepChars

/-- The displayed form of a place. -/
def display (p : Path) : String := String.ofList (displayChars p.steps)

end Path

end PrinterFirmware.Document
