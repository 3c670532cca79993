/-
  PrinterFirmware.Build.Workspace
  ───────────────────────────────
  **THE STATE OF A BUILD.**

  While a description is walked, its declared objects, the facilities which its
  parts share, the letters in use, the work which is put off and the items of the
  program are collected in a workspace.  Objects, facilities and deferred work can
  be registered only while the document is being read; items can always be
  contributed.

  An operation which fails keeps what it had done before, and a refused
  registration changes nothing.
-/
import PrinterFirmware.Board.Clock
import PrinterFirmware.Build.Operation
import PrinterFirmware.Program.Draft

namespace PrinterFirmware

open Document Naming

/-! ## §1. Workspaces. -/

/-- A declared object. -/
structure NamedObject where
  kind : Hardware
  name : String
  node : Cursor

/-- What the parts of a build share. -/
inductive Facility where
  | clock (c : Clock)
  /-- The grammars which a pin name may match. -/
  | pinNames (names : List PinNames)
  /-- The pins of the analog inputs in use, in the order of their first use. -/
  | analogPins (pins : List String)

namespace Facility

def kind : Facility → FacilityKind
  | clock _ => .clock
  | pinNames _ => .pinNames
  | analogPins _ => .analogPins

/-- What a facility contributes once the document has been read. -/
def closingItems : Facility → List Item
  | clock c => c.closingItems
  | _ => []

end Facility

/-- The things which are named by single letters. -/
inductive LetterScope where
  | axis
  | heater
  | fan
  deriving DecidableEq, Repr

/-- The sort of a thing in messages. -/
def LetterScope.display : LetterScope → String
  | axis => "axis"
  | heater => "heater"
  | fan => "fan"

/-- The state of a build. -/
structure Workspace where
  phase : Phase
  /-- The declared objects, in the order of their registration. -/
  objects : List NamedObject
  /-- The facilities, in the order of their registration. -/
  facilities : List Facility
  /-- The deferred work, in the order of its registration. -/
  deferred : List Deferred
  draft : Draft
  /-- The letters in use. -/
  letters : List (LetterScope × Char)
  /-- What the steps of deferred scripts answered. -/
  journal : List (Except Located Answer)

/-- A walk which builds a program. -/
abbrev Build (α : Type) := Walk Workspace α

namespace Workspace

/-- The state before anything has been read. -/
def empty : Workspace where
  phase := .collecting
  objects := []
  facilities := []
  deferred := []
  draft := .empty
  letters := []
  journal := []

/-- The object which is registered under a name. -/
def object? (w : Workspace) (kind : Hardware) (name : String) : Option Cursor :=
  (w.objects.find? fun o => o.kind == kind && o.name == name).map (·.node)

/-- The facility of a kind. -/
def facility? (w : Workspace) (kind : FacilityKind) : Option Facility :=
  w.facilities.find? (·.kind == kind)

/-- The state in which the facility of a kind has been replaced. -/
def setFacility (w : Workspace) (f : Facility) : Workspace :=
  { w with facilities := w.facilities.map fun g => if g.kind == f.kind then f else g }

end Workspace

namespace Build

/-- Ends a build because of a broken rule. -/
def breach {α : Type} (b : Breach) : Build α := throw (.breach b)

/-! ## §2. Items. -/

/-- Contributes an item. -/
def emit (item : Item) : Build Unit := fun w =>
  match w.draft.add item with
  | .ok d => .ok () { w with draft := d }
  | .error b => .error (.breach b) w

/-- Contributes items in order. -/
def emitAll : List Item → Build Unit
  | [] => pure ()
  | item :: rest => do
      emit item
      emitAll rest

theorem emitAll_append (a b : List Item) :
    emitAll (a ++ b) = (do emitAll a; emitAll b) := by
  induction a with
  | nil => rfl
  | cons item rest ih =>
      rw [List.cons_append, emitAll, emitAll, ih, bind_assoc]

/-- Declares a number as a constant of the program, and gives its name. -/
def declareNumber (name : String) (v : Binary64) : Build TypeExpr := do
  emit (.numberConstant name v)
  return .text name

/-- Declares a number as an option of the program, and gives its name. -/
def declareOption (name : String) (v : Binary64) : Build TypeExpr := do
  emit (.numberOption name v)
  return .text name

/-! ## §3. Registration. -/

/-- Refuses a registration once the document has been read. -/
def whileCollecting (r : Registration) : Build Unit := do
  let w ← get
  match w.phase with
  | .collecting => pure ()
  | .finishing => breach (.closed r)

/-- The field which holds the name of an object. -/
def objectNameKey : String := "Name"

/-- Registers objects one after another, up to the first one without a name or
with the name of an earlier one. -/
def addObjects (kind : Hardware) : List Cursor → Build Unit
  | [] => pure ()
  | node :: rest => do
      let name ← node.string objectNameKey
      let w ← get
      if (w.object? kind name).isSome then
        (node.reject (.duplicateName kind.display) : Reading Unit)
      set { w with objects := w.objects ++ [NamedObject.mk kind name node] }
      addObjects kind rest

/-- Registers objects of a kind under their names. -/
def registerObjects (kind : Hardware) (nodes : List Cursor) : Build Unit := do
  whileCollecting .objects
  addObjects kind nodes

/-- The largest number of objects in one list. -/
def maxObjects : Nat := 20

/-- Registers the objects of the list at `key`. -/
def registerList (kind : Hardware) (c : Cursor) (key : String) : Build Unit := do
  let nodes ← c.objects key 0 maxObjects
  registerObjects kind nodes

/-- The object which the reference at `key` names. -/
def findObject (kind : Hardware) (c : Cursor) (key : String) : Build Cursor := do
  let name ← c.string key
  let w ← get
  match w.object? kind name with
  | some node => return node
  | none => (c.rejectAt key (.unknownReference kind name) : Reading Cursor)

/-- Registers a facility, one of each kind. -/
def registerFacility (f : Facility) : Build Unit := do
  whileCollecting .facility
  let w ← get
  if (w.facility? f.kind).isSome then breach (.facilityTwice f.kind)
  set { w with facilities := w.facilities ++ [f] }

/-- Puts work off until the document has been read. -/
def defer (d : Deferred) : Build Unit := do
  whileCollecting .deferredWork
  let w ← get
  set { w with deferred := w.deferred ++ [d] }

/-! ## §4. Facilities. -/

/-- The clock, which has to be registered. -/
def clock : Build Clock := do
  match (← get).facility? .clock with
  | some (.clock c) => return c
  | _ => breach (.facilityMissing .clock)

/-- The grammars of pin names, which have to be registered. -/
def pinNames : Build (List PinNames) := do
  match (← get).facility? .pinNames with
  | some (.pinNames names) => return names
  | _ => breach (.facilityMissing .pinNames)

/-- The analog pins in use; their list has to be registered. -/
def analogPins : Build (List String) := do
  match (← get).facility? .analogPins with
  | some (.analogPins pins) => return pins
  | _ => breach (.facilityMissing .analogPins)

/-- Puts a pin at the end of the analog pins. -/
def addAnalogPin (pin : String) : Build Unit := do
  let pins ← analogPins
  modify (·.setFacility (.analogPins (pins ++ [pin])))

/-! ## §5. Letters. -/

/-- Reads the letter at `key` and claims it. -/
def claimLetter (scope : LetterScope) (c : Cursor) (key : String) : Build Char := do
  let l ← c.letter key
  let w ← get
  if (scope, l) ∈ w.letters then
    (c.rejectAt key (.duplicateName scope.display) : Reading Unit)
  set { w with letters := w.letters ++ [(scope, l)] }
  return l

/-- The letters of one kind of things. -/
def lettersOf (scope : LetterScope) (letters : List (LetterScope × Char)) :
    List (LetterScope × Char) :=
  letters.filter (·.1 == scope)

/-- The letters of all other things. -/
def lettersBut (scope : LetterScope) (letters : List (LetterScope × Char)) :
    List (LetterScope × Char) :=
  letters.filter (·.1 != scope)

/-- Builds with no letter of a scope in use; the letters which had been in use
before are so again afterwards. -/
def withFreshLetters {α : Type} (scope : LetterScope) (body : Build α) : Build α := fun w =>
  let restore (w' : Workspace) : Workspace :=
    { w' with letters := lettersBut scope w'.letters ++ lettersOf scope w.letters }
  match body { w with letters := lettersBut scope w.letters } with
  | .ok a w' => .ok a (restore w')
  | .error e w' => .error e (restore w')

end Build

end PrinterFirmware
