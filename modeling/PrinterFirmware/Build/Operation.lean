/-
  PrinterFirmware.Build.Operation
  ───────────────────────────────
  **THE OPERATIONS OF A BUILD, AS DATA.**

  Everything that can be asked of a build is an operation, at a place of the
  document which a descent from its root leads to.  A script is a list of such
  steps.  Work which is put off until the document has been read is kept as data
  too, so that what a build will do can be inspected before it is done.
-/
import PrinterFirmware.Board.AnalogDriver
import PrinterFirmware.Board.Parts
import PrinterFirmware.Naming.Pin
import PrinterFirmware.Naming.Timer

namespace PrinterFirmware

open Document Naming

/-- Where a build is in its course. -/
inductive Phase where
  /-- The document is being read. -/
  | collecting
  /-- The document has been read. -/
  | finishing
  deriving DecidableEq, Repr

mutual

/-- An operation of a build at a place of the document. -/
inductive Operation where
  /-- Contributes an item. -/
  | emit (item : Item)
  /-- Declares a constant of the integer type named `type`. -/
  | declareInt (type name : String) (value : Int)
  | phase
  /-- Registers the objects of a list. -/
  | registerList (kind : Hardware) (key : String)
  /-- Registers the objects which descents from the root lead to. -/
  | registerObjects (kind : Hardware) (nodes : List (List Cursor.Descent))
  /-- Resolves a reference. -/
  | findObject (kind : Hardware) (key : String)
  | registerAnalogPins (pins : List String)
  | analogPins
  | addAnalogPin (pin : String)
  | registerPinNames (names : List PinNames)
  | pinNames
  /-- Reads an output compare unit. -/
  | compareUnit (key : String)
  /-- Claims the interrupt timer of this place. -/
  | claimTimer (user : String) (clearance : Option String)
  /-- Puts a script off until the document has been read. -/
  | defer (steps : List Script.Step)
  /-- Claims the letter of an axis. -/
  | claimLetter (key : String)
  /-- Reads a whole number. -/
  | readInt (key : String)
  | platform (key : String)
  | clock (key : String)
  | pins (key : String)
  | analog (key : String)
  | pwm (key : String)
  | watchdog (key user : String)
  | spi (key user : String)
  | i2c (key user username : String)
  | eeprom (key user : String)
  | serial (key user : String)
  | sdCard (key user : String)
  | configManager (key user : String)
  | interruptTimer (key user : String) (clearance : Option String)
  | pwmOutput (key user username : String)
  | analogInput (key : String)
  | pin (key : String)
  | digitalInput (key : String)
  | probe
  | steppers
  | transform
  | heaters
  | fans
  | board
  | printer (board : BoardParts)

/-- A step of a script. -/
inductive Script.Step where
  /-- Performs `operation` at the place which `descent` leads to.  A strict step
  ends the script if the document is rejected there; any other step only notes
  that. -/
  | mk (descent : List Cursor.Descent) (operation : Operation) (strict : Bool)

end

/-- What an operation answers. -/
inductive Answer where
  | done
  | text (s : String)
  | texts (ss : List String)
  | count (n : Nat)
  | phase (p : Phase)
  | place (p : Path)
  | pinNames (names : List PinNames)
  | compareUnit (u : CompareUnit)
  | expr (e : TypeExpr)
  | exprs (es : List TypeExpr)
  | timer (service : TypeExpr) (binding : String)
  | board (parts : BoardParts)
  /-- The operation itself is not acceptable; nothing has been done. -/
  | refused (v : Violation)

/-- Work which is put off until the document has been read. -/
inductive Deferred where
  /-- Writes the resource of the analog inputs. -/
  | analogDriver (d : AnalogDriver)
  /-- Performs a script on the document `root`. -/
  | script (root : Cursor) (steps : List Script.Step)

end PrinterFirmware
