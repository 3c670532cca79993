/-
  PrinterFirmware.Board.Pin
  ─────────────────────────
  **PINS AND DIGITAL INPUTS.**

  The pin driver decides which names of pins a description may use, besides the
  identifiers which are admitted everywhere.
-/
import PrinterFirmware.Build.Workspace

namespace PrinterFirmware.Board

open Document Naming Build

/-- Brings in a pin driver; gives its expression and its grammar of names. -/
def pinDriver (header driver : String) (names : PinNames) (_ : Cursor) :
    Build (TypeExpr × PinNames) := do
  emit (.frameworkInclude header)
  return (.inst driver [.text "MyContext", .text "Program"], names)

/-- Sets up the pin driver chosen at `key`. -/
def setUpPins (c : Cursor) (key : String) : Build Unit := do
  let (driver, names) ← c.choose key [
    .option "At91SamPins"
      (pinDriver "system/At91SamPins.h" "At91SamPins" (.ported "At91SamPin" "At91SamPio")),
    .option "Mk20Pins" (pinDriver "system/Mk20Pins.h" "Mk20Pins" (.ported "Mk20Pin" "Mk20Port")),
    .option "AvrPins" (pinDriver "system/AvrPins.h" "AvrPins" (.ported "AvrPin" "AvrPort"))]
  emit (.resource 10 "MyPins" driver (some "Pins"))
  registerFacility (.pinNames [.identifier, names])

/-- Reads the name of a pin. -/
def pin (c : Cursor) (key : String) : Build String := do
  let name ← c.string key
  let grammars ← pinNames
  if grammars.any (·.accepts name) then return name
  else (c.rejectAt key (.badFormat "invalid pin value") : Reading String)

/-- Resolves the digital input referenced at `key`: its pin and its input mode,
which are two arguments of its user. -/
def digitalInput (c : Cursor) (key : String) : Build (List TypeExpr) := do
  let input ← findObject .digitalInput c key
  let name ← pin input "Pin"
  let mode ← input.identifier "InputMode"
  return [.text name, .text mode]

end PrinterFirmware.Board
