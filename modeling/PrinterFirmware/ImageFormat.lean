/-
  PrinterFirmware.ImageFormat
  ───────────────────────────
  **THE FORMAT OF THE FIRMWARE IMAGE.**
-/
import PrinterFirmware.Document.Violation

namespace PrinterFirmware

/-- The format of the firmware image which a build produces. -/
inductive ImageFormat where
  | hex
  | bin
  deriving DecidableEq, Repr

namespace ImageFormat

/-- The name of a format in descriptions and in build expressions. -/
def display : ImageFormat → String
  | .hex => "hex"
  | .bin => "bin"

/-- The format of the given name. -/
def ofName (name : String) : Except Document.Violation ImageFormat :=
  if name = "hex" then .ok .hex
  else if name = "bin" then .ok .bin
  else .error (.badFormat "expected 'hex' or 'bin'")

end ImageFormat

end PrinterFirmware
