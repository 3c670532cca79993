/-
  PrinterFirmware.Board.Parts
  ───────────────────────────
  **WHAT A BOARD CONTRIBUTES TO A PRINTER.**
-/
import PrinterFirmware.Document.Cursor
import PrinterFirmware.ImageFormat

namespace PrinterFirmware

/-- What the section of a board leaves to the section of the printer: the
parameters of the build, the expressions of the services on the board, and the
section with the settings of the running program. -/
structure BoardParts where
  /-- The name of the board in the build. -/
  buildName : String
  imageFormat : ImageFormat
  performance : Document.Cursor
  ledPin : TypeExpr
  eventTimer : TypeExpr
  watchdog : TypeExpr
  serial : TypeExpr
  sdCard : TypeExpr
  configManager : TypeExpr
  deriving Repr

end PrinterFirmware
