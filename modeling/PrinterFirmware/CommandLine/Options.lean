/-
  PrinterFirmware.CommandLine.Options
  ───────────────────────────────────
  **THE OPTIONS OF THE COMMAND LINE.**
-/

namespace PrinterFirmware.CommandLine

/-- How much is logged. -/
inductive LogLevel where
  | error
  | warn
  | info
  | debug
  | trace
  deriving DecidableEq, Repr

namespace LogLevel

/-- All levels. -/
def all : List LogLevel := [error, warn, info, debug, trace]

/-- The name of a level on the command line. -/
def display : LogLevel → String
  | error => "error"
  | warn => "warn"
  | info => "info"
  | debug => "debug"
  | trace => "trace"

/-- The level of the given name. -/
def ofName? (name : String) : Option LogLevel := all.find? (·.display == name)

end LogLevel

/-- What an accepted command line asks for. -/
structure Options where
  /-- The file with the description. -/
  input : String
  /-- The file for the generated source. -/
  output : String
  /-- The configuration to compile, if that is not the selected one. -/
  configuration : Option String
  /-- The file with the template, if that is not the bundled one. -/
  template : Option String
  /-- The directory of the build expressions, if the output is to be one. -/
  nixDir : Option String
  /-- The file for a dump of the slots. -/
  slotDump : Option String
  logLevel : Option LogLevel
  deriving DecidableEq, Repr

end PrinterFirmware.CommandLine
