/-
  PrinterFirmware.CommandLine.Run
  ───────────────────────────────
  **CARRYING A COMMAND LINE OUT.**

  The description and the template are read, the configuration is compiled, the
  slots are dumped if that is asked for, the template is filled and the output is
  written, in this order.  The first problem ends the run with its exit code, and
  nothing after it is written.

  How files are read and written is a parameter, so that the whole run is a plain
  function of what the files do.
-/
import PrinterFirmware.CommandLine.Options
import PrinterFirmware.Document.Format
import PrinterFirmware.Firmware
import PrinterFirmware.Program.MainTemplate
import PrinterFirmware.Program.SlotDump

namespace PrinterFirmware.CommandLine

open Document

/-- Access to files. -/
structure FileAccess (m : Type → Type) where
  /-- The text of a file, or nothing if it cannot be read. -/
  read : String → m (Option String)
  /-- Writes a text to a file; tells whether that succeeded. -/
  write : String → String → m Bool

/-- Why a run ends early. -/
inductive Problem where
  | input (path : String) (e : ReadError)
  | templateFile (path : String)
  | compilation (e : Failure)
  | slotDump (path : String)
  | template (e : TemplateError)
  | output (path : String)
  deriving DecidableEq, Repr

namespace Problem

/-- The exit code of a problem. -/
def exitCode : Problem → Nat
  | .input _ _ => 1
  | .compilation _ => 2
  | .templateFile _ | .template _ => 3
  | .slotDump _ | .output _ => 4

/-- The text of a problem. -/
def message : Problem → String
  | .input path e => "Could not read " ++ path ++ ": " ++ e.message
  | .templateFile path => "Could not read the template " ++ path
  | .compilation (.document e) => e.message
  | .compilation (.breach b) => b.message
  | .slotDump path => "Could not write slots to " ++ path
  | .template e => e.message
  | .output path => "Could not write " ++ path

end Problem

variable {m : Type → Type} [Monad m]

/-- Reads the description. -/
def readInput (files : FileAccess m) (o : Options) : ExceptT Problem m Value := do
  let text ← files.read o.input
  match Format.readAt o.input text with
  | .ok document => return document
  | .error e => throw (.input o.input e)

/-- Reads the template, or takes the bundled one. -/
def readTemplate (files : FileAccess m) (o : Options) : ExceptT Problem m String := do
  match o.template with
  | none => return Template.bundled
  | some path =>
      match ← files.read path with
      | some text => return text
      | none => throw (.templateFile path)

/-- Dumps the slots, if that is asked for. -/
def dumpSlots (files : FileAccess m) (o : Options) (slots : SlotMap) : ExceptT Problem m Unit := do
  match o.slotDump with
  | none => return
  | some path =>
      if !(← files.write path (SlotDump.render slots)) then throw (.slotDump path)

/-- The text of the output. -/
def outputText (o : Options) (g : Generated) : String :=
  match o.nixDir with
  | some dir => g.buildExpression dir
  | none => g.mainSource

/-- Carries a command line out. -/
def run (files : FileAccess m) (o : Options) : ExceptT Problem m Unit := do
  let document ← readInput files o
  let template ← readTemplate files o
  let compiled ←
    match compile document o.configuration with
    | .ok compiled => pure compiled
    | .error e => throw (.compilation e)
  dumpSlots files o compiled.slots
  let generated ←
    match compiled.fill template with
    | .ok generated => pure generated
    | .error e => throw (.template e)
  if !(← files.write o.output (outputText o generated)) then throw (.output o.output)

end PrinterFirmware.CommandLine
