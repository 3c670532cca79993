/-
  PrinterFirmware.Firmware
  ────────────────────────
  **FROM A DESCRIPTION TO A FIRMWARE.**

  A document describes configurations of printers and boards.  Compiling it takes
  one configuration by its name, or the one which the document selects, walks the
  section of its board and then the configuration itself, and finishes the build.
  Generating also fills the slots into a source template.
-/
import PrinterFirmware.Build.Finish
import PrinterFirmware.Nix
import PrinterFirmware.Program.Template

namespace PrinterFirmware

open Document

/-! ## §1. Compiling. -/

/-- The slots of a compiled configuration and the parameters of its build. -/
structure Compiled where
  slots : SlotMap
  buildName : String
  imageFormat : ImageFormat
  deriving DecidableEq, Repr

/-- The name of the configuration to compile. -/
def configurationName (document : Cursor) (name? : Option String) : Reading String :=
  match name? with
  | some name => .ok name
  | none => document.string "selected_config"

/-- The configuration of the given name, and its board. -/
def selectSections (document : Cursor) (name? : Option String) : Reading (Cursor × Cursor) := do
  let name ← configurationName document name?
  let config ← document.find "configurations" "name" name
  let boardName ← config.string "board"
  let board ← document.find "boards" "name" boardName
  return (config, board)

/-- Builds the program of a document. -/
def build (document : Value) (name? : Option String) : Build Compiled := do
  let (config, board) ← selectSections (.root document) name?
  let parts ← Board.setUp board
  Machine.printer config parts
  let slots ← Build.finish
  return { slots, buildName := parts.buildName, imageFormat := parts.imageFormat }

/-- Compiles a configuration of a document. -/
def compile (document : Value) (name? : Option String) : Except Failure Compiled :=
  match build document name? .empty with
  | .ok compiled _ => .ok compiled
  | .error e _ => .error e

/-! ## §2. Generating. -/

/-- The main source of a firmware and the parameters of its build. -/
structure Generated where
  mainSource : String
  buildName : String
  imageFormat : ImageFormat
  deriving DecidableEq, Repr

/-- Why no firmware is generated. -/
inductive GenerateError where
  | compilation (e : Failure)
  | template (e : TemplateError)
  deriving DecidableEq, Repr

/-- The text of an error. -/
def GenerateError.message : GenerateError → String
  | .compilation (.document e) => "Configuration error: " ++ e.message
  | .compilation (.breach b) => b.message
  | .template e => "Template error: " ++ e.message

/-- Fills the slots of a compiled configuration into a template. -/
def Compiled.fill (c : Compiled) (template : String) : Except TemplateError Generated := do
  let mainSource ← Template.fill template c.slots
  return { mainSource, buildName := c.buildName, imageFormat := c.imageFormat }

/-- Compiles a configuration of a document and fills a template. -/
def generate (document : Value) (name? : Option String) (template : String) :
    Except GenerateError Generated := do
  let compiled ← (compile document name?).mapError .compilation
  (compiled.fill template).mapError .template

/-- The build expression of a generated firmware. -/
def Generated.buildExpression (g : Generated) (nixDir : String) : String :=
  Nix.buildExpression nixDir g.buildName g.imageFormat g.mainSource

end PrinterFirmware
