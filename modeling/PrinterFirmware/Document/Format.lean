/-
  PrinterFirmware.Document.Format
  ───────────────────────────────
  **FORMATS OF DESCRIPTIONS.**

  A description is written in JSON or in YAML; the extension of its file's name
  tells which.  Both are read into the same value model.
-/
import PrinterFirmware.Document.Json
import PrinterFirmware.Document.Yaml.Node

namespace PrinterFirmware.Document

/-- A format of descriptions. -/
inductive Format where
  | json
  | yaml
  deriving DecidableEq, Repr

/-- Why a description cannot be read. -/
inductive ReadError where
  /-- The file cannot be read. -/
  | inaccessible
  | badJson
  | badYaml
  /-- The name of the file does not tell its format. -/
  | unknownFormat (path : String)
  deriving DecidableEq, Repr

namespace ReadError

/-- What can be said about an error besides its kind. -/
def message : ReadError → String
  | .inaccessible => "Cannot be opened"
  | .badJson => "Invalid JSON"
  | .badYaml => "Invalid YAML"
  | .unknownFormat path =>
      "Cannot determine the format of " ++ path ++ ", expected extension json, yaml or yml"

end ReadError

namespace Format

/-! ## §1. The format of a file. -/

/-- The last component of a path.  Repeated slashes and single dots are no
components. -/
def fileName? (path : String) : Option String :=
  match ((path.splitOn "/").filter (fun part => part != "" && part != ".")).getLast? with
  | some name => if name = ".." then none else some name
  | none => none

/-- The extension of a path: what follows the last dot of its last component,
unless that dot comes first. -/
def extension? (path : String) : Option (List Char) := do
  let name ← fileName? path
  match name.toList.reverse.span (· != '.') with
  | (_, []) | (_, [_]) => none
  | (reversed, _) => some reversed.reverse

/-- The format of the description in a file, by the extension in any case. -/
def ofPath? (path : String) : Option Format := do
  let extension := String.ofList ((← extension? path).map Char.toLower)
  if extension = "json" then some .json
  else if extension = "yaml" ∨ extension = "yml" then some .yaml
  else none

/-! ## §2. Reading. -/

/-- Reads a text in a format. -/
def read (format : Format) (text : String) : Except ReadError Value :=
  match format with
  | .json => (Json.read? text).elim (.error .badJson) .ok
  | .yaml => (Yaml.read? text).elim (.error .badYaml) .ok

/-- Reads the description in the file at `path`, whose text is `none` if the file
cannot be read. -/
def readAt (path : String) (text : Option String) : Except ReadError Value :=
  match ofPath? path, text with
  | none, _ => .error (.unknownFormat path)
  | some _, none => .error .inaccessible
  | some format, some text => format.read text

end Format

end PrinterFirmware.Document
