/-
  PrinterFirmware.CommandLine.Folder
  ──────────────────────────────────
  **A FOLDER OF FILES.**

  The plainest world in which a command line can be carried out: one folder of text
  files with no folders inside of it.  What is written to another place succeeds
  there and leaves the folder as it is.
-/
import PrinterFirmware.CommandLine.Destination
import PrinterFirmware.CommandLine.Run

namespace PrinterFirmware.CommandLine

/-- A folder: the files in it, by their names. -/
structure Folder where
  files : List (String × String)
  deriving DecidableEq, Repr

namespace Folder

/-- The text of a file. -/
def read? (f : Folder) (path : String) : Option String :=
  match Destination.ofPath? path with
  | some (.file name) => f.files.lookup name
  | some (.device d) => d.text?
  | some .elsewhere | none => none

/-- The folder after a text has been written to a file. -/
def write? (f : Folder) (path text : String) : Option Folder :=
  match Destination.ofPath? path with
  | some (.file name) => some ⟨Ascending.put name text f.files⟩
  | some (.device d) => if d.takes text then some f else none
  | some .elsewhere => some f
  | none => none

/-- The files which are new or different since an earlier state. -/
def changesSince (f earlier : Folder) : List (String × String) :=
  f.files.filter fun (name, text) => earlier.files.lookup name != some text

/-- Access to the files of a folder. -/
def access : FileAccess (StateM Folder) where
  read path := return (← get).read? path
  write path text := do
    match (← get).write? path text with
    | some f =>
        set f
        return true
    | none => return false

end Folder

end PrinterFirmware.CommandLine
