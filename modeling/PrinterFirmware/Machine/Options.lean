/-
  PrinterFirmware.Machine.Options
  ───────────────────────────────
  **OPTIONS OF A MACHINE.**

  Most settings of a machine become options of the program.  An option is named by
  the field it comes from, after a stem for the thing it belongs to, and is
  mentioned by its name in the expression of that thing.
-/
import PrinterFirmware.Build.Workspace

namespace PrinterFirmware.Machine

open Document Build

/-- Declares the number in the field `field` as the option `stem ++ field`. -/
def numberOption (c : Cursor) (stem field : String) : Build TypeExpr := do
  let v ← c.number field
  declareOption (stem ++ field) v

/-- Declares the numbers in several fields as options, in order. -/
def numberOptions (c : Cursor) (stem : String) : List String → Build (List TypeExpr)
  | [] => return []
  | field :: rest => do
      let name ← numberOption c stem field
      let names ← numberOptions c stem rest
      return name :: names

/-- Declares the truth value in the field `field` as the option of an axis. -/
def boolOption (c : Cursor) (letter : Char) (field : String) : Build TypeExpr := do
  let b ← c.bool field
  let name := String.singleton letter ++ field
  emit (.boolOption name b)
  return .text name

end PrinterFirmware.Machine
