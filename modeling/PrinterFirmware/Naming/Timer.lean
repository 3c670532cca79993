/-
  PrinterFirmware.Naming.Timer
  ────────────────────────────
  **NAMES OF TIMERS AND OF OUTPUT COMPARE UNITS.**

  A clock names its timers by a stem and one digit (`TC3`, `FTM0`), and the
  output compare units of a timer by the timer's name and one channel character,
  with or without a separator between them (`TC3B`, `FTM0_5`).
-/
import PrinterFirmware.Numeral

namespace PrinterFirmware.Naming

/-- The grammar of the names of one clock. -/
structure TimerNames where
  stem : String
  separator : Option Char
  firstChannel : Char
  lastChannel : Char
  deriving DecidableEq, Repr

/-- An output compare unit: the digit of its timer and its channel. -/
structure CompareUnit where
  timer : Char
  channel : Char
  deriving DecidableEq, Repr

namespace TimerNames

/-- Whether a character names a channel. -/
def isChannel (g : TimerNames) (c : Char) : Bool := g.firstChannel ≤ c && c ≤ g.lastChannel

/-- The digit of the timer named `name`. -/
def timer? (g : TimerNames) (name : String) : Option Char :=
  match g.stem.toList.isPrefixOf? name.toList with
  | some [d] => if Numeral.isDigit d then some d else none
  | _ => none

/-- What follows the separator, which has to be there if the grammar has
one. -/
def afterSeparator? (g : TimerNames) (cs : List Char) : Option (List Char) :=
  match g.separator, cs with
  | none, _ => some cs
  | some s, c :: rest => if c = s then some rest else none
  | some _, [] => none

/-- The output compare unit named `name`. -/
def unit? (g : TimerNames) (name : String) : Option CompareUnit :=
  match g.stem.toList.isPrefixOf? name.toList with
  | some (d :: rest) =>
      if Numeral.isDigit d then
        match g.afterSeparator? rest with
        | some [c] => if g.isChannel c then some ⟨d, c⟩ else none
        | _ => none
      else none
  | _ => none

end TimerNames

end PrinterFirmware.Naming
