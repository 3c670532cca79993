/-
  PrinterFirmware.Naming.Pin
  ──────────────────────────
  **NAMES OF PINS.**

  A pin is named by an identifier, which a helper header of the board defines, or
  in the notation of the pin driver, such as `AvrPin<AvrPortA,4>`.
-/
import PrinterFirmware.Naming.Word

namespace PrinterFirmware.Naming

/-- A grammar of pin names. -/
inductive PinNames where
  /-- Any identifier. -/
  | identifier
  /-- The pin type `pin` applied to a port, `port` and one uppercase letter, and
  to a number of one to three digits. -/
  | ported (pin port : String)
  deriving DecidableEq, Repr

namespace PinNames

/-- What stands inside the brackets of `pin<...>`. -/
def bracketed? (pin : String) (cs : List Char) : Option (List Char) :=
  match pin.toList.isPrefixOf? cs with
  | some ('<' :: rest) => if rest.getLast? = some '>' then some rest.dropLast else none
  | _ => none

/-- A port letter, a comma and one to three digits. -/
def isPortAndNumber : List Char → Bool
  | c :: ',' :: number =>
      isUpper c && !number.isEmpty && decide (number.length ≤ 3) && number.all Numeral.isDigit
  | _ => false

/-- Whether a text is a pin name of the grammar. -/
def accepts : PinNames → String → Bool
  | .identifier, s => isIdentifier s
  | .ported pin port, s =>
      match bracketed? pin s.toList with
      | none => false
      | some inner =>
          match port.toList.isPrefixOf? inner with
          | none => false
          | some rest => isPortAndNumber rest

end PinNames

end PrinterFirmware.Naming
