/-
  PrinterFirmware.Document.Violation
  ──────────────────────────────────
  **WHAT CAN BE WRONG WITH A DOCUMENT.**

  A document which does not describe a printer is rejected with the first rule
  it violates and with the place where it does.  The causes are data; their
  wording is in `Violation.message`, one function for all of them.
-/
import PrinterFirmware.Document.Path

namespace PrinterFirmware.Document

/-- The kinds of value which a field can be required to hold. -/
inductive Shape where
  | string
  | integer
  | number
  | bool
  | list
  deriving DecidableEq, Repr

/-- The kinds of hardware which a board declares under a name, for the rest
of the document to refer to. -/
inductive Hardware where
  | digitalInput
  | stepperPort
  | analogInput
  | pwmOutput
  deriving DecidableEq, Repr

/-- A rule which a document violates. -/
inductive Violation where
  | missingField
  | wrongShape (expected : Shape)
  | notAnObject
  | countOutOfRange (count : Int) (min max : Nat)
  /-- No element of a list holds the string `value` in its field `field`. -/
  | notFound (field value : String)
  | badFormat (reason : String)
  /-- A second thing of the sort `what` has the name of an earlier one. -/
  | duplicateName (what : String)
  | unknownReference (kind : Hardware) (name : String)
  | unknownChoice (tag : String)
  | invalidIntegerType (name : String)
  | invalid (reason : String)
  deriving DecidableEq, Repr

/-- A violation and the place of the document which it concerns. -/
structure Located where
  path : Path
  violation : Violation
  deriving DecidableEq, Repr

/-! ## §1. Wording. -/

/-- A value of this shape, with its article. -/
def Shape.display : Shape → String
  | .string => "a string"
  | .integer => "an integer"
  | .number => "a number"
  | .bool => "a boolean"
  | .list => "a list"

/-- The name of a kind of hardware in messages. -/
def Hardware.display : Hardware → String
  | .digitalInput => "digital_input"
  | .stepperPort => "stepper_port"
  | .analogInput => "analog_input"
  | .pwmOutput => "pwm_output"

/-- The text of a violation, without its place. -/
def Violation.message : Violation → String
  | .missingField => "Missing required field"
  | .wrongShape expected => "Expected " ++ expected.display
  | .notAnObject => "Missing or not an object"
  | .countOutOfRange count min max =>
      "Expected between " ++ Numeral.ofNat min ++ " and " ++ Numeral.ofNat max
        ++ " elements but found " ++ Numeral.ofInt count
  | .notFound field value => "No element with " ++ field ++ " equal to '" ++ value ++ "'"
  | .badFormat reason => "Incorrect format: " ++ reason
  | .duplicateName what => "Duplicate " ++ what ++ " name"
  | .unknownReference kind name => "Nonexistent " ++ kind.display ++ " '" ++ name ++ "' specified"
  | .unknownChoice tag => "Unknown choice '" ++ tag ++ "'"
  | .invalidIntegerType name => "Invalid integer type '" ++ name ++ "'"
  | .invalid reason => reason

/-- The text of a located violation: the place, a colon and the violation. -/
def Located.message (e : Located) : String :=
  e.path.display ++ ": " ++ e.violation.message

end PrinterFirmware.Document
