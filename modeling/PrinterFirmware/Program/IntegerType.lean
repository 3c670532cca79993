/-
  PrinterFirmware.Program.IntegerType
  ───────────────────────────────────
  **FIXED WIDTH INTEGER TYPES OF A GENERATED PROGRAM.**

  A type is named `int16`, `uint32` and so on.  A constant of the type is
  declared with the type name `..._t` and its value is wrapped in the macro
  `INT16_C` or `UINT32_C` of that width.
-/
import PrinterFirmware.Document.Violation

namespace PrinterFirmware

/-- A fixed width integer type which a constant can be declared with. -/
inductive IntegerType where
  | int8
  | int16
  | int32
  | int64
  | uint8
  | uint16
  | uint32
  | uint64
  deriving DecidableEq, Repr

namespace IntegerType

/-- All types. -/
def all : List IntegerType := [int8, int16, int32, int64, uint8, uint16, uint32, uint64]

/-- Whether the type has negative values. -/
def isSigned : IntegerType → Bool
  | int8 | int16 | int32 | int64 => true
  | uint8 | uint16 | uint32 | uint64 => false

/-- The number of bits. -/
def width : IntegerType → Nat
  | int8 | uint8 => 8
  | int16 | uint16 => 16
  | int32 | uint32 => 32
  | int64 | uint64 => 64

/-- The name of a type. -/
def display (t : IntegerType) : String :=
  (if t.isSigned then "int" else "uint") ++ Numeral.ofNat t.width

/-- The type of the given name. -/
def ofName (name : String) : Except Document.Violation IntegerType :=
  match all.find? (fun t => t.display == name) with
  | some t => .ok t
  | none => .error (.invalidIntegerType name)

/-- The type name in a declaration. -/
def declared (t : IntegerType) : String := t.display ++ "_t"

/-- A value of the type as a constant expression. -/
def literal (t : IntegerType) (value : Int) : String :=
  (if t.isSigned then "INT" else "UINT") ++ Numeral.ofNat t.width ++ "_C("
    ++ Numeral.ofInt value ++ ")"

end IntegerType

end PrinterFirmware
