/-
  PrinterFirmware.Program.Item
  ────────────────────────────
  **THE ITEMS OF A GENERATED PROGRAM.**

  A program is a sequence of items in the order in which they were contributed.
  Constants, options and resources declare a symbol; no symbol may be declared
  twice.
-/
import PrinterFirmware.Binary64.Scientific
import PrinterFirmware.Program.IntegerType
import PrinterFirmware.TypeExpr

namespace PrinterFirmware

/-- What a slot is filled with. -/
inductive SlotContent where
  | text (s : String)
  /-- An expression, with the layout it is rendered in. -/
  | expr (e : TypeExpr) (layout : Layout)
  deriving Repr

namespace SlotContent

/-- The text of a slot. -/
def render : SlotContent → String
  | .text s => s
  | .expr e layout => e.render layout

end SlotContent

/-- An item of a program. -/
inductive Item where
  /-- A constant or a type name: `declarator name = value;`. -/
  | constant (declarator name value : String)
  /-- An option which can be changed while the program runs. -/
  | option (name dtype value : String)
  | platformInclude (path : String)
  /-- An include of the target framework; repetitions have no effect. -/
  | frameworkInclude (path : String)
  /-- Code at the top level of the program. -/
  | code (priority : Int) (text : String)
  /-- A call which is made when the program starts. -/
  | initCall (priority : Int) (text : String)
  /-- An object at the top level of the program, and the name it has inside the
  program's context, if any. -/
  | resource (priority : Int) (name : String) (expr : TypeExpr) (contextName : Option String)
  /-- The content of a slot which is filled directly. -/
  | fill (slot : String) (content : SlotContent)
  deriving Repr

namespace Item

/-- The symbol which an item declares. -/
def symbol? : Item → Option String
  | .constant _ name _ => some name
  | .option name _ _ => some name
  | .resource _ name _ _ => some name
  | _ => none

/-- The slot which an item fills directly. -/
def filledSlot? : Item → Option String
  | .fill slot _ => some slot
  | _ => none

/-! ## §1. Items of particular forms. -/

/-- An option which holds a number. -/
def numberOption (name : String) (v : Binary64) : Item := .option name "DOUBLE" v.scientific

/-- An option which holds a truth value. -/
def boolOption (name : String) (b : Bool) : Item := .option name "BOOL" (TypeExpr.boolText b)

/-- A constant which holds a number. -/
def numberConstant (name : String) (v : Binary64) : Item :=
  .constant "using" name ("AMBRO_WRAP_DOUBLE(" ++ v.scientific ++ ")")

/-- A second name of a type. -/
def typeName (name type : String) : Item := .constant "using" name type

/-- A constant of a fixed width integer type. -/
def intConstant (type : IntegerType) (name : String) (value : Int) : Item :=
  .constant ("static " ++ type.declared ++ " const") name (type.literal value)

/-- The priority of interrupt bindings among the code of the program. -/
def interruptPriority : Int := -1

/-- Code which binds an interrupt service routine. -/
def interrupt (text : String) : Item := .code interruptPriority text

end Item

end PrinterFirmware
