/-
  PrinterFirmware.Program.Draft
  ─────────────────────────────
  **DRAFTING AND RENDERING A PROGRAM.**

  A draft collects the items of a program in the order in which they are
  contributed.  An item is refused if it declares a symbol or fills a slot for the
  second time.  Rendering sends each kind of item to slots of its own:

      constants, options, platform includes    in the order of contribution
      framework includes                       each once, in ascending order
      code, init calls, resources              by ascending priority, and in the
                                               order of contribution among equals

  The text of a slot therefore depends on the items of its own kind alone.

  Nothing is counted here: an item comes before another one if it was contributed before it.
  An emitter, which takes the items apart, numbers them instead, and makes the same program.
-/
import PrinterFirmware.Ascending
import PrinterFirmware.Failure
import PrinterFirmware.Program.Item
import PrinterFirmware.Program.SlotMap

namespace PrinterFirmware

/-- A program under construction. -/
structure Draft where
  items : List Item
  deriving Repr

namespace Draft

/-- The program without any item. -/
def empty : Draft := ⟨[]⟩

/-- The declared symbols, in the order of their declarations. -/
def symbols (d : Draft) : List String := d.items.filterMap Item.symbol?

/-- The slots which have been filled directly. -/
def filledSlots (d : Draft) : List String := d.items.filterMap Item.filledSlot?

/-- The broken rule, if `item` cannot be added to the draft. -/
def breach? (d : Draft) (item : Item) : Option Breach :=
  match item.symbol?, item.filledSlot? with
  | some name, _ => if name ∈ d.symbols then some (.symbolTwice name) else none
  | none, some slot => if slot ∈ d.filledSlots then some (.substitutionTwice slot) else none
  | none, none => none

/-- The draft with one more item. -/
def add (d : Draft) (item : Item) : Except Breach Draft :=
  match d.breach? item with
  | some b => .error b
  | none => .ok ⟨d.items ++ [item]⟩

/-! ## §1. Lines of the accumulated slots. -/

/-- The line of a constant. -/
def constantLine? : Item → Option String
  | .constant declarator name value => some (declarator ++ " " ++ name ++ " = " ++ value ++ ";\n")
  | _ => none

/-- The line of an option. -/
def optionLine? : Item → Option String
  | .option name dtype value =>
      some ("APRINTER_CONFIG_OPTION_" ++ dtype ++ "(" ++ name ++ ", " ++ value
        ++ ", ConfigNoProperties)\n")
  | _ => none

/-- The line of a platform include. -/
def platformLine? : Item → Option String
  | .platformInclude path => some ("#include <" ++ path ++ ">\n")
  | _ => none

/-- The path of a framework include. -/
def frameworkPath? : Item → Option String
  | .frameworkInclude path => some path
  | _ => none

/-- The line of a framework include. -/
def frameworkLine (path : String) : String := "#include <aprinter/" ++ path ++ ">\n"

/-- A piece of code and its priority. -/
def codeLine? : Item → Option (Int × String)
  | .code priority text => some (priority, text ++ "\n")
  | _ => none

/-- An init call and its priority. -/
def initLine? : Item → Option (Int × String)
  | .initCall priority text => some (priority, "    " ++ text ++ "\n")
  | _ => none

/-- An object at the top level of the program. -/
structure Resource where
  name : String
  expr : TypeExpr
  contextName : Option String

/-- A resource and its priority. -/
def resource? : Item → Option (Int × Resource)
  | .resource priority name expr contextName => some (priority, ⟨name, expr, contextName⟩)
  | _ => none

/-- The declaration of a resource. -/
def Resource.exprLine (r : Resource) : String :=
  "using " ++ r.name ++ " = " ++ r.expr.render (.indented 0) ++ ";\n"

/-- The name of a resource inside the context, if it has one. -/
def Resource.contextLine? (r : Resource) : Option String :=
  r.contextName.map fun contextName => "    using " ++ contextName ++ " = " ++ r.name ++ ";\n"

/-- A resource as a part of the program. -/
def Resource.childLine (r : Resource) : String := "    " ++ r.name ++ ",\n"

/-- The call which initializes a resource. -/
def Resource.initLine (r : Resource) : String := "    " ++ r.name ++ "::init(c);\n"

/-! ## §2. Slots. -/

/-- Things by ascending priority; things of equal priority keep their order. -/
def byPriority {α : Type} (things : List (Int × α)) : List α :=
  (things.mergeSort fun a b => a.1 ≤ b.1).map (·.2)

/-- The resources by ascending priority. -/
def resources (d : Draft) : List Resource := byPriority (d.items.filterMap resource?)

/-- Lines put together. -/
def lines (ls : List String) : String := String.join ls

/-- The notice at the head of every generated file. -/
def generatedWarning : String := "WARNING: This file was automatically generated!"

/-- The slots which a program fills itself, with their texts. -/
def ownSlots (d : Draft) : List (String × String) :=
  [("GENERATED_WARNING", generatedWarning),
   ("EXTRA_CONSTANTS", lines (d.items.filterMap constantLine?)),
   ("ConfigOptions", lines (d.items.filterMap optionLine?)),
   ("PLATFORM_INCLUDES", lines (d.items.filterMap platformLine?)),
   ("AprinterIncludes",
      lines ((Ascending.setOf (d.items.filterMap frameworkPath?)).map frameworkLine)),
   ("GlobalCode", lines (byPriority (d.items.filterMap codeLine?))),
   ("InitCalls", lines (byPriority (d.items.filterMap initLine?))),
   ("GlobalResourceExprs", lines (d.resources.map Resource.exprLine)),
   ("GlobalResourceContextAliases", lines (d.resources.filterMap Resource.contextLine?)),
   ("GlobalResourceProgramChildren", lines (d.resources.map Resource.childLine)),
   ("GlobalResourceInit", lines (d.resources.map Resource.initLine))]

/-- The slots which are filled directly, with their texts. -/
def directSlots (d : Draft) : List (String × String) :=
  d.items.filterMap fun
    | .fill slot content => some (slot, content.render)
    | _ => none

/-- The slots of the finished program.  No slot may be filled both directly and
by the program itself. -/
def render (d : Draft) : Except Breach SlotMap :=
  match d.ownSlots.find? (fun e => e.1 ∈ d.filledSlots) with
  | some (slot, _) => .error (.slotTwice slot)
  | none => .ok (.ofEntries (d.directSlots ++ d.ownSlots))

end Draft

end PrinterFirmware
