/-
  PrinterFirmware.Program.Emitter
  ───────────────────────────────
  **ACCUMULATING A PROGRAM.**

  An emitter takes the items of a program apart as they come in.  There is one accumulator
  for each kind of item, and beside them the set of the declared symbols:

      constants, options, platform includes    lists, in the order of the calls
      framework includes                       a set
      code, init calls, resources              lists of numbered pieces
      direct fills                             a map from slots to their contents

  One counter numbers the pieces of code, the init calls and the resources, whichever of the
  three they are.  Rendering sorts each of these lists by priority, and by the numbers among
  equal priorities; then it puts the texts of all accumulators into the slots of the program.

  A draft keeps the same contributions as one list of items, and both make the same program
  (`program_eq`).
-/
import PrinterFirmware.Program.Draft

namespace PrinterFirmware

/-! ## §1. Accumulators. -/

/-- A piece of an accumulator which is ordered by priority. -/
structure Prioritized (α : Type) where
  priority : Int
  /-- The number which the counter gave to the piece. -/
  seq : Nat
  item : α

namespace Emitter

/-- A constant or a type name. -/
structure Constant where
  declarator : String
  name : String
  value : String

/-- An option which can be changed while the program runs. -/
structure ConfigOption where
  name : String
  dtype : String
  value : String

end Emitter

/-- A program which is being accumulated. -/
structure Emitter where
  /-- The number which was given last. -/
  seq : Nat
  /-- The declared symbols, as a set. -/
  symbols : List String
  constants : List Emitter.Constant
  options : List Emitter.ConfigOption
  platformIncludes : List String
  /-- The paths of framework includes, as a set. -/
  frameworkIncludes : List String
  code : List (Prioritized String)
  initCalls : List (Prioritized String)
  resources : List (Prioritized Draft.Resource)
  /-- The slots which have been filled directly, as a map. -/
  fills : List (String × SlotContent)

/-- A call of an emitter. -/
abbrev Emission (α : Type) := EStateM Breach Emitter α

namespace Emitter

/-- The emitter before any call. -/
def empty : Emitter where
  seq := 0
  symbols := []
  constants := []
  options := []
  platformIncludes := []
  frameworkIncludes := []
  code := []
  initCalls := []
  resources := []
  fills := []

/-! ## §2. Calls. -/

/-- Counts one further, and gives the new number. -/
def nextSeq : Emission Nat := do
  modify fun e => { e with seq := e.seq + 1 }
  return (← get).seq

/-- Puts a symbol among the declared ones, where it may not be yet. -/
def claimSymbol (name : String) : Emission Unit := do
  let e ← get
  if name ∈ e.symbols then
    throw (.symbolTwice name)
  set { e with symbols := Ascending.add name e.symbols }

/-- Declares an option, and gives its name. -/
def addOption (name dtype value : String) : Emission String := do
  claimSymbol name
  modify fun e => { e with options := e.options ++ [⟨name, dtype, value⟩] }
  return name

def addNumberOption (name : String) (v : Binary64) : Emission String :=
  addOption name "DOUBLE" v.scientific

def addBoolOption (name : String) (b : Bool) : Emission String :=
  addOption name "BOOL" (if b then "true" else "false")

/-- Declares a constant or a type name, and gives its name. -/
def addConstant (declarator name value : String) : Emission String := do
  claimSymbol name
  modify fun e => { e with constants := e.constants ++ [⟨declarator, name, value⟩] }
  return name

def addNumberConstant (name : String) (v : Binary64) : Emission String :=
  addConstant "using" name ("AMBRO_WRAP_DOUBLE(" ++ v.scientific ++ ")")

def addTypeName (name type : String) : Emission String := addConstant "using" name type

def addIntConstant (type : IntegerType) (name : String) (value : Int) : Emission String :=
  addConstant ("static " ++ type.declared ++ " const") name (type.literal value)

def addPlatformInclude (path : String) : Emission Unit :=
  modify fun e => { e with platformIncludes := e.platformIncludes ++ [path] }

def addFrameworkInclude (path : String) : Emission Unit :=
  modify fun e => { e with frameworkIncludes := Ascending.add path e.frameworkIncludes }

def addCode (priority : Int) (text : String) : Emission Unit := do
  let seq ← nextSeq
  modify fun e => { e with code := e.code ++ [⟨priority, seq, text⟩] }

/-- Adds code which binds an interrupt service routine. -/
def addInterrupt (text : String) : Emission Unit := addCode Item.interruptPriority text

def addInitCall (priority : Int) (text : String) : Emission Unit := do
  let seq ← nextSeq
  modify fun e => { e with initCalls := e.initCalls ++ [⟨priority, seq, text⟩] }

def addResource (priority : Int) (name : String) (expr : TypeExpr)
    (contextName : Option String) : Emission Unit := do
  claimSymbol name
  let seq ← nextSeq
  modify fun e =>
    { e with resources := e.resources ++ [⟨priority, seq, ⟨name, expr, contextName⟩⟩] }

/-- Fills a slot directly, which may not be filled yet. -/
def addFill (slot : String) (content : SlotContent) : Emission Unit := do
  let e ← get
  if slot ∈ e.fills.map (·.1) then
    throw (.substitutionTwice slot)
  set { e with fills := Ascending.put slot content e.fills }

/-! ## §3. Rendering. -/

def Constant.line (c : Constant) : String :=
  c.declarator ++ " " ++ c.name ++ " = " ++ c.value ++ ";\n"

def ConfigOption.line (o : ConfigOption) : String :=
  "APRINTER_CONFIG_OPTION_" ++ o.dtype ++ "(" ++ o.name ++ ", " ++ o.value
    ++ ", ConfigNoProperties)\n"

/-- Whether a piece comes before another one, or is the same: it has a lower priority, or the
same priority and no higher number. -/
def comesFirst {α : Type} (p q : Prioritized α) : Bool :=
  p.priority < q.priority || (p.priority == q.priority && p.seq ≤ q.seq)

/-- Pieces by ascending priorities, and by ascending numbers among equal priorities. -/
def sorted {α : Type} (pieces : List (Prioritized α)) : List α :=
  (pieces.mergeSort comesFirst).map (·.item)

/-- The slots which the accumulators give, with their texts. -/
def ownSlots (e : Emitter) : List (String × String) :=
  let resources := sorted e.resources
  [("GENERATED_WARNING", Draft.generatedWarning),
   ("EXTRA_CONSTANTS", Draft.lines (e.constants.map Constant.line)),
   ("ConfigOptions", Draft.lines (e.options.map ConfigOption.line)),
   ("PLATFORM_INCLUDES",
      Draft.lines (e.platformIncludes.map fun path => "#include <" ++ path ++ ">\n")),
   ("AprinterIncludes", Draft.lines (e.frameworkIncludes.map Draft.frameworkLine)),
   ("GlobalCode", Draft.lines ((sorted e.code).map (· ++ "\n"))),
   ("InitCalls", Draft.lines ((sorted e.initCalls).map ("    " ++ · ++ "\n"))),
   ("GlobalResourceExprs", Draft.lines (resources.map Draft.Resource.exprLine)),
   ("GlobalResourceContextAliases", Draft.lines (resources.filterMap Draft.Resource.contextLine?)),
   ("GlobalResourceProgramChildren", Draft.lines (resources.map Draft.Resource.childLine)),
   ("GlobalResourceInit", Draft.lines (resources.map Draft.Resource.initLine))]

/-- The slots with one more of them, which may not be filled yet. -/
def insertSlot (m : SlotMap) (e : String × String) : Except Breach SlotMap :=
  if m.contains e.1 then .error (.slotTwice e.1) else .ok ⟨Ascending.put e.1 e.2 m.entries⟩

/-- The slots of the finished program: those which were filled directly come first, and the
others are put beside them one after another. -/
def render (e : Emitter) : Except Breach SlotMap := do
  let filled ← (e.fills.map fun s => (s.1, s.2.render)).foldlM insertSlot ⟨[]⟩
  e.ownSlots.foldlM insertSlot filled

end Emitter

end PrinterFirmware
