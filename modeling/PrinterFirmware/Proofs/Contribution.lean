/-
  PrinterFirmware.Proofs.Contribution
  ───────────────────────────────────
  **CALLS WHICH CONTRIBUTE TO A PROGRAM.**

  A program is drafted by a sequence of calls and then rendered.  Some calls are refused:
  the name of a declaration may not be declared again, whichever calls declare it, and a
  slot may neither be filled directly again nor be one which the program fills itself.

      Contribution            the calls, and the accumulator which each of them fills
      Refuses                 what is wrong with a call after other ones
      collect_eq_ok_iff       calls are all accepted if nothing is repeated
      collect_eq_error_iff    else the first call which repeats something is refused
      program_declares        which calls make no program, and what a program declares

  The last slot to be tested is one which is filled both ways; that shows when the program
  is rendered, and not before.
-/
import Mathlib.Data.List.Induction
import PrinterFirmware.Proofs.Slots

namespace PrinterFirmware

/-! ## §1. Calls. -/

/-- A call which contributes to the program under construction. -/
inductive Contribution where
  /-- An option of any type. -/
  | option (name dtype value : String)
  | numberOption (name : String) (v : Binary64)
  | boolOption (name : String) (b : Bool)
  | numberConstant (name : String) (v : Binary64)
  | typeName (name type : String)
  | intConstant (type : IntegerType) (name : String) (value : Int)
  | platformInclude (path : String)
  | frameworkInclude (path : String)
  | code (priority : Int) (text : String)
  | interrupt (text : String)
  | initCall (priority : Int) (text : String)
  | resource (priority : Int) (name : String) (expr : TypeExpr) (contextName : Option String)
  | fill (slot : String) (content : SlotContent)

/-- Where contributions are accumulated until the program is rendered. -/
inductive Accumulator where
  | constants
  | options
  | platformIncludes
  | frameworkIncludes
  | code
  | initCalls
  | resources
  | substitutions
  deriving DecidableEq

/-- A declaration in the text of a program: its name and what stands around it. -/
structure Declaration where
  front : String
  name : String
  back : String

/-- The text of a declaration. -/
def Declaration.line (d : Declaration) : String := d.front ++ d.name ++ d.back

namespace Contribution

/-- The item which a call adds to the draft. -/
def item : Contribution → Item
  | option name dtype value => .option name dtype value
  | numberOption name v => .numberOption name v
  | boolOption name b => .boolOption name b
  | numberConstant name v => .numberConstant name v
  | typeName name type => .typeName name type
  | intConstant type name value => .intConstant type name value
  | platformInclude path => .platformInclude path
  | frameworkInclude path => .frameworkInclude path
  | code priority text => .code priority text
  | interrupt text => .interrupt text
  | initCall priority text => .initCall priority text
  | resource priority name expr contextName => .resource priority name expr contextName
  | fill slot content => .fill slot content

def accumulator : Contribution → Accumulator
  | option .. | numberOption .. | boolOption .. => .options
  | numberConstant .. | typeName .. | intConstant .. => .constants
  | platformInclude _ => .platformIncludes
  | frameworkInclude _ => .frameworkIncludes
  | code .. | interrupt _ => .code
  | initCall .. => .initCalls
  | resource .. => .resources
  | fill .. => .substitutions

/-- An option of the running program. -/
def optionDeclaration (name dtype value : String) : Declaration :=
  ⟨"APRINTER_CONFIG_OPTION_" ++ dtype ++ "(", name, ", " ++ value ++ ", ConfigNoProperties)\n"⟩

/-- A constant or a type name. -/
def constantDeclaration (declarator name value : String) : Declaration :=
  ⟨declarator ++ " ", name, " = " ++ value ++ ";\n"⟩

/-- The declaration which a call makes. -/
def declaration? : Contribution → Option Declaration
  | option name dtype value => some (optionDeclaration name dtype value)
  | numberOption name v => some (optionDeclaration name "DOUBLE" v.scientific)
  | boolOption name b => some (optionDeclaration name "BOOL" (if b then "true" else "false"))
  | numberConstant name v =>
      some (constantDeclaration "using" name ("AMBRO_WRAP_DOUBLE(" ++ v.scientific ++ ")"))
  | typeName name type => some (constantDeclaration "using" name type)
  | intConstant type name value =>
      some (constantDeclaration ("static " ++ type.declared ++ " const") name (type.literal value))
  | resource _ name expr _ => some (constantDeclaration "using" name (expr.render (.indented 0)))
  | _ => none

/-- The name which a call declares. -/
def declaredName? (c : Contribution) : Option String := c.declaration?.map (·.name)

/-- The slot which a call fills directly. -/
def filledSlot? : Contribution → Option String
  | fill slot _ => some slot
  | _ => none

/-- The declaration which a call makes in the accumulator `a`. -/
def declarationIn? (a : Accumulator) (c : Contribution) : Option Declaration :=
  if c.accumulator = a then c.declaration? else none

theorem symbol?_item (c : Contribution) : c.item.symbol? = c.declaredName? := by
  cases c <;> rfl

theorem filledSlot?_item (c : Contribution) : c.item.filledSlot? = c.filledSlot? := by
  cases c <;> rfl

end Contribution

/-- The names which calls declare, in order. -/
def declaredNames (calls : List Contribution) : List String :=
  calls.filterMap Contribution.declaredName?

/-- The slots which calls fill directly, in order. -/
def filledSlots (calls : List Contribution) : List String :=
  calls.filterMap Contribution.filledSlot?

/-- The declarations which calls make in an accumulator, in order. -/
def declarationsIn (a : Accumulator) (calls : List Contribution) : List Declaration :=
  calls.filterMap (Contribution.declarationIn? a)

namespace Draft

/-- The draft with one more contribution. -/
def contribute (d : Draft) (c : Contribution) : Except Breach Draft := d.add c.item

/-- The draft which calls make, up to the first one which is refused. -/
def collect (calls : List Contribution) : Except Breach Draft := calls.foldlM contribute .empty

/-- The program which calls make. -/
def program (calls : List Contribution) : Except Breach SlotMap := do
  let d ← collect calls
  d.render

/-! ## §2. Accepted and refused calls. -/

/-- The draft which holds the items of calls. -/
def ofCalls (calls : List Contribution) : Draft := ⟨calls.map Contribution.item⟩

theorem items_filterMap {β : Type} {f : Item → Option β} {g : Contribution → Option β}
    (h : ∀ c, f c.item = g c) (calls : List Contribution) :
    (ofCalls calls).items.filterMap f = calls.filterMap g := by
  unfold ofCalls
  rw [List.filterMap_map]
  exact List.filterMap_congr fun c _ => h c

theorem symbols_ofCalls (calls : List Contribution) :
    (ofCalls calls).symbols = declaredNames calls :=
  items_filterMap Contribution.symbol?_item calls

theorem filledSlots_ofCalls (calls : List Contribution) :
    (ofCalls calls).filledSlots = PrinterFirmware.filledSlots calls :=
  items_filterMap Contribution.filledSlot?_item calls

/-- Nothing is declared twice and no slot is filled directly twice. -/
structure Unrepeated (calls : List Contribution) : Prop where
  names : (declaredNames calls).Nodup
  slots : (PrinterFirmware.filledSlots calls).Nodup

theorem not_unrepeated_iff {calls : List Contribution} :
    ¬Unrepeated calls ↔
      ¬(declaredNames calls).Nodup ∨ ¬(PrinterFirmware.filledSlots calls).Nodup := by
  rw [← not_and_or]
  exact not_congr ⟨fun h => ⟨h.names, h.slots⟩, fun h => ⟨h.1, h.2⟩⟩

/-- What is wrong with one more call after the calls `before`. -/
inductive Refuses (before : List Contribution) : Contribution → Breach → Prop where
  | name {c : Contribution} {name : String} (h : c.declaredName? = some name)
      (hold : name ∈ declaredNames before) : Refuses before c (.symbolTwice name)
  | slot {c : Contribution} {slot : String} (h : c.filledSlot? = some slot)
      (hold : slot ∈ PrinterFirmware.filledSlots before) :
      Refuses before c (.substitutionTwice slot)

/-- No call both declares a name and fills a slot. -/
theorem filledSlot?_of_declares {c : Contribution} {name : String}
    (h : c.declaredName? = some name) : c.filledSlot? = none := by
  cases c with
  | fill slot content => cases h
  | _ => rfl

theorem breach?_ofCalls (before : List Contribution) (c : Contribution) (b : Breach) :
    (ofCalls before).breach? c.item = some b ↔ Refuses before c b := by
  unfold breach?
  rw [c.symbol?_item, c.filledSlot?_item, symbols_ofCalls, filledSlots_ofCalls]
  -- A call which declares a name fills no slot, so at most one of the two checks applies.
  cases hname : c.declaredName? with
  | some name =>
      show (if name ∈ declaredNames before then some (Breach.symbolTwice name) else none) = some b ↔ _
      constructor
      · intro h
        split at h
        · next hold =>
            injection h with h
            exact h ▸ .name hname hold
        · cases h
      · intro h
        cases h with
        | name h hold =>
            cases hname.symm.trans h
            rw [if_pos hold]
        | slot h _ => exact absurd h (by rw [filledSlot?_of_declares hname]; exact nofun)
  | none =>
      cases hslot : c.filledSlot? with
      | some slot =>
          show (if slot ∈ PrinterFirmware.filledSlots before then
            some (Breach.substitutionTwice slot) else none) = some b ↔ _
          constructor
          · intro h
            split at h
            · next hold =>
                injection h with h
                exact h ▸ .slot hslot hold
            · cases h
          · intro h
            cases h with
            | name h _ => cases hname.symm.trans h
            | slot h hold =>
                cases hslot.symm.trans h
                rw [if_pos hold]
      | none =>
          constructor
          · exact fun h => nomatch h
          · intro h
            cases h with
            | name h _ => cases hname.symm.trans h
            | slot h _ => cases hslot.symm.trans h

theorem contribute_eq_error_iff (before : List Contribution) (c : Contribution) (b : Breach) :
    (ofCalls before).contribute c = .error b ↔ Refuses before c b := by
  rw [← breach?_ofCalls]
  unfold contribute add
  cases (ofCalls before).breach? c.item with
  | none => exact ⟨nofun, nofun⟩
  | some b' =>
      constructor
      · rintro ⟨⟩
        rfl
      · rintro ⟨⟩
        rfl

/-- A call which is not refused adds its item. -/
theorem contribute_eq_ok {before : List Contribution} {c : Contribution} {d : Draft}
    (h : (ofCalls before).contribute c = .ok d) :
    d = ofCalls (before ++ [c]) ∧ ∀ b, ¬Refuses before c b := by
  constructor
  · unfold contribute add at h
    split at h
    · cases h
    · cases h
      unfold ofCalls
      rw [List.map_append]
      rfl
  · intro b hb
    cases h.symm.trans ((contribute_eq_error_iff before c b).2 hb)

/-- What is picked from one more thing is new if nothing is picked twice. -/
theorem nodup_filterMap_append_iff {α β : Type} {f : α → Option β} {before : List α} {a : α} :
    ((before ++ [a]).filterMap f).Nodup ↔
      (before.filterMap f).Nodup ∧ ∀ b, f a = some b → b ∉ before.filterMap f := by
  rw [List.filterMap_append]
  cases ha : f a with
  | none =>
      rw [List.filterMap_cons_none ha, List.filterMap_nil, List.append_nil]
      exact ⟨fun h => ⟨h, nofun⟩, And.left⟩
  | some b =>
      rw [List.filterMap_cons_some ha, List.filterMap_nil, List.nodup_append]
      constructor
      · rintro ⟨hbefore, -, hnew⟩
        refine ⟨hbefore, ?_⟩
        rintro _ ⟨⟩ hmem
        exact hnew b hmem b List.mem_cons_self rfl
      · rintro ⟨hbefore, hnew⟩
        refine ⟨hbefore, List.nodup_singleton b, ?_⟩
        intro x hx y hy heq
        rw [heq, List.mem_singleton.1 hy] at hx
        exact hnew b rfl hx

/-- One more call repeats nothing if it is not refused. -/
theorem unrepeated_append_iff {before : List Contribution} {c : Contribution} :
    Unrepeated (before ++ [c]) ↔ Unrepeated before ∧ ∀ b, ¬Refuses before c b := by
  constructor
  · rintro ⟨hnames, hslots⟩
    obtain ⟨hnames, hname⟩ := nodup_filterMap_append_iff.1 hnames
    obtain ⟨hslots, hslot⟩ := nodup_filterMap_append_iff.1 hslots
    refine ⟨⟨hnames, hslots⟩, ?_⟩
    intro b hb
    cases hb with
    | name h hold => exact hname _ h hold
    | slot h hold => exact hslot _ h hold
  · rintro ⟨⟨hnames, hslots⟩, hnew⟩
    exact ⟨nodup_filterMap_append_iff.2 ⟨hnames, fun _ h hold => hnew _ (.name h hold)⟩,
      nodup_filterMap_append_iff.2 ⟨hslots, fun _ h hold => hnew _ (.slot h hold)⟩⟩

/-! ## §3. Sequences of calls. -/

theorem collect_append (before after : List Contribution) :
    collect (before ++ after) = (do
      let d ← collect before
      after.foldlM contribute d) :=
  List.foldlM_append

/-- The last call is the last one to be tested. -/
theorem collect_append_singleton (before : List Contribution) (c : Contribution) :
    collect (before ++ [c]) = (do
      let d ← collect before
      d.contribute c) := by
  rw [collect_append]
  exact bind_congr fun d => List.foldlM_cons.trans (bind_pure (d.contribute c))

/-- Calls are all accepted if and only if nothing is repeated. -/
theorem collect_eq_ok_iff {calls : List Contribution} {d : Draft} :
    collect calls = .ok d ↔ d = ofCalls calls ∧ Unrepeated calls := by
  -- The draft grows at its end, so the induction takes the last call away.
  induction calls using List.reverseRecOn generalizing d with
  | nil =>
      constructor
      · rintro ⟨⟩
        exact ⟨rfl, .nil, .nil⟩
      · rintro ⟨rfl, -⟩
        rfl
  | append_singleton before c ih =>
      rw [collect_append_singleton, unrepeated_append_iff]
      constructor
      · intro h
        cases hbefore : collect before with
        | error b =>
            rw [hbefore] at h
            cases h
        | ok d' =>
            obtain ⟨rfl, hun⟩ := ih.1 hbefore
            rw [hbefore] at h
            obtain ⟨hd, hnew⟩ := contribute_eq_ok h
            exact ⟨hd, hun, hnew⟩
      · rintro ⟨rfl, hun, hnew⟩
        rw [ih.2 ⟨rfl, hun⟩]
        cases hc : (ofCalls before).contribute c with
        | error b => exact absurd ((contribute_eq_error_iff before c b).1 hc) (hnew b)
        | ok d' =>
            rw [← (contribute_eq_ok hc).1]
            exact hc

/-- Calls stop at the first one which repeats something. -/
theorem collect_eq_error_iff {calls : List Contribution} {b : Breach} :
    collect calls = .error b ↔
      ∃ before c after, calls = before ++ c :: after ∧ Unrepeated before ∧ Refuses before c b := by
  constructor
  -- The induction is from the end: the last call is reached only if none before it is refused.
  · induction calls using List.reverseRecOn with
    | nil => exact nofun
    | append_singleton before c ih =>
        intro h
        rw [collect_append_singleton] at h
        cases hbefore : collect before with
        | error b' =>
            rw [hbefore] at h
            cases h
            obtain ⟨front, c', after, rfl, hun, hc⟩ := ih hbefore
            refine ⟨front, c', after ++ [c], ?_, hun, hc⟩
            rw [List.append_assoc]
            rfl
        | ok d =>
            obtain ⟨rfl, hun⟩ := collect_eq_ok_iff.1 hbefore
            rw [hbefore] at h
            exact ⟨before, c, [], rfl, hun, (contribute_eq_error_iff before c b).1 h⟩
  · rintro ⟨before, c, after, rfl, hun, hc⟩
    rw [collect_append, collect_eq_ok_iff.2 ⟨rfl, hun⟩]
    show (do
      let d ← (ofCalls before).contribute c
      after.foldlM contribute d) = _
    rw [(contribute_eq_error_iff before c b).2 hc]
    rfl

/-- The call at which others stop is refused by the draft of the calls before it. -/
theorem collect_stops_iff (calls : List Contribution) (b : Breach) :
    collect calls = .error b ↔
      ∃ before c after d, calls = before ++ c :: after ∧ collect before = .ok d ∧
        d.contribute c = .error b ∧ Refuses before c b := by
  rw [collect_eq_error_iff]
  constructor
  · rintro ⟨before, c, after, hcalls, hun, hc⟩
    exact ⟨before, c, after, ofCalls before, hcalls, collect_eq_ok_iff.2 ⟨rfl, hun⟩,
      (contribute_eq_error_iff before c b).2 hc, hc⟩
  · rintro ⟨before, c, after, d, hcalls, hd, -, hc⟩
    exact ⟨before, c, after, hcalls, (collect_eq_ok_iff.1 hd).2, hc⟩

/-! ## §4. Finished programs. -/

/-- The slot which is found filled is a slot of the program itself. -/
theorem find?_ownSlots (d : Draft) :
    (d.ownSlots.find? fun e => e.1 ∈ d.filledSlots).map (·.1)
      = ownNames.find? (· ∈ d.filledSlots) := by
  rw [← ownSlots_names d, List.find?_map]
  rfl

/-- A draft is not rendered if and only if a slot is filled both ways; the first one is
reported. -/
theorem render_eq_error_iff {d : Draft} {b : Breach} :
    d.render = .error b ↔
      ∃ slot, ownNames.find? (· ∈ d.filledSlots) = some slot ∧ b = .slotTwice slot := by
  unfold render
  rw [← find?_ownSlots d]
  cases d.ownSlots.find? fun e => e.1 ∈ d.filledSlots with
  | none =>
      constructor
      · rintro ⟨⟩
      · rintro ⟨slot, ⟨⟩, -⟩
  | some e =>
      constructor
      · rintro ⟨⟩
        exact ⟨e.1, rfl, rfl⟩
      · rintro ⟨_, ⟨⟩, rfl⟩
        rfl

/-- A draft is rendered if no slot is filled both ways. -/
theorem render_eq_ok_iff {d : Draft} {slots : SlotMap} :
    d.render = .ok slots ↔
      (∀ slot ∈ ownNames, slot ∉ d.filledSlots) ∧
        slots = .ofEntries (d.directSlots ++ d.ownSlots) := by
  have hnone : ownNames.find? (· ∈ d.filledSlots) = none ↔
      ∀ slot ∈ ownNames, slot ∉ d.filledSlots := by
    simp only [List.find?_eq_none, decide_eq_true_eq]
  rw [← hnone, ← find?_ownSlots d, Option.map_eq_none_iff]
  unfold render
  cases d.ownSlots.find? fun e => e.1 ∈ d.filledSlots with
  | none => exact ⟨fun h => ⟨rfl, (Except.ok.inj h).symm⟩, fun h => congrArg Except.ok h.2.symm⟩
  | some e => exact ⟨nofun, nofun⟩

theorem program_eq_error_iff {calls : List Contribution} {b : Breach} :
    program calls = .error b ↔
      collect calls = .error b ∨ ∃ d, collect calls = .ok d ∧ d.render = .error b := by
  unfold program
  cases collect calls with
  | error b' =>
      constructor
      · rintro ⟨⟩
        exact Or.inl rfl
      · rintro (⟨⟨⟩⟩ | ⟨d, ⟨⟩, -⟩)
        rfl
  | ok d =>
      constructor
      · exact fun h => Or.inr ⟨d, rfl, h⟩
      · rintro (⟨⟨⟩⟩ | ⟨_, ⟨⟩, h⟩)
        exact h

theorem program_eq_ok_iff {calls : List Contribution} {slots : SlotMap} :
    program calls = .ok slots ↔ Unrepeated calls ∧ (ofCalls calls).render = .ok slots := by
  unfold program
  constructor
  · intro h
    cases hcollect : collect calls with
    | error b =>
        rw [hcollect] at h
        cases h
    | ok d =>
        obtain ⟨rfl, hun⟩ := collect_eq_ok_iff.1 hcollect
        rw [hcollect] at h
        exact ⟨hun, h⟩
  · rintro ⟨hun, h⟩
    rw [collect_eq_ok_iff.2 ⟨rfl, hun⟩]
    exact h

/-- Calls make no program if they repeat something or fill a slot which the program fills
itself. -/
theorem program_refused_iff {calls : List Contribution} :
    (∃ b, program calls = .error b) ↔
      ¬Unrepeated calls ∨ ∃ slot ∈ ownNames, slot ∈ PrinterFirmware.filledSlots calls := by
  constructor
  · rintro ⟨b, h⟩
    rcases program_eq_error_iff.1 h with h | ⟨d, hd, h⟩
    · refine Or.inl fun hun => ?_
      cases h.symm.trans (collect_eq_ok_iff.2 ⟨rfl, hun⟩)
    · obtain ⟨slot, hslot, -⟩ := render_eq_error_iff.1 h
      obtain ⟨rfl, -⟩ := collect_eq_ok_iff.1 hd
      rw [filledSlots_ofCalls] at hslot
      have hfilled := List.find?_some hslot
      rw [decide_eq_true_eq] at hfilled
      exact Or.inr ⟨slot, List.mem_of_find?_eq_some hslot, hfilled⟩
  · intro h
    cases hcollect : collect calls with
    | error b => exact ⟨b, program_eq_error_iff.2 (Or.inl hcollect)⟩
    | ok d =>
        obtain ⟨rfl, hun⟩ := collect_eq_ok_iff.1 hcollect
        obtain ⟨slot, hown, hfilled⟩ := h.resolve_left (not_not_intro hun)
        rw [← filledSlots_ofCalls] at hfilled
        have hsome : (ownNames.find? (· ∈ (ofCalls calls).filledSlots)).isSome :=
          List.find?_isSome.2 ⟨slot, hown, decide_eq_true hfilled⟩
        obtain ⟨first, hfirst⟩ := Option.isSome_iff_exists.1 hsome
        exact ⟨.slotTwice first, program_eq_error_iff.2
          (Or.inr ⟨_, hcollect, render_eq_error_iff.2 ⟨first, hfirst, rfl⟩⟩)⟩

/-- A slot of the program itself holds the text of what the calls contribute. -/
theorem get?_program {calls : List Contribution} {slots : SlotMap}
    (h : program calls = .ok slots) {slot text : String}
    (hslot : (slot, text) ∈ (ofCalls calls).ownSlots) : slots.get? slot = some text := by
  rw [(render_eq_ok_iff.1 (program_eq_ok_iff.1 h).2).2]
  exact get?_ownSlot (ofCalls calls) hslot

/-! ## §5. Declarations. -/

theorem constantDeclaration_line (declarator name value : String) :
    (Contribution.constantDeclaration declarator name value).line
      = declarator ++ " " ++ name ++ " = " ++ value ++ ";\n" := by
  unfold Declaration.line Contribution.constantDeclaration
  rw [← String.append_assoc, ← String.append_assoc]

theorem optionDeclaration_line (name dtype value : String) :
    (Contribution.optionDeclaration name dtype value).line
      = "APRINTER_CONFIG_OPTION_" ++ dtype ++ "(" ++ name ++ ", " ++ value
        ++ ", ConfigNoProperties)\n" := by
  unfold Declaration.line Contribution.optionDeclaration
  rw [← String.append_assoc, ← String.append_assoc]

theorem constantLine?_item (c : Contribution) :
    constantLine? c.item = (c.declarationIn? .constants).map Declaration.line := by
  cases c with
  | numberConstant | typeName | intConstant =>
      exact congrArg some (constantDeclaration_line _ _ _).symm
  | _ => rfl

theorem optionLine?_item (c : Contribution) :
    optionLine? c.item = (c.declarationIn? .options).map Declaration.line := by
  cases c with
  | option name dtype value =>
      exact congrArg some (optionDeclaration_line name dtype value).symm
  | numberOption name v =>
      exact congrArg some (optionDeclaration_line name "DOUBLE" v.scientific).symm
  | boolOption name b =>
      exact congrArg some (optionDeclaration_line name "BOOL" (TypeExpr.boolText b)).symm
  | _ => rfl

/-- The declaration of a resource. -/
def Resource.declaration (r : Resource) : Declaration :=
  Contribution.constantDeclaration "using" r.name (r.expr.render (.indented 0))

theorem Resource.declaration_line (r : Resource) : r.declaration.line = r.exprLine :=
  constantDeclaration_line "using" r.name _

theorem resource?_declaration (c : Contribution) :
    (resource? c.item).map (·.2.declaration) = c.declarationIn? .resources := by
  cases c <;> rfl

/-- The constants and type names stand in the order of their calls. -/
theorem constantLines_ofCalls (calls : List Contribution) :
    (ofCalls calls).items.filterMap constantLine?
      = (declarationsIn .constants calls).map Declaration.line := by
  unfold declarationsIn
  rw [List.map_filterMap, items_filterMap constantLine?_item]

/-- The options stand in the order of their calls. -/
theorem optionLines_ofCalls (calls : List Contribution) :
    (ofCalls calls).items.filterMap optionLine?
      = (declarationsIn .options calls).map Declaration.line := by
  unfold declarationsIn
  rw [List.map_filterMap, items_filterMap optionLine?_item]

theorem byPriority_perm {α : Type} (things : List (Int × α)) :
    (byPriority things).Perm (things.map (·.2)) := by
  unfold byPriority
  exact (List.mergeSort_perm things _).map (·.2)

/-- Each call which contributes a resource has its declaration among them. -/
theorem declarations_resources (calls : List Contribution) :
    ((ofCalls calls).resources.map Resource.declaration).Perm (declarationsIn .resources calls) := by
  have hcalls : (((ofCalls calls).items.filterMap resource?).map (·.2)).map Resource.declaration
      = declarationsIn .resources calls := by
    rw [List.map_map, List.map_filterMap]
    exact items_filterMap resource?_declaration calls
  rw [← hcalls]
  exact (byPriority_perm _).map Resource.declaration

theorem accumulator_of_declares {c : Contribution} {d : Declaration}
    (h : c.declaration? = some d) :
    c.accumulator = .constants ∨ c.accumulator = .options ∨ c.accumulator = .resources := by
  cases c with
  | numberConstant | typeName | intConstant => exact Or.inl rfl
  | option | numberOption | boolOption => exact Or.inr (Or.inl rfl)
  | resource => exact Or.inr (Or.inr rfl)
  | _ => cases h

/-- Each declaration is made in one accumulator. -/
theorem declarations_perm (calls : List Contribution) :
    (declarationsIn .constants calls ++ declarationsIn .options calls
      ++ declarationsIn .resources calls).Perm (calls.filterMap Contribution.declaration?) := by
  unfold declarationsIn
  induction calls with
  | nil => exact .nil
  | cons c rest ih =>
      simp only [List.filterMap_cons, Contribution.declarationIn?]
      cases hc : c.declaration? with
      | none =>
          simp only [ite_self]
          exact ih
      | some d =>
          -- The declaration moves to the front from the accumulator which it is made in.
          rcases accumulator_of_declares hc with h | h | h
          · simp only [h, ite_true, ite_false, reduceCtorEq]
            exact ih.cons d
          · simp only [h, ite_true, ite_false, reduceCtorEq, List.append_assoc]
            refine List.perm_middle.trans (.cons d ?_)
            rw [List.append_assoc] at ih
            exact ih
          · simp only [h, ite_true, ite_false, reduceCtorEq]
            exact List.perm_middle.trans (ih.cons d)

/-! ## §6. What makes no program, and what a program declares. -/

/-- Calls make no program exactly if a name is declared twice, a slot is filled directly
twice, or a slot of the program itself is filled directly.  The first call which repeats
something is refused, after all calls before it have been accepted; the last error shows
when the program is rendered.  Otherwise the declarations in the text of the program are
those of the calls, each once, and their names are different. -/
theorem program_declares (calls : List Contribution) :
    ((∃ b, program calls = .error b) ↔
      ¬(declaredNames calls).Nodup ∨ ¬(PrinterFirmware.filledSlots calls).Nodup ∨
        ∃ slot ∈ ownNames, slot ∈ PrinterFirmware.filledSlots calls) ∧
    (∀ b, program calls = .error b ↔
      (∃ before c after d, calls = before ++ c :: after ∧ collect before = .ok d ∧
        d.contribute c = .error b ∧ Refuses before c b) ∨
      (∃ d slot, collect calls = .ok d ∧ d.render = .error b ∧ b = .slotTwice slot ∧
        ownNames.find? (· ∈ PrinterFirmware.filledSlots calls) = some slot)) ∧
    ∀ slots, program calls = .ok slots →
      slots.get? "EXTRA_CONSTANTS"
        = some (lines ((declarationsIn .constants calls).map Declaration.line)) ∧
      slots.get? "ConfigOptions"
        = some (lines ((declarationsIn .options calls).map Declaration.line)) ∧
      ∃ resources : List Declaration,
        slots.get? "GlobalResourceExprs" = some (lines (resources.map Declaration.line)) ∧
        (declarationsIn .constants calls ++ declarationsIn .options calls ++ resources).Perm
          (calls.filterMap Contribution.declaration?) ∧
        ((declarationsIn .constants calls ++ declarationsIn .options calls ++ resources).map
          (·.name)).Nodup := by
  refine ⟨?_, ?_, ?_⟩
  · rw [program_refused_iff, not_unrepeated_iff, or_assoc]
  · intro b
    rw [program_eq_error_iff]
    refine or_congr (collect_stops_iff calls b) ?_
    constructor
    · rintro ⟨d, hd, hb⟩
      obtain ⟨slot, hslot, rfl⟩ := render_eq_error_iff.1 hb
      obtain ⟨rfl, -⟩ := collect_eq_ok_iff.1 hd
      rw [filledSlots_ofCalls] at hslot
      exact ⟨_, slot, hd, hb, rfl, hslot⟩
    · rintro ⟨d, -, hd, hb, -, -⟩
      exact ⟨d, hd, hb⟩
  · intro slots h
    have hresources := declarations_resources calls
    have hall := (hresources.append_left
      (declarationsIn .constants calls ++ declarationsIn .options calls)).trans
      (declarations_perm calls)
    refine ⟨?_, ?_, (ofCalls calls).resources.map Resource.declaration, ?_, hall, ?_⟩
    · rw [← constantLines_ofCalls]
      exact get?_program h (List.mem_of_getElem? (show _[1]? = _ from rfl))
    · rw [← optionLines_ofCalls]
      exact get?_program h (List.mem_of_getElem? (show _[2]? = _ from rfl))
    · rw [List.map_map, show Declaration.line ∘ Resource.declaration = Resource.exprLine from
        funext Resource.declaration_line]
      exact get?_program h (List.mem_of_getElem? (show _[7]? = _ from rfl))
    · rw [(hall.map (·.name)).nodup_iff, List.map_filterMap]
      exact (program_eq_ok_iff.1 h).1.names

end Draft
end PrinterFirmware
