/-
  PrinterFirmware.Proofs.Rendering
  ────────────────────────────────
  **THE TEXT WHICH CALLS MAKE.**

  Every slot of a program which an emitter has finished is determined by the calls of one
  accumulator:

      constants, options, platform includes   the lines in the order of the calls
      framework includes                      the different paths, ascending by bytes
      code, init calls, resources             a stable sort by ascending priority

  The four slots of the resources list the same sort.  So calls may be reordered as long
  as each accumulator keeps its order, the framework includes and the directly filled
  slots not even that (`program_renders`).

  All of this is shown of the draft which records the calls; an emitter makes the program of
  its draft (`program_eq`), although it numbers the calls of three accumulators with one counter.
-/
import PrinterFirmware.Proofs.ByteOrder
import PrinterFirmware.Proofs.Emission

namespace PrinterFirmware

/-! ## §1. Stable sorts. -/

/-- The things in ascending order of their priorities, those of equal priority in the order
which they had. -/
structure StablySorted {α : Type} (things sorted : List (Int × α)) : Prop where
  perm : sorted.Perm things
  ascending : sorted.Pairwise fun a b => a.1 ≤ b.1
  stable : ∀ priority, sorted.filter (·.1 == priority) = things.filter (·.1 == priority)

theorem stablySorted_mergeSort {α : Type} (things : List (Int × α)) :
    StablySorted things (things.mergeSort fun a b => a.1 ≤ b.1) where
  perm := List.mergeSort_perm things _
  ascending := (List.pairwise_mergeSort Draft.priority_trans Draft.priority_total things).imp
    of_decide_eq_true
  stable _ := Draft.filter_sorted fun _ _ heq => beq_iff_eq.1 heq

/-! ## §2. What calls add to the accumulators. -/

namespace Contribution

/-- A piece of code and its priority; interrupts come before what has no priority. -/
def codePiece? : Contribution → Option (Int × String)
  | code priority text => some (priority, text)
  | interrupt text => some (-1, text)
  | _ => none

/-- An init call and its priority. -/
def initPiece? : Contribution → Option (Int × String)
  | initCall priority text => some (priority, text)
  | _ => none

/-- A resource and its priority. -/
def resourcePiece? : Contribution → Option (Int × Draft.Resource)
  | resource priority name expr contextName => some (priority, ⟨name, expr, contextName⟩)
  | _ => none

def platformPath? : Contribution → Option String
  | platformInclude path => some path
  | _ => none

theorem codeLine?_item (c : Contribution) :
    Draft.codeLine? c.item = c.codePiece?.map fun p => (p.1, p.2 ++ "\n") := by
  cases c <;> rfl

theorem initLine?_item (c : Contribution) :
    Draft.initLine? c.item = c.initPiece?.map fun p => (p.1, "    " ++ p.2 ++ "\n") := by
  cases c <;> rfl

theorem resource?_item (c : Contribution) :
    Draft.resource? c.item = c.resourcePiece?.map fun p => (p.1, id p.2) := by
  cases c <;> rfl

theorem platformLine?_item (c : Contribution) :
    Draft.platformLine? c.item = c.platformPath?.map fun path => "#include <" ++ path ++ ">\n" := by
  cases c <;> rfl

theorem frameworkPath?_item {c : Contribution} {path : String} :
    Draft.frameworkPath? c.item = some path ↔ c = .frameworkInclude path := by
  cases c with
  | frameworkInclude path' => exact ⟨by rintro ⟨⟩; rfl, by rintro ⟨⟩; rfl⟩
  | _ => exact ⟨nofun, nofun⟩

end Contribution

/-- The contributions to an accumulator, in order. -/
def contributions (a : Accumulator) (calls : List Contribution) : List Contribution :=
  calls.filter (·.accumulator = a)

/-! ## §3. Rendered programs. -/

/-- The slots hold the text of the calls. -/
structure Rendering (calls : List Contribution) (slots : SlotMap) : Prop where
  warning : slots.get? "GENERATED_WARNING" = some "WARNING: This file was automatically generated!"
  constants : slots.get? "EXTRA_CONSTANTS"
    = some (String.join ((declarationsIn .constants calls).map Declaration.line))
  options : slots.get? "ConfigOptions"
    = some (String.join ((declarationsIn .options calls).map Declaration.line))
  platformIncludes : slots.get? "PLATFORM_INCLUDES"
    = some (String.join ((calls.filterMap Contribution.platformPath?).map fun path =>
        "#include <" ++ path ++ ">\n"))
  frameworkIncludes : ∃ paths : List String,
    (paths.map ByteOrder.bytes).Pairwise (· < ·) ∧
    (∀ path, path ∈ paths ↔ .frameworkInclude path ∈ calls) ∧
    slots.get? "AprinterIncludes"
      = some (String.join (paths.map fun path => "#include <aprinter/" ++ path ++ ">\n"))
  code : ∃ sorted, StablySorted (calls.filterMap Contribution.codePiece?) sorted ∧
    slots.get? "GlobalCode" = some (String.join (sorted.map fun p => p.2 ++ "\n"))
  initCalls : ∃ sorted, StablySorted (calls.filterMap Contribution.initPiece?) sorted ∧
    slots.get? "InitCalls" = some (String.join (sorted.map fun p => "    " ++ p.2 ++ "\n"))
  resources : ∃ sorted, StablySorted (calls.filterMap Contribution.resourcePiece?) sorted ∧
    slots.get? "GlobalResourceExprs" = some (String.join (sorted.map fun r =>
      "using " ++ r.2.name ++ " = " ++ r.2.expr.render (.indented 0) ++ ";\n")) ∧
    slots.get? "GlobalResourceContextAliases" = some (String.join (sorted.filterMap fun r =>
      r.2.contextName.map fun contextName =>
        "    using " ++ contextName ++ " = " ++ r.2.name ++ ";\n")) ∧
    slots.get? "GlobalResourceProgramChildren"
      = some (String.join (sorted.map fun r => "    " ++ r.2.name ++ ",\n")) ∧
    slots.get? "GlobalResourceInit"
      = some (String.join (sorted.map fun r => "    " ++ r.2.name ++ "::init(c);\n"))
  filled : ∀ slot content, .fill slot content ∈ calls → slots.get? slot = some content.render
  others : ∀ slot, slot ∉ Draft.ownNames → slot ∉ filledSlots calls → slots.get? slot = none

namespace Draft

/-- The framework includes of a program are strictly ascending in their bytes. -/
theorem frameworkPaths_ascending (paths : List String) :
    ((Ascending.setOf paths).map ByteOrder.bytes).Pairwise (· < ·) :=
  List.pairwise_map.2 ((Ascending.pairwise_setOf paths).imp ByteOrder.bytes_lt)

theorem mem_frameworkPaths {calls : List Contribution} {path : String} :
    path ∈ Ascending.setOf ((ofCalls calls).items.filterMap frameworkPath?) ↔
      .frameworkInclude path ∈ calls := by
  rw [Ascending.mem_setOf, items_filterMap (fun _ => rfl) calls, List.mem_filterMap]
  constructor
  · rintro ⟨c, hc, hpath⟩
    exact Contribution.frameworkPath?_item.1 hpath ▸ hc
  · exact fun hc => ⟨_, hc, Contribution.frameworkPath?_item.2 rfl⟩

/-- What calls contribute by priority is stably sorted. -/
theorem byPriority_ofCalls {α β : Type} {thing? : Item → Option (Int × β)}
    {piece? : Contribution → Option (Int × α)} (text : α → β)
    (h : ∀ c, thing? c.item = (piece? c).map fun p => (p.1, text p.2))
    (calls : List Contribution) :
    ∃ sorted, StablySorted (calls.filterMap piece?) sorted ∧
      byPriority ((ofCalls calls).items.filterMap thing?) = sorted.map fun p => text p.2 := by
  refine ⟨_, stablySorted_mergeSort _, ?_⟩
  rw [items_filterMap h, ← List.map_filterMap, byPriority_map]
  unfold byPriority
  rw [List.map_map]
  rfl

/-- No slot of a finished program is filled twice. -/
theorem nodup_names {calls : List Contribution} {slots : SlotMap} (h : program calls = .ok slots) :
    (((ofCalls calls).directSlots ++ (ofCalls calls).ownSlots).map (·.1)).Nodup := by
  obtain ⟨hun, hrender⟩ := program_eq_ok_iff.1 h
  rw [List.map_append, directSlots_names, ownSlots_names, List.nodup_append, filledSlots_ofCalls]
  refine ⟨hun.slots, by decide, ?_⟩
  rintro slot hfilled _ hown rfl
  rw [← filledSlots_ofCalls] at hfilled
  exact (render_eq_ok_iff.1 hrender).1 slot hown hfilled

/-- A slot which calls fill directly. -/
theorem get?_filled {calls : List Contribution} {slots : SlotMap}
    (h : program calls = .ok slots) {slot : String} {content : SlotContent}
    (hc : .fill slot content ∈ calls) : slots.get? slot = some content.render := by
  have hdirect : (slot, content.render) ∈ (ofCalls calls).directSlots :=
    List.mem_filterMap.2 ⟨.fill slot content, List.mem_map_of_mem hc, rfl⟩
  rw [(render_eq_ok_iff.1 (program_eq_ok_iff.1 h).2).2]
  exact Ascending.lookup_mapOf_of_mem (nodup_names h) (List.mem_append_left _ hdirect)

/-- A slot which neither calls nor the program fill. -/
theorem get?_unfilled {calls : List Contribution} {slots : SlotMap}
    (h : program calls = .ok slots) {slot : String} (hown : slot ∉ ownNames)
    (hfilled : slot ∉ PrinterFirmware.filledSlots calls) : slots.get? slot = none := by
  rw [(render_eq_ok_iff.1 (program_eq_ok_iff.1 h).2).2]
  unfold SlotMap.get? SlotMap.ofEntries
  rw [Ascending.lookup_mapOf, Ascending.lookup_eq_none_iff, List.map_reverse, List.mem_reverse,
    List.map_append, directSlots_names, ownSlots_names, filledSlots_ofCalls, List.mem_append]
  exact not_or.2 ⟨hfilled, hown⟩

/-- The slots of a finished program hold the text of the calls. -/
theorem rendering_of_program {calls : List Contribution} {slots : SlotMap}
    (h : program calls = .ok slots) : Rendering calls slots where
  warning := get?_program h (List.mem_of_getElem? (show _[0]? = _ from rfl))
  constants := by
    rw [← constantLines_ofCalls]
    exact get?_program h (List.mem_of_getElem? (show _[1]? = _ from rfl))
  options := by
    rw [← optionLines_ofCalls]
    exact get?_program h (List.mem_of_getElem? (show _[2]? = _ from rfl))
  platformIncludes := by
    rw [List.map_filterMap, ← items_filterMap Contribution.platformLine?_item]
    exact get?_program h (List.mem_of_getElem? (show _[3]? = _ from rfl))
  frameworkIncludes := by
    refine ⟨_, frameworkPaths_ascending _, ?_,
      get?_program h (List.mem_of_getElem? (show _[4]? = _ from rfl))⟩
    exact fun path => mem_frameworkPaths
  code := by
    obtain ⟨sorted, hsorted, hcode⟩ :=
      byPriority_ofCalls (· ++ "\n") Contribution.codeLine?_item calls
    refine ⟨sorted, hsorted, ?_⟩
    rw [← hcode]
    exact get?_program h (List.mem_of_getElem? (show _[5]? = _ from rfl))
  initCalls := by
    obtain ⟨sorted, hsorted, hinit⟩ :=
      byPriority_ofCalls ("    " ++ · ++ "\n") Contribution.initLine?_item calls
    refine ⟨sorted, hsorted, ?_⟩
    rw [← hinit]
    exact get?_program h (List.mem_of_getElem? (show _[6]? = _ from rfl))
  resources := by
    obtain ⟨sorted, hsorted, hresources⟩ :=
      byPriority_ofCalls id Contribution.resource?_item calls
    have hmap : ∀ line : Resource → String,
        sorted.map (fun r => line r.2) = (ofCalls calls).resources.map line := by
      intro line
      unfold resources
      rw [hresources, List.map_map]
      rfl
    have hfilter : sorted.filterMap (fun r => r.2.contextLine?)
        = (ofCalls calls).resources.filterMap Resource.contextLine? := by
      unfold resources
      rw [hresources, List.filterMap_map]
      rfl
    -- One sorted list gives the lines of four slots.
    refine ⟨sorted, hsorted, ?_, ?_, ?_, ?_⟩
    · exact (get?_program h (List.mem_of_getElem? (show _[7]? = _ from rfl))).trans
        (congrArg (fun ls => some (String.join ls)) (hmap Resource.exprLine).symm)
    · exact (get?_program h (List.mem_of_getElem? (show _[8]? = _ from rfl))).trans
        (congrArg (fun ls => some (String.join ls)) hfilter.symm)
    · exact (get?_program h (List.mem_of_getElem? (show _[9]? = _ from rfl))).trans
        (congrArg (fun ls => some (String.join ls)) (hmap Resource.childLine).symm)
    · exact (get?_program h (List.mem_of_getElem? (show _[10]? = _ from rfl))).trans
        (congrArg (fun ls => some (String.join ls)) (hmap Resource.initLine).symm)
  filled _ _ hc := get?_filled h hc
  others _ hown hfilled := get?_unfilled h hown hfilled

end Draft

/-! ## §4. Calls in another order. -/

namespace Accumulator

/-- The slots which are put together from an accumulator. -/
def slots : Accumulator → List String
  | constants => ["EXTRA_CONSTANTS"]
  | options => ["ConfigOptions"]
  | platformIncludes => ["PLATFORM_INCLUDES"]
  | frameworkIncludes => ["AprinterIncludes"]
  | code => ["GlobalCode"]
  | initCalls => ["InitCalls"]
  | resources =>
      ["GlobalResourceExprs", "GlobalResourceContextAliases", "GlobalResourceProgramChildren",
       "GlobalResourceInit"]
  | substitutions => []

/-- The slots of an accumulator with their texts. -/
def texts (d : Draft) : Accumulator → List (String × String)
  | constants => [("EXTRA_CONSTANTS", Draft.lines (d.items.filterMap Draft.constantLine?))]
  | options => [("ConfigOptions", Draft.lines (d.items.filterMap Draft.optionLine?))]
  | platformIncludes =>
      [("PLATFORM_INCLUDES", Draft.lines (d.items.filterMap Draft.platformLine?))]
  | frameworkIncludes =>
      [("AprinterIncludes", Draft.lines
        ((Ascending.setOf (d.items.filterMap Draft.frameworkPath?)).map Draft.frameworkLine))]
  | code => [("GlobalCode", Draft.lines (Draft.byPriority (d.items.filterMap Draft.codeLine?)))]
  | initCalls =>
      [("InitCalls", Draft.lines (Draft.byPriority (d.items.filterMap Draft.initLine?)))]
  | resources =>
      [("GlobalResourceExprs", Draft.lines (d.resources.map Draft.Resource.exprLine)),
       ("GlobalResourceContextAliases",
          Draft.lines (d.resources.filterMap Draft.Resource.contextLine?)),
       ("GlobalResourceProgramChildren", Draft.lines (d.resources.map Draft.Resource.childLine)),
       ("GlobalResourceInit", Draft.lines (d.resources.map Draft.Resource.initLine))]
  | substitutions => []

/-- The accumulators which have slots of their own, in the order of these. -/
def rendered : List Accumulator :=
  [constants, options, platformIncludes, frameworkIncludes, code, initCalls, resources]

theorem texts_names (a : Accumulator) (d : Draft) : (a.texts d).map (·.1) = a.slots := by
  cases a <;> rfl

theorem ownSlots_eq (d : Draft) :
    d.ownSlots = ("GENERATED_WARNING", Draft.generatedWarning) :: rendered.flatMap (·.texts d) :=
  rfl

theorem texts_subset (a : Accumulator) (d : Draft) : a.texts d ⊆ d.ownSlots := by
  intro e he
  rw [ownSlots_eq]
  refine List.mem_cons_of_mem _ (List.mem_flatMap.2 ⟨a, ?_, he⟩)
  cases a with
  | substitutions => cases he
  | _ => decide

/-- Calls contribute the same to an accumulator: the same framework includes, however often;
the same directly filled slots; the same other things in the same order. -/
def Agrees (a : Accumulator) (calls calls' : List Contribution) : Prop :=
  match a with
  | frameworkIncludes => ∀ c, c ∈ contributions a calls ↔ c ∈ contributions a calls'
  | substitutions => (contributions a calls).Perm (contributions a calls')
  | _ => contributions a calls = contributions a calls'

end Accumulator

namespace Draft

variable {calls calls' : List Contribution}

/-- What is picked from one accumulator can be picked from its contributions. -/
theorem filterMap_contributions {β : Type} {a : Accumulator} {f : Contribution → Option β}
    (hf : ∀ c, c.accumulator ≠ a → f c = none) (calls : List Contribution) :
    (contributions a calls).filterMap f = calls.filterMap f := by
  unfold contributions
  rw [List.filterMap_filter]
  refine List.filterMap_congr fun c _ => ?_
  by_cases hc : c.accumulator = a
  · rw [if_pos (decide_eq_true hc)]
  · rw [if_neg (by rwa [decide_eq_true_eq]), hf c hc]

theorem declarationsIn_agree {a : Accumulator} (h : contributions a calls = contributions a calls') :
    declarationsIn a calls = declarationsIn a calls' := by
  have hother : ∀ c : Contribution, c.accumulator ≠ a → c.declarationIn? a = none :=
    fun _ hc => if_neg hc
  unfold declarationsIn
  rw [← filterMap_contributions hother calls, h, filterMap_contributions hother]

/-- What a draft holds of one accumulator comes from its contributions. -/
theorem items_agree {β : Type} {a : Accumulator} {f : Item → Option β}
    (hf : ∀ c : Contribution, c.accumulator ≠ a → f c.item = none)
    (h : contributions a calls = contributions a calls') :
    (ofCalls calls).items.filterMap f = (ofCalls calls').items.filterMap f := by
  rw [items_filterMap fun _ => rfl, items_filterMap fun _ => rfl,
    ← filterMap_contributions hf calls, h, filterMap_contributions hf]

theorem platformLines_agree (h : Accumulator.Agrees .platformIncludes calls calls') :
    (ofCalls calls).items.filterMap platformLine?
      = (ofCalls calls').items.filterMap platformLine? := by
  refine items_agree (fun c hc => ?_) h
  cases c with
  | platformInclude => exact absurd rfl hc
  | _ => rfl

theorem codeLines_agree (h : Accumulator.Agrees .code calls calls') :
    (ofCalls calls).items.filterMap codeLine? = (ofCalls calls').items.filterMap codeLine? := by
  refine items_agree (fun c hc => ?_) h
  cases c with
  | code | interrupt => exact absurd rfl hc
  | _ => rfl

theorem initLines_agree (h : Accumulator.Agrees .initCalls calls calls') :
    (ofCalls calls).items.filterMap initLine? = (ofCalls calls').items.filterMap initLine? := by
  refine items_agree (fun c hc => ?_) h
  cases c with
  | initCall => exact absurd rfl hc
  | _ => rfl

theorem resources_agree (h : Accumulator.Agrees .resources calls calls') :
    (ofCalls calls).resources = (ofCalls calls').resources := by
  refine congrArg byPriority (items_agree (fun c hc => ?_) h)
  cases c with
  | resource => exact absurd rfl hc
  | _ => rfl

theorem frameworkPaths_agree (h : Accumulator.Agrees .frameworkIncludes calls calls') :
    Ascending.setOf ((ofCalls calls).items.filterMap frameworkPath?)
      = Ascending.setOf ((ofCalls calls').items.filterMap frameworkPath?) := by
  have hcontributes : ∀ (path : String) (cs : List Contribution),
      .frameworkInclude path ∈ contributions .frameworkIncludes cs
        ↔ .frameworkInclude path ∈ cs := by
    intro path cs
    unfold contributions
    rw [List.mem_filter]
    exact and_iff_left (decide_eq_true rfl)
  -- Both sets are ascending, so their members decide.
  apply (Ascending.pairwise_setOf _).eq_of_mem_iff (Ascending.pairwise_setOf _)
  intro path
  rw [mem_frameworkPaths, mem_frameworkPaths, ← hcontributes path calls, h, hcontributes]

/-- The texts of an accumulator come from its contributions. -/
theorem texts_agree {a : Accumulator} (h : a.Agrees calls calls') :
    a.texts (ofCalls calls) = a.texts (ofCalls calls') := by
  cases a with
  | constants =>
      unfold Accumulator.texts
      rw [constantLines_ofCalls, declarationsIn_agree h, ← constantLines_ofCalls]
  | options =>
      unfold Accumulator.texts
      rw [optionLines_ofCalls, declarationsIn_agree h, ← optionLines_ofCalls]
  | platformIncludes =>
      unfold Accumulator.texts
      rw [platformLines_agree h]
  | frameworkIncludes =>
      unfold Accumulator.texts
      rw [frameworkPaths_agree h]
  | code =>
      unfold Accumulator.texts
      rw [codeLines_agree h]
  | initCalls =>
      unfold Accumulator.texts
      rw [initLines_agree h]
  | resources =>
      unfold Accumulator.texts
      rw [resources_agree h]
  | substitutions => rfl

/-- A slot depends only on the calls of its own accumulator. -/
theorem get?_agree {slots slots' : SlotMap} (h : program calls = .ok slots)
    (h' : program calls' = .ok slots') {a : Accumulator} (ha : a.Agrees calls calls')
    {slot : String} (hslot : slot ∈ a.slots) : slots.get? slot = slots'.get? slot := by
  rw [← a.texts_names (ofCalls calls)] at hslot
  obtain ⟨⟨slot, text⟩, htext, rfl⟩ := List.mem_map.1 hslot
  have htext' : (slot, text) ∈ a.texts (ofCalls calls') := texts_agree ha ▸ htext
  exact (get?_program h (a.texts_subset _ htext)).trans
    (get?_program h' (a.texts_subset _ htext')).symm

/-! ## §5. Calls which agree. -/

theorem declarations_agree (h : ∀ a : Accumulator, a.Agrees calls calls') :
    (calls.filterMap Contribution.declaration?).Perm (calls'.filterMap Contribution.declaration?) := by
  have hperm := declarations_perm calls
  rw [declarationsIn_agree (h .constants), declarationsIn_agree (h .options),
    declarationsIn_agree (h .resources)] at hperm
  exact hperm.symm.trans (declarations_perm calls')

/-- Slots are filled directly in any order. -/
theorem filled_agree {β : Type} {f : Contribution → Option β}
    (hf : ∀ c : Contribution, c.accumulator ≠ .substitutions → f c = none)
    (h : Accumulator.Agrees .substitutions calls calls') :
    (calls.filterMap f).Perm (calls'.filterMap f) := by
  rw [← filterMap_contributions hf calls, ← filterMap_contributions hf calls']
  exact h.filterMap f

theorem filledSlots_agree (h : Accumulator.Agrees .substitutions calls calls') :
    (PrinterFirmware.filledSlots calls).Perm (PrinterFirmware.filledSlots calls') := by
  refine filled_agree (fun c hc => ?_) h
  cases c with
  | fill => exact absurd rfl hc
  | _ => rfl

theorem directSlots_agree (h : Accumulator.Agrees .substitutions calls calls') :
    (ofCalls calls).directSlots.Perm (ofCalls calls').directSlots := by
  unfold directSlots
  rw [items_filterMap fun _ => rfl, items_filterMap fun _ => rfl]
  refine filled_agree (fun c hc => ?_) h
  cases c with
  | fill => exact absurd rfl hc
  | _ => rfl

/-- Calls which agree in all accumulators make the same program. -/
theorem program_agree {slots : SlotMap} (h : program calls = .ok slots)
    (hagree : ∀ a : Accumulator, a.Agrees calls calls') : program calls' = .ok slots := by
  obtain ⟨hun, hrender⟩ := program_eq_ok_iff.1 h
  obtain ⟨hown, rfl⟩ := render_eq_ok_iff.1 hrender
  have hfilled := filledSlots_agree (hagree .substitutions)
  have hnames : (declaredNames calls).Perm (declaredNames calls') := by
    unfold declaredNames Contribution.declaredName?
    rw [← List.map_filterMap, ← List.map_filterMap]
    exact (declarations_agree hagree).map (·.name)
  have howns : (ofCalls calls).ownSlots = (ofCalls calls').ownSlots := by
    rw [Accumulator.ownSlots_eq, Accumulator.ownSlots_eq]
    exact congrArg _ (List.flatMap_congr fun a _ => texts_agree (hagree a))
  refine program_eq_ok_iff.2 ⟨⟨hnames.nodup_iff.1 hun.names, hfilled.nodup_iff.1 hun.slots⟩, ?_⟩
  refine render_eq_ok_iff.2 ⟨?_, ?_⟩
  · intro slot hslot hmem
    rw [filledSlots_ofCalls, ← hfilled.mem_iff, ← filledSlots_ofCalls] at hmem
    exact hown slot hslot hmem
  · rw [← howns]
    exact congrArg SlotMap.mk (Ascending.mapOf_congr
      ((directSlots_agree (hagree .substitutions)).append_right _) (nodup_names h))

end Draft

/-- **Calls of an emitter which make a program make their text.**  The slots of an accumulator
depend on the calls of that accumulator alone; calls which agree in all accumulators make one
program. -/
theorem Emitter.program_renders {calls : List Contribution} {slots : SlotMap}
    (h : program calls = .ok slots) :
    Rendering calls slots ∧
    (∀ calls' slots', program calls' = .ok slots' → ∀ a : Accumulator, a.Agrees calls calls' →
      ∀ slot ∈ a.slots, slots.get? slot = slots'.get? slot) ∧
    ∀ calls', (∀ a : Accumulator, a.Agrees calls calls') → program calls' = .ok slots := by
  simp only [program_eq] at h ⊢
  refine ⟨Draft.rendering_of_program h, ?_, ?_⟩
  · exact fun _ _ h' _ hagree _ hslot => Draft.get?_agree h h' hagree hslot
  · exact fun _ hagree => Draft.program_agree h hagree

namespace Sample

/-- Calls of all kinds, with negative and equal priorities. -/
def calls : List Contribution :=
  [.code 5 "late", .initCall 1 "one", .resource 10 "A" (.text "a") none, .frameworkInclude "z.h",
    .code (-1) "early", .interrupt "isr", .resource (-3) "B" (.text "b") (some "C"),
    .boolOption "Flag" true, .frameworkInclude "a.h", .typeName "T" "int", .initCall 1 "two",
    .platformInclude "p.h", .fill "Extra" (.text "x"), .fill "Board" (.text "y")]

/-- The same calls with the accumulators one after another, and an include repeated. -/
def rearranged : List Contribution :=
  [.fill "Board" (.text "y"), .fill "Extra" (.text "x"), .typeName "T" "int",
    .boolOption "Flag" true, .platformInclude "p.h", .frameworkInclude "a.h",
    .frameworkInclude "z.h", .frameworkInclude "a.h", .initCall 1 "one", .initCall 1 "two",
    .code 5 "late", .code (-1) "early", .interrupt "isr",
    .resource 10 "A" (.text "a") none, .resource (-3) "B" (.text "b") (some "C")]

theorem rearranged_agrees (a : Accumulator) : a.Agrees calls rearranged := by
  cases a with
  | frameworkIncludes =>
      intro c
      show c ∈ [Contribution.frameworkInclude "z.h", .frameworkInclude "a.h"]
        ↔ c ∈ [Contribution.frameworkInclude "a.h", .frameworkInclude "z.h", .frameworkInclude "a.h"]
      simp only [List.mem_cons, List.not_mem_nil, or_false]
      tauto
  | substitutions => exact List.Perm.swap _ _ []
  | _ => rfl

end Sample

/-- Both sequences of calls make the same program. -/
theorem sample_renders : ∃ slots, Emitter.program Sample.calls = .ok slots
    ∧ Rendering Sample.calls slots ∧ Emitter.program Sample.rearranged = .ok slots := by
  cases hslots : Emitter.program Sample.calls with
  | error b =>
      have hok : (Emitter.program Sample.calls).isOk = true := by decide +kernel
      rw [hslots] at hok
      cases hok
  | ok slots =>
      obtain ⟨hrendering, -, hsame⟩ := Emitter.program_renders hslots
      exact ⟨slots, rfl, hrendering, hsame _ Sample.rearranged_agrees⟩

end PrinterFirmware
