/-
  PrinterFirmware.Proofs.Distinct
  ───────────────────────────────
  **A SYMBOL OF A COMPILED PROGRAM HAS ONE DECLARATION.**

  An item which would declare a symbol or fill a slot for the second time is refused.  So
  whatever a build does, its draft has been grown item by item: this is carried through every
  program which is built from the operations of a build, and through the finish.

      Grown              the items of a draft have been added one after another
      Grown.distinct     so no symbol of it is declared twice
      Composed.grown     a program leaves a grown draft, however it ends
      rendered_build     a whole build leaves a grown draft, which is rendered
      count_declared     a constant or an option is declared exactly once
-/
import Mathlib.Data.List.Nodup
import Mathlib.Data.List.Pairwise
import PrinterFirmware.Firmware
import PrinterFirmware.Proofs.Closing
import PrinterFirmware.Proofs.Contribution

namespace PrinterFirmware

open Document Build

variable {α β : Type} {w w' : Workspace}

/-! ## §1. Grown drafts. -/

/-- The name of a constant or of a second name of a type. -/
def Item.constantName? : Item → Option String
  | .constant _ name _ => some name
  | _ => none

/-- The name of an option. -/
def Item.optionName? : Item → Option String
  | .option name _ _ => some name
  | _ => none

namespace Draft

variable {d d' : Draft}

/-- The names which a draft declares as constants, in order. -/
def constants (d : Draft) : List String := d.items.filterMap Item.constantName?

/-- The names which a draft declares as options, in order. -/
def options (d : Draft) : List String := d.items.filterMap Item.optionName?

/-- A draft whose items have been added one after another, each beside those before it. -/
inductive Grown : Draft → Prop where
  | empty : Grown .empty
  | add {d d' : Draft} {item : Item} (hd : Grown d) (h : d.add item = .ok d') : Grown d'

/-- No symbol is declared twice. -/
def Distinct (d : Draft) : Prop := d.symbols.Nodup

/-- A grown draft is distinct, as a second declaration is refused. -/
theorem Grown.distinct (h : d.Grown) : d.Distinct := by
  induction h with
  | empty => exact List.nodup_nil
  | add _ h ih =>
      obtain ⟨rfl, hsymbol, -⟩ := add_eq_ok h
      exact nodup_filterMap_append_iff.2 ⟨ih, hsymbol⟩

/-- Nor is a slot filled directly twice. -/
theorem Grown.nodup_filledSlots (h : d.Grown) : d.filledSlots.Nodup := by
  induction h with
  | empty => exact List.nodup_nil
  | add _ h ih =>
      obtain ⟨rfl, -, hslot⟩ := add_eq_ok h
      exact nodup_filterMap_append_iff.2 ⟨ih, hslot⟩

/-- Every name is among the symbols at least as often as it is declared. -/
theorem count_le_symbols (d : Draft) (name : String) :
    (d.constants ++ d.options).count name ≤ d.symbols.count name := by
  rw [List.count_append]
  unfold constants options symbols
  induction d.items with
  | nil => exact Nat.le_refl 0
  | cons item rest ih =>
      cases item with
      | constant _ s _ =>
          simp only [List.filterMap_cons, Item.constantName?, Item.optionName?, Item.symbol?,
            List.count_cons]
          omega
      | option s _ _ =>
          simp only [List.filterMap_cons, Item.constantName?, Item.optionName?, Item.symbol?,
            List.count_cons]
          omega
      | resource _ s _ _ =>
          simp only [List.filterMap_cons, Item.constantName?, Item.optionName?, Item.symbol?,
            List.count_cons]
          omega
      | platformInclude _ => exact ih
      | frameworkInclude _ => exact ih
      | code _ _ => exact ih
      | initCall _ _ => exact ih
      | fill _ _ => exact ih

/-- **What is declared is declared exactly once.** -/
theorem Distinct.count_declared {name : String} (hd : d.Distinct)
    (h : name ∈ d.constants ++ d.options) : (d.constants ++ d.options).count name = 1 := by
  have hpos := List.count_pos_iff.2 h
  have hle := d.count_le_symbols name
  have hone := List.nodup_iff_count_le_one.1 hd name
  omega

/-- The resources of a program are those which have been contributed. -/
theorem mem_resources {r : Resource} :
    r ∈ d.resources ↔ ∃ priority, Item.resource priority r.name r.expr r.contextName ∈ d.items := by
  unfold resources byPriority
  rw [List.mem_map]
  constructor
  · rintro ⟨⟨priority, r'⟩, hmem, rfl⟩
    obtain ⟨item, hitem, hr⟩ := List.mem_filterMap.1 (List.mem_mergeSort.1 hmem)
    cases item <;> cases hr
    exact ⟨_, hitem⟩
  · rintro ⟨priority, hitem⟩
    exact ⟨(priority, r), List.mem_mergeSort.2 (List.mem_filterMap.2 ⟨_, hitem, rfl⟩), rfl⟩

/-- Two items which declare one symbol are the same item. -/
theorem Distinct.item_eq {a b : Item} {name : String} (hd : d.Distinct) (ha : a ∈ d.items)
    (hb : b ∈ d.items) (has : a.symbol? = some name) (hbs : b.symbol? = some name) : a = b := by
  have hpairs := List.pairwise_filterMap.1 hd
  have : Std.Symm fun a b : Item =>
      ∀ s, a.symbol? = some s → ∀ t, b.symbol? = some t → s ≠ t :=
    ⟨fun a b h s hs t ht heq => h t ht s hs heq.symm⟩
  by_cases heq : a = b
  · exact heq
  · exact absurd rfl (hpairs.forall ha hb heq name has name hbs)

/-- Resources of one name are the same. -/
theorem Distinct.resource_eq {r r' : Resource} (hd : d.Distinct) (h : r ∈ d.resources)
    (h' : r' ∈ d.resources) (hname : r.name = r'.name) : r = r' := by
  obtain ⟨p, hr⟩ := mem_resources.1 h
  obtain ⟨p', hr'⟩ := mem_resources.1 h'
  have hitem := hd.item_eq hr hr' rfl (by rw [hname]; rfl)
  cases r
  cases r'
  cases hitem
  rfl

end Draft

/-! ## §2. Programs. -/

theorem draft_addObjects (kind : Hardware) (nodes : List Cursor) (w : Workspace) :
    (after (addObjects kind nodes) w).draft = w.draft := by
  induction nodes generalizing w with
  | nil => rfl
  | cons node rest ih =>
      cases hname : node.string objectNameKey with
      | error e => rw [after_error (addObjects_unnamed hname w)]
      | ok name =>
          unfold after
          rw [addObjects_named hname w]
          by_cases hold : (lookUpObject w.objects kind name).isSome = true
          · rw [if_pos hold]
          · rw [if_neg hold]
            exact ih _

theorem draft_registerObjects (kind : Hardware) (nodes : List Cursor) (w : Workspace) :
    (after (registerObjects kind nodes) w).draft = w.draft := by
  cases hphase : w.phase with
  | finishing => rw [after_error (registerObjects_finishing hphase kind nodes)]
  | collecting =>
      unfold registerObjects
      rw [after_bind_ok (whileCollecting_ok .objects hphase)]
      exact draft_addObjects kind nodes w

theorem draft_registerFacility (f : Facility) (w : Workspace) :
    (after (registerFacility f) w).draft = w.draft := by
  cases hphase : w.phase with
  | finishing => rw [after_error (registerFacility_finishing hphase f)]
  | collecting =>
      by_cases hold : (w.facility? f.kind).isSome = true
      · rw [after_error (registerFacility_twice hphase hold)]
      · rw [after_ok (registerFacility_collecting hphase (Option.not_isSome_iff_eq_none.1 hold))]

theorem draft_defer (d : Deferred) (w : Workspace) : (after (defer d) w).draft = w.draft := by
  cases hphase : w.phase with
  | finishing => rw [after_error (defer_finishing hphase d)]
  | collecting => rw [after_ok (defer_collecting hphase d)]

theorem grown_emit (item : Item) (hw : w.draft.Grown) : (after (emit item) w).draft.Grown := by
  unfold after emit
  cases hadd : w.draft.add item with
  | error b => exact hw
  | ok d => exact hw.add hadd

/-- No operation of a build changes the draft, but by adding an item to it. -/
theorem keeps_grown : Keeps fun w => w.draft.Grown where
  item item _ hw := grown_emit item hw
  objects kind nodes w hw := by rwa [draft_registerObjects]
  facility f w hw := by rwa [draft_registerFacility]
  deferred d w hw := by rwa [draft_defer]
  held _ _ hw := hw
  letters _ _ hw := hw
  journal _ _ hw := hw

/-- **A program leaves a grown draft**, whether it succeeds or fails. -/
theorem Composed.grown {m : Build α} (h : Composed m) (hw : w.draft.Grown) :
    (after m w).draft.Grown :=
  h.keeps keeps_grown hw

/-! ## §3. Builds. -/

/-- A result of a program comes with a grown draft. -/
theorem Composed.grown_result {m : Build α} {a : α} (h : Composed m) (hw : w.draft.Grown)
    (hrun : m w = .ok a w') : w'.draft.Grown := by
  have hafter := h.grown hw
  rwa [after_ok hrun] at hafter

theorem composed_emitAll (items : List Item) : Composed (emitAll items) := by
  induction items with
  | nil => exact .pure ()
  | cons item rest ih => exact (Composed.item item).bind fun _ => ih

/-- The finish of a build leaves a grown draft, and its rendering. -/
theorem rendered_finish {slots : SlotMap} (hw : w.draft.Grown) (hrun : finish w = .ok slots w') :
    w'.draft.Grown ∧ w'.draft.render = .ok slots := by
  rw [finish_eq, course_iff] at hrun
  cases hrun with
  | @rendered _ w₁ _ hworks hhooks hrender =>
      have hclosing : w.closing.draft.Grown := hw
      have hworked : w₁.draft.Grown := by
        refine hworks.keeps keeps_grown ?_ hclosing
        intro a ha
        obtain ⟨d, -, rfl⟩ := List.mem_map.1 (List.mem_reverse.1 ha)
        exact composed_performWork d
      refine ⟨hhooks.keeps keeps_grown ?_ hworked, hrender⟩
      intro a ha
      obtain ⟨f, -, rfl⟩ := List.mem_map.1 ha
      exact composed_emitAll _

section Operations

attribute [local instance] Correspondence.equal

/-- **A build which has compiled a program leaves a grown draft**, and the slots of the program
are its rendering. -/
theorem rendered_build {document : Value} {name? : Option String} {c : Compiled}
    (h : build document name? .empty = .ok c w) :
    w.draft.Grown ∧ w.draft.render = .ok c.slots := by
  unfold build at h
  obtain ⟨⟨config, board⟩, w₀, hsections, h⟩ := bind_eq_ok h
  obtain ⟨parts, w₁, hsetUp, h⟩ := bind_eq_ok h
  obtain ⟨_, w₂, hprinter, h⟩ := bind_eq_ok h
  obtain ⟨slots, w₃, hfinish, h⟩ := bind_eq_ok h
  cases h
  have hself : ∀ c : Cursor, c.Alike c := fun c => ⟨rfl, rfl⟩
  have h₀ : w₀.draft.Grown := (Composed.read _).grown_result .empty hsections
  have h₁ : w₁.draft.Grown :=
    (parallel_setUp (hself board)).composed.grown_result h₀ hsetUp
  have h₂ : w₂.draft.Grown :=
    (parallel_printer ⟨hself _, rfl⟩ (hself config)).composed.grown_result h₁ hprinter
  exact rendered_finish h₂ hfinish

end Operations

end PrinterFirmware
