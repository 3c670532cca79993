/-
  PrinterFirmware.Proofs.Reordered
  ────────────────────────────────
  **A LIST IN ANOTHER ORDER.**

  One list of a document is permuted, and nothing else is changed.  Whoever looks at the
  fields of the sections around it finds what had been there before; whoever goes through
  the list finds the same objects in another order, hence at other places.

      Value.PermutedAt     the list at a place of a document has been permuted
      Value.Reordered      so has one of the lists at some places, or none
      Cursor.Reordered     a section of a document, before and after
      Rearranged           the elements of a list, before and after
-/
import PrinterFirmware.Proofs.Ascending
import PrinterFirmware.Proofs.Place

namespace PrinterFirmware.Document

/-! ## §1. Values. -/

/-- The list to which the steps lead has been permuted, and nothing else has changed. -/
inductive Value.PermutedAt : List Step → Value → Value → Prop where
  | here {elems elems' : List Value} (h : elems.Perm elems') :
      PermutedAt [] (.list elems) (.list elems')
  | field {key : String} {steps : List Step} {before after : List (String × Value)} {v v' : Value}
      (hfirst : key ∉ before.map (·.1)) (h : PermutedAt steps v v') :
      PermutedAt (.key key :: steps) (.object (before ++ (key, v) :: after))
        (.object (before ++ (key, v') :: after))
  | element {steps : List Step} {before after : List Value} {v v' : Value}
      (h : PermutedAt steps v v') :
      PermutedAt (.index before.length :: steps) (.list (before ++ v :: after))
        (.list (before ++ v' :: after))

/-- The places which lie below the field `key`, seen from there. -/
def placesBelow (key : String) (places : List (List String)) : List (List String) :=
  places.filterMap fun
    | [] => none
    | k :: rest => if k = key then some rest else none

theorem mem_placesBelow {key : String} {keys : List String} {places : List (List String)} :
    keys ∈ placesBelow key places ↔ key :: keys ∈ places := by
  unfold placesBelow
  rw [List.mem_filterMap]
  constructor
  · rintro ⟨place, hplace, hkeys⟩
    cases place with
    | nil => cases hkeys
    | cons k rest =>
        obtain ⟨rfl, hrest⟩ := Option.ite_none_right_eq_some.1 hkeys
        cases hrest
        exact hplace
  · intro hplace
    exact ⟨_, hplace, if_pos rfl⟩

/-- One of the lists at `places` has been permuted, or nothing has changed at all. -/
def Value.Reordered (places : List (List String)) (v v' : Value) : Prop :=
  v = v' ∨ ∃ keys ∈ places, v.PermutedAt (keys.map .key) v'

namespace Value

variable {v v' : Value} {places : List (List String)} {key : String} {steps : List Step}

/-- Below its first step the changed field is changed in the same way. -/
theorem PermutedAt.field?_self (h : v.PermutedAt (.key key :: steps) v') :
    ∃ u u', v.field? key = some u ∧ v'.field? key = some u' ∧ u.PermutedAt steps u' := by
  cases h with
  | @field _ _ before after u u' hfirst h =>
      have hlookup : ∀ u, Value.field? (.object (before ++ (key, u) :: after)) key = some u := by
        intro u
        show (before ++ (key, u) :: after).lookup key = some u
        rw [List.lookup_append, Ascending.lookup_eq_none_iff.2 hfirst, List.lookup_cons_self]
        rfl
      exact ⟨u, u', hlookup u, hlookup u', h⟩

theorem PermutedAt.field?_other {other : String} (h : v.PermutedAt (.key key :: steps) v')
    (hother : other ≠ key) : v'.field? other = v.field? other := by
  cases h with
  | @field _ _ before after u u' hfirst h =>
      show (before ++ (key, u') :: after).lookup other = (before ++ (key, u) :: after).lookup other
      rw [List.lookup_append, List.lookup_append, List.lookup_cons, List.lookup_cons,
        beq_false_of_ne hother]

theorem Reordered.isObject (h : v.Reordered places v') : v'.isObject = v.isObject := by
  rcases h with rfl | ⟨keys, -, h⟩
  · rfl
  · cases keys with
    | nil => cases h; rfl
    | cons k rest => cases h; rfl

/-- The fields of a section are changed below their keys. -/
theorem Reordered.field? (h : v.Reordered places v') (key : String) :
    Option.Rel (Reordered (placesBelow key places)) (v.field? key) (v'.field? key) := by
  have hsame : ∀ o : Option Value, Option.Rel (Reordered (placesBelow key places)) o o := by
    intro o
    cases o with
    | none => exact .none
    | some u => exact .some (Or.inl rfl)
  rcases h with rfl | ⟨keys, hkeys, h⟩
  · exact hsame _
  · cases keys with
    | nil =>
        cases h
        exact .none
    | cons k rest =>
        by_cases hk : key = k
        · subst hk
          obtain ⟨u, u', hu, hu', h⟩ := h.field?_self
          rw [hu, hu']
          exact .some (Or.inr ⟨rest, mem_placesBelow.2 hkeys, h⟩)
        · rw [h.field?_other hk]
          exact hsame _

/-- A field with no places below its key is as it was. -/
theorem Reordered.field?_eq (h : v.Reordered places v') (hkey : placesBelow key places = []) :
    v'.field? key = v.field? key := by
  have hfield := h.field? key
  rw [hkey] at hfield
  revert hfield
  cases v.field? key <;> cases v'.field? key <;> intro hfield <;> cases hfield
  · rfl
  · next h =>
      rcases h with rfl | ⟨_, hnone, -⟩
      · rfl
      · cases hnone

theorem Reordered.list? {elems : List Value} (h : v.Reordered places v')
    (hv : v.list? = some elems) : ∃ elems', v'.list? = some elems' ∧ elems.Perm elems' := by
  rcases h with rfl | ⟨keys, -, h⟩
  · exact ⟨elems, hv, .refl _⟩
  · cases keys with
    | nil =>
        cases h with
        | here hperm =>
            cases hv
            exact ⟨_, rfl, hperm⟩
    | cons k rest =>
        cases h
        cases hv

end Value

/-! ## §2. Elements. -/

/-- The same values in another order, at any places. -/
def Rearranged (cs ds : List Cursor) : Prop := (cs.map (·.value)).Perm (ds.map (·.value))

/-! ## §3. Sections. -/

/-- A section of a document in which one of the lists at `places` may have been permuted. -/
structure Cursor.Reordered (places : List (List String)) (c d : Cursor) : Prop where
  value : c.value.Reordered places d.value
  path : d.path = c.path

namespace Cursor.Reordered

variable {places : List (List String)} {c d : Cursor}

/-- An object is entered as before. -/
theorem enter (h : c.Reordered places d) (key : String) {c' : Cursor} (hc : c.enter key = .ok c') :
    ∃ d', d.enter key = .ok d' ∧ c'.Reordered (placesBelow key places) d' := by
  obtain ⟨v, hv, hobject, rfl⟩ := enter_eq_ok.1 hc
  have hfield := h.value.field? key
  rw [hv] at hfield
  generalize hv' : d.value.field? key = o at hfield
  cases hfield with
  | @some _ v' hfield =>
      refine ⟨⟨v', d.keyPath key⟩, ?_, hfield, ?_⟩
      · exact enter_eq_ok.2 ⟨v', hv', hfield.isObject.trans hobject, rfl⟩
      · show d.path.key key = c.path.key key
        rw [h.path]

/-- The objects of a list are found as before, in another order. -/
theorem objects (h : c.Reordered places d) (key : String) (min max : Nat) {cs : List Cursor}
    (hc : c.objects key min max = .ok cs) :
    ∃ ds, d.objects key min max = .ok ds ∧ Rearranged cs ds := by
  obtain ⟨elems, helems, hcount, hobjects, rfl⟩ := objects_eq_ok.1 hc
  obtain ⟨v, hv, helems⟩ := Option.bind_eq_some_iff.1 (fieldAs_eq_ok.1 helems)
  have hfield := h.value.field? key
  rw [hv] at hfield
  generalize hv' : d.value.field? key = o at hfield
  cases hfield with
  | @some _ v' hfield =>
      obtain ⟨elems', helems', hperm⟩ := hfield.list? helems
      refine ⟨d.elementsOf key elems', ?_, ?_⟩
      · refine objects_eq_ok.2 ⟨elems', fieldAs_eq_ok.2 ?_, ?_, ?_, rfl⟩
        · rw [hv']
          exact helems'
        · rwa [← hperm.length_eq]
        · exact fun e he => hobjects e (hperm.mem_iff.2 he)
      · unfold Rearranged
        rwa [map_value_elementsOf, map_value_elementsOf]

end Cursor.Reordered

/-! ## §4. Fields which are as they were. -/

/-- Two sections at one place which agree on the field `key`. -/
structure Cursor.SameAt (key : String) (c d : Cursor) : Prop where
  field : d.value.field? key = c.value.field? key
  path : d.path = c.path

namespace Cursor.SameAt

variable {α σ : Type} {c d : Cursor} {key : String}

theorem rejectAt_eq (h : SameAt key c d) (v : Violation) :
    (d.rejectAt key v : Reading α) = c.rejectAt key v := by
  unfold rejectAt keyPath
  rw [h.path]

theorem fieldAs_eq (h : SameAt key c d) (shape : Shape) (view : Value → Option α) :
    d.fieldAs key shape view = c.fieldAs key shape view := by
  unfold fieldAs Cursor.field
  rw [h.field]
  simp only [h.rejectAt_eq]

theorem string_eq (h : SameAt key c d) : d.string key = c.string key := h.fieldAs_eq _ _

theorem intConstant_eq (h : SameAt key c d) : d.intConstant key = c.intConstant key := by
  unfold intConstant int
  rw [h.fieldAs_eq]

theorem has_eq (h : SameAt key c d) : d.has key = c.has key := by
  unfold has
  rw [h.field]

theorem strings_eq (h : SameAt key c d) (min max : Nat) :
    d.strings key min max = c.strings key min max := by
  unfold strings listBetween elementsOf keyPath
  rw [h.fieldAs_eq, h.path]
  simp only [h.rejectAt_eq]

theorem find_eq (h : SameAt key c d) (field value : String) :
    d.find key field value = c.find key field value := by
  unfold find elementsOf keyPath
  rw [h.fieldAs_eq, h.path]
  simp only [h.rejectAt_eq]

theorem enter_eq (h : SameAt key c d) : d.enter key = c.enter key := by
  unfold enter keyPath
  rw [h.field, h.path]
  simp only [h.rejectAt_eq]

theorem choose_eq (h : SameAt key c d) (clauses : List (Clause σ α)) :
    d.choose key clauses = c.choose key clauses := by
  unfold choose
  rw [h.enter_eq]

end Cursor.SameAt

/-- A field with no places below its key is as it was. -/
theorem Cursor.Reordered.sameAt {places : List (List String)} {c d : Cursor} {key : String}
    (h : c.Reordered places d) (hkey : placesBelow key places = []) : SameAt key c d :=
  ⟨h.value.field?_eq hkey, h.path⟩

end PrinterFirmware.Document
