/-
  PrinterFirmware.Proofs.Reached
  ──────────────────────────────
  **LOOKS FROM ANY PLACE WHICH CAN BE REACHED.**

  A cursor is reached from the root of a document by entering objects, by going
  through lists of objects and by finding elements by name, in any order and with
  any keys.  Its path and its value are built by different functions, and still
  belong together:

      Reached.placed        the path of a reached cursor leads to its value
      objects_placed_iff    a list gives one cursor for each element, in order
      find_least_iff        the element which is found is the first one of its name

  A failure names the field which was asked for.  Only in lists whose elements are
  checked one by one can it name an element, which is then the first bad one, and
  only after the number of elements has been accepted:

      Look.blames           looks which fail as a whole
      ListFault             what a list of checked elements is rejected for

  Main result: `reached_faithful`.
-/
import Mathlib.Order.Bounds.Defs
import PrinterFirmware.Proofs.Place

namespace PrinterFirmware.Document

/-! ## §1. Cursors which are reached. -/

/-- Cursors to which steps lead that all succeed, from the root of a document. -/
inductive Cursor.Reached (document : Value) : Cursor → Prop where
  | root : Reached document (root document)
  | enter {c e : Cursor} {key : String} (h : Reached document c) (he : c.enter key = .ok e) :
      Reached document e
  | element {c e : Cursor} {nodes : List Cursor} {key : String} {min max : Nat}
      (h : Reached document c) (hnodes : c.objects key min max = .ok nodes) (he : e ∈ nodes) :
      Reached document e
  | find {c e : Cursor} {key field value : String} (h : Reached document c)
      (he : c.find key field value = .ok e) : Reached document e

/-- **The path of a reached cursor leads to its value.** -/
theorem Cursor.Reached.placed {document : Value} {c : Cursor} (h : c.Reached document) :
    c.At document := by
  induction h with
  | root => exact at_root document
  | enter h he ih => exact ((ih.honest_enter _).value _ he).placed
  | element h hnodes he ih =>
      have hall := (ih.honest_objects _ _ _).value _ hnodes
      exact (hall.2 _ he).placed
  | find h he ih => exact ((ih.honest_find _ _ _).value _ he).placed

/-! ## §2. What lists give. -/

namespace Cursor

variable {c e : Cursor} {key field value : String} {min max : Nat}

theorem list?_field_iff {elems : List Value} :
    (c.value.field? key).bind Value.list? = some elems
      ↔ c.value.field? key = some (.list elems) := by
  cases hv : c.value.field? key with
  | none => simp
  | some v => cases v <;> simp [Value.list?]

/-- The `i`-th element of the list at `key`, at its place. -/
def elementAt (c : Cursor) (key : String) (i : Nat) (v : Value) : Cursor :=
  ⟨v, (c.keyPath key).index i⟩

theorem getElem?_elementsOf (c : Cursor) (key : String) (elems : List Value) (i : Nat) :
    (c.elementsOf key elems)[i]? = elems[i]?.map (c.elementAt key i) := by
  unfold elementsOf
  rw [List.getElem?_map, List.getElem?_zipIdx, Option.map_map, Nat.zero_add]
  rfl

/-- A list of objects gives one cursor for each element, in order, and the `i`-th one ends in
index `i`. -/
theorem objects_placed_iff {nodes : List Cursor} :
    c.objects key min max = .ok nodes ↔ ∃ elems, c.value.field? key = some (.list elems)
      ∧ (min ≤ elems.length ∧ elems.length ≤ max) ∧ (∀ v ∈ elems, v.isObject = true)
      ∧ ∀ i : Nat, nodes[i]? = elems[i]?.map (c.elementAt key i) := by
  rw [objects_eq_ok]
  refine exists_congr fun elems => ?_
  have hnodes : nodes = c.elementsOf key elems
      ↔ ∀ i : Nat, nodes[i]? = elems[i]?.map (c.elementAt key i) := by
    rw [List.ext_getElem?_iff]
    simp only [getElem?_elementsOf]
  rw [fieldAs_eq_ok, list?_field_iff, hnodes]

/-- The elements of a list which have a name. -/
def namedAt (elems : List Value) (field value : String) : Set Nat :=
  { i | ∃ v, elems[i]? = some v ∧ v.field? field = some (.string value) }

/-- The element which is found is the first one whose field holds the string. -/
theorem find_least_iff :
    c.find key field value = .ok e ↔ ∃ elems i v, c.value.field? key = some (.list elems)
      ∧ IsLeast (namedAt elems field value) i ∧ elems[i]? = some v ∧ e = c.elementAt key i v := by
  rw [find_eq_ok]
  constructor
  · intro hfound
    obtain ⟨before, v, after, hlist, he, hv, hfirst⟩ := hfound
    have hat : (before ++ v :: after)[before.length]? = some v := by simp
    refine ⟨_, before.length, v, list?_field_iff.1 hlist, ⟨⟨v, hat, hv⟩, ?_⟩, hat, he⟩
    intro j hj
    obtain ⟨u, hu, hnamed⟩ := hj
    apply Nat.le_of_not_lt
    intro hlt
    rw [List.getElem?_append_left hlt] at hu
    exact hfirst u (List.mem_of_getElem? hu) hnamed
  · intro hleast
    obtain ⟨elems, i, v, hlist, ⟨⟨w, hw, hnamed⟩, hmin⟩, hv, he⟩ := hleast
    obtain rfl : w = v := Option.some.inj (hw.symm.trans hv)
    obtain ⟨hlt, hget⟩ := List.getElem?_eq_some_iff.1 hv
    -- The list is split at the index, and what stands before it has smaller indices.
    have hsplit : elems.take i ++ w :: elems.drop (i + 1) = elems := by
      rw [← hget, List.getElem_cons_drop, List.take_append_drop]
    have hlength : (elems.take i).length = i := by
      rw [List.length_take]
      omega
    refine ⟨elems.take i, w, elems.drop (i + 1), ?_, ?_, hnamed, ?_⟩
    · rw [hsplit]
      exact list?_field_iff.2 hlist
    · rw [hlength]
      exact he
    · intro u hu hother
      obtain ⟨j, hj⟩ := List.mem_iff_getElem?.1 hu
      have hji : j < i := by
        have := (List.getElem?_eq_some_iff.1 hj).1
        omega
      rw [List.getElem?_take_of_lt hji] at hj
      have hle : i ≤ j := hmin ⟨u, hj, hother⟩
      omega

end Cursor

/-! ## §3. Looks which fail as a whole. -/

/-- All failures of a look concern the place `p`. -/
def Blames {α : Type} (p : Path) (r : Reading α) : Prop := ∀ e, r = .error e → e.path = p

section Blames

variable {α β : Type} {p : Path} {r : Reading α} {f : α → Reading β}

theorem blames_ok (a : α) : Blames p (.ok a) := by
  intro e he
  cases he

theorem blames_rejectAt (c : Cursor) (key : String) (v : Violation) :
    Blames (c.keyPath key) (c.rejectAt key v : Reading α) := by
  intro e he
  cases he
  rfl

theorem Blames.bind (h : Blames p r) (k : ∀ a, Blames p (f a)) : Blames p (r >>= f) := by
  cases hr : r with
  | ok a => exact k a
  | error e =>
      intro e' he'
      cases he'
      exact h e hr

theorem blames_ite {r' : Reading α} {P : Prop} [Decidable P] (h : Blames p r) (h' : Blames p r') :
    Blames p (if P then r else r') := by
  split
  · exact h
  · exact h'

end Blames

/-- The looks at a field which fail as a whole. -/
inductive Look : Type → Type where
  | string : Look String
  | int : Look Int
  | number : Look Binary64
  | bool : Look Bool
  | identifier : Look String
  | identifierWhere (valid : String → Bool) : Look String
  | letter : Look Char
  | intConstant : Look String
  | boolConstant : Look String
  | numberConstant : Look String
  | list (min max : Nat) : Look (List Value)
  | enter : Look Cursor
  | find (field value : String) : Look Cursor

/-- Takes a look at the field `key`. -/
def Look.take {α : Type} (c : Cursor) (key : String) : Look α → Reading α
  | .string => c.string key
  | .int => c.int key
  | .number => c.number key
  | .bool => c.bool key
  | .identifier => c.identifier key
  | .identifierWhere valid => c.identifierWhere key valid
  | .letter => c.letter key
  | .intConstant => c.intConstant key
  | .boolConstant => c.boolConstant key
  | .numberConstant => c.numberConstant key
  | .list min max => c.listBetween key min max
  | .enter => c.enter key
  | .find field value => c.find key field value

namespace Cursor

variable {α : Type} (c : Cursor) (key : String)

theorem blames_fieldAs (shape : Shape) (view : Value → Option α) :
    Blames (c.keyPath key) (c.fieldAs key shape view) := by
  have hfield : Blames (c.keyPath key) (c.field key) := by
    unfold field
    cases c.value.field? key with
    | some v => exact blames_ok v
    | none => exact blames_rejectAt c key _
  apply hfield.bind
  intro v
  cases view v with
  | some a => exact blames_ok a
  | none => exact blames_rejectAt c key _

theorem blames_identifierWhere (valid : String → Bool) :
    Blames (c.keyPath key) (c.identifierWhere key valid) := by
  apply (c.blames_fieldAs key .string Value.string?).bind
  intro s
  apply blames_ite (blames_rejectAt c key _)
  exact blames_ite (blames_rejectAt c key _) (blames_ok s)

theorem blames_letter : Blames (c.keyPath key) (c.letter key) := by
  apply (c.blames_fieldAs key .string Value.string?).bind
  intro s
  cases Naming.letter? s with
  | some l => exact blames_ok l
  | none => exact blames_rejectAt c key _

theorem blames_listBetween (min max : Nat) :
    Blames (c.keyPath key) (c.listBetween key min max) := by
  apply (c.blames_fieldAs key .list Value.list?).bind
  intro elems
  exact blames_ite (blames_rejectAt c key _) (blames_ok elems)

theorem blames_enter : Blames (c.keyPath key) (c.enter key) := by
  unfold enter
  cases c.value.field? key with
  | some v => exact blames_ite (blames_ok _) (blames_rejectAt c key _)
  | none => exact blames_rejectAt c key _

theorem blames_find (field value : String) :
    Blames (c.keyPath key) (c.find key field value) := by
  apply (c.blames_fieldAs key .list Value.list?).bind
  intro elems
  cases (c.elementsOf key elems).find? (·.isNamed field value) with
  | some e => exact blames_ok e
  | none => exact blames_rejectAt c key _

end Cursor

/-- **A look which fails as a whole names its field.** -/
theorem Look.blames {α : Type} (l : Look α) (c : Cursor) (key : String) :
    Blames (c.keyPath key) (l.take c key) := by
  cases l with
  | string | int | number | bool => exact c.blames_fieldAs key _ _
  | identifier => exact c.blames_identifierWhere key _
  | identifierWhere valid => exact c.blames_identifierWhere key valid
  | letter => exact c.blames_letter key
  | intConstant => exact (c.blames_fieldAs key _ _).bind fun _ => blames_ok _
  | boolConstant => exact (c.blames_fieldAs key _ _).bind fun _ => blames_ok _
  | numberConstant => exact (c.blames_fieldAs key _ _).bind fun _ => blames_ok _
  | list min max => exact c.blames_listBetween key min max
  | enter => exact c.blames_enter key
  | find field value => exact c.blames_find key field value

/-! ## §4. Lists of checked elements. -/

/-- What the list at `key` is rejected for, if it has to hold between `min` and `max` elements
which are all `good`: there is no list, or it has the wrong number of elements, or else for its
first bad element. -/
inductive ListFault (c : Cursor) (key : String) (min max : Nat) (good : Value → Bool)
    (flaw : Violation) : Located → Prop where
  | missing (h : c.value.field? key = none) :
      ListFault c key min max good flaw ⟨c.keyPath key, .missingField⟩
  | unlisted {v : Value} (h : c.value.field? key = some v) (hv : v.list? = none) :
      ListFault c key min max good flaw ⟨c.keyPath key, .wrongShape .list⟩
  | count {elems : List Value} (h : c.value.field? key = some (.list elems))
      (hcount : elems.length < min ∨ max < elems.length) :
      ListFault c key min max good flaw ⟨c.keyPath key, .countOutOfRange elems.length min max⟩
  | element {elems : List Value} {i : Nat} {v : Value}
      (h : c.value.field? key = some (.list elems))
      (hcount : min ≤ elems.length ∧ elems.length ≤ max) (hi : elems[i]? = some v)
      (hbad : good v = false) (hfirst : ∀ j < i, ∀ u, elems[j]? = some u → good u = true) :
      ListFault c key min max good flaw ⟨(c.keyPath key).index i, flaw⟩

/-- A look at every element of a list fails with the first look which does. -/
theorem mapM_eq_error_iff {α β : Type} {g : α → Reading β} {xs : List α} {e : Located} :
    xs.mapM g = .error e ↔ ∃ (i : Nat) (x : α), xs[i]? = some x ∧ g x = .error e
      ∧ ∀ j < i, ∀ y, xs[j]? = some y → ∃ b, g y = .ok b := by
  induction xs with
  | nil =>
      constructor
      · intro h
        cases h
      · intro h
        obtain ⟨i, x, hx, -⟩ := h
        cases hx
  | cons x rest ih =>
      rw [List.mapM_cons]
      cases hx : g x with
      | error e' =>
          -- Every later element comes after this one, which fails.
          constructor
          · intro h
            cases h
            exact ⟨0, x, rfl, hx, fun j hj => absurd hj (Nat.not_lt_zero j)⟩
          · intro h
            obtain ⟨i, y, hy, hfail, hfirst⟩ := h
            cases i with
            | zero =>
                obtain rfl : x = y := Option.some.inj hy
                rw [hx] at hfail
                cases hfail
                rfl
            | succ i =>
                obtain ⟨b, hb⟩ := hfirst 0 (Nat.succ_pos i) x rfl
                rw [hx] at hb
                cases hb
      | ok b =>
          have hrest : (do let a ← Except.ok b; let as ← rest.mapM g; pure (a :: as)) = .error e
              ↔ rest.mapM g = .error e := by
            cases rest.mapM g with
            | ok bs => exact ⟨fun h => (nomatch h), fun h => nomatch h⟩
            | error e' => exact Iff.of_eq rfl
          rw [hrest, ih]
          constructor
          · intro h
            obtain ⟨i, y, hy, hfail, hfirst⟩ := h
            refine ⟨i + 1, y, hy, hfail, ?_⟩
            intro j hj z hz
            cases j with
            | zero =>
                obtain rfl : x = z := Option.some.inj hz
                exact ⟨b, hx⟩
            | succ j => exact hfirst j (by omega) z hz
          · intro h
            obtain ⟨i, y, hy, hfail, hfirst⟩ := h
            cases i with
            | zero =>
                obtain rfl : x = y := Option.some.inj hy
                rw [hx] at hfail
                cases hfail
            | succ i => exact ⟨i, y, hy, hfail, fun j hj => hfirst (j + 1) (by omega)⟩

namespace Cursor

variable {α : Type} {c : Cursor} {key : String} {min max : Nat} {e : Located}

theorem listBetween_missing (h : c.value.field? key = none) :
    c.listBetween key min max = c.rejectAt key .missingField := by
  unfold listBetween fieldAs field
  rw [h]
  rfl

theorem listBetween_unlisted {v : Value} (h : c.value.field? key = some v) (hv : v.list? = none) :
    c.listBetween key min max = c.rejectAt key (.wrongShape .list) := by
  unfold listBetween fieldAs field
  rw [h]
  simp only [bind, Except.bind, hv]
  rfl

theorem listBetween_list {elems : List Value} (h : c.value.field? key = some (.list elems)) :
    c.listBetween key min max
      = if elems.length < min ∨ max < elems.length then
          c.rejectAt key (.countOutOfRange elems.length min max)
        else .ok elems := by
  unfold listBetween
  rw [fieldAs_eq_ok.2 (list?_field_iff.2 h)]
  rfl

section Checked

variable {good : Value → Bool} {flaw : Violation} {check : Cursor → Reading α}

/-- The elements of a list are checked in order, and the first bad one is reported. -/
theorem mapM_elementsOf_eq_error_iff {elems : List Value}
    (hgood : ∀ e : Cursor, good e.value = true → ∃ a, check e = .ok a)
    (hbad : ∀ e : Cursor, good e.value = false → check e = e.reject flaw) :
    (c.elementsOf key elems).mapM check = .error e ↔ ∃ (i : Nat) (v : Value), elems[i]? = some v
      ∧ good v = false ∧ (∀ j < i, ∀ u, elems[j]? = some u → good u = true)
      ∧ e = ⟨(c.keyPath key).index i, flaw⟩ := by
  rw [mapM_eq_error_iff]
  constructor
  · intro h
    obtain ⟨i, d, hd, hfail, hfirst⟩ := h
    rw [getElem?_elementsOf] at hd
    obtain ⟨v, hv, rfl⟩ := Option.map_eq_some_iff.1 hd
    have hflaw : good v = false := by
      cases hg : good v with
      | false => rfl
      | true =>
          obtain ⟨a, ha⟩ := hgood (c.elementAt key i v) hg
          rw [ha] at hfail
          cases hfail
    refine ⟨i, v, hv, hflaw, ?_, ?_⟩
    · intro j hj u hu
      obtain ⟨b, hb⟩ := hfirst j hj (c.elementAt key j u) (by rw [getElem?_elementsOf, hu]; rfl)
      cases hg : good u with
      | true => rfl
      | false =>
          rw [hbad (c.elementAt key j u) hg] at hb
          cases hb
    · rw [hbad (c.elementAt key i v) hflaw] at hfail
      cases hfail
      rfl
  · intro h
    obtain ⟨i, v, hv, hflaw, hfirst, rfl⟩ := h
    refine ⟨i, c.elementAt key i v, by rw [getElem?_elementsOf, hv]; rfl, hbad _ hflaw, ?_⟩
    intro j hj d hd
    rw [getElem?_elementsOf] at hd
    obtain ⟨u, hu, rfl⟩ := Option.map_eq_some_iff.1 hd
    exact hgood _ (hfirst j hj u hu)

/-- **A list of checked elements is rejected for its fault**, and its number of elements comes
before any of them. -/
theorem checkedList_eq_error_iff
    (hgood : ∀ e : Cursor, good e.value = true → ∃ a, check e = .ok a)
    (hbad : ∀ e : Cursor, good e.value = false → check e = e.reject flaw) :
    (do let elems ← c.listBetween key min max; (c.elementsOf key elems).mapM check) = .error e
      ↔ ListFault c key min max good flaw e := by
  constructor
  · intro h
    -- The checks are made in the order of the faults.
    cases hv : c.value.field? key with
    | none =>
        rw [listBetween_missing hv] at h
        cases h
        exact .missing hv
    | some v =>
        cases hl : v.list? with
        | none =>
            rw [listBetween_unlisted hv hl] at h
            cases h
            exact .unlisted hv hl
        | some elems =>
            have hlist : c.value.field? key = some (.list elems) := by
              rw [← list?_field_iff, hv]
              exact hl
            rw [listBetween_list hlist] at h
            by_cases hcount : elems.length < min ∨ max < elems.length
            · rw [if_pos hcount] at h
              cases h
              exact .count hlist hcount
            · rw [if_neg hcount] at h
              obtain ⟨i, u, hi, hflaw, hfirst, rfl⟩ :=
                (mapM_elementsOf_eq_error_iff hgood hbad).1 h
              exact .element hlist (by omega) hi hflaw hfirst
  · intro h
    cases h with
    | missing hv =>
        rw [listBetween_missing hv]
        rfl
    | unlisted hv hl =>
        rw [listBetween_unlisted hv hl]
        rfl
    | count hlist hcount =>
        rw [listBetween_list hlist, if_pos hcount]
        rfl
    | element hlist hcount hi hflaw hfirst =>
        rw [listBetween_list hlist, if_neg (by omega)]
        exact (mapM_elementsOf_eq_error_iff hgood hbad).2 ⟨_, _, hi, hflaw, hfirst, rfl⟩

end Checked

/-- Strings are rejected for the first element which is not a string. -/
theorem strings_eq_error_iff :
    c.strings key min max = .error e
      ↔ ListFault c key min max (·.string?.isSome) (.wrongShape .string) e := by
  apply checkedList_eq_error_iff
  · intro d hd
    obtain ⟨s, hs⟩ := Option.isSome_iff_exists.1 hd
    exact ⟨s, by rw [hs]⟩
  · intro d hd
    rw [Option.isSome_eq_false_iff, Option.isNone_iff_eq_none] at hd
    rw [hd]

/-- Objects are rejected for the first element which is not an object. -/
theorem objects_eq_error_iff :
    c.objects key min max = .error e ↔ ListFault c key min max (·.isObject) .notAnObject e := by
  apply checkedList_eq_error_iff
  · intro d hd
    exact ⟨d, if_pos hd⟩
  · intro d hd
    exact if_neg (by simp [hd])

end Cursor

/-! ## §5. All looks of a reached cursor. -/

/-- What a cursor shows of the document, and what its looks report. -/
structure Cursor.Faithful (document : Value) (c : Cursor) : Prop where
  /-- The steps of the path lead from the root to the value. -/
  placed : document.resolve? c.path.steps = some c.value
  objects : ∀ {key min max nodes}, c.objects key min max = .ok nodes ↔ ∃ elems,
    c.value.field? key = some (.list elems) ∧ (min ≤ elems.length ∧ elems.length ≤ max)
      ∧ (∀ v ∈ elems, v.isObject = true)
      ∧ ∀ i : Nat, nodes[i]? = elems[i]?.map (c.elementAt key i)
  find : ∀ {key field value e}, c.find key field value = .ok e ↔ ∃ elems i v,
    c.value.field? key = some (.list elems) ∧ IsLeast (namedAt elems field value) i
      ∧ elems[i]? = some v ∧ e = c.elementAt key i v
  /-- A look which fails as a whole names its field. -/
  look : ∀ {α} (l : Look α) {key e}, l.take c key = .error e → e.path = c.keyPath key
  strings_fault : ∀ {key min max e}, c.strings key min max = .error e
    ↔ ListFault c key min max (·.string?.isSome) (.wrongShape .string) e
  objects_fault : ∀ {key min max e}, c.objects key min max = .error e
    ↔ ListFault c key min max (·.isObject) .notAnObject e

/-- **A cursor which has been reached shows the part of the document at its path, and its looks
report the field or the first bad element.** -/
theorem reached_faithful {document : Value} {c : Cursor} (h : c.Reached document) :
    c.Faithful document where
  placed := h.placed
  objects := Cursor.objects_placed_iff
  find := Cursor.find_least_iff
  look l := l.blames c _ _
  strings_fault := Cursor.strings_eq_error_iff
  objects_fault := Cursor.objects_eq_error_iff

/-- A document with a list in an object of a list. -/
def Sample.boards : Value :=
  .object [("boards", .list [.object [("name", .string "A")],
    .object [("name", .string "B"), ("pins", .list [.string "LedPin", .int 3, .null])]])]

/-- The board `B` is found behind the board `A`, and its first pin which is not a string is
reported. -/
theorem boards_faithful : ∃ c, c.Reached Sample.boards
    ∧ (Cursor.root Sample.boards).find "boards" "name" "B" = .ok c
    ∧ c.strings "pins" 0 3
      = .error ⟨⟨[.key "boards", .index 1, .key "pins", .index 1]⟩, .wrongShape .string⟩
    ∧ c.Faithful Sample.boards :=
  have hfind : (Cursor.root Sample.boards).find "boards" "name" "B" = .ok _ := rfl
  ⟨_, .find .root hfind, hfind, rfl, reached_faithful (.find .root hfind)⟩

end PrinterFirmware.Document
