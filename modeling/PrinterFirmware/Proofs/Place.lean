/-
  PrinterFirmware.Proofs.Place
  ────────────────────────────
  **WHAT STANDS AT A PLACE OF A DOCUMENT.**

  A path is followed from the root of a document step by step, and leads to a part
  of it or to nothing.  A cursor is placed in a document if its path leads to its
  value; every look-up of a placed cursor is honest:

      what it gives           is what stands in the document (`Honest.value`)
      a violation it reports  is true of the document (`Honest.violation`)

  `Located.TrueOf` states, violation by violation, what a report says about the
  document.
-/
import Mathlib.Algebra.Group.Int.Defs
import PrinterFirmware.Document.Cursor
import PrinterFirmware.Document.Choice
import PrinterFirmware.Document.Sequence

namespace PrinterFirmware.Document

/-! ## §1. Following a path. -/

/-- The part of a value which one step leads to. -/
def Value.step? (v : Value) : Step → Option Value
  | .key name => v.field? name
  | .index i => v.list?.bind (·[i]?)

/-- The part of a document which a sequence of steps leads to. -/
def Value.resolve? (document : Value) (steps : List Step) : Option Value :=
  steps.foldlM Value.step? document

theorem Value.resolve?_concat (document : Value) (steps : List Step) (s : Step) :
    document.resolve? (steps ++ [s]) = (document.resolve? steps).bind (·.step? s) := by
  unfold resolve?
  rw [List.foldlM_append]
  cases steps.foldlM step? document with
  | none => rfl
  | some v => simp

/-- The path of a cursor leads to its value. -/
def Cursor.At (document : Value) (c : Cursor) : Prop :=
  document.resolve? c.path.steps = some c.value

/-- A cursor to an object of the document. -/
structure Cursor.In (document : Value) (c : Cursor) : Prop where
  placed : c.At document
  object : c.value.isObject = true

namespace Cursor

variable {document : Value} {c : Cursor}

theorem at_root (document : Value) : (root document).At document := rfl

theorem At.atKey (h : c.At document) (key : String) :
    document.resolve? (c.keyPath key).steps = c.value.field? key := by
  show document.resolve? (c.path.steps ++ [.key key]) = _
  rw [Value.resolve?_concat, h]
  rfl

theorem At.atIndex (h : c.At document) {key : String} {elems : List Value}
    (hl : c.value.field? key = some (.list elems)) (i : Nat) :
    document.resolve? ((c.keyPath key).index i).steps = elems[i]? := by
  show document.resolve? ((c.keyPath key).steps ++ [.index i]) = _
  rw [Value.resolve?_concat, h.atKey, hl]
  rfl

end Cursor

/-! ## §2. True violations. -/

/-- Whether a value is of some shape; whole numbers are numbers, too. -/
def Value.HasShape : Value → Shape → Prop
  | .string _, .string => True
  | .int n, .integer => -2 ^ 63 ≤ n ∧ n < 2 ^ 63
  | .int _, .number => True
  | .number _, .number => True
  | .bool _, .bool => True
  | .list _, .list => True
  | _, _ => False

/-- An object stands at the place. -/
def ObjectAt (document : Value) (p : Path) : Prop :=
  ∃ v, document.resolve? p.steps = some v ∧ v.isObject = true

/-- The things whose names are single letters. -/
def letteredThings : List String := ["axis", "heater", "fan"]

/-- The list of helper headers, the only list in which a bad format is reported. -/
def helperListKey : String := "board_helper_includes"

/-- What a violation says about the place `p` of a document. -/
def Violation.TrueAt (document : Value) (p : Path) : Violation → Prop
  | .missingField =>
      ∃ parent last, p.steps = parent ++ [last] ∧ (document.resolve? parent).isSome
        ∧ document.resolve? p.steps = none
  | .notAnObject =>
      ∃ parent last, p.steps = parent ++ [last] ∧ (document.resolve? parent).isSome
        ∧ ∀ v, document.resolve? p.steps = some v → v.isObject = false
  | .wrongShape expected => ∃ v, document.resolve? p.steps = some v ∧ ¬ v.HasShape expected
  | .countOutOfRange count min max =>
      ((∃ elems, document.resolve? p.steps = some (.list elems) ∧ count = elems.length)
          ∨ document.resolve? p.steps = some (.int count))
        ∧ (count < min ∨ max < count)
  | .notFound field value =>
      ∃ elems, document.resolve? p.steps = some (.list elems)
        ∧ ∀ v ∈ elems, v.field? field ≠ some (.string value)
  | .badFormat _ =>
      (∃ s, document.resolve? p.steps = some (.string s))
        ∨ ∃ parent elems, p.steps = parent ++ [.key helperListKey]
            ∧ document.resolve? p.steps = some (.list elems)
  | .duplicateName what =>
      if what ∈ letteredThings then
        ∃ l, Naming.isUpper l = true
          ∧ document.resolve? p.steps = some (.string (String.singleton l))
      else ObjectAt document p
  | .unknownReference _ name => document.resolve? p.steps = some (.string name)
  | .unknownChoice tag =>
      ∃ v, document.resolve? p.steps = some v ∧ v.isObject = true
        ∧ v.field? "_compoundName" = some (.string tag)
  | .invalidIntegerType _ => (document.resolve? p.steps).isSome
  | .invalid _ => ObjectAt document p ∨ document.resolve? p.steps = some (.bool true)

/-- What a report says about a document. -/
def Located.TrueOf (document : Value) (e : Located) : Prop := e.violation.TrueAt document e.path

/-! ## §3. Honest look-ups. -/

/-- A look at a document gives values with `P`, and reports true violations only. -/
structure Honest {α : Type} (document : Value) (r : Reading α) (P : α → Prop) : Prop where
  value : ∀ a, r = .ok a → P a
  violation : ∀ e, r = .error e → e.TrueOf document

section Rules

variable {α β : Type} {document : Value} {r : Reading α} {f : α → Reading β} {P P' : α → Prop}
  {Q : β → Prop}

/-- One look after another gives a value if both do. -/
theorem reading_bind_eq_ok {b : β} :
    r >>= f = .ok b ↔ ∃ a, r = .ok a ∧ f a = .ok b := by
  cases r with
  | error e => exact ⟨fun h => (nomatch h), fun ⟨_, h, _⟩ => nomatch h⟩
  | ok a => exact ⟨fun h => ⟨a, rfl, h⟩, fun ⟨_, h, h'⟩ => Except.ok.inj h ▸ h'⟩

theorem honest_ok {a : α} (h : P a) : Honest document (.ok a) P := by
  constructor
  · intro b hb
    cases hb
    exact h
  · intro e he
    cases he

theorem honest_error {e : Located} (h : e.TrueOf document) :
    Honest document (.error e : Reading α) P := by
  constructor
  · intro b hb
    cases hb
  · intro e' he
    cases he
    exact h

theorem Honest.mono (h : Honest document r P) (hP : ∀ a, P a → P' a) : Honest document r P' :=
  ⟨fun a ha => hP a (h.value a ha), h.violation⟩

/-- What a look gives is what it gives. -/
theorem Honest.self (h : Honest document r P) : Honest document r fun a => P a ∧ r = .ok a :=
  ⟨fun a ha => ⟨h.value a ha, ha⟩, h.violation⟩

theorem Honest.bind (h : Honest document r P) (k : ∀ a, P a → Honest document (f a) Q) :
    Honest document (r >>= f) Q := by
  cases hr : r with
  | ok a => exact k a (h.value a hr)
  | error e => exact honest_error (h.violation e hr)

/-- A look at every element of a list. -/
theorem honest_mapM {γ : Type} {g : γ → Reading α} {xs : List γ}
    (h : ∀ x ∈ xs, Honest document (g x) P) :
    Honest document (xs.mapM g) fun as => as.length = xs.length ∧ ∀ a ∈ as, P a := by
  induction xs with
  | nil => exact honest_ok ⟨rfl, fun a ha => by cases ha⟩
  | cons x rest ih =>
      rw [List.mapM_cons]
      apply (h x List.mem_cons_self).bind
      intro a ha
      apply (ih fun y hy => h y (List.mem_cons_of_mem x hy)).bind
      intro as has
      refine honest_ok ⟨by simp [has.1], ?_⟩
      intro b hb
      rcases List.mem_cons.1 hb with rfl | hb
      · exact ha
      · exact has.2 b hb

end Rules

namespace Cursor

variable {α : Type} {document : Value} {c : Cursor}

/-- A field is read as a value of some shape if it is there and has this shape. -/
theorem fieldAs_eq_ok {key : String} {shape : Shape} {view : Value → Option α} {a : α} :
    c.fieldAs key shape view = .ok a ↔ (c.value.field? key).bind view = some a := by
  unfold fieldAs field
  cases c.value.field? key with
  | none => exact ⟨fun h => (nomatch h), fun h => nomatch h⟩
  | some v =>
      dsimp only [bind, Except.bind, Option.bind_some]
      cases view v with
      | none => exact ⟨fun h => (nomatch h), fun h => nomatch h⟩
      | some a' =>
          exact ⟨fun h => congrArg some (Except.ok.inj h),
            fun h => congrArg Except.ok (Option.some.inj h)⟩

theorem At.honest_field (h : c.At document) (key : String) :
    Honest document (c.field key) fun v => document.resolve? (c.keyPath key).steps = some v := by
  unfold field
  cases hv : c.value.field? key with
  | some v => exact honest_ok (by rw [h.atKey, hv])
  | none =>
      apply honest_error
      show ∃ parent last, _
      exact ⟨c.path.steps, .key key, rfl, by rw [h]; rfl, by rw [h.atKey, hv]⟩

/-- A field read as a value of some shape, by a view which accepts that shape. -/
theorem At.honest_fieldAs (h : c.At document) (key : String) {shape : Shape}
    {view : Value → Option α} (hview : ∀ v, view v = none → ¬ v.HasShape shape) :
    Honest document (c.fieldAs key shape view) fun a =>
      ∃ v, document.resolve? (c.keyPath key).steps = some v ∧ view v = some a := by
  unfold fieldAs
  apply (h.honest_field key).bind
  intro v hv
  cases ha : view v with
  | some a => exact honest_ok ⟨v, hv, ha⟩
  | none =>
      apply honest_error
      show ∃ v, _
      exact ⟨v, hv, hview v ha⟩

theorem At.honest_string (h : c.At document) (key : String) :
    Honest document (c.string key) fun s =>
      document.resolve? (c.keyPath key).steps = some (.string s) := by
  refine (h.honest_fieldAs key ?_).mono ?_
  · intro v hv
    cases v <;> simp_all [Value.string?, Value.HasShape]
  · intro s hread
    obtain ⟨v, hv, hs⟩ := hread
    cases v <;> simp_all [Value.string?]

theorem At.honest_int (h : c.At document) (key : String) :
    Honest document (c.int key) fun n =>
      document.resolve? (c.keyPath key).steps = some (.int n) := by
  refine (h.honest_fieldAs key ?_).mono ?_
  · intro v hv
    cases v with
    | int n =>
        intro hn
        have hn' : -signedBound ≤ n ∧ n < signedBound := hn
        simp [Value.int64?, hn'] at hv
    | _ => simp [Value.HasShape]
  · intro n hread
    obtain ⟨v, hv, hn⟩ := hread
    cases v with
    | int m =>
        simp only [Value.int64?, Option.ite_none_right_eq_some, Option.some.injEq] at hn
        rw [hv, hn.2]
    | _ => simp [Value.int64?] at hn

theorem At.honest_number (h : c.At document) (key : String) :
    Honest document (c.number key) fun _ => True := by
  refine (h.honest_fieldAs key ?_).mono fun _ _ => trivial
  intro v hv
  cases v <;> simp_all [Value.number?, Value.HasShape]

theorem At.honest_bool (h : c.At document) (key : String) :
    Honest document (c.bool key) fun b =>
      document.resolve? (c.keyPath key).steps = some (.bool b) := by
  refine (h.honest_fieldAs key ?_).mono ?_
  · intro v hv
    cases v <;> simp_all [Value.bool?, Value.HasShape]
  · intro b hread
    obtain ⟨v, hv, hb⟩ := hread
    cases v <;> simp_all [Value.bool?]

theorem At.honest_list (h : c.At document) (key : String) :
    Honest document (c.fieldAs key .list Value.list?) fun elems =>
      c.value.field? key = some (.list elems) := by
  refine (h.honest_fieldAs key ?_).mono ?_
  · intro v hv
    cases v <;> simp_all [Value.list?, Value.HasShape]
  · intro elems hread
    obtain ⟨v, hv, hl⟩ := hread
    rw [h.atKey] at hv
    cases v <;> simp_all [Value.list?]

/-! ## §4. Lists and descents. -/

theorem listBetween_eq_ok {key : String} {min max : Nat} {elems : List Value} :
    c.listBetween key min max = .ok elems ↔ (c.value.field? key).bind Value.list? = some elems
      ∧ min ≤ elems.length ∧ elems.length ≤ max := by
  have hlist : c.fieldAs key .list Value.list? = .ok elems ↔ _ := fieldAs_eq_ok
  rw [← hlist]
  unfold listBetween
  cases c.fieldAs key .list Value.list? with
  | error e => exact ⟨fun h => (nomatch h), fun h => nomatch h.1⟩
  | ok es =>
      show (if es.length < min ∨ max < es.length then _ else .ok es : Reading (List Value)) = _ ↔ _
      split
      · next hcount =>
          refine ⟨fun h => (nomatch h), ?_⟩
          rintro ⟨⟨⟩, hmin, hmax⟩
          omega
      · next hcount =>
          constructor
          · rintro ⟨⟩
            exact ⟨rfl, by omega, by omega⟩
          · exact fun h => h.1

/-- Elements which are all objects pass the check for objects. -/
theorem mapM_isObject {es es' : List Cursor} :
    es.mapM (fun e => (if e.value.isObject then .ok e else e.reject .notAnObject : Reading Cursor))
        = .ok es' ↔ (∀ e ∈ es, e.value.isObject = true) ∧ es' = es := by
  induction es generalizing es' with
  | nil =>
      refine ⟨fun h => ⟨fun _ he => (nomatch he), (Except.ok.inj h).symm⟩, ?_⟩
      rintro ⟨-, rfl⟩
      rfl
  | cons e rest ih =>
      rw [List.mapM_cons, List.forall_mem_cons]
      by_cases ho : e.value.isObject = true
      · rw [if_pos ho]
        cases hrest : rest.mapM fun e =>
            (if e.value.isObject then .ok e else e.reject .notAnObject : Reading Cursor) with
        | error v =>
            refine ⟨fun h => (nomatch h), ?_⟩
            rintro ⟨⟨-, hobjects⟩, -⟩
            cases (ih.2 ⟨hobjects, rfl⟩).symm.trans hrest
        | ok rest' =>
            obtain ⟨hobjects, rfl⟩ := ih.1 hrest
            refine ⟨fun h => ⟨⟨ho, hobjects⟩, (Except.ok.inj h).symm⟩, ?_⟩
            rintro ⟨-, rfl⟩
            rfl
      · rw [if_neg ho]
        exact ⟨fun h => (nomatch h), fun h => absurd h.1.1 ho⟩

/-- The values of the elements of a list are the list. -/
theorem map_value_elementsOf (c : Cursor) (key : String) (elems : List Value) :
    (c.elementsOf key elems).map (·.value) = elems := by
  unfold elementsOf
  rw [List.map_map]
  exact List.zipIdx_map_fst 0 elems

/-- The objects of a list are its elements, each at its place. -/
theorem objects_eq_ok {key : String} {min max : Nat} {nodes : List Cursor} :
    c.objects key min max = .ok nodes ↔ ∃ elems, c.fieldAs key .list Value.list? = .ok elems
      ∧ (min ≤ elems.length ∧ elems.length ≤ max) ∧ (∀ e ∈ elems, e.isObject = true)
      ∧ nodes = c.elementsOf key elems := by
  have hvalues : ∀ elems, (∀ e ∈ c.elementsOf key elems, e.value.isObject = true)
      ↔ ∀ v ∈ elems, v.isObject = true := by
    intro elems
    rw [← List.forall_mem_map (f := fun e : Cursor => e.value) (P := fun v => v.isObject = true),
      map_value_elementsOf]
  unfold objects
  cases hlist : c.listBetween key min max with
  | error e =>
      refine ⟨fun h => (nomatch h), ?_⟩
      rintro ⟨elems, helems, hcount, -⟩
      cases (listBetween_eq_ok.2 ⟨fieldAs_eq_ok.1 helems, hcount⟩).symm.trans hlist
  | ok elems =>
      obtain ⟨helems, hcount⟩ := listBetween_eq_ok.1 hlist
      refine mapM_isObject.trans ?_
      rw [hvalues]
      constructor
      · rintro ⟨hobjects, rfl⟩
        exact ⟨elems, fieldAs_eq_ok.2 helems, hcount, hobjects, rfl⟩
      · rintro ⟨elems', helems', -, hobjects, rfl⟩
        cases helems.symm.trans (fieldAs_eq_ok.1 helems')
        exact ⟨hobjects, rfl⟩

theorem At.honest_listBetween (h : c.At document) (key : String) (min max : Nat) :
    Honest document (c.listBetween key min max) fun elems =>
      c.value.field? key = some (.list elems) ∧ elems.length ≤ max := by
  unfold listBetween
  apply (h.honest_list key).bind
  intro elems hl
  by_cases hlen : elems.length < min ∨ max < elems.length
  · rw [if_pos hlen]
    apply honest_error
    refine ⟨Or.inl ⟨elems, by rw [h.atKey, hl], rfl⟩, ?_⟩
    omega
  · rw [if_neg hlen]
    exact honest_ok ⟨hl, by omega⟩

/-- The elements of a list stand at their places. -/
theorem At.of_mem_elementsOf (h : c.At document) {key : String} {elems : List Value}
    (hl : c.value.field? key = some (.list elems)) {e : Cursor}
    (he : e ∈ c.elementsOf key elems) :
    e.At document ∧ e.value ∈ elems ∧ ∃ i, e.path = (c.keyPath key).index i := by
  unfold elementsOf at he
  obtain ⟨⟨v, i⟩, hvi, rfl⟩ := List.mem_map.1 he
  have hget : elems[i]? = some v := by
    simpa using List.mem_zipIdx_iff_getElem?.1 hvi
  refine ⟨?_, List.mem_of_getElem? hget, i, rfl⟩
  show document.resolve? ((c.keyPath key).index i).steps = some v
  rw [h.atIndex hl, hget]

/-- The parent of the elements of a list is that list. -/
theorem At.parent_of_index (h : c.At document) {key : String} {elems : List Value}
    (hl : c.value.field? key = some (.list elems)) {e : Cursor} {i : Nat}
    (hp : e.path = (c.keyPath key).index i) :
    ∃ parent last, e.path.steps = parent ++ [last] ∧ (document.resolve? parent).isSome :=
  ⟨(c.keyPath key).steps, .index i, by rw [hp]; rfl, by rw [h.atKey, hl]; rfl⟩

theorem At.honest_strings (h : c.At document) (key : String) (min max : Nat) :
    Honest document (c.strings key min max) fun _ =>
      ∃ elems, document.resolve? (c.keyPath key).steps = some (.list elems) := by
  unfold strings
  apply (h.honest_listBetween key min max).bind
  intro elems hread
  obtain ⟨hl, -⟩ := hread
  refine (honest_mapM (P := fun _ => True) ?_).mono fun _ _ => ⟨elems, by rw [h.atKey, hl]⟩
  intro e he
  obtain ⟨hat, -, -⟩ := h.of_mem_elementsOf hl he
  cases hs : e.value.string? with
  | some s => exact honest_ok trivial
  | none =>
      apply honest_error
      refine ⟨e.value, hat, ?_⟩
      cases hv : e.value <;> simp_all [Value.string?, Value.HasShape]

theorem At.honest_objects (h : c.At document) (key : String) (min max : Nat) :
    Honest document (c.objects key min max) fun es =>
      es.length ≤ max ∧ ∀ e ∈ es, e.In document := by
  unfold objects
  apply (h.honest_listBetween key min max).bind
  intro elems hread
  obtain ⟨hl, hmax⟩ := hread
  refine (honest_mapM (P := (·.In document)) ?_).mono ?_
  · intro e he
    obtain ⟨hat, -, i, hi⟩ := h.of_mem_elementsOf hl he
    by_cases ho : e.value.isObject = true
    · rw [if_pos ho]
      exact honest_ok ⟨hat, ho⟩
    · rw [if_neg ho]
      apply honest_error
      obtain ⟨parent, last, hsteps, hparent⟩ := h.parent_of_index hl hi
      refine ⟨parent, last, hsteps, hparent, ?_⟩
      intro v hv
      rw [hat] at hv
      cases hv
      simpa using ho
  · intro es hread
    obtain ⟨hlen, hes⟩ := hread
    refine ⟨?_, hes⟩
    have hz : (c.elementsOf key elems).length = elems.length := by simp [elementsOf]
    omega

/-- An object at a key is entered with its place. -/
theorem enter_eq_ok {key : String} {e : Cursor} :
    c.enter key = .ok e ↔ ∃ v, c.value.field? key = some v ∧ v.isObject = true
      ∧ e = ⟨v, c.keyPath key⟩ := by
  unfold enter
  cases c.value.field? key with
  | none => exact ⟨fun h => (nomatch h), fun ⟨_, h, _⟩ => nomatch h⟩
  | some v =>
      show (if v.isObject then .ok ⟨v, c.keyPath key⟩ else _ : Reading Cursor) = _ ↔ _
      by_cases ho : v.isObject = true
      · rw [if_pos ho]
        constructor
        · rintro ⟨⟩
          exact ⟨v, rfl, ho, rfl⟩
        · rintro ⟨_, ⟨⟩, -, rfl⟩
          rfl
      · rw [if_neg ho]
        refine ⟨fun h => (nomatch h), ?_⟩
        rintro ⟨_, ⟨⟩, hv, -⟩
        exact absurd hv ho

theorem At.honest_enter (h : c.At document) (key : String) :
    Honest document (c.enter key) (·.In document) := by
  have hparent : ∃ parent last, (c.keyPath key).steps = parent ++ [last]
      ∧ (document.resolve? parent).isSome := ⟨c.path.steps, .key key, rfl, by rw [h]; rfl⟩
  obtain ⟨parent, last, hsteps, hsome⟩ := hparent
  unfold enter
  cases hv : c.value.field? key with
  | none =>
      refine honest_error ⟨parent, last, hsteps, hsome, ?_⟩
      intro v h'
      rw [h.atKey, hv] at h'
      cases h'
  | some v =>
      show Honest document (if v.isObject then _ else _) _
      by_cases ho : v.isObject = true
      · rw [if_pos ho]
        refine honest_ok ⟨?_, ho⟩
        show document.resolve? (c.keyPath key).steps = some v
        rw [h.atKey, hv]
      · rw [if_neg ho]
        refine honest_error ⟨parent, last, hsteps, hsome, ?_⟩
        intro v' h'
        rw [h.atKey, hv] at h'
        cases h'
        simpa using ho

theorem isNamed_iff {field value : String} :
    c.isNamed field value = true ↔ c.value.field? field = some (.string value) := by
  unfold isNamed
  cases hv : c.value.field? field with
  | none => simp
  | some v => cases v <;> simp [Value.string?]

/-- The first element of a name is found among elements with their places, which are counted
from any index. -/
theorem find?_placed {field value : String} {elems : List Value} {e : Cursor} (p : Path) (k : Nat) :
    ((elems.zipIdx k).map fun (v, i) => Cursor.mk v (p.index i)).find? (·.isNamed field value)
        = some e ↔
      ∃ before v after, elems = before ++ v :: after ∧ e = ⟨v, p.index (k + before.length)⟩
        ∧ v.field? field = some (.string value)
        ∧ ∀ u ∈ before, u.field? field ≠ some (.string value) := by
  -- The first index is general, because the tail is counted from the next one.
  induction elems generalizing k with
  | nil =>
      refine ⟨fun h => (nomatch h), ?_⟩
      rintro ⟨before, v, after, hsplit, -⟩
      cases before <;> cases hsplit
  | cons w rest ih =>
      rw [List.zipIdx_cons, List.map_cons, List.find?_cons]
      cases hnamed : Cursor.isNamed ⟨w, p.index k⟩ field value with
      | true =>
          constructor
          · rintro ⟨⟩
            exact ⟨[], w, rest, rfl, rfl, isNamed_iff.1 hnamed, fun _ hu => nomatch hu⟩
          · rintro ⟨before, v, after, hsplit, rfl, -, hfirst⟩
            cases before with
            | nil =>
                cases hsplit
                rfl
            | cons u before =>
                cases hsplit
                exact absurd (isNamed_iff.1 hnamed) (hfirst w List.mem_cons_self)
      | false =>
          have hw : w.field? field ≠ some (.string value) := by
            intro hw
            rw [isNamed_iff.2 hw] at hnamed
            cases hnamed
          refine (ih (k + 1)).trans ?_
          constructor
          · rintro ⟨before, v, after, rfl, rfl, hv, hfirst⟩
            refine ⟨w :: before, v, after, rfl, ?_, hv, List.forall_mem_cons.2 ⟨hw, hfirst⟩⟩
            rw [List.length_cons, Nat.add_right_comm, Nat.add_assoc]
          · rintro ⟨before, v, after, hsplit, rfl, hv, hfirst⟩
            cases before with
            | nil =>
                cases hsplit
                exact absurd hv hw
            | cons u before =>
                cases hsplit
                refine ⟨before, v, after, rfl, ?_, hv, (List.forall_mem_cons.1 hfirst).2⟩
                rw [List.length_cons, Nat.add_right_comm, Nat.add_assoc]

/-- The first element of a name is found in a list, at its place. -/
theorem find_eq_ok {key field value : String} {e : Cursor} :
    c.find key field value = .ok e ↔ ∃ before v after,
      (c.value.field? key).bind Value.list? = some (before ++ v :: after)
        ∧ e = ⟨v, (c.keyPath key).index before.length⟩ ∧ v.field? field = some (.string value)
        ∧ ∀ u ∈ before, u.field? field ≠ some (.string value) := by
  have hplaced : ∀ elems, (c.elementsOf key elems).find? (·.isNamed field value) = some e ↔ _ :=
    fun elems => find?_placed (c.keyPath key) 0
  unfold find
  cases hlist : c.fieldAs key .list Value.list? with
  | error e' =>
      refine ⟨fun h => (nomatch h), ?_⟩
      rintro ⟨before, v, after, helems, -⟩
      cases (fieldAs_eq_ok.2 helems).symm.trans hlist
  | ok elems =>
      have hplaced := hplaced elems
      simp only [Nat.zero_add] at hplaced
      rw [fieldAs_eq_ok.1 hlist]
      simp only [Option.some.injEq]
      rw [← hplaced]
      dsimp only [bind, Except.bind]
      cases (c.elementsOf key elems).find? (·.isNamed field value) with
      | none => exact ⟨fun h => (nomatch h), fun h => nomatch h⟩
      | some e' =>
          exact ⟨fun h => congrArg some (Except.ok.inj h),
            fun h => congrArg Except.ok (Option.some.inj h)⟩

theorem At.honest_find (h : c.At document) (key field value : String) :
    Honest document (c.find key field value) (·.In document) := by
  unfold find
  apply (h.honest_list key).bind
  intro elems hl
  cases hf : (c.elementsOf key elems).find? (·.isNamed field value) with
  | some e =>
      refine honest_ok ⟨(h.of_mem_elementsOf hl (List.mem_of_find?_eq_some hf)).1, ?_⟩
      have hn := isNamed_iff.1 (List.find?_some (p := fun x : Cursor => x.isNamed field value) hf)
      cases hv : e.value <;> simp_all [Value.field?, Value.isObject]
  | none =>
      refine honest_error ⟨elems, by rw [h.atKey, hl], ?_⟩
      intro v hv hnamed
      obtain ⟨i, hi⟩ := List.mem_iff_getElem?.1 hv
      have he : (⟨v, (c.keyPath key).index i⟩ : Cursor) ∈ c.elementsOf key elems :=
        List.mem_map.2 ⟨(v, i), List.mem_zipIdx_iff_getElem?.2 (by simpa using hi), rfl⟩
      have hno := List.find?_eq_none.1 hf _ he
      exact hno (isNamed_iff.2 hnamed)

/-! ## §5. Words and texts of numbers. -/

/-- An identifier is a string which is one and passes the further check. -/
theorem identifierWhere_eq_ok {key s : String} {valid : String → Bool} :
    c.identifierWhere key valid = .ok s
      ↔ c.string key = .ok s ∧ Naming.isIdentifier s = true ∧ valid s = true := by
  unfold identifierWhere
  rw [reading_bind_eq_ok]
  constructor
  · rintro ⟨name, hname, h⟩
    split at h
    · cases h
    · next hidentifier =>
        split at h
        · cases h
        · next hvalid =>
            cases h
            exact ⟨hname, by simpa using hidentifier, by simpa using hvalid⟩
  · rintro ⟨hname, hidentifier, hvalid⟩
    exact ⟨s, hname, by simp [hidentifier, hvalid]⟩

/-- A letter is a string of one uppercase letter. -/
theorem letter_eq_ok {key : String} {l : Char} :
    c.letter key = .ok l ↔ ∃ s, c.string key = .ok s ∧ Naming.letter? s = some l := by
  unfold letter
  rw [reading_bind_eq_ok]
  refine exists_congr fun s => and_congr_right fun _ => ?_
  cases Naming.letter? s with
  | some l' =>
      exact ⟨fun h => congrArg some (Except.ok.inj h), fun h => congrArg _ (Option.some.inj h)⟩
  | none => exact ⟨fun h => (nomatch h), fun h => nomatch h⟩

theorem intConstant_eq_ok {key s : String} :
    c.intConstant key = .ok s ↔ ∃ n, c.int key = .ok n ∧ Numeral.ofInt n = s := by
  unfold intConstant
  rw [reading_bind_eq_ok]
  simp only [Except.ok.injEq]

theorem boolConstant_eq_ok {key s : String} :
    c.boolConstant key = .ok s ↔ ∃ b, c.bool key = .ok b ∧ TypeExpr.boolText b = s := by
  unfold boolConstant
  rw [reading_bind_eq_ok]
  simp only [Except.ok.injEq]

theorem At.honest_identifierWhere (h : c.At document) (key : String) (valid : String → Bool) :
    Honest document (c.identifierWhere key valid) fun _ => True := by
  unfold identifierWhere
  apply (h.honest_string key).bind
  intro s hs
  split
  · exact honest_error (Or.inl ⟨s, hs⟩)
  · split
    · exact honest_error (Or.inl ⟨s, hs⟩)
    · exact honest_ok trivial

theorem At.honest_identifier (h : c.At document) (key : String) :
    Honest document (c.identifier key) fun _ => True := h.honest_identifierWhere key _

theorem letter?_eq_some {s : String} {l : Char} (h : Naming.letter? s = some l) :
    s = String.singleton l ∧ Naming.isUpper l = true := by
  unfold Naming.letter? at h
  split at h
  · next c hc =>
      split at h
      · next hu =>
          cases h
          refine ⟨?_, hu⟩
          apply String.toList_inj.1
          rw [hc]
          simp
      · cases h
  · cases h

theorem At.honest_letter (h : c.At document) (key : String) :
    Honest document (c.letter key) fun l => Naming.isUpper l = true
      ∧ document.resolve? (c.keyPath key).steps = some (.string (String.singleton l)) := by
  unfold letter
  apply (h.honest_string key).bind
  intro s hs
  cases hl : Naming.letter? s with
  | some l =>
      obtain ⟨rfl, hu⟩ := letter?_eq_some hl
      exact honest_ok ⟨hu, hs⟩
  | none => exact honest_error (Or.inl ⟨s, hs⟩)

theorem At.honest_intConstant (h : c.At document) (key : String) :
    Honest document (c.intConstant key) fun _ => True :=
  (h.honest_int key).bind fun _ _ => honest_ok trivial

theorem At.honest_boolConstant (h : c.At document) (key : String) :
    Honest document (c.boolConstant key) fun _ => True :=
  (h.honest_bool key).bind fun _ _ => honest_ok trivial

end Cursor

end PrinterFirmware.Document
