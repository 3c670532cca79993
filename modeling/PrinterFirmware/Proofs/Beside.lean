/-
  PrinterFirmware.Proofs.Beside
  ─────────────────────────────
  **ONE SECTION IN TWO DOCUMENTS.**

  A section may stand at different places of two documents.  Looks at it, one in each
  document, read the same values at places which correspond to each other: both find the
  same, or both fail for the same reason.

      Correspondence    which places of two documents are considered the same
      Path.Beside       two places differ at most in the index of a section
      Cursor.Alike      one value at corresponding places
      Located.Alike     one reason at corresponding places
      Matches           two looks which find related things or fail alike
-/
import Mathlib.Data.List.Forall2
import PrinterFirmware.Document.Cursor

namespace PrinterFirmware

open Document

variable {α β γ δ : Type}

/-! ## §1. Corresponding places. -/

namespace Document

/-- Which places of two documents correspond to each other; below them so do all places which
the same steps lead to. -/
class Correspondence where
  places : Path → Path → Prop
  append {p q : Path} (h : places p q) (steps : List Step) :
    places ⟨p.steps ++ steps⟩ ⟨q.steps ++ steps⟩

/-- Two places are equal, or differ in the list index directly after `configurations` or
`boards`. -/
def Path.Beside (p q : Path) : Prop :=
  p = q ∨ ∃ key ∈ ["configurations", "boards"], ∃ i j rest,
    p.steps = .key key :: .index i :: rest ∧ q.steps = .key key :: .index j :: rest

theorem Path.Beside.append {p q : Path} (h : p.Beside q) (steps : List Step) :
    Path.Beside ⟨p.steps ++ steps⟩ ⟨q.steps ++ steps⟩ := by
  rcases h with rfl | ⟨key, hkey, i, j, rest, hp, hq⟩
  · exact Or.inl rfl
  · refine Or.inr ⟨key, hkey, i, j, rest ++ steps, ?_, ?_⟩
    · rw [hp]
      rfl
    · rw [hq]
      rfl

/-- Places beside each other correspond. -/
@[reducible] def Correspondence.beside : Correspondence := ⟨Path.Beside, Path.Beside.append⟩

/-- Only equal places correspond. -/
@[reducible] def Correspondence.equal : Correspondence := ⟨(· = ·), fun h _ => h ▸ rfl⟩

/-- All places correspond. -/
@[reducible] def Correspondence.everywhere : Correspondence := ⟨fun _ _ => True, fun _ _ => trivial⟩

variable [Correspondence]

/-- Two places correspond to each other. -/
def Path.Corresponds (p q : Path) : Prop := Correspondence.places p q

theorem Path.Corresponds.key {p q : Path} (h : p.Corresponds q) (name : String) :
    (p.key name).Corresponds (q.key name) := Correspondence.append h [.key name]

theorem Path.Corresponds.index {p q : Path} (h : p.Corresponds q) (i : Nat) :
    (p.index i).Corresponds (q.index i) := Correspondence.append h [.index i]

/-- The same reason at corresponding places. -/
structure Located.Alike (e f : Located) : Prop where
  path : e.path.Corresponds f.path
  violation : e.violation = f.violation

/-- The same value at corresponding places. -/
structure Cursor.Alike (c d : Cursor) : Prop where
  value : c.value = d.value
  path : c.path.Corresponds d.path

end Document

/-! ## §2. Looking at two documents. -/

variable [Correspondence]

/-- Two looks find related things, or fail for the same reason. -/
inductive Matches (R : α → β → Prop) : Reading α → Reading β → Prop where
  | ok {a : α} {b : β} (h : R a b) : Matches R (.ok a) (.ok b)
  | error {e f : Located} (h : e.Alike f) : Matches R (.error e) (.error f)

section Readings

variable {R : α → β → Prop} {S : γ → δ → Prop} {r : Reading α} {s : Reading β} {c d : Cursor}
  {key : String}

/-- A look finds something related to what the other one finds. -/
theorem Matches.of_ok {a : α} (h : Matches R r s) (hr : r = .ok a) : ∃ b, s = .ok b ∧ R a b := by
  cases h with
  | ok h =>
      cases hr
      exact ⟨_, rfl, h⟩
  | error h => cases hr

theorem Matches.eq_ok {s : Reading α} {a : α} (h : Matches Eq r s) (hr : r = .ok a) :
    s = .ok a := by
  obtain ⟨b, hs, rfl⟩ := h.of_ok hr
  exact hs

theorem Matches.bind {f : α → Reading γ} {g : β → Reading δ} (h : Matches R r s)
    (k : ∀ a b, R a b → Matches S (f a) (g b)) : Matches S (r >>= f) (s >>= g) := by
  cases h with
  | ok h => exact k _ _ h
  | error h => exact .error h

/-- Two looks which find the same, and what is made of what is found. -/
theorem Matches.andThenFound {f : α → Reading γ} {g : α → Reading δ} {s : Reading α}
    (h : Matches Eq r s) (k : ∀ a, r = .ok a → Matches S (f a) (g a)) :
    Matches S (r >>= f) (s >>= g) := by
  cases h with
  | ok h =>
      subst h
      exact k _ rfl
  | error h => exact .error h

/-- Two looks which find the same, whatever it is. -/
theorem Matches.andThen {f : α → Reading γ} {g : α → Reading δ} {s : Reading α}
    (h : Matches Eq r s) (k : ∀ a, Matches S (f a) (g a)) : Matches S (r >>= f) (s >>= g) :=
  h.andThenFound fun a _ => k a

/-- Walks over two lists of related elements. -/
theorem matches_mapM {f : α → Reading γ} {g : β → Reading δ} {as : List α} {bs : List β}
    (h : List.Forall₂ R as bs) (k : ∀ a b, R a b → Matches S (f a) (g b)) :
    Matches (List.Forall₂ S) (as.mapM f) (bs.mapM g) := by
  induction h with
  | nil => exact .ok .nil
  | cons hab _ ih =>
      rw [List.mapM_cons, List.mapM_cons]
      apply (k _ _ hab).bind
      intro x y hxy
      apply ih.bind
      intro xs ys hxys
      exact .ok (.cons hxy hxys)

namespace Document.Cursor.Alike

theorem reject (h : c.Alike d) (v : Violation) : Matches R (c.reject v) (d.reject v) :=
  .error ⟨h.path, rfl⟩

theorem rejectAt (h : c.Alike d) (key : String) (v : Violation) :
    Matches R (c.rejectAt key v) (d.rejectAt key v) :=
  .error ⟨h.path.key key, rfl⟩

theorem has (h : c.Alike d) (key : String) : c.has key = d.has key := by
  unfold Cursor.has
  rw [h.value]

theorem field (h : c.Alike d) (key : String) : Matches Eq (c.field key) (d.field key) := by
  unfold Cursor.field
  rw [h.value]
  cases d.value.field? key with
  | some v => exact .ok rfl
  | none => exact h.rejectAt key _

theorem fieldAs (h : c.Alike d) (key : String) (shape : Shape) (view : Value → Option α) :
    Matches Eq (c.fieldAs key shape view) (d.fieldAs key shape view) := by
  unfold Cursor.fieldAs
  apply (h.field key).andThen
  intro v
  cases view v with
  | some a => exact .ok rfl
  | none => exact h.rejectAt key _

theorem string (h : c.Alike d) (key : String) : Matches Eq (c.string key) (d.string key) :=
  h.fieldAs key _ _

theorem int (h : c.Alike d) (key : String) : Matches Eq (c.int key) (d.int key) :=
  h.fieldAs key _ _

theorem number (h : c.Alike d) (key : String) : Matches Eq (c.number key) (d.number key) :=
  h.fieldAs key _ _

theorem bool (h : c.Alike d) (key : String) : Matches Eq (c.bool key) (d.bool key) :=
  h.fieldAs key _ _

theorem intConstant (h : c.Alike d) (key : String) :
    Matches Eq (c.intConstant key) (d.intConstant key) :=
  (h.int key).andThen fun _ => .ok rfl

theorem boolConstant (h : c.Alike d) (key : String) :
    Matches Eq (c.boolConstant key) (d.boolConstant key) :=
  (h.bool key).andThen fun _ => .ok rfl

theorem identifierWhere (h : c.Alike d) (key : String) (valid : String → Bool) :
    Matches Eq (c.identifierWhere key valid) (d.identifierWhere key valid) := by
  unfold Cursor.identifierWhere
  apply (h.string key).andThen
  intro s
  split
  · exact h.rejectAt key _
  · split
    · exact h.rejectAt key _
    · exact .ok rfl

theorem identifier (h : c.Alike d) (key : String) :
    Matches Eq (c.identifier key) (d.identifier key) := h.identifierWhere key _

theorem letter (h : c.Alike d) (key : String) : Matches Eq (c.letter key) (d.letter key) := by
  unfold Cursor.letter
  apply (h.string key).andThen
  intro s
  cases Naming.letter? s with
  | some l => exact .ok rfl
  | none => exact h.rejectAt key _

/-! ## §3. Lists and objects of two documents. -/

theorem listBetween (h : c.Alike d) (key : String) (min max : Nat) :
    Matches Eq (c.listBetween key min max) (d.listBetween key min max) := by
  unfold Cursor.listBetween
  apply (h.fieldAs key _ _).andThen
  intro elems
  split
  · exact h.rejectAt key _
  · exact .ok rfl

theorem elementsOf (h : c.Alike d) (key : String) (elems : List Value) :
    List.Forall₂ Cursor.Alike (c.elementsOf key elems) (d.elementsOf key elems) := by
  unfold Cursor.elementsOf
  rw [List.forall₂_map_left_iff, List.forall₂_map_right_iff]
  apply List.forall₂_same.2
  intro e _
  exact ⟨rfl, (h.path.key key).index e.2⟩

theorem strings (h : c.Alike d) (key : String) (min max : Nat) :
    Matches Eq (c.strings key min max) (d.strings key min max) := by
  unfold Cursor.strings
  apply (h.listBetween key min max).andThen
  intro elems
  rw [← List.forall₂_eq_eq_eq]
  apply matches_mapM (h.elementsOf key elems)
  intro e e' he
  rw [he.value]
  cases e'.value.string? with
  | some s => exact .ok rfl
  | none => exact he.reject _

theorem objects (h : c.Alike d) (key : String) (min max : Nat) :
    Matches (List.Forall₂ Cursor.Alike) (c.objects key min max) (d.objects key min max) := by
  unfold Cursor.objects
  apply (h.listBetween key min max).andThen
  intro elems
  apply matches_mapM (h.elementsOf key elems)
  intro e e' he
  rw [he.value]
  split
  · exact .ok he
  · exact he.reject _

theorem enter (h : c.Alike d) (key : String) :
    Matches Cursor.Alike (c.enter key) (d.enter key) := by
  unfold Cursor.enter
  rw [h.value]
  cases d.value.field? key with
  | none => exact h.rejectAt key _
  | some v =>
      show Matches Cursor.Alike (if v.isObject then .ok ⟨v, c.keyPath key⟩ else _)
        (if v.isObject then .ok ⟨v, d.keyPath key⟩ else _)
      split
      · exact .ok ⟨rfl, h.path.key key⟩
      · exact h.rejectAt key _

/-- The first elements of a name in two lists of alike elements. -/
theorem find (h : c.Alike d) (key field value : String) :
    Matches Cursor.Alike (c.find key field value) (d.find key field value) := by
  unfold Cursor.find
  apply (h.fieldAs key _ _).andThen
  intro elems
  have hsearch : ∀ {es es' : List Cursor}, List.Forall₂ Cursor.Alike es es' →
      (es.find? (·.isNamed field value) = none ∧ es'.find? (·.isNamed field value) = none)
        ∨ ∃ e e', es.find? (·.isNamed field value) = some e
          ∧ es'.find? (·.isNamed field value) = some e' ∧ e.Alike e' := by
    intro es es' hes
    induction hes with
    | nil => exact Or.inl ⟨rfl, rfl⟩
    | @cons e e' _ _ he _ ih =>
        have hnamed : e.isNamed field value = e'.isNamed field value := by
          unfold Cursor.isNamed
          rw [he.value]
        rw [List.find?_cons, List.find?_cons, hnamed]
        cases e'.isNamed field value with
        | true => exact Or.inr ⟨e, e', rfl, rfl, he⟩
        | false => exact ih
  rcases hsearch (h.elementsOf key elems) with ⟨hc, hd⟩ | ⟨e, e', hc, hd, he⟩
  · rw [hc, hd]
    exact h.rejectAt key _
  · rw [hc, hd]
    exact .ok he

end Document.Cursor.Alike

end Readings

end PrinterFirmware
