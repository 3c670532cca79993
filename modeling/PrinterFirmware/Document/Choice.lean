/-
  PrinterFirmware.Document.Choice
  ───────────────────────────────
  **CHOICES BETWEEN TAGGED OBJECTS.**

  An object of a sum type names its variant in the field `_compoundName`.  A
  choice lists the handlers of the variants it knows, clause by clause, and may
  have a fallback for all others.  Running a choice invokes exactly one handler,
  which is told the tag and the object, or none at all if the tag is unknown.
-/
import PrinterFirmware.Document.Cursor

namespace PrinterFirmware.Document

/-- A handler of a tagged object. -/
abbrev Handler (σ α : Type) := String → Cursor → Walk σ α

/-- A clause of a choice. -/
inductive Clause (σ α : Type) where
  /-- The handler of one variant. -/
  | option (tag : String) (handler : Cursor → Walk σ α)
  /-- The common handler of several variants. -/
  | options (tags : List String) (handler : Handler σ α)
  /-- The handler of all variants which no other clause lists. -/
  | otherwise (handler : Handler σ α)

/-- The handlers of a sum type.  A handler belongs to the tags which are listed with its
index, if any. -/
structure Choice (σ α : Type) where
  /-- The listed tags with the indices of their handlers. -/
  entries : List (String × Nat)
  handlers : List (Handler σ α)
  fallback : Option (Handler σ α)
  /-- No tag is listed twice. -/
  unrepeated : (entries.map (·.1)).Nodup
  /-- Every listed tag has a handler. -/
  handled : ∀ entry ∈ entries, entry.2 < handlers.length

/-- Why a choice gives no result. -/
inductive ChoiceFailure where
  /-- The tag is not listed and there is no fallback. -/
  | unknownVariant (tag : String)
  /-- The handler failed. -/
  | handler (e : Failure)
  deriving DecidableEq, Repr

/-- The text of a violation which a choice ended with. -/
def ChoiceFailure.message : ChoiceFailure → String
  | .unknownVariant tag => "Unknown variant '" ++ tag ++ "'"
  | .handler (.document e) => e.message
  | .handler (.breach b) => b.message

namespace Choice

variable {σ α : Type}

/-! ## §1. Building. -/

/-- The choice without any clause. -/
def empty : Choice σ α where
  entries := []
  handlers := []
  fallback := none
  unrepeated := List.nodup_nil
  handled := fun _ h => nomatch h

/-- The listed tags, in the order in which they were listed. -/
def tags (c : Choice σ α) : List String := c.entries.map (·.1)

/-- The first of `tags` which stands in `seen` or before itself. -/
def repeated? (seen : List String) : List String → Option String
  | [] => none
  | t :: rest => if t ∈ seen then some t else repeated? (t :: seen) rest

/-- Tags none of which stands in `seen` or before itself. -/
theorem nodup_of_repeated? {seen tags : List String} (h : repeated? seen tags = none) :
    tags.Nodup ∧ ∀ t ∈ tags, t ∉ seen := by
  induction tags generalizing seen with
  | nil => exact ⟨List.nodup_nil, fun _ ht => nomatch ht⟩
  | cons t rest ih =>
      rw [repeated?] at h
      split at h
      · cases h
      · next hnew =>
          obtain ⟨hrest, hseen⟩ := ih h
          refine ⟨List.nodup_cons.2 ⟨fun ht => hseen t ht (.head _), hrest⟩, ?_⟩
          intro u hu
          cases hu with
          | head => exact hnew
          | tail _ hu => exact fun hs => hseen u hu (.tail _ hs)

theorem map_fst_entries (tags : List String) (i : Nat) : (tags.map (·, i)).map (·.1) = tags := by
  rw [List.map_map]
  exact List.map_id tags

/-- The choice with one more handler, for tags which are new. -/
def withArm (c : Choice σ α) (tags : List String) (handler : Handler σ α)
    (h : repeated? c.tags tags = none) : Choice σ α where
  entries := c.entries ++ tags.map (·, c.handlers.length)
  handlers := c.handlers ++ [handler]
  fallback := c.fallback
  unrepeated := by
    obtain ⟨htags, hnew⟩ := nodup_of_repeated? h
    rw [List.map_append, map_fst_entries]
    refine List.nodup_append.2 ⟨c.unrepeated, htags, ?_⟩
    rintro t ht _ hnewTag rfl
    exact hnew t hnewTag ht
  handled := by
    intro entry hentry
    rw [List.length_append]
    rcases List.mem_append.1 hentry with hold | hnew
    · exact Nat.lt_add_right _ (c.handled entry hold)
    · obtain ⟨t, -, rfl⟩ := List.mem_map.1 hnew
      exact Nat.lt_succ_self _

/-- The choice with one more handler, unless it lists a tag again. -/
def addArm (c : Choice σ α) (tags : List String) (handler : Handler σ α) :
    Except Breach (Choice σ α) :=
  match h : repeated? c.tags tags with
  | some t => .error (.tagTwice t)
  | none => .ok (c.withArm tags handler h)

/-- The choice with one more clause. -/
def add (c : Choice σ α) : Clause σ α → Except Breach (Choice σ α)
  | .option tag handler => c.addArm [tag] fun _ => handler
  | .options tags handler => c.addArm tags handler
  | .otherwise handler =>
      if c.fallback.isSome then .error .fallbackTwice
      else .ok { c with fallback := some handler }

/-- The choice of the given clauses. -/
def ofClauses (clauses : List (Clause σ α)) : Except Breach (Choice σ α) :=
  clauses.foldlM add empty

/-! ## §2. Running. -/

/-- The handler with which `tag` is listed, or else the fallback. -/
def handler? (c : Choice σ α) (tag : String) : Option (Handler σ α) :=
  match c.entries.find? (·.1 == tag) with
  | some entry => c.handlers[entry.2]?
  | none => c.fallback

/-- Runs the handler of `tag` on `node`. -/
def run (c : Choice σ α) (tag : String) (node : Cursor) : EStateM ChoiceFailure σ α :=
  match c.handler? tag with
  | some handler => (handler tag node).adaptExcept .handler
  | none => throw (.unknownVariant tag)

end Choice

namespace Cursor

variable {σ α : Type}

/-- The field which names the variant of a tagged object. -/
def tagKey : String := "_compoundName"

/-- A failed choice as a failure at the node which was chosen on. -/
def choiceFailure (c : Cursor) : ChoiceFailure → Failure
  | .unknownVariant tag => .document ⟨c.path, .unknownChoice tag⟩
  | .handler e => e

/-- Chooses on a tag which has been read already. -/
def chooseOn (c : Cursor) (tag : String) (choice : Choice σ α) : Walk σ α :=
  (choice.run tag c).adaptExcept c.choiceFailure

/-- Chooses on the tag of the object at `key`. -/
def choose (c : Cursor) (key : String) (clauses : List (Clause σ α)) : Walk σ α := do
  let choice ← Choice.ofClauses clauses
  let node ← c.enter key
  let tag ← node.string tagKey
  node.chooseOn tag choice

end Cursor

end PrinterFirmware.Document
