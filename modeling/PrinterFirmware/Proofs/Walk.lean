/-
  PrinterFirmware.Proofs.Walk
  ───────────────────────────
  **HOW WALKS END.**

  A walk from a context ends with a result in a new context, or it fails.  `Ends`
  states both at once: what holds of the result and of the new context, and what
  holds of the failure.  The rules below take a walk apart in the order in which
  it runs:

      pure, bind            a result; one walk after another
      read                  a look at the document, which changes nothing
      choose                a choice: the rule of every clause
      mapNumbered           a sequence: the walk over its elements

  A rule about all clauses of a choice is stated by `Clauses`, which has one
  constructor for each form of clause.
-/
import PrinterFirmware.Document.Choice
import PrinterFirmware.Document.Sequence

namespace PrinterFirmware

open Document

variable {σ α β : Type}

/-! ## §1. One walk after another. -/

section Results

variable {ε : Type} {m : EStateM ε σ α} {f : α → EStateM ε σ β} {s s' : σ}

/-- A look at the context changes nothing. -/
theorem get_eq (s : σ) : (get : EStateM ε σ σ) s = .ok s s := rfl

theorem bind_ok {a : α} (h : m s = .ok a s') : (m >>= f) s = f a s' := by
  show EStateM.bind m f s = f a s'
  unfold EStateM.bind
  rw [h]

theorem bind_error {e : ε} (h : m s = .error e s') : (m >>= f) s = .error e s' := by
  show EStateM.bind m f s = .error e s'
  unfold EStateM.bind
  rw [h]

theorem bind_eq_ok {b : β} (h : (m >>= f) s = .ok b s') :
    ∃ a s₁, m s = .ok a s₁ ∧ f a s₁ = .ok b s' := by
  cases hm : m s with
  | ok a s₁ => exact ⟨a, s₁, rfl, (bind_ok hm).symm.trans h⟩
  | error e s₁ => cases (bind_error hm).symm.trans h

end Results

/-! ## §2. Ends of walks. -/

/-- From `s` the walk `m` gives a result and a context with `Q`, or fails in a way
with `E`. -/
structure Ends (m : Walk σ α) (s : σ) (Q : α → σ → Prop) (E : Failure → Prop) : Prop where
  result : ∀ a s', m s = .ok a s' → Q a s'
  failure : ∀ e s', m s = .error e s' → E e

section Rules

variable {m : Walk σ α} {f : α → Walk σ β} {s s' : σ} {Q Q' : α → σ → Prop} {R : β → σ → Prop}
  {E : Failure → Prop}

theorem ends_ok {a : α} (hm : m s = .ok a s') (h : Q a s') : Ends m s Q E := by
  constructor
  · intro b t hb
    rw [hm] at hb
    cases hb
    exact h
  · intro e t he
    rw [hm] at he
    cases he

theorem ends_error {e : Failure} (hm : m s = .error e s') (h : E e) : Ends m s Q E := by
  constructor
  · intro b t hb
    rw [hm] at hb
    cases hb
  · intro e t he
    rw [hm] at he
    cases he
    exact h

theorem ends_pure {a : α} (h : Q a s) : Ends (pure a : Walk σ α) s Q E := ends_ok rfl h

theorem ends_throw {e : Failure} (h : E e) : Ends (throw e : Walk σ α) s Q E := ends_error rfl h

/-- A walk which ends with `Q` ends with all that follows from `Q`. -/
theorem Ends.mono (h : Ends m s Q E) (hQ : ∀ a s', Q a s' → Q' a s') : Ends m s Q' E :=
  ⟨fun a s' hm => hQ a s' (h.result a s' hm), h.failure⟩

/-- One walk after another. -/
theorem Ends.bind (h : Ends m s Q E) (k : ∀ a s', Q a s' → Ends (f a) s' R E) :
    Ends (m >>= f) s R E := by
  cases hm : m s with
  | ok a s' =>
      have hf : (m >>= f) s = f a s' := bind_ok hm
      have hk := k a s' (h.result a s' hm)
      exact ⟨fun b t hb => hk.result b t (hf ▸ hb), fun e t he => hk.failure e t (hf ▸ he)⟩
  | error e s' =>
      exact ends_error (bind_error hm) (h.failure e s' hm)

/-- A look at the document changes nothing. -/
theorem ends_read {r : Reading α} (hok : ∀ a, r = .ok a → Q a s)
    (herr : ∀ e, r = .error e → E (.document e)) : Ends (liftM r : Walk σ α) s Q E := by
  cases hr : r with
  | ok a => exact ends_ok rfl (hok a hr)
  | error e => exact ends_error rfl (herr e hr)

/-- A look at the document, and a walk with what has been read. -/
theorem ends_read_bind {r : Reading α} (herr : ∀ e, r = .error e → E (.document e))
    (k : ∀ a, r = .ok a → Ends (f a) s R E) : Ends ((liftM r : Walk σ α) >>= f) s R E := by
  cases hr : r with
  | ok a =>
      have hk := k a hr
      exact ⟨fun b t hb => hk.result b t hb, fun e t he => hk.failure e t he⟩
  | error e => exact ends_error rfl (herr e hr)

end Rules

/-! ## §3. Choices. -/

/-- Every handler of the clauses, run for a tag it is listed for on a node, is a walk
with `P`. -/
inductive Clauses (P : String → Cursor → Walk σ α → Prop) : List (Clause σ α) → Prop where
  | nil : Clauses P []
  | option {tag : String} {handler : Cursor → Walk σ α} {rest : List (Clause σ α)}
      (h : ∀ node, P tag node (handler node)) (hrest : Clauses P rest) :
      Clauses P (.option tag handler :: rest)
  | options {tags : List String} {handler : Handler σ α} {rest : List (Clause σ α)}
      (h : ∀ tag ∈ tags, ∀ node, P tag node (handler tag node)) (hrest : Clauses P rest) :
      Clauses P (.options tags handler :: rest)
  | otherwise {handler : Handler σ α} {rest : List (Clause σ α)}
      (h : ∀ tag node, P tag node (handler tag node)) (hrest : Clauses P rest) :
      Clauses P (.otherwise handler :: rest)

theorem Clauses.mono {P P' : String → Cursor → Walk σ α → Prop} {clauses : List (Clause σ α)}
    (h : Clauses P clauses) (hP : ∀ tag node m, P tag node m → P' tag node m) :
    Clauses P' clauses := by
  induction h with
  | nil => exact .nil
  | option h _ ih => exact .option (fun node => hP _ node _ (h node)) ih
  | options h _ ih => exact .options (fun tag ht node => hP tag node _ (h tag ht node)) ih
  | otherwise h _ ih => exact .otherwise (fun tag node => hP tag node _ (h tag node)) ih

namespace Document.Choice

variable {c c' : Choice σ α} {tags : List String} {tag : String} {handler : Handler σ α}

/-- A new arm lists new tags. -/
theorem addArm_eq_ok (h : c.addArm tags handler = .ok c') :
    ∃ hnew : repeated? c.tags tags = none, c' = c.withArm tags handler hnew := by
  unfold addArm at h
  split at h
  · cases h
  · next hnew =>
      injection h with h
      exact ⟨hnew, h.symm⟩

theorem addArm_of_new (hnew : repeated? c.tags tags = none) :
    c.addArm tags handler = .ok (c.withArm tags handler hnew) := by
  unfold addArm
  split
  · next hrepeated => cases hnew.symm.trans hrepeated
  · rfl

/-- A tag which is not listed is left to the fallback. -/
theorem handler?_of_not_mem (h : tag ∉ c.tags) : c.handler? tag = c.fallback := by
  have hnone : c.entries.find? (·.1 == tag) = none := by
    rw [List.find?_eq_none]
    intro entry hentry heq
    exact h (List.mem_map.2 ⟨entry, hentry, eq_of_beq heq⟩)
  rw [handler?, hnone]

/-- A new arm handles its own tags. -/
theorem handler?_withArm_self (hnew : repeated? c.tags tags = none) (h : tag ∈ tags) :
    (c.withArm tags handler hnew).handler? tag = some handler := by
  have hold : c.entries.find? (·.1 == tag) = none := by
    rw [List.find?_eq_none]
    intro entry hentry heq
    rw [← eq_of_beq heq] at h
    exact (nodup_of_repeated? hnew).2 _ h (List.mem_map.2 ⟨entry, hentry, rfl⟩)
  obtain ⟨entry, hentry⟩ : ∃ entry,
      (tags.map (·, c.handlers.length)).find? (·.1 == tag) = some entry := by
    rw [← Option.isSome_iff_exists, List.find?_isSome]
    exact ⟨(tag, c.handlers.length), List.mem_map.2 ⟨tag, h, rfl⟩, beq_self_eq_true tag⟩
  -- All new entries have the index of the handler which is added.
  obtain ⟨t, -, rfl⟩ := List.mem_map.1 (List.mem_of_find?_eq_some hentry)
  have hfind : (c.withArm tags handler hnew).entries.find? (·.1 == tag)
      = some (t, c.handlers.length) := by
    rw [withArm, List.find?_append, hold, hentry]
    rfl
  rw [handler?, hfind]
  exact List.getElem?_concat_length

/-- A new arm leaves all other tags to the old ones. -/
theorem handler?_withArm_other (hnew : repeated? c.tags tags = none) (h : tag ∉ tags) :
    (c.withArm tags handler hnew).handler? tag = c.handler? tag := by
  have hown : (tags.map (·, c.handlers.length)).find? (·.1 == tag) = none := by
    rw [List.find?_eq_none]
    intro entry hentry heq
    obtain ⟨t, ht, rfl⟩ := List.mem_map.1 hentry
    exact h (eq_of_beq heq ▸ ht)
  have hfind : (c.withArm tags handler hnew).entries.find? (·.1 == tag)
      = c.entries.find? (·.1 == tag) := by
    rw [withArm, List.find?_append, hown, Option.or_none]
  rw [handler?, handler?, hfind]
  cases hold : c.entries.find? (·.1 == tag) with
  | none => rfl
  | some entry =>
      exact List.getElem?_append_left (c.handled entry (List.mem_of_find?_eq_some hold))

/-- A fallback leaves all listed tags to their handlers. -/
theorem handler?_withFallback (h : tag ∈ c.tags) :
    ({ c with fallback := some handler } : Choice σ α).handler? tag = c.handler? tag := by
  obtain ⟨entry, hentry⟩ : ∃ entry, c.entries.find? (·.1 == tag) = some entry := by
    obtain ⟨entry, hmem, rfl⟩ := List.mem_map.1 h
    rw [← Option.isSome_iff_exists, List.find?_isSome]
    exact ⟨entry, hmem, beq_self_eq_true entry.1⟩
  unfold handler?
  rw [hentry]

/-- Every handler of a choice, run for a tag it is listed for, is a walk with `P`. -/
def Handles (c : Choice σ α) (P : String → Cursor → Walk σ α → Prop) : Prop :=
  ∀ tag handler, c.handler? tag = some handler → ∀ node, P tag node (handler tag node)

variable {P : String → Cursor → Walk σ α → Prop}

theorem handles_empty : (empty : Choice σ α).Handles P := by
  intro tag handler h
  cases h

/-- A new arm adds a handler for its own tags only. -/
theorem Handles.addArm (hc : c.Handles P) (h : ∀ tag ∈ tags, ∀ node, P tag node (handler tag node))
    (hadd : c.addArm tags handler = .ok c') : c'.Handles P := by
  obtain ⟨hnew, rfl⟩ := addArm_eq_ok hadd
  intro tag handler' h' node
  by_cases ht : tag ∈ tags
  · rw [handler?_withArm_self hnew ht] at h'
    cases h'
    exact h tag ht node
  · rw [handler?_withArm_other hnew ht] at h'
    exact hc tag handler' h' node

/-- A fallback adds a handler for the tags which no arm lists. -/
theorem Handles.addFallback (hc : c.Handles P) (h : ∀ tag node, P tag node (handler tag node)) :
    ({ c with fallback := some handler } : Choice σ α).Handles P := by
  intro tag handler' h' node
  by_cases ht : tag ∈ c.tags
  · rw [handler?_withFallback ht] at h'
    exact hc tag handler' h' node
  · have hself : ({ c with fallback := some handler } : Choice σ α).handler? tag = some handler :=
      handler?_of_not_mem ht
    cases hself.symm.trans h'
    exact h tag node

/-- What holds of every clause holds of every handler of the choice. -/
theorem handles_foldlM {clauses : List (Clause σ α)} (h : Clauses P clauses) :
    ∀ c : Choice σ α, c.Handles P → ∀ c', clauses.foldlM add c = .ok c' → c'.Handles P := by
  induction h with
  | nil =>
      intro c hc c' hfold
      injection hfold with hfold
      subst hfold
      exact hc
  | @option tag handler rest h _ ih =>
      intro c hc c' hfold
      rw [List.foldlM_cons] at hfold
      show c'.Handles P
      cases hadd : c.add (.option tag handler) with
      | error b => rw [hadd] at hfold; cases hfold
      | ok c₁ =>
          rw [hadd] at hfold
          refine ih c₁ (hc.addArm ?_ hadd) c' hfold
          intro t ht node
          rw [List.mem_singleton.1 ht]
          exact h node
  | @options tags handler rest h _ ih =>
      intro c hc c' hfold
      rw [List.foldlM_cons] at hfold
      cases hadd : c.add (.options tags handler) with
      | error b => rw [hadd] at hfold; cases hfold
      | ok c₁ =>
          rw [hadd] at hfold
          exact ih c₁ (hc.addArm h hadd) c' hfold
  | @otherwise handler rest h _ ih =>
      intro c hc c' hfold
      rw [List.foldlM_cons] at hfold
      cases hadd : c.add (.otherwise handler) with
      | error b => rw [hadd] at hfold; cases hfold
      | ok c₁ =>
          rw [hadd] at hfold
          refine ih c₁ ?_ c' hfold
          simp only [add] at hadd
          split at hadd
          · cases hadd
          · injection hadd with hadd
            subst hadd
            exact hc.addFallback h

theorem handles_ofClauses {clauses : List (Clause σ α)} (h : Clauses P clauses)
    (hc : ofClauses clauses = .ok c) : c.Handles P :=
  handles_foldlM h empty handles_empty c hc

end Document.Choice

namespace Document.Cursor

variable {P : String → Cursor → Walk σ α → Prop}

/-- Choosing on a listed tag is running its handler. -/
theorem chooseOn_some {choice : Choice σ α} {tag : String} {handler : Handler σ α} (c : Cursor)
    (h : choice.handler? tag = some handler) : c.chooseOn tag choice = handler tag c := by
  funext s
  unfold chooseOn Choice.run
  rw [h]
  simp only [EStateM.adaptExcept]
  cases handler tag c s <;> rfl

/-- Choosing on any other tag fails at the node which was chosen on. -/
theorem chooseOn_none {choice : Choice σ α} {tag : String} (c : Cursor)
    (h : choice.handler? tag = none) :
    c.chooseOn tag choice = throw (.document ⟨c.path, .unknownChoice tag⟩) := by
  funext s
  unfold chooseOn Choice.run
  rw [h]
  rfl

end Document.Cursor

section Choices

variable {s : σ} {Q : α → σ → Prop} {E : Failure → Prop} {c : Cursor} {key : String}
  {clauses : List (Clause σ α)}

/-- A choice on a tag which has been read ends as the handlers of its clauses do. -/
theorem ends_chooseOn {choice : Choice σ α} (hclauses : Choice.ofClauses clauses = .ok choice)
    {tag : String} (hunknown : E (.document ⟨c.path, .unknownChoice tag⟩))
    (h : Clauses (fun t node m => t = tag → node = c → Ends m s Q E) clauses) :
    Ends (c.chooseOn tag choice) s Q E := by
  cases hh : choice.handler? tag with
  | some handler =>
      rw [Cursor.chooseOn_some c hh]
      exact Choice.handles_ofClauses h hclauses tag handler hh c rfl rfl
  | none =>
      rw [Cursor.chooseOn_none c hh]
      exact ends_throw hunknown

/-- A choice ends as the handlers of its clauses do, on the object at `key`. -/
theorem ends_choose (hclauses : ∃ choice, Choice.ofClauses clauses = .ok choice)
    (henter : ∀ e, c.enter key = .error e → E (.document e))
    (htag : ∀ node e, c.enter key = .ok node → node.string Cursor.tagKey = .error e →
      E (.document e))
    (hunknown : ∀ node tag, c.enter key = .ok node → node.string Cursor.tagKey = .ok tag →
      E (.document ⟨node.path, .unknownChoice tag⟩))
    (h : Clauses (fun tag node m => c.enter key = .ok node →
      node.string Cursor.tagKey = .ok tag → Ends m s Q E) clauses) :
    Ends (c.choose key clauses) s Q E := by
  obtain ⟨choice, hchoice⟩ := hclauses
  unfold Cursor.choose
  rw [hchoice]
  refine ends_read_bind (r := .ok choice) (fun e he => nomatch he) ?_
  intro choice' heq
  injection heq with heq
  subst heq
  apply ends_read_bind henter
  intro node hnode
  refine ends_read_bind (fun e he => htag node e hnode he) ?_
  intro tag ht
  cases hh : choice.handler? tag with
  | some handler =>
      rw [Cursor.chooseOn_some node hh]
      exact Choice.handles_ofClauses h hchoice tag handler hh node hnode ht
  | none =>
      rw [Cursor.chooseOn_none node hh]
      exact ends_throw (hunknown node tag hnode ht)

end Choices

/-! ## §4. Sequences. -/

section Sequences

variable {s : σ} {Q : TypeExpr → σ → Prop} {E : Failure → Prop} {c : Cursor} {key : String}
  {min max : Nat} {f : Cursor → Nat → Walk σ TypeExpr}

/-- A sequence kept as numbered fields ends as the walk over these fields does, if their
number is within the bounds. -/
theorem ends_mapNumbered {countKey elemsKey stem : String}
    (hcount : ∀ e, c.int countKey = .error e → E (.document e))
    (hrange : ∀ n, c.int countKey = .ok n → n < signedOfWord min ∨ signedOfWord max < n →
      E (.document ⟨c.keyPath countKey, .countOutOfRange n min max⟩))
    (helems : ∀ e, c.enter elemsKey = .error e → E (.document e))
    (h : ∀ n elems, c.int countKey = .ok n → ¬ (n < signedOfWord min ∨ signedOfWord max < n) →
      c.enter elemsKey = .ok elems →
      Ends (Cursor.walkNumbered elems stem f 0 (wordOfSigned n)) s (fun es s' => Q (.list es) s') E) :
    Ends (c.mapNumbered countKey elemsKey stem min max f) s Q E := by
  unfold Cursor.mapNumbered
  apply ends_read_bind hcount
  intro n hn
  by_cases hr : n < signedOfWord min ∨ signedOfWord max < n
  · rw [if_pos hr]
    exact ends_error rfl (hrange n hn hr)
  · rw [if_neg hr]
    apply ends_read_bind helems
    intro elems hel
    apply Ends.bind (h n elems hn hr hel)
    intro es s' hs'
    exact ends_pure hs'

end Sequences

end PrinterFirmware
