/-
  PrinterFirmware.Proofs.Parallel
  ───────────────────────────────
  **TWO WALKS SIDE BY SIDE.**

  Walks over one section at corresponding places go side by side: they are built from the
  same operations of a build, and look at the same values.

      ChoicesRelated       choices between the same tags, with related handlers
      Parallel             two walks with related results
      parallel_choose      such choices, whose handlers go side by side
      parallel_mapList     walks over the elements of a list

  The rules follow the forms of walks, as those about one walk do: results, one walk after
  another, looks at the documents, choices, sequences, and the operations of a build.
-/
import PrinterFirmware.Build.Workspace
import PrinterFirmware.Document.Sequence
import PrinterFirmware.Proofs.Beside
import PrinterFirmware.Proofs.Walk

namespace PrinterFirmware

open Document Naming Build

variable {α β γ δ : Type}

/-! ## §1. Choices between the same tags. -/

/-- Handlers which do related things on related objects. -/
def HandlersRelated (N : Cursor → Cursor → Prop) (W : Build α → Build β → Prop)
    (f : Handler Workspace α) (g : Handler Workspace β) : Prop :=
  ∀ tag c d, N c d → W (f tag c) (g tag d)

/-- Clauses of the same tags, whose handlers do related things on related objects. -/
inductive ClauseRelated (N : Cursor → Cursor → Prop) (W : Build α → Build β → Prop) :
    Clause Workspace α → Clause Workspace β → Prop where
  | option {tag : String} {f : Cursor → Build α} {g : Cursor → Build β}
      (h : ∀ c d, N c d → W (f c) (g d)) : ClauseRelated N W (.option tag f) (.option tag g)
  | options {tags : List String} {f : Handler Workspace α} {g : Handler Workspace β}
      (h : HandlersRelated N W f g) : ClauseRelated N W (.options tags f) (.options tags g)
  | otherwise {f : Handler Workspace α} {g : Handler Workspace β} (h : HandlersRelated N W f g) :
      ClauseRelated N W (.otherwise f) (.otherwise g)

/-- Choices between the same tags, whose handlers do related things on related objects. -/
structure ChoicesRelated (N : Cursor → Cursor → Prop) (W : Build α → Build β → Prop)
    (C : Choice Workspace α) (D : Choice Workspace β) : Prop where
  entries : C.entries = D.entries
  handlers : List.Forall₂ (HandlersRelated N W) C.handlers D.handlers
  fallback : Option.Rel (HandlersRelated N W) C.fallback D.fallback

namespace ChoicesRelated

variable {N : Cursor → Cursor → Prop} {W : Build α → Build β → Prop} {C C' : Choice Workspace α}
  {D D' : Choice Workspace β}

theorem handler? (h : ChoicesRelated N W C D) (tag : String) :
    Option.Rel (HandlersRelated N W) (C.handler? tag) (D.handler? tag) := by
  have hget : ∀ {fs : List (Handler Workspace α)} {gs : List (Handler Workspace β)} (i : Nat),
      List.Forall₂ (HandlersRelated N W) fs gs →
      Option.Rel (HandlersRelated N W) fs[i]? gs[i]? := by
    intro fs gs i hfgs
    induction hfgs generalizing i with
    | nil => exact .none
    | cons hfg _ ih =>
        cases i with
        | zero => exact .some hfg
        | succ i => exact ih i
  unfold Choice.handler?
  rw [h.entries]
  cases D.entries.find? (·.1 == tag) with
  | none => exact h.fallback
  | some entry => exact hget entry.2 h.handlers

theorem tags (h : ChoicesRelated N W C D) : C.tags = D.tags := by
  unfold Choice.tags
  rw [h.entries]

theorem addArm {tags : List String} {f : Handler Workspace α} {g : Handler Workspace β}
    (h : ChoicesRelated N W C D) (hfg : HandlersRelated N W f g) (hC : C.addArm tags f = .ok C') :
    ∃ D', D.addArm tags g = .ok D' ∧ ChoicesRelated N W C' D' := by
  obtain ⟨hnew, rfl⟩ := Choice.addArm_eq_ok hC
  have hnew' : Choice.repeated? D.tags tags = none := h.tags ▸ hnew
  refine ⟨D.withArm tags g hnew', Choice.addArm_of_new hnew', ?_, ?_, h.fallback⟩
  · show C.entries ++ tags.map (·, C.handlers.length) = D.entries ++ tags.map (·, D.handlers.length)
    rw [h.entries, h.handlers.length_eq]
  · exact List.rel_append h.handlers (.cons hfg .nil)

theorem add {k : Clause Workspace α} {l : Clause Workspace β} (h : ChoicesRelated N W C D)
    (hkl : ClauseRelated N W k l) (hC : C.add k = .ok C') :
    ∃ D', D.add l = .ok D' ∧ ChoicesRelated N W C' D' := by
  cases hkl with
  | option hfg => exact h.addArm (fun _ => hfg) hC
  | options hfg => exact h.addArm hfg hC
  | otherwise hfg =>
      have hfallback : C.fallback.isSome = D.fallback.isSome := by
        have hrel := h.fallback
        revert hrel
        cases C.fallback <;> cases D.fallback <;> intro hrel <;> cases hrel
        · rfl
        · rfl
      simp only [Choice.add] at hC ⊢
      rw [← hfallback]
      by_cases hsome : C.fallback.isSome
      · rw [if_pos hsome] at hC
        cases hC
      · rw [if_neg hsome] at hC ⊢
        injection hC with hC
        subst hC
        exact ⟨_, rfl, h.entries, h.handlers, .some hfg⟩

theorem foldlM {cs : List (Clause Workspace α)} {ds : List (Clause Workspace β)}
    (hclauses : List.Forall₂ (ClauseRelated N W) cs ds) (h : ChoicesRelated N W C D)
    (hC : cs.foldlM Choice.add C = .ok C') :
    ∃ D', ds.foldlM Choice.add D = .ok D' ∧ ChoicesRelated N W C' D' := by
  induction hclauses generalizing C D with
  | nil =>
      injection hC with hC
      subst hC
      exact ⟨D, rfl, h⟩
  | @cons k l _ _ hkl _ ih =>
      rw [List.foldlM_cons] at hC
      cases hadd : C.add k with
      | error b => rw [hadd] at hC; cases hC
      | ok C₁ =>
          rw [hadd] at hC
          obtain ⟨D₁, hD, h₁⟩ := h.add hkl hadd
          obtain ⟨D', hD', h'⟩ := ih h₁ hC
          refine ⟨D', ?_, h'⟩
          rw [List.foldlM_cons, hD]
          exact hD'

/-- Clauses which go side by side with those of a choice make a choice, too. -/
theorem ofClauses {cs : List (Clause Workspace α)} {ds : List (Clause Workspace β)}
    (hclauses : List.Forall₂ (ClauseRelated N W) cs ds) (hC : Choice.ofClauses cs = .ok C) :
    ∃ D, Choice.ofClauses ds = .ok D ∧ ChoicesRelated N W C D :=
  foldlM hclauses ⟨rfl, .nil, .none⟩ hC

end ChoicesRelated

/-! ## §2. Walks side by side. -/

variable [Correspondence]

/-- Two walks which do the same in the same order, with looks which match. -/
inductive Parallel : {α β : Type} → (α → β → Prop) → Build α → Build β → Prop where
  | pure {α β : Type} {R : α → β → Prop} {a : α} {b : β} (h : R a b) :
      Parallel R (pure a) (pure b)
  | breach {α β : Type} {R : α → β → Prop} (b : Breach) : Parallel R (breach b) (breach b)
  | bind {α β γ δ : Type} {R : α → β → Prop} {S : γ → δ → Prop} {m : Build α} {n : Build β}
      {f : α → Build γ} {g : β → Build δ} (h : Parallel R m n)
      (k : ∀ a b, R a b → Parallel S (f a) (g b)) : Parallel S (m >>= f) (n >>= g)
  | look {α β : Type} {R : α → β → Prop} {r : Reading α} {s : Reading β} (h : Matches R r s) :
      Parallel R (liftM r) (liftM s)
  | item (item : Item) : Parallel Eq (emit item) (emit item)
  | registerObjects (kind : Hardware) {cs ds : List Cursor} (h : List.Forall₂ Cursor.Alike cs ds) :
      Parallel Eq (registerObjects kind cs) (registerObjects kind ds)
  | findObject (kind : Hardware) {c d : Cursor} (h : c.Alike d) (key : String) :
      Parallel Cursor.Alike (findObject kind c key) (findObject kind d key)
  | registerFacility (f : Facility) : Parallel Eq (registerFacility f) (registerFacility f)
  /-- A look at a facility. -/
  | facility {α : Type} (kind : FacilityKind) {f : Option Facility → Build α}
      (h : ∀ o, Parallel Eq (f o) (f o)) :
      Parallel Eq (do f ((← get).facility? kind)) (do f ((← get).facility? kind))
  | setFacility (f : Facility) :
      Parallel Eq (modify (·.setFacility f) : Build Unit) (modify (·.setFacility f))
  | deferDriver (a : AnalogDriver) :
      Parallel Eq (defer (.analogDriver a)) (defer (.analogDriver a))
  | claimLetter (scope : LetterScope) {c d : Cursor} (h : c.Alike d) (key : String) :
      Parallel Eq (claimLetter scope c key) (claimLetter scope d key)
  | freshLetters {α β : Type} {R : α → β → Prop} (scope : LetterScope) {m : Build α} {n : Build β}
      (h : Parallel R m n) : Parallel R (withFreshLetters scope m) (withFreshLetters scope n)

section Walks

variable {R : α → β → Prop} {S : γ → δ → Prop} {c d : Cursor} {key : String}

/-- Two walks with the same result, and what is made of it. -/
theorem Parallel.andThen {m n : Build α} {f : α → Build γ} {g : α → Build δ}
    (h : Parallel Eq m n) (k : ∀ a, Parallel S (f a) (g a)) : Parallel S (m >>= f) (n >>= g) := by
  apply h.bind
  rintro a _ rfl
  exact k a

/-- Two looks which find the same, before walks. -/
theorem Parallel.read {r s : Reading α} {f : α → Build γ} {g : α → Build δ} (h : Matches Eq r s)
    (k : ∀ a, Parallel S (f a) (g a)) :
    Parallel S ((liftM r : Build α) >>= f) ((liftM s : Build α) >>= g) :=
  (Parallel.look h).andThen k

/-- Two looks which find related things, before walks. -/
theorem Parallel.readAlike {r : Reading α} {s : Reading β} {f : α → Build γ} {g : β → Build δ}
    (h : Matches R r s) (k : ∀ a b, R a b → Parallel S (f a) (g b)) :
    Parallel S ((liftM r : Build α) >>= f) ((liftM s : Build β) >>= g) :=
  (Parallel.look h).bind k

/-- An item before two walks. -/
theorem Parallel.emit {m : Build γ} {n : Build δ} (item : Item) (h : Parallel S m n) :
    Parallel S (do Build.emit item; m) (do Build.emit item; n) :=
  (Parallel.item item).andThen fun _ => h

theorem parallel_ite {p : Prop} [Decidable p] {m m' : Build α} {n n' : Build β}
    (h : Parallel R m n) (h' : Parallel R m' n') :
    Parallel R (if p then m else m') (if p then n else n') := by
  split
  · exact h
  · exact h'

/-! ## §3. Choices and sequences. -/

/-- Choosing on a tag which has been read already. -/
theorem parallel_chooseOn {C : Choice Workspace α} {D : Choice Workspace β}
    (h : ChoicesRelated Cursor.Alike (Parallel R) C D) (hcd : c.Alike d) (tag : String) :
    Parallel R (c.chooseOn tag C) (d.chooseOn tag D) := by
  have hhandler := h.handler? tag
  cases hC : C.handler? tag with
  | none =>
      cases hD : D.handler? tag with
      | none =>
          rw [Cursor.chooseOn_none c hC, Cursor.chooseOn_none d hD]
          show Parallel R (liftM (c.reject (.unknownChoice tag) : Reading α) : Build α)
            (liftM (d.reject (.unknownChoice tag) : Reading β))
          exact .look (hcd.reject _)
      | some g =>
          rw [hC, hD] at hhandler
          cases hhandler
  | some f =>
      cases hD : D.handler? tag with
      | none =>
          rw [hC, hD] at hhandler
          cases hhandler
      | some g =>
          rw [hC, hD] at hhandler
          cases hhandler with
          | some hfg =>
              rw [Cursor.chooseOn_some c hC, Cursor.chooseOn_some d hD]
              exact hfg tag c d hcd

theorem parallel_choose {cs : List (Clause Workspace α)} {ds : List (Clause Workspace β)}
    (h : c.Alike d) (hcs : ∃ C, Choice.ofClauses cs = .ok C)
    (hclauses : List.Forall₂ (ClauseRelated Cursor.Alike (Parallel R)) cs ds) :
    Parallel R (c.choose key cs) (d.choose key ds) := by
  obtain ⟨C, hC⟩ := hcs
  obtain ⟨D, hD, hchoices⟩ := ChoicesRelated.ofClauses hclauses hC
  unfold Cursor.choose
  rw [hC, hD]
  apply Parallel.bind (R := ChoicesRelated Cursor.Alike (Parallel R)) (.pure hchoices)
  intro C' D' hchoices'
  apply Parallel.readAlike (h.enter key)
  intro c' d' h'
  apply Parallel.read (h'.string Cursor.tagKey)
  intro tag
  exact parallel_chooseOn hchoices' h' tag

theorem parallel_walkFrom {f g : Cursor → Nat → Build TypeExpr} {cs ds : List Cursor}
    (hcs : List.Forall₂ Cursor.Alike cs ds)
    (h : ∀ i c d, c.Alike d → Parallel Eq (f c i) (g d i)) (i : Nat) :
    Parallel Eq (Cursor.walkFrom f i cs) (Cursor.walkFrom g i ds) := by
  induction hcs generalizing i with
  | nil => exact Parallel.pure rfl
  | cons hcd _ ih =>
      unfold Cursor.walkFrom
      apply (h i _ _ hcd).andThen
      intro e
      apply (ih (i + 1)).andThen
      intro es
      exact Parallel.pure rfl

theorem parallel_mapList {f g : Cursor → Nat → Build TypeExpr} (hcd : c.Alike d) (key : String)
    (min max : Nat) (h : ∀ i c d, c.Alike d → Parallel Eq (f c i) (g d i)) :
    Parallel Eq (c.mapList key min max f) (d.mapList key min max g) := by
  unfold Cursor.mapList
  apply Parallel.readAlike (hcd.objects key min max)
  intro cs ds hcs
  apply (parallel_walkFrom hcs h 0).andThen
  intro es
  exact Parallel.pure rfl

theorem parallel_walkNumbered {f g : Cursor → Nat → Build TypeExpr} (hcd : c.Alike d)
    (stem : String) (h : ∀ i c d, c.Alike d → Parallel Eq (f c i) (g d i)) (i count : Nat) :
    Parallel Eq (c.walkNumbered stem f i count) (d.walkNumbered stem g i count) := by
  induction count generalizing i with
  | zero => exact Parallel.pure rfl
  | succ count ih =>
      unfold Cursor.walkNumbered
      apply Parallel.readAlike (hcd.enter _)
      intro e e' he
      apply (h i e e' he).andThen
      intro result
      apply (ih (i + 1)).andThen
      intro results
      exact Parallel.pure rfl

theorem parallel_mapNumbered {f g : Cursor → Nat → Build TypeExpr} (hcd : c.Alike d)
    (countKey elemsKey stem : String) (min max : Nat)
    (h : ∀ i c d, c.Alike d → Parallel Eq (f c i) (g d i)) :
    Parallel Eq (c.mapNumbered countKey elemsKey stem min max f)
      (d.mapNumbered countKey elemsKey stem min max g) := by
  unfold Cursor.mapNumbered
  apply Parallel.read (hcd.int countKey)
  intro n
  apply parallel_ite
  · exact Parallel.look (hcd.rejectAt countKey _)
  · apply Parallel.readAlike (hcd.enter elemsKey)
    intro e e' he
    apply (parallel_walkNumbered he stem h 0 _).andThen
    intro es
    exact Parallel.pure rfl

end Walks

/-! ## §4. Operations of a build. -/

section Operations

variable {c d : Cursor}

theorem parallel_declareNumber (name : String) (v : Binary64) :
    Parallel Eq (declareNumber name v) (declareNumber name v) :=
  .emit _ (.pure rfl)

theorem parallel_declareOption (name : String) (v : Binary64) :
    Parallel Eq (declareOption name v) (declareOption name v) :=
  .emit _ (.pure rfl)

theorem parallel_emitAll (items : List Item) : Parallel Eq (emitAll items) (emitAll items) := by
  induction items with
  | nil => exact .pure rfl
  | cons item rest ih => exact .emit item ih

theorem parallel_registerList (kind : Hardware) (hcd : c.Alike d) (key : String) :
    Parallel Eq (registerList kind c key) (registerList kind d key) := by
  unfold registerList
  apply Parallel.readAlike (hcd.objects key 0 maxObjects)
  intro cs ds hcs
  exact .registerObjects kind hcs

/-- The clock, if a look at its facility has found it. -/
def clockIn : Option Facility → Build Clock
  | some (.clock c) => return c
  | _ => breach (.facilityMissing .clock)

theorem parallel_clock : Parallel Eq Build.clock Build.clock := by
  have hclock : Build.clock = (do clockIn ((← get).facility? .clock)) := by
    unfold Build.clock clockIn
    rfl
  rw [hclock]
  refine .facility .clock ?_
  intro o
  unfold clockIn
  split
  · exact .pure rfl
  · exact .breach _

/-- The grammars of pin names, if a look at their facility has found them. -/
def pinNamesIn : Option Facility → Build (List PinNames)
  | some (.pinNames names) => return names
  | _ => breach (.facilityMissing .pinNames)

theorem parallel_pinNames : Parallel Eq Build.pinNames Build.pinNames := by
  have hnames : Build.pinNames = (do pinNamesIn ((← get).facility? .pinNames)) := by
    unfold Build.pinNames pinNamesIn
    rfl
  rw [hnames]
  refine .facility .pinNames ?_
  intro o
  unfold pinNamesIn
  split
  · exact .pure rfl
  · exact .breach _

/-- The analog pins, if a look at their facility has found them. -/
def analogPinsIn : Option Facility → Build (List String)
  | some (.analogPins pins) => return pins
  | _ => breach (.facilityMissing .analogPins)

theorem parallel_analogPins : Parallel Eq Build.analogPins Build.analogPins := by
  have hpins : Build.analogPins = (do analogPinsIn ((← get).facility? .analogPins)) := by
    unfold Build.analogPins analogPinsIn
    rfl
  rw [hpins]
  refine .facility .analogPins ?_
  intro o
  unfold analogPinsIn
  split
  · exact .pure rfl
  · exact .breach _

theorem parallel_addAnalogPin (pin : String) :
    Parallel Eq (addAnalogPin pin) (addAnalogPin pin) := by
  unfold addAnalogPin
  apply parallel_analogPins.andThen
  intro pins
  exact .setFacility _

end Operations

end PrinterFirmware
