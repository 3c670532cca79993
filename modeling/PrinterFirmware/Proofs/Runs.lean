/-
  PrinterFirmware.Proofs.Runs
  ───────────────────────────
  **TWO RUNS SIDE BY SIDE.**

  Walks which go side by side end alike: both give a result, and related ones, or both
  reject what they read for the same reason, or break the same rule.  Between them the
  states of the two builds differ in nothing but the registered objects, and every name
  leads to alike objects in both.

      Workspace.Alike    two states of a build in which names lead to alike objects
      Outcome            two ends of walks
      Parallel.runs      walks side by side end alike
-/
import PrinterFirmware.Proofs.Parallel

namespace PrinterFirmware

open Document Build

variable {α β γ δ : Type}

/-! ## §1. Alike states. -/

/-- What a name leads to among the objects of a state and more of them. -/
theorem Workspace.object?_append (w : Workspace) (os : List NamedObject) (kind : Hardware)
    (name : String) :
    Workspace.object? { w with objects := w.objects ++ os } kind name
      = (w.object? kind name).or
          ((os.find? fun o => o.kind == kind && o.name == name).map (·.node)) := by
  unfold Workspace.object?
  rw [List.find?_append]
  cases w.objects.find? fun o => o.kind == kind && o.name == name <;> rfl

theorem rel_or {R : α → β → Prop} {a a' : Option α} {b b' : Option β} (h : Option.Rel R a b)
    (h' : Option.Rel R a' b') : Option.Rel R (a.or a') (b.or b') := by
  cases h with
  | some hab => exact .some hab
  | none => exact h'

variable [Correspondence]

/-- Two states of a build which are equal but for their objects; a name leads to alike ones.
No script has been put off, so cursors stand in objects only. -/
structure Workspace.Alike (w v : Workspace) : Prop where
  objects : ∀ kind name, Option.Rel Cursor.Alike (w.object? kind name) (v.object? kind name)
  rest : { w with objects := v.objects } = v
  scriptless : ∀ d ∈ w.deferred, ∃ a, d = .analogDriver a

namespace Workspace.Alike

variable {w v : Workspace}

theorem phase (h : w.Alike v) : w.phase = v.phase := by rw [← h.rest]

theorem facilities (h : w.Alike v) : w.facilities = v.facilities := by rw [← h.rest]

theorem deferred (h : w.Alike v) : w.deferred = v.deferred := by rw [← h.rest]

theorem draft (h : w.Alike v) : w.draft = v.draft := by rw [← h.rest]

theorem letters (h : w.Alike v) : w.letters = v.letters := by rw [← h.rest]

theorem facility? (h : w.Alike v) (kind : FacilityKind) : w.facility? kind = v.facility? kind := by
  unfold Workspace.facility?
  rw [h.facilities]

/-- Alike states with the same new draft. -/
theorem withDraft (h : w.Alike v) (d : Draft) :
    Workspace.Alike { w with draft := d } { v with draft := d } :=
  ⟨h.objects, by rw [← h.rest], h.scriptless⟩

theorem withLetters (h : w.Alike v) (ls : List (LetterScope × Char)) :
    Workspace.Alike { w with letters := ls } { v with letters := ls } :=
  ⟨h.objects, by rw [← h.rest], h.scriptless⟩

theorem withFacilities (h : w.Alike v) (fs : List Facility) :
    Workspace.Alike { w with facilities := fs } { v with facilities := fs } :=
  ⟨h.objects, by rw [← h.rest], h.scriptless⟩

/-- Alike objects have been registered, which may come in another order. -/
theorem withObjects (h : w.Alike v) {os ps : List NamedObject}
    (hos : ∀ kind name, Option.Rel Cursor.Alike
      ((os.find? fun o => o.kind == kind && o.name == name).map (·.node))
      ((ps.find? fun o => o.kind == kind && o.name == name).map (·.node))) :
    Workspace.Alike { w with objects := w.objects ++ os } { v with objects := v.objects ++ ps } := by
  refine ⟨?_, by rw [← h.rest], h.scriptless⟩
  intro kind name
  rw [Workspace.object?_append, Workspace.object?_append]
  exact rel_or (h.objects kind name) (hos kind name)

/-- One more driver of analog inputs has been put off. -/
theorem withDriver (h : w.Alike v) (a : AnalogDriver) :
    Workspace.Alike { w with deferred := w.deferred ++ [.analogDriver a] }
      { v with deferred := v.deferred ++ [.analogDriver a] } := by
  refine ⟨h.objects, by rw [← h.rest], ?_⟩
  intro d hd
  rcases List.mem_append.1 hd with hd | hd
  · exact h.scriptless d hd
  · exact ⟨a, List.mem_singleton.1 hd⟩

/-- What has been put off is done at the end. -/
theorem finishing (h : w.Alike v) :
    Workspace.Alike { w with phase := .finishing, deferred := [] }
      { v with phase := .finishing, deferred := [] } :=
  ⟨h.objects, by rw [← h.rest], fun d hd => nomatch hd⟩

end Workspace.Alike

theorem alike_empty : Workspace.empty.Alike .empty := ⟨fun _ _ => .none, rfl, fun _ hd => nomatch hd⟩

/-! ## §2. Ends of two walks. -/

/-- Two walks have ended with related results in alike states, have rejected the same, or
have broken the same rule. -/
inductive Outcome (R : α → β → Prop) :
    EStateM.Result Failure Workspace α → EStateM.Result Failure Workspace β → Prop where
  | ok {a : α} {b : β} {w v : Workspace} (h : R a b) (hw : w.Alike v) :
      Outcome R (.ok a w) (.ok b v)
  | document {e f : Located} {w v : Workspace} (h : e.Alike f) :
      Outcome R (.error (.document e) w) (.error (.document f) v)
  | breach {b : Breach} {w v : Workspace} : Outcome R (.error (.breach b) w) (.error (.breach b) v)

/-- From alike states the walks end alike. -/
def RunAlike (R : α → β → Prop) (m : Build α) (n : Build β) : Prop :=
  ∀ w v : Workspace, w.Alike v → Outcome R (m w) (n v)

namespace RunAlike

variable {R : α → β → Prop} {S : γ → δ → Prop} {c d : Cursor}

theorem pure {a : α} {b : β} (h : R a b) : RunAlike R (pure a) (pure b) := fun _ _ hw => .ok h hw

theorem breach (b : Breach) : RunAlike R (Build.breach b) (Build.breach b) := fun _ _ _ => .breach

theorem bind {m : Build α} {n : Build β} {f : α → Build γ} {g : β → Build δ}
    (h : RunAlike R m n) (k : ∀ a b, R a b → RunAlike S (f a) (g b)) :
    RunAlike S (m >>= f) (n >>= g) := by
  intro w v hw
  show Outcome S (EStateM.bind m f w) (EStateM.bind n g v)
  unfold EStateM.bind
  -- The two walks end in the same way, so three of the pairs of ends remain.
  have hmn := h w v hw
  revert hmn
  cases m w <;> cases n v <;> intro hmn <;> cases hmn
  · next hab hw' => exact k _ _ hab _ _ hw'
  · next h => exact .document h
  · exact .breach

/-- Two walks with the same result, and what is made of it. -/
theorem andThen {m n : Build α} {f : α → Build γ} {g : α → Build δ}
    (h : RunAlike Eq m n) (k : ∀ a, RunAlike S (f a) (g a)) : RunAlike S (m >>= f) (n >>= g) := by
  apply h.bind
  rintro a _ rfl
  exact k a

theorem look {r : Reading α} {s : Reading β} (h : Matches R r s) :
    RunAlike R (liftM r : Build α) (liftM s : Build β) := by
  intro w v hw
  cases h with
  | ok h => exact .ok h hw
  | error h => exact .document h

/-- Two looks which find the same, before walks. -/
theorem read {r s : Reading α} {f : α → Build γ} {g : α → Build δ} (h : Matches Eq r s)
    (k : ∀ a, RunAlike S (f a) (g a)) :
    RunAlike S ((liftM r : Build α) >>= f) ((liftM s : Build α) >>= g) :=
  (look h).andThen k

theorem ite {p : Prop} [Decidable p] {m m' : Build α} {n n' : Build β}
    (h : RunAlike R m n) (h' : RunAlike R m' n') :
    RunAlike R (if p then m else m') (if p then n else n') := by
  split
  · exact h
  · exact h'

/-! ## §3. Operations of a build. -/

theorem get : RunAlike Workspace.Alike (get : Build Workspace) (get : Build Workspace) :=
  fun _ _ hw => .ok hw hw

theorem set {w v : Workspace} (h : w.Alike v) :
    RunAlike Eq (set w : Build Unit) (set v : Build Unit) :=
  fun _ _ _ => .ok rfl h

theorem emit (item : Item) : RunAlike Eq (emit item) (emit item) := by
  intro w v hw
  unfold Build.emit
  rw [hw.draft]
  cases v.draft.add item with
  | ok draft => exact .ok rfl (hw.withDraft draft)
  | error b => exact .breach

theorem whileCollecting (r : Registration) :
    RunAlike Eq (whileCollecting r) (whileCollecting r) := by
  unfold Build.whileCollecting
  apply get.bind
  intro w v hw
  rw [hw.phase]
  cases v.phase with
  | collecting => exact pure rfl
  | finishing => exact breach _

theorem addObjects (kind : Hardware) {cs ds : List Cursor} (h : List.Forall₂ Cursor.Alike cs ds) :
    RunAlike Eq (addObjects kind cs) (addObjects kind ds) := by
  induction h with
  | nil => exact pure rfl
  | @cons c d _ _ hcd _ ih =>
      unfold Build.addObjects
      apply (look (hcd.string _)).andThen
      intro name
      apply get.bind
      intro w v hw
      have hobject := hw.objects kind name
      have hset : Workspace.Alike { w with objects := w.objects ++ [NamedObject.mk kind name c] }
          { v with objects := v.objects ++ [NamedObject.mk kind name d] } := by
        apply hw.withObjects
        intro kind' name'
        rw [List.find?_singleton, List.find?_singleton]
        split
        · exact .some hcd
        · exact .none
      have hrest := (set hset).andThen fun _ => ih
      -- The name is taken in both builds or in neither.
      revert hobject
      cases w.object? kind name <;> cases v.object? kind name <;> intro hobject <;> cases hobject
      · exact hrest
      · exact (look (hcd.reject _)).andThen fun _ => hrest

theorem registerObjects (kind : Hardware) {cs ds : List Cursor}
    (h : List.Forall₂ Cursor.Alike cs ds) :
    RunAlike Eq (registerObjects kind cs) (registerObjects kind ds) := by
  unfold Build.registerObjects
  apply (whileCollecting _).andThen
  intro _
  exact addObjects kind h

theorem findObject (kind : Hardware) (hcd : c.Alike d) (key : String) :
    RunAlike Cursor.Alike (findObject kind c key) (findObject kind d key) := by
  unfold Build.findObject
  apply (look (hcd.string key)).andThen
  intro name
  apply get.bind
  intro w v hw
  have hobject := hw.objects kind name
  revert hobject
  cases w.object? kind name <;> cases v.object? kind name <;> intro hobject <;> cases hobject
  · exact look (hcd.rejectAt key _)
  · next h => exact pure h

theorem registerFacility (f : Facility) :
    RunAlike Eq (registerFacility f) (registerFacility f) := by
  unfold Build.registerFacility
  apply (whileCollecting _).andThen
  intro _
  apply get.bind
  intro w v hw
  have hset : Workspace.Alike { w with facilities := w.facilities ++ [f] }
      { v with facilities := v.facilities ++ [f] } := by
    rw [hw.facilities]
    exact hw.withFacilities _
  rw [hw.facility?]
  apply ite
  · exact (breach _).andThen fun _ => set hset
  · exact set hset

/-- The driver of the analog inputs is put off. -/
theorem deferDriver (a : AnalogDriver) :
    RunAlike Eq (defer (.analogDriver a)) (defer (.analogDriver a)) := by
  unfold defer
  apply (whileCollecting _).andThen
  intro _
  apply get.bind
  intro w v hw
  exact set (hw.withDriver a)

/-- A look at a facility. -/
theorem facility (kind : FacilityKind) {f : Option Facility → Build α}
    (h : ∀ o, RunAlike Eq (f o) (f o)) :
    RunAlike Eq (do f ((← MonadState.get).facility? kind))
      (do f ((← MonadState.get).facility? kind)) := by
  apply get.bind
  intro w v hw
  rw [hw.facility?]
  exact h _

theorem setFacility (f : Facility) :
    RunAlike Eq (modify (·.setFacility f) : Build Unit) (modify (·.setFacility f)) := by
  intro w v hw
  have hset : (w.setFacility f).Alike (v.setFacility f) := by
    unfold Workspace.setFacility
    rw [hw.facilities]
    exact hw.withFacilities _
  exact .ok rfl hset

theorem claimLetter (scope : LetterScope) (hcd : c.Alike d) (key : String) :
    RunAlike Eq (claimLetter scope c key) (claimLetter scope d key) := by
  unfold Build.claimLetter
  apply read (hcd.letter key)
  intro l
  apply get.bind
  intro w v hw
  rw [hw.letters]
  have hset := set (hw.withLetters (v.letters ++ [(scope, l)]))
  have hrest := hset.andThen fun _ => pure (Eq.refl l)
  apply ite
  · exact read (hcd.rejectAt key _) fun _ => hrest
  · exact hrest

theorem freshLetters (scope : LetterScope) {m : Build α} {n : Build β} (h : RunAlike R m n) :
    RunAlike R (withFreshLetters scope m) (withFreshLetters scope n) := by
  intro w v hw
  unfold withFreshLetters
  rw [hw.letters]
  -- Whatever the letters were, they are the same in both, before the body and behind it.
  have hmn := h _ _ (hw.withLetters (lettersBut scope v.letters))
  revert hmn
  cases m _ <;> cases n _ <;> intro hmn <;> cases hmn
  · next w' _ v' hab hw' =>
      have hrestored : Workspace.Alike
          { w' with letters := lettersBut scope w'.letters ++ lettersOf scope v.letters }
          { v' with letters := lettersBut scope v'.letters ++ lettersOf scope v.letters } := by
        rw [hw'.letters]
        exact hw'.withLetters _
      exact .ok hab hrestored
  · next h => exact .document h
  · exact .breach

end RunAlike

/-- **Walks side by side end alike.** -/
theorem Parallel.runs {R : α → β → Prop} {m : Build α} {n : Build β} (h : Parallel R m n) :
    RunAlike R m n := by
  induction h with
  | pure h => exact RunAlike.pure h
  | breach b => exact RunAlike.breach b
  | bind _ _ ihm ihk => exact ihm.bind ihk
  | look h => exact RunAlike.look h
  | item item => exact RunAlike.emit item
  | registerObjects kind h => exact RunAlike.registerObjects kind h
  | findObject kind h key => exact RunAlike.findObject kind h key
  | registerFacility f => exact RunAlike.registerFacility f
  | facility kind _ ih => exact RunAlike.facility kind ih
  | setFacility f => exact RunAlike.setFacility f
  | deferDriver a => exact RunAlike.deferDriver a
  | claimLetter scope h key => exact RunAlike.claimLetter scope h key
  | freshLetters scope _ ih => exact ih.freshLetters scope

end PrinterFirmware
