/-
  PrinterFirmware.Proofs.Closing
  ──────────────────────────────
  **HOW A BUILD IS FINISHED.**

  The work which has been put off is done backwards, each piece on the state which the one
  before left; then every facility makes its contributions, in the order of registration;
  then the program is rendered.  The first failure ends all that.

      Composed.keeps     what every operation of a build keeps, a program keeps
      Frozen             what does not change any more while a build is being finished
      Attempts           a program asks for a registration
      Course             the ways in which finishing can go
      finish_closes      finishing goes one of these ways and keeps what is frozen

  The work may be any program which is built from the operations of a build.
-/
import PrinterFirmware.Proofs.Composed
import PrinterFirmware.Proofs.Registration

namespace PrinterFirmware

open Document Build

variable {α β : Type} {w w' : Workspace}

/-! ## §1. What stays while a build is being finished. -/

/-- Objects, the sequence of facilities and the work put off are the same; what had been
contributed is still there. -/
structure Workspace.Frozen (w w' : Workspace) : Prop where
  phase : w'.phase = w.phase
  objects : w'.objects = w.objects
  kinds : w'.facilities.map (·.kind) = w.facilities.map (·.kind)
  deferred : w'.deferred = w.deferred
  items : w.draft.items <+: w'.draft.items

namespace Workspace.Frozen

theorem refl (w : Workspace) : w.Frozen w := ⟨rfl, rfl, rfl, rfl, List.prefix_rfl⟩

theorem trans {w₁ w₂ w₃ : Workspace} (h : w₁.Frozen w₂) (h' : w₂.Frozen w₃) : w₁.Frozen w₃ :=
  ⟨h'.phase.trans h.phase, h'.objects.trans h.objects, h'.kinds.trans h.kinds,
    h'.deferred.trans h.deferred, h.items.trans h'.items⟩

end Workspace.Frozen

/-- The state which a program leaves, however it ends. -/
def Build.after (m : Build α) (w : Workspace) : Workspace :=
  match m w with
  | .ok _ w' => w'
  | .error _ w' => w'

theorem after_ok {m : Build α} {a : α} (h : m w = .ok a w') : after m w = w' := by
  unfold after
  rw [h]

theorem after_error {m : Build α} {e : Failure} (h : m w = .error e w') : after m w = w' := by
  unfold after
  rw [h]

theorem after_bind_ok {m : Build α} {f : α → Build β} {a : α} (h : m w = .ok a w') :
    after (m >>= f) w = after (f a) w' := by
  unfold after
  rw [bind_ok h]

theorem after_attempt (m : Build α) (w : Workspace) : after (attempt m) w = after m w := by
  unfold after attempt
  cases m w with
  | ok a w' => rfl
  | error e w' => cases e <;> rfl

/-- A property of states which every operation of a build keeps. -/
structure Build.Keeps (I : Workspace → Prop) : Prop where
  item : ∀ item w, I w → I (after (emit item) w)
  objects : ∀ kind nodes w, I w → I (after (registerObjects kind nodes) w)
  facility : ∀ f w, I w → I (after (registerFacility f) w)
  deferred : ∀ d w, I w → I (after (defer d) w)
  /-- What a facility holds may change. -/
  held : ∀ f (w : Workspace), I w → I (w.setFacility f)
  letters : ∀ letters w, I w → I { w with letters := letters }
  journal : ∀ journal w, I w → I { w with journal := journal }

/-- **A program keeps what every operation keeps**, whether it succeeds or fails. -/
theorem Composed.keeps {I : Workspace → Prop} {m : Build α} (h : Composed m) (hI : Keeps I)
    (hw : I w) : I (after m w) := by
  induction h generalizing w with
  | pure | fail | look => exact hw
  | @bind _ _ m f _ _ ihm ihf =>
      have hm := ihm hw
      cases hrun : m w with
      | ok a w₁ =>
          rw [after_ok hrun] at hm
          rw [after_bind_ok hrun]
          exact ihf a hm
      | error e w₁ =>
          rw [after_error hrun] at hm
          rw [after_error (bind_error hrun)]
          exact hm
  | attempt _ ih =>
      rw [after_attempt]
      exact ih hw
  | item item => exact hI.item item w hw
  | registerObjects kind nodes => exact hI.objects kind nodes w hw
  | registerFacility f => exact hI.facility f w hw
  | setFacility f => exact hI.held f w hw
  | defer d => exact hI.deferred d w hw
  | letters f => exact hI.letters _ w hw
  | @freshLetters _ scope m _ ih =>
      -- The letters of the scope are put aside for the program and put back behind it.
      have hm := ih (hI.letters (lettersBut scope w.letters) w hw)
      unfold after withFreshLetters at *
      cases hrun : m { w with letters := lettersBut scope w.letters } with
      | ok a w₁ =>
          rw [hrun] at hm
          exact hI.letters _ w₁ hm
      | error e w₁ =>
          rw [hrun] at hm
          exact hI.letters _ w₁ hm
  | record answer => exact hI.journal _ w hw

theorem registerObjects_finishing (hw : w.phase = .finishing) (kind : Hardware)
    (nodes : List Cursor) :
    registerObjects kind nodes w = .error (.breach (.closed .objects)) w := by
  unfold registerObjects
  exact bind_error (whileCollecting_finishing hw _)

theorem frozen_emit (item : Item) (w : Workspace) : w.Frozen (after (emit item) w) := by
  unfold after emit
  cases hadd : w.draft.add item with
  | error b => exact .refl w
  | ok d =>
      obtain ⟨rfl, -⟩ := Draft.add_eq_ok hadd
      exact ⟨rfl, rfl, rfl, rfl, List.prefix_append _ _⟩

/-- Once finishing has begun it goes on, and no operation changes what is frozen. -/
theorem keeps_frozen (w : Workspace) : Keeps fun v => v.phase = .finishing ∧ w.Frozen v := by
  have hstep : ∀ {v v' : Workspace}, v.phase = .finishing ∧ w.Frozen v → v.Frozen v' →
      v'.phase = .finishing ∧ w.Frozen v' := by
    intro v v' hv h
    exact ⟨h.phase.trans hv.1, hv.2.trans h⟩
  constructor
  case item => exact fun item v hv => hstep hv (frozen_emit item v)
  case objects =>
    intro kind nodes v hv
    rwa [after_error (registerObjects_finishing hv.1 kind nodes)]
  case facility =>
    intro f v hv
    rwa [after_error (registerFacility_finishing hv.1 f)]
  case deferred =>
    intro d v hv
    rwa [after_error (defer_finishing hv.1 d)]
  case held =>
    exact fun f v hv => hstep hv ⟨rfl, rfl, v.kinds_setFacility f, rfl, List.prefix_rfl⟩
  case letters => exact fun letters v hv => hstep hv ⟨rfl, rfl, rfl, rfl, List.prefix_rfl⟩
  case journal => exact fun journal v hv => hstep hv ⟨rfl, rfl, rfl, rfl, List.prefix_rfl⟩

/-- **A program leaves what is frozen as it was**, whether it succeeds or fails. -/
theorem Composed.frozen {m : Build α} (h : Composed m) (hw : w.phase = .finishing) :
    w.Frozen (after m w) :=
  (h.keeps (keeps_frozen w) ⟨hw, .refl w⟩).2

/-! ## §2. Registrations which come too late. -/

/-- From a state a program comes to the point where it asks for a registration. -/
inductive Attempts (r : Registration) : {α : Type} → Build α → Workspace → Prop where
  | objects (kind : Hardware) (nodes : List Cursor) (w : Workspace) (h : r = .objects) :
      Attempts r (registerObjects kind nodes) w
  | facility (f : Facility) (w : Workspace) (h : r = .facility) : Attempts r (registerFacility f) w
  | deferredWork (d : Deferred) (w : Workspace) (h : r = .deferredWork) : Attempts r (defer d) w
  | first {α β : Type} {m : Build α} {f : α → Build β} {w : Workspace} (h : Attempts r m w) :
      Attempts r (m >>= f) w
  | later {α β : Type} {m : Build α} {f : α → Build β} {a : α} {w w' : Workspace} (hm : Composed m)
      (ha : m w = .ok a w') (h : Attempts r (f a) w') : Attempts r (m >>= f) w
  | attempt {α : Type} {m : Build α} {w : Workspace} (h : Attempts r m w) :
      Attempts r (attempt m) w
  | freshLetters {α : Type} (scope : LetterScope) {m : Build α} {w : Workspace}
      (h : Attempts r m { w with letters := lettersBut scope w.letters }) :
      Attempts r (withFreshLetters scope m) w

/-- A program which asks for a registration breaks a rule, and that is not caught. -/
theorem Attempts.closed {r : Registration} {m : Build α} (h : Attempts r m w)
    (hw : w.phase = .finishing) : ∃ w', m w = .error (.breach (.closed r)) w' := by
  induction h with
  | objects kind nodes w h => exact h ▸ ⟨w, registerObjects_finishing hw kind nodes⟩
  | facility f w h => exact h ▸ ⟨w, registerFacility_finishing hw f⟩
  | deferredWork d w h => exact h ▸ ⟨w, defer_finishing hw d⟩
  | first _ ih =>
      obtain ⟨w', hm⟩ := ih hw
      exact ⟨w', bind_error hm⟩
  | @later _ _ m f a w w₁ hm ha _ ih =>
      have hphase : w₁.phase = .finishing := (after_ok ha ▸ hm.frozen hw).phase.trans hw
      obtain ⟨w', hf⟩ := ih hphase
      exact ⟨w', (bind_ok ha).trans hf⟩
  | @attempt _ m w _ ih =>
      obtain ⟨w', hm⟩ := ih hw
      refine ⟨w', ?_⟩
      unfold Build.attempt
      rw [hm]
  | freshLetters scope _ ih =>
      obtain ⟨w', hm⟩ := ih hw
      unfold withFreshLetters
      rw [hm]
      exact ⟨_, rfl⟩

/-! ## §3. Programs one after another. -/

/-- Performs programs in order. -/
def performEach : List (Build Unit) → Build Unit
  | [] => pure ()
  | a :: rest => do
      a
      performEach rest

/-- Programs have been performed, each on the state which the one before left. -/
inductive Performed : List (Build Unit) → Workspace → Workspace → Prop where
  | nil (w : Workspace) : Performed [] w w
  | cons {a : Build Unit} {rest : List (Build Unit)} {w w₁ w' : Workspace} (h : a w = .ok () w₁)
      (hrest : Performed rest w₁ w') : Performed (a :: rest) w w'

/-- Programs have been performed up to one which fails; the others after it are not. -/
def Stops (actions : List (Build Unit)) (w : Workspace) (e : Failure) (w' : Workspace) : Prop :=
  ∃ before a after w₁, actions = before ++ a :: after ∧ Performed before w w₁ ∧ a w₁ = .error e w'

theorem performEach_ok_iff {actions : List (Build Unit)} :
    performEach actions w = .ok () w' ↔ Performed actions w w' := by
  induction actions generalizing w with
  | nil =>
      constructor
      · rintro ⟨⟩
        exact .nil _
      · rintro ⟨⟩
        rfl
  | cons a rest ih =>
      constructor
      · intro h
        obtain ⟨_, w₁, ha, hrest⟩ := bind_eq_ok h
        exact .cons ha (ih.1 hrest)
      · rintro ⟨⟩
        next w₁ ha hrest => exact (bind_ok ha).trans (ih.2 hrest)

theorem performEach_error_iff {actions : List (Build Unit)} {e : Failure} :
    performEach actions w = .error e w' ↔ Stops actions w e w' := by
  induction actions generalizing w with
  | nil =>
      constructor
      · rintro ⟨⟩
      · rintro ⟨before, a, after, w₁, hactions, -⟩
        exact absurd hactions (by simp)
  | cons a rest ih =>
      constructor
      · intro h
        cases ha : a w with
        | error e₁ w₁ =>
            cases (bind_error ha).symm.trans h
            exact ⟨[], a, rest, w, rfl, .nil w, ha⟩
        | ok u w₁ =>
            obtain ⟨before, b, after, w₂, rfl, hbefore, hb⟩ := ih.1 ((bind_ok ha).symm.trans h)
            exact ⟨a :: before, b, after, w₂, rfl, .cons ha hbefore, hb⟩
      · rintro ⟨before, b, after, w₁, hactions, hbefore, hb⟩
        cases hbefore with
        | nil =>
            cases hactions
            exact bind_error hb
        | cons ha hrest =>
            cases hactions
            exact (bind_ok ha).trans (ih.2 ⟨_, b, after, w₁, rfl, hrest, hb⟩)

/-- What every operation keeps, programs keep one after another. -/
theorem Performed.keeps {I : Workspace → Prop} (hI : Keeps I) {actions : List (Build Unit)}
    (h : Performed actions w w') (hactions : ∀ a ∈ actions, Composed a) (hw : I w) : I w' := by
  induction h with
  | nil => exact hw
  | @cons a rest w w₁ w' ha _ ih =>
      have hfirst : I w₁ := after_ok ha ▸ (hactions a List.mem_cons_self).keeps hI hw
      exact ih (fun b hb => hactions b (List.mem_cons_of_mem a hb)) hfirst

/-- Programs keep what is frozen one after another. -/
theorem Performed.frozen {actions : List (Build Unit)} (h : Performed actions w w')
    (hactions : ∀ a ∈ actions, Composed a) (hw : w.phase = .finishing) : w.Frozen w' :=
  (h.keeps (keeps_frozen w) hactions ⟨hw, .refl w⟩).2

/-! ## §4. Finishing. -/

/-- The state in which a build is finished. -/
def Workspace.closing (w : Workspace) : Workspace := { w with phase := .finishing, deferred := [] }

/-- What the facilities of a state contribute at the end, in the order of their registration. -/
def hooks (w : Workspace) : List (Build Unit) := w.facilities.map fun f => emitAll f.closingItems

/-- Finishes a build which has put the programs `actions` off. -/
def finishWith (actions : List (Build Unit)) : Build SlotMap := do
  modify Workspace.closing
  performEach actions.reverse
  let w ← get
  performEach (hooks w)
  let w ← get
  w.draft.render

theorem performWorks_eq (works : List Deferred) :
    performWorks works = performEach (works.map performWork) := by
  induction works with
  | nil => rfl
  | cons d rest ih =>
      rw [List.map_cons, performEach, performWorks, ih]

theorem closeFacilities_hooks (fs : List Facility) :
    closeFacilities fs = performEach (fs.map fun f => emitAll f.closingItems) := by
  induction fs with
  | nil => rfl
  | cons f rest ih =>
      rw [List.map_cons, performEach, closeFacilities, ih]

/-- A build puts programs off as data. -/
theorem finish_eq (w : Workspace) : finish w = finishWith (w.deferred.map performWork) w := by
  have hworks := performWorks_eq w.deferred.reverse
  have hhooks : ∀ v : Workspace, closeFacilities v.facilities = performEach (hooks v) :=
    fun v => closeFacilities_hooks v.facilities
  unfold finish finishWith
  simp only [hhooks]
  rw [← List.map_reverse, ← hworks]
  rfl

/-- The ways in which finishing can go: a piece of work which was put off fails, or a
contribution of a facility does, or the program is not rendered, or it is. -/
inductive Course (actions : List (Build Unit)) (w : Workspace) :
    EStateM.Result Failure Workspace SlotMap → Prop where
  | action {e : Failure} {w' : Workspace} (h : Stops actions.reverse w.closing e w') :
      Course actions w (.error e w')
  | hook {e : Failure} {w₁ w' : Workspace} (h : Performed actions.reverse w.closing w₁)
      (hstops : Stops (hooks w₁) w₁ e w') : Course actions w (.error e w')
  | refused {b : Breach} {w₁ w₂ : Workspace} (h : Performed actions.reverse w.closing w₁)
      (hhooks : Performed (hooks w₁) w₁ w₂) (hrender : w₂.draft.render = .error b) :
      Course actions w (.error (.breach b) w₂)
  | rendered {slots : SlotMap} {w₁ w₂ : Workspace} (h : Performed actions.reverse w.closing w₁)
      (hhooks : Performed (hooks w₁) w₁ w₂) (hrender : w₂.draft.render = .ok slots) :
      Course actions w (.ok slots w₂)

theorem Course.eq {actions : List (Build Unit)} {r : EStateM.Result Failure Workspace SlotMap}
    (h : Course actions w r) : finishWith actions w = r := by
  unfold finishWith
  rw [bind_ok (show (modify Workspace.closing : Build Unit) w = .ok () w.closing from rfl)]
  cases h with
  | action h => exact bind_error (performEach_error_iff.2 h)
  | @hook e w₁ w' h hstops =>
      rw [bind_ok (performEach_ok_iff.2 h),
        bind_ok (get_eq w₁)]
      exact bind_error (performEach_error_iff.2 hstops)
  | @refused b w₁ w₂ h hhooks hrender =>
      rw [bind_ok (performEach_ok_iff.2 h),
        bind_ok (get_eq w₁),
        bind_ok (performEach_ok_iff.2 hhooks),
        bind_ok (get_eq w₂), hrender]
      rfl
  | @rendered slots w₁ w₂ h hhooks hrender =>
      rw [bind_ok (performEach_ok_iff.2 h),
        bind_ok (get_eq w₁),
        bind_ok (performEach_ok_iff.2 hhooks),
        bind_ok (get_eq w₂), hrender]
      rfl

theorem exists_course (actions : List (Build Unit)) (w : Workspace) : ∃ r, Course actions w r := by
  cases hactions : performEach actions.reverse w.closing with
  | error e w' => exact ⟨_, .action (performEach_error_iff.1 hactions)⟩
  | ok u w₁ =>
      have hperformed := performEach_ok_iff.1 hactions
      cases hhooks : performEach (hooks w₁) w₁ with
      | error e w' => exact ⟨_, .hook hperformed (performEach_error_iff.1 hhooks)⟩
      | ok u w₂ =>
          have hclosed := performEach_ok_iff.1 hhooks
          cases hrender : w₂.draft.render with
          | error b => exact ⟨_, .refused hperformed hclosed hrender⟩
          | ok slots => exact ⟨_, .rendered hperformed hclosed hrender⟩

theorem course_iff {actions : List (Build Unit)} {r : EStateM.Result Failure Workspace SlotMap} :
    finishWith actions w = r ↔ Course actions w r := by
  constructor
  · rintro rfl
    obtain ⟨r, h⟩ := exists_course actions w
    rw [h.eq]
    exact h
  · exact Course.eq

/-! ## §5. What finishing keeps. -/

theorem emit_eq_ok {item : Item} (h : emit item w = .ok () w') :
    w' = { w with draft := ⟨w.draft.items ++ [item]⟩ } := by
  unfold emit at h
  cases hadd : w.draft.add item with
  | error b =>
      rw [hadd] at h
      cases h
  | ok d =>
      rw [hadd] at h
      cases h
      rw [(Draft.add_eq_ok hadd).1]

/-- Contributed items are put at the end of the draft, and nothing else happens. -/
theorem emitAll_eq_ok {items : List Item} (h : emitAll items w = .ok () w') :
    w' = { w with draft := ⟨w.draft.items ++ items⟩ } := by
  induction items generalizing w with
  | nil =>
      cases h
      rw [List.append_nil]
  | cons item rest ih =>
      obtain ⟨_, w₁, hitem, hrest⟩ := bind_eq_ok h
      rw [ih hrest, emit_eq_ok hitem, List.append_assoc]
      rfl

/-- The contributions of facilities are put at the end of the draft. -/
theorem performed_hooks (h : Performed (hooks w) w w') :
    w' = { w with draft := ⟨w.draft.items ++ w.facilities.flatMap Facility.closingItems⟩ } := by
  apply emitAll_eq_ok
  rw [← closeFacilities_eq, closeFacilities_hooks]
  exact performEach_ok_iff.2 h

/-- Finishing a build which has put the programs `actions` off. -/
structure Finishes (actions : List (Build Unit)) (w : Workspace) : Prop where
  /-- The latest program comes first; then come the facilities, and then the program is
  rendered.  What fails is the end. -/
  course : ∀ r, finishWith actions w = r ↔ Course actions w r
  /-- From one program to a later one nothing frozen changes, and what was contributed is
  seen. -/
  kept : ∀ before between after w₁ w₂, actions.reverse = before ++ between ++ after →
    Performed before w.closing w₁ → Performed between w₁ w₂ → w₁.Frozen w₂
  /-- Nor does it in a program which fails. -/
  failed : ∀ e w', Stops actions.reverse w.closing e w' → w.closing.Frozen w'
  /-- A program which asks for a registration breaks a rule, and is the last one. -/
  closed : ∀ before a after w₁ r, actions.reverse = before ++ a :: after →
    Performed before w.closing w₁ → Attempts r a w₁ →
    ∃ w', finishWith actions w = .error (.breach (.closed r)) w'
  /-- Items are contributed as before. -/
  contributes : ∀ before after w₁, actions.reverse = before ++ after →
    Performed before w.closing w₁ → ∀ item d, w₁.draft.add item = .ok d →
    ∃ w₂, emit item w₁ = .ok () w₂ ∧ w₂.draft = d ∧ w₁.Frozen w₂
  /-- What a facility holds is changed as before, and later programs and the facility itself
  see that. -/
  changes : ∀ before after w₁, actions.reverse = before ++ after →
    Performed before w.closing w₁ → ∀ f, (w₁.facility? f.kind).isSome →
    ∃ w₂, (modify (·.setFacility f) : Build Unit) w₁ = .ok () w₂ ∧
      w₂.facility? f.kind = some f ∧ w₁.Frozen w₂
  /-- The facilities which the programs left make their contributions in the order of their
  registration, after all that is there. -/
  facilities : ∀ w₁ w₂, Performed actions.reverse w.closing w₁ → Performed (hooks w₁) w₁ w₂ →
    w₂ = { w₁ with draft := ⟨w₁.draft.items ++ w₁.facilities.flatMap Facility.closingItems⟩ }

/-- **How a build is finished.**  The work put off may be any programs which are built from the
operations of a build.  That of a build itself is such work, and so is each operation.  While the
document is being read, work is put off behind the work put off before, and a facility is
registered behind the others, so both lists are in the order of registration. -/
theorem finish_closes {actions : List (Build Unit)} (hactions : ∀ a ∈ actions, Composed a)
    (w : Workspace) :
    Finishes actions w ∧
    (∀ v : Workspace, finish v = finishWith (v.deferred.map performWork) v ∧
      ∀ a ∈ v.deferred.map performWork, Composed a) ∧
    (∀ root c operation, Composed (perform root c operation)) ∧
    (∀ (v : Workspace) (d : Deferred), v.phase = .collecting →
      defer d v = .ok () { v with deferred := v.deferred ++ [d] }) ∧
    ∀ (v : Workspace) (f : Facility), v.phase = .collecting → v.facility? f.kind = none →
      registerFacility f v = .ok () { v with facilities := v.facilities ++ [f] } := by
  have hreverse : ∀ a ∈ actions.reverse, Composed a := fun a ha =>
    hactions a (List.mem_reverse.1 ha)
  have hstart : ∀ before rest w₁, actions.reverse = before ++ rest →
      Performed before w.closing w₁ → w.closing.Frozen w₁ := by
    intro before rest w₁ hsplit hbefore
    rw [hsplit] at hreverse
    exact hbefore.frozen (fun a ha => hreverse a (List.mem_append_left _ ha)) rfl
  refine ⟨⟨fun r => course_iff, ?_, ?_, ?_, ?_, ?_, ?_⟩, ?_, composed_perform,
    fun _ d hv => defer_collecting hv d, fun _ _ hv hnew => registerFacility_collecting hv hnew⟩
  · intro before between rest w₁ w₂ hsplit hbefore hbetween
    have hfrozen := hstart before (between ++ rest) w₁ (hsplit.trans (List.append_assoc ..)) hbefore
    rw [hsplit] at hreverse
    exact hbetween.frozen
      (fun a ha => hreverse a (List.mem_append_left _ (List.mem_append_right _ ha))) hfrozen.phase
  · rintro e w' ⟨before, a, rest, w₁, hsplit, hbefore, ha⟩
    have hfrozen := hstart before (a :: rest) w₁ hsplit hbefore
    rw [hsplit] at hreverse
    have hself := (hreverse a (List.mem_append_right _ List.mem_cons_self)).frozen hfrozen.phase
    exact hfrozen.trans (after_error ha ▸ hself)
  · intro before a rest w₁ r hsplit hbefore hattempts
    obtain ⟨w', ha⟩ := hattempts.closed (hstart before (a :: rest) w₁ hsplit hbefore).phase
    exact ⟨w', (Course.action ⟨before, a, rest, w₁, hsplit, hbefore, ha⟩).eq⟩
  · intro before rest w₁ hsplit hbefore item d hadd
    have hemit : emit item w₁ = .ok () { w₁ with draft := d } := by
      unfold emit
      rw [hadd]
    exact ⟨_, hemit, rfl, after_ok hemit ▸ frozen_emit item w₁⟩
  · intro before rest w₁ hsplit hbefore f hf
    obtain ⟨g, hg⟩ := Option.isSome_iff_exists.1 hf
    refine ⟨w₁.setFacility f, rfl, ?_, rfl, rfl, w₁.kinds_setFacility f, rfl, List.prefix_rfl⟩
    rw [Workspace.facility?_setFacility hg, if_pos rfl]
  · exact fun w₁ w₂ _ hhooks => performed_hooks hhooks
  · intro v
    refine ⟨finish_eq v, ?_⟩
    intro a ha
    obtain ⟨d, -, rfl⟩ := List.mem_map.1 ha
    exact composed_performWork d

namespace Sample

/-- A state with one facility. -/
def sharing : Workspace := { Workspace.empty with facilities := [.analogPins []] }

/-- Programs which contribute, change the facility, and register something. -/
def actions : List (Build Unit) :=
  [registerObjects .stepperPort [], emit (.initCall 0 "A"),
    modify (·.setFacility (.analogPins ["P"])), emit (.initCall 0 "B")]

theorem actions_composed : ∀ a ∈ actions, Composed a := by
  rintro a (_ | ⟨_, _ | ⟨_, _ | ⟨_, _ | ⟨_, ⟨⟩⟩⟩⟩⟩)
  · exact .registerObjects _ _
  · exact .item _
  · exact .setFacility _
  · exact .item _

end Sample

/-- The latest contribution comes first; the registration comes last, and too late. -/
theorem sample_closes : ∃ w₁ w',
    Performed [emit (.initCall 0 "B"), modify (·.setFacility (.analogPins ["P"])),
      emit (.initCall 0 "A")] Sample.sharing.closing w₁
    ∧ w₁.draft.items = [.initCall 0 "B", .initCall 0 "A"]
    ∧ w₁.facility? .analogPins = some (.analogPins ["P"])
    ∧ finishWith Sample.actions Sample.sharing = .error (.breach (.closed .objects)) w' := by
  obtain ⟨hfinishes, -⟩ := finish_closes Sample.actions_composed Sample.sharing
  have hperformed := Performed.cons (a := emit (.initCall 0 "B")) (w := Sample.sharing.closing) rfl
    (.cons (a := modify (·.setFacility (.analogPins ["P"]))) rfl
      (.cons (a := emit (.initCall 0 "A")) rfl (.nil _)))
  obtain ⟨w', hw'⟩ := hfinishes.closed _ (registerObjects .stepperPort []) [] _ .objects rfl
    hperformed (.objects _ _ _ rfl)
  exact ⟨_, w', hperformed, rfl, rfl, hw'⟩

end PrinterFirmware
