/-
  PrinterFirmware.Proofs.Composed
  ───────────────────────────────
  **PROGRAMS WHICH ARE BUILT FROM THE OPERATIONS OF A BUILD.**

  A program which works on a build asks for operations one after another, may look at the
  state and at what an operation answered, may give up, and may go on after a rejected
  document.  Nothing else can happen to a build.

      Composed             programs of this form
      Parallel.composed    walks side by side are of this form
      composed_perform     so is every operation
      composed_work        and all work which is put off
-/
import PrinterFirmware.Build.Finish
import PrinterFirmware.Proofs.ParallelMachine

namespace PrinterFirmware

open Document Naming Build

/-! ## §1. Programs. -/

/-- What a program answers, or the document which it rejects; a broken rule is not caught. -/
def Build.attempt {α : Type} (m : Build α) : Build (Except Located α) := fun w =>
  match m w with
  | .ok a w' => .ok (.ok a) w'
  | .error (.document e) w' => .ok (.error e) w'
  | .error (.breach b) w' => .error (.breach b) w'

/-- A program which is built from the operations of a build. -/
inductive Composed : {α : Type} → Build α → Prop where
  | pure {α : Type} (a : α) : Composed (pure a)
  | bind {α β : Type} {m : Build α} {f : α → Build β} (h : Composed m) (k : ∀ a, Composed (f a)) :
      Composed (m >>= f)
  | fail {α : Type} (e : Failure) : Composed (throw e : Build α)
  | attempt {α : Type} {m : Build α} (h : Composed m) : Composed (attempt m)
  | look : Composed (get : Build Workspace)
  | item (item : Item) : Composed (emit item)
  | registerObjects (kind : Hardware) (nodes : List Cursor) : Composed (registerObjects kind nodes)
  | registerFacility (f : Facility) : Composed (registerFacility f)
  /-- What a facility holds may change. -/
  | setFacility (f : Facility) : Composed (modify (·.setFacility f))
  | defer (d : Deferred) : Composed (defer d)
  | letters (f : List (LetterScope × Char) → List (LetterScope × Char)) :
      Composed (modify fun w => { w with letters := f w.letters })
  | freshLetters {α : Type} (scope : LetterScope) {m : Build α} (h : Composed m) :
      Composed (withFreshLetters scope m)
  | record (answer : Except Located Answer) : Composed (record answer)

namespace Composed

variable {α β : Type}

theorem read (r : Reading α) : Composed (liftM r : Build α) := by
  cases r with
  | ok a => exact .pure a
  | error e => exact .fail (.document e)

theorem ite {p : Prop} [Decidable p] {m n : Build α} (hm : Composed m) (hn : Composed n) :
    Composed (if p then m else n) := by
  split
  · exact hm
  · exact hn

theorem findObject (kind : Hardware) (c : Cursor) (key : String) :
    Composed (findObject kind c key) := by
  unfold Build.findObject
  refine (read _).bind fun name => look.bind fun w => ?_
  split
  · exact .pure _
  · exact read _

/-- A claimed letter is put at the end of the letters in use, if it is not among them. -/
theorem claimLetter_eq (scope : LetterScope) (c : Cursor) (key : String) :
    Build.claimLetter scope c key = (do
      let l ← (c.letter key : Reading Char)
      let w ← get
      if (scope, l) ∈ w.letters then
        (c.rejectAt key (.duplicateName scope.display) : Reading Char)
      else
        modify fun w => { w with letters := w.letters ++ [(scope, l)] }
        return l) := by
  funext w
  unfold Build.claimLetter
  cases c.letter key with
  | error e => rfl
  | ok l =>
      show (if (scope, l) ∈ w.letters then _ else _ : Build Char) w
        = (if (scope, l) ∈ w.letters then _ else _ : Build Char) w
      split
      · rfl
      · rfl

theorem claimLetter (scope : LetterScope) (c : Cursor) (key : String) :
    Composed (claimLetter scope c key) := by
  rw [claimLetter_eq]
  refine (read _).bind fun l => look.bind fun w => ite (read _) ?_
  exact (letters (· ++ [(scope, l)])).bind fun _ => .pure l

/-- Only results which the first program can give have to be gone on from. -/
theorem bindOn {m : Build α} {f : α → Build β} {P : α → Prop} (h : Composed m)
    (hP : ∀ w a w', m w = .ok a w' → P a) (k : ∀ a, P a → Composed (f a)) :
    Composed (m >>= f) := by
  classical
  have hf : m >>= f = m >>= fun a => if P a then f a else breach (.closed .objects) := by
    funext w
    show EStateM.bind m f w = EStateM.bind m _ w
    unfold EStateM.bind
    cases hm : m w with
    | error e w' => rfl
    | ok a w' =>
        show f a w' = (if P a then f a else breach (.closed .objects)) w'
        rw [if_pos (hP w a w' hm)]
  rw [hf]
  refine h.bind fun a => ?_
  split
  · next ha => exact k a ha
  · exact .fail _

end Composed

/-! ## §2. Walks. -/

section Results

variable {α β : Type} {w w' : Workspace}

theorem withFreshLetters_eq_ok {scope : LetterScope} {m : Build α} {a : α}
    (h : withFreshLetters scope m w = .ok a w') :
    ∃ w₁, m { w with letters := lettersBut scope w.letters } = .ok a w₁ := by
  unfold withFreshLetters at h
  cases hm : m { w with letters := lettersBut scope w.letters } with
  | ok b w₁ =>
      simp only [hm] at h
      cases h
      exact ⟨w₁, rfl⟩
  | error e w₁ =>
      simp only [hm] at h
      cases h

end Results

/-- Walks side by side are built from operations, and each result of the first is related to
some result. -/
theorem Parallel.composed_of_refl [Correspondence] (hrefl : ∀ p : Path, p.Corresponds p)
    {α β : Type} {R : α → β → Prop} {m : Build α} {n : Build β} (h : Parallel R m n) :
    Composed m ∧ ∀ w a w', m w = .ok a w' → ∃ b, R a b := by
  -- Most operations give one result on both sides.
  have hsame : ∀ {α : Type} {m : Build α}, Composed m →
      Composed m ∧ ∀ w a w', m w = .ok a w' → ∃ b, a = b :=
    fun hm => ⟨hm, fun _ a _ _ => ⟨a, rfl⟩⟩
  induction h with
  | @pure _ _ _ a b h =>
      refine ⟨.pure a, ?_⟩
      rintro _ _ _ ⟨⟩
      exact ⟨b, h⟩
  | breach b => exact ⟨.fail _, fun _ _ _ h => nomatch h⟩
  | bind _ _ ihm ihk =>
      obtain ⟨hm, hresults⟩ := ihm
      refine ⟨hm.bindOn hresults fun a ⟨b, hab⟩ => (ihk a b hab).1, ?_⟩
      intro w r w' hr
      obtain ⟨a, w₁, ha, hr⟩ := bind_eq_ok hr
      obtain ⟨b, hab⟩ := hresults w a w₁ ha
      exact (ihk a b hab).2 w₁ r w' hr
  | look h =>
      refine ⟨.read _, ?_⟩
      cases h with
      | @ok a b h =>
          rintro _ _ _ ⟨⟩
          exact ⟨b, h⟩
      | error h => exact fun _ _ _ h => nomatch h
  | item item => exact hsame (.item item)
  | registerObjects kind h => exact hsame (.registerObjects kind _)
  | findObject kind h key =>
      exact ⟨.findObject kind _ key, fun _ node _ _ => ⟨node, rfl, hrefl _⟩⟩
  | registerFacility f => exact hsame (.registerFacility f)
  | facility kind _ ih => exact hsame (Composed.look.bind fun w => (ih _).1)
  | setFacility f => exact hsame (.setFacility f)
  | deferDriver a => exact hsame (.defer _)
  | claimLetter scope h key => exact hsame (.claimLetter scope _ key)
  | freshLetters scope _ ih =>
      refine ⟨.freshLetters scope ih.1, ?_⟩
      intro w r w' hr
      obtain ⟨w₁, hr⟩ := withFreshLetters_eq_ok hr
      exact ih.2 _ r w₁ hr

section Operations

attribute [local instance] Correspondence.equal

/-- A walk which goes side by side with a walk over the same document. -/
theorem Parallel.composed {α β : Type} {R : α → β → Prop} {m : Build α} {n : Build β}
    (h : Parallel R m n) : Composed m :=
  (h.composed_of_refl fun _ => rfl).1

/-! ## §3. Operations and scripts. -/

theorem composed_done {m : Build Unit} (h : Composed m) : Composed (done m) :=
  h.bind fun _ => .pure _

theorem composed_answerExpr {m : Build TypeExpr} (h : Composed m) : Composed (answerExpr m) :=
  h.bind fun _ => .pure _

theorem composed_contribute (item : Item) : Composed (contribute item) := by
  refine (Composed.item item).bind fun _ => ?_
  split
  · exact .pure _
  · exact .pure _
  · exact .pure _

/-- Every operation of a build is built from the ones which a program may ask for. -/
theorem composed_perform (root c : Cursor) (operation : Operation) :
    Composed (perform root c operation) := by
  have hc : c.Alike c := ⟨rfl, rfl⟩
  have hpins : Composed analogPins := parallel_analogPins.composed
  cases operation with
  | emit item => exact composed_contribute item
  | declareInt type name value =>
      dsimp only [perform]
      cases IntegerType.ofName type with
      | ok t => exact composed_contribute _
      | error v => exact .pure _
  | phase => exact Composed.look.bind fun _ => .pure _
  | registerList kind key => exact composed_done (parallel_registerList kind hc key).composed
  | registerObjects kind nodes =>
      exact (Composed.read _).bind fun _ => composed_done (.registerObjects kind _)
  | findObject kind key => exact (Composed.findObject kind c key).bind fun _ => .pure _
  | registerAnalogPins pins => exact (Composed.registerFacility _).bind fun _ => .pure _
  | analogPins => exact hpins.bind fun _ => .pure _
  | addAnalogPin pin =>
      exact (parallel_addAnalogPin pin).composed.bind fun _ => hpins.bind fun _ => .pure _
  | registerPinNames names => exact (Composed.registerFacility _).bind fun _ => .pure _
  | pinNames => exact parallel_pinNames.composed.bind fun _ => .pure _
  | compareUnit key => exact (parallel_compareUnit hc key).composed.bind fun _ => .pure _
  | claimTimer user clearance =>
      exact (parallel_claimTimer hc user clearance).composed.bind fun _ => .pure _
  | defer steps => exact composed_done (.defer _)
  | claimLetter key => exact (Composed.claimLetter .axis c key).bind fun _ => .pure _
  | readInt key => exact (Composed.read _).bind fun _ => .pure _
  | platform key => exact composed_done (parallel_setUpPlatform hc key).composed
  | clock key => exact composed_done (parallel_setUpClock hc key).composed
  | pins key => exact composed_done (parallel_setUpPins hc key).composed
  | analog key => exact composed_done (parallel_setUpAnalog hc key).composed
  | pwm key => exact composed_done (parallel_setUpPwm hc key).composed
  | watchdog key user => exact composed_answerExpr (parallel_watchdog hc key user).composed
  | spi key user => exact composed_answerExpr (parallel_spi hc key user).composed
  | i2c key user username => exact composed_answerExpr (parallel_i2c hc key user username).composed
  | eeprom key user => exact composed_answerExpr (parallel_eeprom hc key user).composed
  | serial key user => exact composed_answerExpr (parallel_serialDriver hc key user).composed
  | sdCard key user => exact composed_answerExpr (parallel_sdCardReader hc key user).composed
  | configManager key user =>
      exact composed_answerExpr (parallel_configManager hc key user).composed
  | interruptTimer key user clearance =>
      exact composed_answerExpr (parallel_useTimer hc key user clearance).composed
  | pwmOutput key user username =>
      exact composed_answerExpr (parallel_pwmOutput hc key user username).composed
  | analogInput key => exact composed_answerExpr (parallel_analogInput hc key).composed
  | pin key => exact (parallel_pin hc key).composed.bind fun _ => .pure _
  | digitalInput key => exact (parallel_digitalInput hc key).composed.bind fun _ => .pure _
  | probe => exact composed_answerExpr (parallel_probe hc).composed
  | steppers => exact composed_answerExpr (parallel_steppers hc).composed
  | transform => exact composed_answerExpr (parallel_transform hc).composed
  | heaters => exact composed_answerExpr (parallel_heaters hc).composed
  | fans => exact composed_answerExpr (parallel_fans hc).composed
  | board => exact (parallel_setUp hc).composed.bind fun _ => .pure _
  | printer board => exact composed_done (parallel_printer ⟨⟨rfl, rfl⟩, rfl⟩ hc).composed

theorem composed_performStep (root : Cursor) (step : Script.Step) :
    Composed (performStep root step) := by
  cases step with
  | mk descent operation strict =>
      exact (Composed.read _).bind fun c => composed_perform root c operation

/-- A step of a script notes what it answered, or gives up. -/
theorem performDeferred_eq (root : Cursor) (descent : List Cursor.Descent) (operation : Operation)
    (strict : Bool) :
    performDeferred root (.mk descent operation strict) = (do
      match ← attempt (performStep root (.mk descent operation strict)) with
      | .ok answer => record (.ok answer)
      | .error e => if strict then throw (.document e) else record (.error e)) := by
  funext w
  unfold performDeferred
  show _ = EStateM.bind (attempt (performStep root (.mk descent operation strict))) _ w
  unfold EStateM.bind attempt
  cases performStep root (.mk descent operation strict) w with
  | ok answer w' => rfl
  | error e w' =>
      cases e with
      | breach b => rfl
      | document e =>
          cases strict with
          | true => rfl
          | false => rfl

theorem composed_performDeferred (root : Cursor) (step : Script.Step) :
    Composed (performDeferred root step) := by
  cases step with
  | mk descent operation strict =>
      rw [performDeferred_eq]
      refine (composed_performStep root _).attempt.bind fun answer => ?_
      split
      · exact .record _
      · exact .ite (.fail _) (.record _)

theorem composed_performAll (root : Cursor) (steps : List Script.Step) :
    Composed (performAll root steps) := by
  induction steps with
  | nil => exact .pure ()
  | cons step rest ih => exact (composed_performDeferred root step).bind fun _ => ih

/-- All work which is put off is built from the operations of a build. -/
theorem composed_performWork (d : Deferred) : Composed (performWork d) := by
  cases d with
  | analogDriver a =>
      exact parallel_analogPins.composed.bind fun pins => .item _
  | script root steps => exact .freshLetters .axis (composed_performAll root steps)

end Operations

end PrinterFirmware
