/-
  PrinterFirmware.Proofs.ParallelMachine
  ──────────────────────────────────────
  **ONE CONFIGURATION IN TWO DOCUMENTS.**

  The walks over the section of a printer go side by side with themselves on alike cursors,
  in builds whose objects are alike.  References lead to objects of the board; the steppers
  of a transform are looked up in the configuration itself.
-/
import PrinterFirmware.Machine.Printer
import PrinterFirmware.Proofs.ParallelBoard

namespace PrinterFirmware

open Document Naming Build Machine

variable [Correspondence] {c d : Cursor}

/-! ## §1. Options. -/

theorem parallel_numberOptions (h : c.Alike d) (stem : String) (fields : List String) :
    Parallel Eq (numberOptions c stem fields) (numberOptions d stem fields) := by
  induction fields with
  | nil => exact .pure rfl
  | cons field rest ih =>
      unfold numberOptions numberOption
      apply Parallel.andThen (α := TypeExpr)
      · apply Parallel.read (h.number field)
        intro v
        exact parallel_declareOption _ v
      · intro name
        apply ih.andThen
        intro names
        exact .pure rfl

theorem parallel_boolOption (h : c.Alike d) (letter : Char) (field : String) :
    Parallel Eq (boolOption c letter field) (boolOption d letter field) := by
  unfold boolOption
  apply Parallel.read (h.bool field)
  intro b
  apply Parallel.emit
  exact .pure rfl

/-! ## §2. The probe. -/

theorem parallel_probePoints {cs ds : List Cursor} (h : List.Forall₂ Cursor.Alike cs ds) (i : Nat) :
    Parallel Eq (probePoints i cs) (probePoints i ds) := by
  induction h generalizing i with
  | nil => exact .pure rfl
  | cons hcd _ ih =>
      unfold probePoints
      apply (parallel_numberOptions hcd _ _).andThen
      intro coordinates
      apply (ih (i + 1)).andThen
      intro points
      exact .pure rfl

theorem parallel_probeParams (h : c.Alike d) : Parallel Eq (probeParams c) (probeParams d) := by
  unfold probeParams
  apply (parallel_numberOptions h _ _).andThen
  intro offset
  apply (parallel_numberOptions h _ _).andThen
  intro settings
  apply Parallel.readAlike (h.objects _ _ _)
  intro cs ds hcs
  apply (parallel_probePoints hcs 1).andThen
  intro points
  apply (parallel_digitalInput h _).andThen
  intro input
  apply Parallel.read (h.boolConstant _)
  intro invert
  exact .pure rfl

theorem parallel_probe (h : c.Alike d) : Parallel Eq (probe c) (probe d) := by
  unfold probe
  apply Parallel.readAlike (h.enter _)
  intro c' d' h'
  refine parallel_choose h' ⟨_, rfl⟩ (.cons (.option ?_) (.cons (.option ?_) .nil))
  · intro _ _ _
    exact .pure rfl
  · exact fun _ _ h => parallel_probeParams h

/-! ## §3. Axes. -/

theorem parallel_stepperHoming (h : c.Alike d) (letter : Char) :
    Parallel Eq (stepperHoming c letter) (stepperHoming d letter) := by
  unfold stepperHoming
  refine parallel_choose h ⟨_, rfl⟩ (.cons (.option ?_) (.cons (.option ?_) .nil))
  · intro _ _ _
    exact .pure rfl
  · intro _ _ h
    apply Parallel.emit
    apply (parallel_boolOption h letter _).andThen
    intro direction
    apply (parallel_digitalInput h _).andThen
    intro endstop
    apply (parallel_boolOption h letter _).andThen
    intro invert
    apply (parallel_numberOptions h _ _).andThen
    intro motions
    exact .pure rfl

theorem parallel_stepper (i : Nat) (h : c.Alike d) : Parallel Eq (stepper c i) (stepper d i) := by
  unfold stepper
  apply (Parallel.claimLetter .axis h _).andThen
  intro letter
  apply (Parallel.findObject .stepperPort h _).bind
  intro port port' hport
  apply Parallel.emit
  apply (parallel_pin hport _).andThen
  intro dirPin
  apply (parallel_pin hport _).andThen
  intro stepPin
  apply (parallel_pin hport _).andThen
  intro enablePin
  apply (parallel_boolOption h letter _).andThen
  intro invertDir
  apply (parallel_numberOptions h _ _).andThen
  intro motions
  apply (parallel_stepperHoming h letter).andThen
  intro homing
  apply Parallel.read (h.bool _)
  intro cartesian
  apply (parallel_useTimer hport _ _ none).andThen
  intro timer
  exact .pure rfl

theorem parallel_steppers (h : c.Alike d) : Parallel Eq (steppers c) (steppers d) :=
  parallel_mapList h _ _ _ fun i _ _ he => parallel_stepper i he

theorem parallel_virtualHoming (h : c.Alike d) (letter : Char) :
    Parallel Eq (virtualHoming c letter) (virtualHoming d letter) := by
  unfold virtualHoming
  refine parallel_choose h ⟨_, rfl⟩ (.cons (.option ?_) (.cons (.option ?_) .nil))
  · intro _ _ _
    exact .pure rfl
  · intro _ _ h
    apply (parallel_digitalInput h _).andThen
    intro endstop
    apply (parallel_boolOption h letter _).andThen
    intro invert
    apply (parallel_boolOption h letter _).andThen
    intro direction
    apply (parallel_numberOptions h _ _).andThen
    intro motions
    exact .pure rfl

theorem parallel_virtualAxis (i : Nat) (h : c.Alike d) :
    Parallel Eq (virtualAxis c i) (virtualAxis d i) := by
  unfold virtualAxis
  apply (Parallel.claimLetter .axis h _).andThen
  intro letter
  apply (parallel_numberOptions h _ _).andThen
  intro motions
  apply (parallel_virtualHoming h letter).andThen
  intro homing
  exact .pure rfl

/-! ## §4. The transform. -/

/-- A stepper of a transform is looked up in the configuration. -/
theorem Document.Cursor.Alike.transformStepper {config config' : Cursor}
    (hconfig : config.Alike config') (h : c.Alike d) :
    Matches Eq (transformStepper config c) (transformStepper config' d) := by
  unfold Machine.transformStepper
  apply (h.letter _).andThen
  intro letter
  -- A search which fails is answered at the place of the reference, not at that of the list.
  have hfind := hconfig.find "steppers" "Name" (String.singleton letter)
  revert hfind
  cases config.find "steppers" "Name" (String.singleton letter) <;>
    cases config'.find "steppers" "Name" (String.singleton letter) <;> intro hfind <;> cases hfind
  · exact h.reject _
  · next htarget =>
      apply (htarget.bool _).andThen
      intro cartesian
      show Matches Eq (if cartesian = true then _ else _) (if cartesian = true then _ else _)
      split
      · exact htarget.rejectAt _ _
      · exact .ok rfl

theorem transformTypes_parallel :
    List.Forall₂ (ClauseRelated Cursor.Alike (Parallel Eq)) transformTypes transformTypes := by
  unfold transformTypes
  refine .cons (.option ?_) (.cons (.option ?_) .nil)
  · intro _ _ _
    apply Parallel.emit
    exact .pure rfl
  · intro _ _ h
    apply Parallel.emit
    apply Parallel.read (h.number _)
    intro rod
    apply (parallel_declareOption _ rod).andThen
    intro rodName
    apply (parallel_numberOptions h _ _).andThen
    intro offsets
    apply Parallel.read (h.number _)
    intro minSplit
    apply (parallel_declareNumber _ minSplit).andThen
    intro minSplitName
    apply Parallel.read (h.number _)
    intro maxSplit
    apply (parallel_declareNumber _ maxSplit).andThen
    intro maxSplitName
    exact .pure rfl

theorem parallel_transformParams {config config' : Cursor} (hconfig : config.Alike config')
    (tag : String) (h : c.Alike d) :
    Parallel Eq (transformParams config tag c) (transformParams config' tag d) := by
  unfold transformParams
  have hsteppers : ∀ (i : Nat) e e', e.Alike e' →
      Parallel Eq (liftM (transformStepper config e) : Build TypeExpr)
        (liftM (transformStepper config' e')) :=
    fun _ _ _ he => Parallel.look (hconfig.transformStepper he)
  apply (parallel_mapNumbered h _ _ _ _ _ fun i _ _ he => parallel_virtualAxis i he).andThen
  intro axes
  apply (parallel_mapNumbered h _ _ _ _ _ hsteppers).andThen
  intro steppers
  apply Parallel.read (h.number _)
  intro segments
  apply (parallel_declareNumber _ segments).andThen
  intro segmentsName
  obtain ⟨choice, hchoice⟩ : ∃ choice, Choice.ofClauses transformTypes = .ok choice := ⟨_, rfl⟩
  rw [hchoice]
  obtain ⟨choice', hchoice', hchoices⟩ := ChoicesRelated.ofClauses transformTypes_parallel hchoice
  cases hchoice.symm.trans hchoice'
  apply Parallel.bind (R := ChoicesRelated Cursor.Alike (Parallel Eq)) (.pure hchoices)
  intro C D hCD
  apply (parallel_chooseOn hCD h tag).andThen
  intro type
  exact .pure rfl

theorem parallel_transform (h : c.Alike d) : Parallel Eq (transform c) (transform d) := by
  unfold transform
  refine parallel_choose h ⟨_, rfl⟩ (.cons (.option ?_) (.cons (.otherwise ?_) .nil))
  · intro _ _ _
    exact .pure rfl
  · exact fun tag _ _ h' => parallel_transformParams h tag h'

/-! ## §5. Heaters and fans. -/

theorem parallel_heater (i : Nat) (h : c.Alike d) : Parallel Eq (heater c i) (heater d i) := by
  unfold heater
  apply (Parallel.claimLetter .heater h _).andThen
  intro letter
  apply Parallel.readAlike (h.enter _)
  intro conversion conversion' hconversion
  apply Parallel.emit
  apply (parallel_numberOptions hconversion _ _).andThen
  intro thermistor
  apply Parallel.readAlike (h.enter _)
  intro control control' hcontrol
  apply Parallel.emit
  apply Parallel.read (hcontrol.number _)
  intro interval
  apply (parallel_numberOptions hcontrol _ _).andThen
  intro pid
  apply Parallel.readAlike (h.enter _)
  intro observer observer' hobserver
  apply Parallel.emit
  apply (parallel_numberOptions hobserver _ _).andThen
  intro observation
  apply Parallel.read (h.int _)
  intro setCommand
  apply Parallel.read (h.int _)
  intro waitCommand
  apply (parallel_analogInput h _).andThen
  intro input
  apply (parallel_numberOptions h _ _).andThen
  intro safety
  apply (parallel_declareOption _ interval).andThen
  intro intervalName
  apply (parallel_pwmOutput h _ _ _).andThen
  intro output
  exact .pure rfl

theorem parallel_heaters (h : c.Alike d) : Parallel Eq (heaters c) (heaters d) :=
  .freshLetters .heater (parallel_mapList h _ _ _ fun i _ _ he => parallel_heater i he)

theorem parallel_fan (i : Nat) (h : c.Alike d) : Parallel Eq (fan c i) (fan d i) := by
  unfold fan
  apply (Parallel.claimLetter .fan h _).andThen
  intro letter
  apply Parallel.read (h.int _)
  intro setCommand
  apply Parallel.read (h.int _)
  intro offCommand
  apply (parallel_pwmOutput h _ _ _).andThen
  intro output
  exact .pure rfl

theorem parallel_fans (h : c.Alike d) : Parallel Eq (fans c) (fans d) :=
  .freshLetters .fan (parallel_mapList h _ _ _ fun i _ _ he => parallel_fan i he)

/-! ## §6. The printer. -/

theorem parallel_advancedSettings (h : c.Alike d) :
    Parallel Eq (advancedSettings c) (advancedSettings d) := by
  unfold advancedSettings
  apply Parallel.emit
  apply Parallel.emit
  apply Parallel.readAlike (h.enter _)
  intro advanced advanced' hadvanced
  apply Parallel.read (hadvanced.number _)
  intro blink
  apply Parallel.emit
  apply Parallel.read (hadvanced.number _)
  intro timeout
  exact .item _

theorem parallel_sections (h : c.Alike d) : Parallel Eq (sections c) (sections d) := by
  unfold sections
  apply (parallel_probe h).andThen
  intro probe
  apply Parallel.andThen (α := TypeExpr × TypeExpr × TypeExpr)
  · apply Parallel.freshLetters
    apply (parallel_steppers h).andThen
    intro steppers
    apply (parallel_heaters h).andThen
    intro heaters
    apply (parallel_transform h).andThen
    intro transform
    exact .pure rfl
  · intro r
    apply (parallel_fans h).andThen
    intro fans
    exact .pure rfl

theorem parallel_printerParams {b b' : BoardParts} (hb : b.Alike b') (h : c.Alike d)
    (s : Sections) : Parallel Eq (printerParams c b s) (printerParams d b' s) := by
  have hperformance := hb.performance
  unfold printerParams
  apply Parallel.read (h.number _)
  intro inactive
  apply (parallel_declareOption _ inactive).andThen
  intro inactiveName
  apply (parallel_declareNumber _ _).andThen
  intro speedLimitName
  apply Parallel.read (hperformance.number _)
  intro maxSteps
  apply (parallel_declareOption _ maxSteps).andThen
  intro maxStepsName
  apply Parallel.read (hperformance.intConstant _)
  intro segmentBuffer
  apply Parallel.read (hperformance.intConstant _)
  intro eventBuffer
  apply Parallel.read (hperformance.intConstant _)
  intro lookaheadBuffer
  apply Parallel.read (hperformance.intConstant _)
  intro lookaheadCommit
  apply Parallel.read (hperformance.identifierWhere _ _)
  intro fpType
  apply Parallel.pure
  rw [← hb.rest]

/-- **One configuration in two documents** contributes the same. -/
theorem parallel_printer {b b' : BoardParts} (hb : b.Alike b') (h : c.Alike d) :
    Parallel Eq (printer c b) (printer d b') := by
  unfold printer
  apply (parallel_advancedSettings h).andThen
  intro _
  apply (parallel_sections h).andThen
  intro sections
  apply (parallel_printerParams hb h sections).andThen
  intro params
  apply Parallel.emit
  apply Parallel.emit
  exact .item _

end PrinterFirmware
