/-
  PrinterFirmware.Proofs.Axes
  ───────────────────────────
  **WHAT THE AXES OF A MACHINE GIVE.**

  Steppers and virtual axes are things of one scope, whose options are read from
  fields of their sections.  A transform has virtual axes and steppers in numbered
  fields, and parameters of its own.
-/
import PrinterFirmware.Machine.Transform
import PrinterFirmware.Proofs.Drivers
import PrinterFirmware.Proofs.Letters

namespace PrinterFirmware

open Document Naming Build Machine

variable {document : Value} {x : Site document} {c : Cursor}

/-! ## §1. Options. -/

/-- The names of options, as expressions. -/
def optionNames (stem : String) (fields : List String) : List TypeExpr :=
  fields.map fun field => .text (stem ++ field)

/-- The options of the numbers in the fields of `c`. -/
inductive OptionsGive (c : Cursor) (stem : String) : List String → List Item → Prop where
  | nil : OptionsGive c stem [] []
  | cons {field : String} {rest : List String} {v : Binary64} {items : List Item}
      (hv : c.number field = .ok v) (hrest : OptionsGive c stem rest items) :
      OptionsGive c stem (field :: rest) (.numberOption (stem ++ field) v :: items)

/-- Options are declared under the symbols which their fields stand for. -/
theorem declares_numberOptions (hc : c.In document) (stem : String) {fields : List String}
    (symbol : String → Symbol) (hname : ∀ f ∈ fields, stem ++ f = (symbol f).name) :
    Declares x (fields.map symbol) (numberOptions c stem fields) fun es g =>
      es = optionNames stem fields ∧ ∃ items, OptionsGive c stem fields items
        ∧ g = .ofItems items := by
  induction fields with
  | nil => exact declares_pure ⟨rfl, [], .nil, rfl⟩
  | cons field rest ih =>
      unfold numberOptions
      have hone : Declares x [symbol field] (numberOption c stem field) fun e g =>
          e = .text (stem ++ field) ∧ ∃ v, c.number field = .ok v
            ∧ g = .ofItems [.numberOption (stem ++ field) v] := by
        unfold numberOption
        apply Declares.read (hc.placed.honest_number _)
        intro v _ hv
        apply (declares_declareOption v (hname field List.mem_cons_self)).mono
        intro _ _ hgives
        obtain ⟨rfl, rfl⟩ := hgives
        exact ⟨rfl, v, hv, rfl⟩
      apply hone.cons
      intro _ _ hgives
      obtain ⟨rfl, v, hv, rfl⟩ := hgives
      apply (ih fun f hf => hname f (List.mem_cons_of_mem field hf)).map
      intro _ _ hgives
      obtain ⟨rfl, items, hitems, rfl⟩ := hgives
      exact ⟨rfl, _, .cons hv hitems, rfl⟩

theorem declares_boolOption (hc : c.In document) (l : Char) (field : String) :
    Declares x [.lettered .axis l field] (boolOption c l field) fun e g =>
      e = .text (String.singleton l ++ field) ∧ ∃ b, c.bool field = .ok b
        ∧ g = .ofItems [.boolOption (String.singleton l ++ field) b] := by
  unfold boolOption
  apply Declares.read (hc.placed.honest_bool _)
  intro b _ hb
  have hs : (Item.boolOption (String.singleton l ++ field) b).symbol?
      = some (Symbol.lettered .axis l field).name := by
    simp [Item.boolOption, Item.symbol?, Symbol.name, LetterScope.stem]
  apply (declares_emit hs).map
  intro _ _ hgives
  subst hgives
  exact ⟨rfl, b, hb, rfl⟩

/-- The options of an axis. -/
theorem declares_axisOptions (hc : c.In document) (l : Char) (fields : List String) :
    Declares x (thingSymbols .axis l fields) (numberOptions c (String.singleton l) fields)
      fun es g => es = optionNames (String.singleton l) fields
        ∧ ∃ items, OptionsGive c (String.singleton l) fields items ∧ g = .ofItems items := by
  apply declares_numberOptions hc _ _
  intro f _
  simp [Symbol.name, LetterScope.stem]

/-! ## §2. Steppers. -/

/-- The homing of the stepper of the axis `l`. -/
inductive HomingGives (x : Site document) (stepper : Cursor) (l : Char) :
    TypeExpr → List Item → Prop where
  | none {node : Cursor} (hnode : stepper.Chosen "homing" "no_homing" node) :
      HomingGives x stepper l (.text "PrinterMainNoHomingParams") []
  | homing {node : Cursor} {direction invert : Bool} {endstop : List TypeExpr} {items : List Item}
      (hnode : stepper.Chosen "homing" "homing" node)
      (hdirection : node.bool "HomeDir" = .ok direction)
      (hendstop : DigitalInputGives x node "HomeEndstopInput" endstop)
      (hinvert : node.bool "HomeEndInvert" = .ok invert)
      (hmotions : OptionsGive node (String.singleton l) homingMotions items) :
      HomingGives x stepper l
        (.inst "PrinterMainHomingParams"
          [.text (String.singleton l ++ "HomeDir"),
            .inst "AxisHomerService" (endstop ++ .text (String.singleton l ++ "HomeEndInvert")
              :: optionNames (String.singleton l) homingMotions)])
        (.frameworkInclude "printer/AxisHomer.h"
          :: .boolOption (String.singleton l ++ "HomeDir") direction
          :: .boolOption (String.singleton l ++ "HomeEndInvert") invert :: items)

theorem declares_stepperHoming (hx : .pinNames ∈ x.kinds) (hc : c.In document) (l : Char) :
    Declares x (thingSymbols .axis l ("HomeDir" :: "HomeEndInvert" :: homingMotions))
      (stepperHoming c l) fun e g => ∃ items, HomingGives x c l e items ∧ g = .ofItems items := by
  unfold stepperHoming
  refine .choose hc ⟨_, rfl⟩ (.option ?_ (.option ?_ .nil))
  · intro node _ hnode
    exact declares_pure ⟨[], .none hnode, rfl⟩
  · intro node hin hnode
    apply Declares.afterPlain rfl rfl
    apply (declares_boolOption hin l "HomeDir").cons
    intro _ _ hgives
    obtain ⟨rfl, direction, hdirection, rfl⟩ := hgives
    apply (declares_digitalInput hx hin "HomeEndstopInput").andThen
    intro endstop _ hgives
    obtain ⟨hendstop, rfl⟩ := hgives
    apply (declares_boolOption hin l "HomeEndInvert").cons
    intro _ _ hgives
    obtain ⟨rfl, invert, hinvert, rfl⟩ := hgives
    apply (declares_axisOptions hin l homingMotions).map
    intro _ _ hgives
    obtain ⟨rfl, items, hmotions, rfl⟩ := hgives
    exact ⟨_, .homing hnode hdirection hendstop hinvert hmotions, rfl⟩

/-- The axis `l` of the `i`-th stepper. -/
inductive StepperGives (x : Site document) (c : Cursor) (i : Nat) (l : Char) :
    TypeExpr → Gain → Prop where
  | mk {port : Cursor} {dirPin stepPin enablePin : String} {invertDir cartesian : Bool}
      {homing timer : TypeExpr} {motionItems homingItems : List Item} {g : Gain}
      (hport : x.Refers .stepperPort c "stepper_port" port)
      (hdirPin : x.PinAt port "DirPin" dirPin) (hstepPin : x.PinAt port "StepPin" stepPin)
      (henablePin : x.PinAt port "EnablePin" enablePin)
      (hinvertDir : c.bool "InvertDir" = .ok invertDir)
      (hmotions : OptionsGive c (String.singleton l) stepperMotions motionItems)
      (hhoming : HomingGives x c l homing homingItems)
      (hcartesian : c.bool "EnableCartesianSpeedLimit" = .ok cartesian)
      (htimer : TimerGives x port "StepperTimer" (axisTimerUser i) none timer g) :
      StepperGives x c i l
        (.inst "PrinterMainAxisParams"
          ([.char l, .text dirPin, .text stepPin, .text enablePin,
              .text (String.singleton l ++ "InvertDir")]
            ++ optionNames (String.singleton l) stepperMotions
            ++ [homing, .bool cartesian, .int 32,
                .inst "AxisDriverService" [timer, .text "TheAxisDriverPrecisionParams"],
                .text "PrinterMainNoMicroStepParams"]))
        (.ofItems [.frameworkInclude "driver/AxisDriver.h",
            .boolOption (String.singleton l ++ "InvertDir") invertDir]
          ++ (.ofItems (motionItems ++ homingItems) ++ g))

theorem nodup_axisFields : axisFields.Nodup := by decide

/-- **A stepper claims its letter and gives an axis.** -/
theorem claims_stepper (hx : .clock ∈ x.kinds) (hx' : .pinNames ∈ x.kinds) :
    ClaimsThing x .axis stepper (StepperGives x) := by
  intro c i hc
  unfold stepper
  refine Claims.thing hc nodup_axisFields (fun _ hf => hf) ?_
  intro l
  apply (declares_findObject .stepperPort hc _).andThen
  intro port _ hgives
  obtain ⟨hport, rfl⟩ := hgives
  apply Declares.afterPlain rfl rfl
  apply (declares_pin hx' hport.inside _).andThen
  intro dirPin _ hgives
  obtain ⟨hdirPin, rfl⟩ := hgives
  apply (declares_pin hx' hport.inside _).andThen
  intro stepPin _ hgives
  obtain ⟨hstepPin, rfl⟩ := hgives
  apply (declares_pin hx' hport.inside _).andThen
  intro enablePin _ hgives
  obtain ⟨henablePin, rfl⟩ := hgives
  apply (declares_boolOption hc l "InvertDir").cons
  intro _ _ hgives
  obtain ⟨rfl, invertDir, hinvertDir, rfl⟩ := hgives
  apply (declares_axisOptions hc l stepperMotions).bind
  intro _ _ hgives
  obtain ⟨rfl, motionItems, hmotions, rfl⟩ := hgives
  rw [← List.append_nil (List.map _ _)]
  apply (declares_stepperHoming hx' hc l).bind
  intro homing _ hgives
  obtain ⟨homingItems, hhoming, rfl⟩ := hgives
  apply Declares.read (hc.placed.honest_bool _)
  intro cartesian _ hcartesian
  apply (declares_useTimer hx hport.inside _ _ _).map
  intro timer g htimer
  simp only [Gain.empty_append, Gain.ofItems_append_assoc]
  exact .mk hport hdirPin hstepPin henablePin hinvertDir hmotions hhoming hcartesian htimer

/-! ## §3. Virtual axes. -/

/-- The homing of the virtual axis `l`. -/
inductive VirtualHomingGives (x : Site document) (axis : Cursor) (l : Char) :
    TypeExpr → List Item → Prop where
  | none {node : Cursor} (hnode : axis.Chosen "homing" "no_homing" node) :
      VirtualHomingGives x axis l (.text "PrinterMainNoVirtualHomingParams") []
  | homing {node : Cursor} {direction invert : Bool} {endstop : List TypeExpr} {items : List Item}
      (hnode : axis.Chosen "homing" "homing" node)
      (hendstop : DigitalInputGives x node "HomeEndstopInput" endstop)
      (hinvert : node.bool "HomeEndInvert" = .ok invert)
      (hdirection : node.bool "HomeDir" = .ok direction)
      (hmotions : OptionsGive node (String.singleton l) homingMotions items) :
      VirtualHomingGives x axis l
        (.inst "PrinterMainVirtualHomingParams"
          (endstop ++ .text (String.singleton l ++ "HomeEndInvert")
            :: .text (String.singleton l ++ "HomeDir")
            :: optionNames (String.singleton l) homingMotions))
        (.boolOption (String.singleton l ++ "HomeEndInvert") invert
          :: .boolOption (String.singleton l ++ "HomeDir") direction :: items)

theorem declares_virtualHoming (hx : .pinNames ∈ x.kinds) (hc : c.In document) (l : Char) :
    Declares x (thingSymbols .axis l ("HomeEndInvert" :: "HomeDir" :: homingMotions))
      (virtualHoming c l) fun e g => ∃ items, VirtualHomingGives x c l e items
        ∧ g = .ofItems items := by
  unfold virtualHoming
  refine .choose hc ⟨_, rfl⟩ (.option ?_ (.option ?_ .nil))
  · intro node _ hnode
    exact declares_pure ⟨[], .none hnode, rfl⟩
  · intro node hin hnode
    apply (declares_digitalInput hx hin "HomeEndstopInput").andThen
    intro endstop _ hgives
    obtain ⟨hendstop, rfl⟩ := hgives
    apply (declares_boolOption hin l "HomeEndInvert").cons
    intro _ _ hgives
    obtain ⟨rfl, invert, hinvert, rfl⟩ := hgives
    apply (declares_boolOption hin l "HomeDir").cons
    intro _ _ hgives
    obtain ⟨rfl, direction, hdirection, rfl⟩ := hgives
    apply (declares_axisOptions hin l homingMotions).map
    intro _ _ hgives
    obtain ⟨rfl, items, hmotions, rfl⟩ := hgives
    exact ⟨_, .homing hnode hendstop hinvert hdirection hmotions, rfl⟩

/-- The virtual axis `l`. -/
inductive VirtualAxisGives (x : Site document) (c : Cursor) (l : Char) :
    TypeExpr → Gain → Prop where
  | mk {homing : TypeExpr} {motionItems homingItems : List Item}
      (hmotions : OptionsGive c (String.singleton l) virtualMotions motionItems)
      (hhoming : VirtualHomingGives x c l homing homingItems) :
      VirtualAxisGives x c l
        (.inst "PrinterMainVirtualAxisParams"
          (.char l :: optionNames (String.singleton l) virtualMotions ++ [homing]))
        (.ofItems (motionItems ++ homingItems))

/-- The fields of a virtual axis. -/
def virtualFields : List String :=
  virtualMotions ++ "HomeEndInvert" :: "HomeDir" :: homingMotions

/-- **A virtual axis claims its letter.** -/
theorem claims_virtualAxis (hx : .pinNames ∈ x.kinds) :
    ClaimsThing x .axis virtualAxis fun c _ l => VirtualAxisGives x c l := by
  intro c i hc
  unfold virtualAxis
  have hnodup : virtualFields.Nodup := by decide
  have hfields : ∀ f ∈ virtualFields, f ∈ LetterScope.axis.fields := by decide
  apply Claims.thing hc hnodup hfields
  intro l
  apply (declares_axisOptions hc l virtualMotions).bind
  intro _ _ hgives
  obtain ⟨rfl, motionItems, hmotions, rfl⟩ := hgives
  apply (declares_virtualHoming hx hc l).map
  intro homing _ hgives
  obtain ⟨homingItems, hhoming, rfl⟩ := hgives
  exact .mk hmotions hhoming

end PrinterFirmware
