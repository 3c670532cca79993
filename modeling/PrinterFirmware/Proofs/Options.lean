/-
  PrinterFirmware.Proofs.Options
  ──────────────────────────────
  **THE OPTIONS OF A PROGRAM FOLLOW THE ORDER OF ITS DESCRIPTION.**

  Options are contributed on the way, while the expressions of the printer are put
  together.  What becomes of them is described here without any walk: each option has a
  name and the value of one field of one section, and the sections are gone through in
  the order

      advanced    probe    steppers    heaters    transform    printer    board

  A walk `Configures` such a reading if the reading succeeds and the lines of its settings
  are those of the options among the contributed items.
-/
import PrinterFirmware.Proofs.Containment
import PrinterFirmware.Proofs.Slots

namespace PrinterFirmware

open Document Naming Build Board Machine

variable {document : Value} {x : Site document} {c : Cursor}

/-! ## §1. Settings of a description. -/

/-- An option and its value. -/
inductive Setting where
  | number (name : String) (v : Binary64)
  | truth (name : String) (b : Bool)

/-- The line of an option. -/
def Setting.line : Setting → String
  | number name v =>
      "APRINTER_CONFIG_OPTION_DOUBLE(" ++ name ++ ", " ++ v.scientific ++ ", ConfigNoProperties)\n"
  | truth name b =>
      "APRINTER_CONFIG_OPTION_BOOL(" ++ name ++ ", " ++ (if b then "true" else "false")
        ++ ", ConfigNoProperties)\n"

/-- The settings of several parts, one after another. -/
def inOrder : List (Reading (List Setting)) → Reading (List Setting)
  | [] => return []
  | part :: rest => do
      let first ← part
      let others ← inOrder rest
      return first ++ others

/-- The setting `name` of the number in the field `field`. -/
def numberAt (c : Cursor) (field name : String) : Reading (List Setting) := do
  let v ← c.number field
  return [.number name v]

/-- The setting `name` of the truth value in the field `field`. -/
def truthAt (c : Cursor) (field name : String) : Reading (List Setting) := do
  let b ← c.bool field
  return [.truth name b]

/-- The settings `stem ++ field` of the numbers in several fields. -/
def numbersOf (c : Cursor) (stem : String) (fields : List String) : Reading (List Setting) :=
  inOrder (fields.map fun field => numberAt c field (stem ++ field))

/-- The settings `stem ++ field` of the truth values in several fields. -/
def truthsOf (c : Cursor) (stem : String) (fields : List String) : Reading (List Setting) :=
  inOrder (fields.map fun field => truthAt c field (stem ++ field))

/-- The settings of a numbered probing point. -/
def pointSettings (point : Cursor × Nat) : Reading (List Setting) :=
  numbersOf point.1 ("ProbeP" ++ Numeral.ofNat point.2) ["X", "Y"]

/-- The settings of the probe; its points are counted from one. -/
def probeOptions (config : Cursor) : Reading (List Setting) := do
  let section_ ← config.enter "probe_config"
  let probe ← section_.enter "probe"
  let tag ← probe.string "_compoundName"
  if tag = "Probe" then
    let points ← probe.objects "ProbePoints" 1 20
    inOrder (numbersOf probe "Probe" ["OffsetX", "OffsetY", "StartHeight", "LowHeight",
        "RetractDist", "MoveSpeed", "FastSpeed", "RetractSpeed", "SlowSpeed"]
      :: (points.zipIdx 1).map pointSettings)
  else return []

/-- The settings of the homing of an axis, if it has one: the truth values in the given
order, then the motions. -/
def homingOptions (axis : Cursor) (stem : String) (truths : List String) :
    Reading (List Setting) := do
  let homing ← axis.enter "homing"
  let tag ← homing.string "_compoundName"
  if tag = "homing" then
    inOrder [truthsOf homing stem truths,
      numbersOf homing stem ["HomeFastMaxDist", "HomeRetractDist", "HomeSlowMaxDist",
        "HomeFastSpeed", "HomeRetractSpeed", "HomeSlowSpeed"]]
  else return []

/-- The settings of a stepper. -/
def stepperOptions (stepper : Cursor) : Reading (List Setting) := do
  let letter ← stepper.letter "Name"
  let stem := String.singleton letter
  inOrder [truthsOf stepper stem ["InvertDir"],
    numbersOf stepper stem ["StepsPerUnit", "MinPos", "MaxPos", "MaxSpeed", "MaxAccel",
      "DistanceFactor", "CorneringDistance"],
    homingOptions stepper stem ["HomeDir", "HomeEndInvert"]]

/-- The settings of a heater. -/
def heaterOptions (heater : Cursor) : Reading (List Setting) := do
  let letter ← heater.letter "Name"
  let stem := String.singleton letter ++ "Heater"
  let conversion ← heater.enter "conversion"
  let control ← heater.enter "control"
  let observer ← heater.enter "observer"
  inOrder [numbersOf conversion (stem ++ "Temp") ["ResistorR", "R0", "Beta", "MinTemp", "MaxTemp"],
    numbersOf control stem ["PidP", "PidI", "PidD", "PidIStateMin", "PidIStateMax",
      "PidDHistory"],
    numbersOf observer stem ["ObserverInterval", "ObserverTolerance", "ObserverMinTime"],
    numbersOf heater stem ["MinSafeTemp", "MaxSafeTemp"],
    numberAt control "ControlInterval" (stem ++ "ControlInterval")]

/-- The settings of a virtual axis. -/
def virtualAxisOptions (axis : Cursor) : Reading (List Setting) := do
  let letter ← axis.letter "Name"
  let stem := String.singleton letter
  inOrder [numbersOf axis stem ["MinPos", "MaxPos", "MaxSpeed"],
    homingOptions axis stem ["HomeEndInvert", "HomeDir"]]

/-- The settings of a delta machine.  The field for its rod is spelled as it is in
descriptions. -/
def deltaOptions (transform : Cursor) (tag : String) : Reading (List Setting) :=
  if tag = "Delta" then
    inOrder [numberAt transform "DiagnalRod" "DeltaDiagonalRod",
      numbersOf transform "Delta" ["SmoothRodOffset", "EffectorOffset", "CarriageOffset"]]
  else return []

/-- The settings of the transform. -/
def transformOptions (config : Cursor) : Reading (List Setting) := do
  let transform ← config.enter "transform"
  let tag ← transform.string "_compoundName"
  if tag = "NoTransform" then return []
  else
    let count ← transform.int "DimensionCount"
    let axes ← transform.enter "CartesianAxes"
    inOrder ((List.range count.toNat).map (fun i => do
        let axis ← axes.enter ("VirtualAxis" ++ Numeral.ofNat i)
        virtualAxisOptions axis)
      ++ [deltaOptions transform tag])

/-- The settings of a configuration on its board, in the order of the options of the
program. -/
def programOptions (config board : Cursor) : Reading (List Setting) := do
  let advanced ← config.enter "advanced"
  let steppers ← config.objects "steppers" 1 15
  let heaters ← config.objects "heaters" 0 15
  let performance ← board.enter "performance"
  inOrder ([numberAt advanced "ForceTimeout" "ForceTimeout", probeOptions config]
    ++ steppers.map stepperOptions ++ heaters.map heaterOptions
    ++ [transformOptions config, numberAt config "InactiveTime" "InactiveTime",
      numberAt performance "MaxStepsPerCycle" "MaxStepsPerCycle"])

theorem inOrder_append {parts parts' : List (Reading (List Setting))}
    {settings settings' : List Setting} (h : inOrder parts = .ok settings)
    (h' : inOrder parts' = .ok settings') :
    inOrder (parts ++ parts') = .ok (settings ++ settings') := by
  induction parts generalizing settings with
  | nil =>
      cases h
      exact h'
  | cons part rest ih =>
      unfold inOrder at h
      cases hpart : part with
      | error e =>
          rw [hpart] at h
          cases h
      | ok first =>
          cases hrest : inOrder rest with
          | error e =>
              rw [hpart, hrest] at h
              cases h
          | ok others =>
              rw [hpart, hrest] at h
              cases h
              rw [List.cons_append, inOrder, ih hrest, List.append_assoc]
              rfl

/-! ## §2. Options among items. -/

/-- The lines of the options among items. -/
def optionLines (items : List Item) : List String := items.filterMap Draft.optionLine?

@[simp] theorem optionLines_append (items items' : List Item) :
    optionLines (items ++ items') = optionLines items ++ optionLines items' :=
  List.filterMap_append

/-- The reading `r` succeeds, and its settings are the options among the items. -/
def Configures (r : Reading (List Setting)) (items : List Item) : Prop :=
  ∃ settings, r = .ok settings ∧ optionLines items = settings.map Setting.line

namespace Configures

variable {α : Type} {r : Reading (List Setting)} {parts parts' : List (Reading (List Setting))}
  {items items' : List Item}

theorem nil (h : optionLines items = []) : Configures (pure []) items := ⟨[], rfl, h⟩

/-- Items without options come before. -/
theorem after (hr : Configures r items') (h : optionLines items = []) :
    Configures r (items ++ items') := by
  obtain ⟨settings, hr, hlines⟩ := hr
  exact ⟨settings, hr, by rw [optionLines_append, h, List.nil_append, hlines]⟩

/-- Items without options come behind. -/
theorem before (hr : Configures r items) (h : optionLines items' = []) :
    Configures r (items ++ items') := by
  obtain ⟨settings, hr, hlines⟩ := hr
  exact ⟨settings, hr, by rw [optionLines_append, h, List.append_nil, hlines]⟩

/-- An include comes before. -/
theorem including (hr : Configures r items) (path : String) :
    Configures r (.frameworkInclude path :: items) := by
  have hinclude : optionLines [.frameworkInclude path] = [] := rfl
  exact hr.after hinclude

/-- What is read first. -/
theorem bind {read : Reading α} {a : α} {f : α → Reading (List Setting)} (hread : read = .ok a)
    (h : Configures (f a) items) : Configures (read >>= f) items := by
  subst hread
  exact h

theorem cons (h : Configures r items) (hrest : Configures (inOrder parts) items') :
    Configures (inOrder (r :: parts)) (items ++ items') := by
  obtain ⟨settings, rfl, hlines⟩ := h
  obtain ⟨settings', hparts, hlines'⟩ := hrest
  refine ⟨settings ++ settings', ?_, ?_⟩
  · unfold inOrder
    rw [hparts]
    rfl
  · rw [optionLines_append, hlines, hlines', List.map_append]

theorem single (h : Configures r items) : Configures (inOrder [r]) items := by
  rw [← List.append_nil items]
  exact h.cons (.nil rfl)

theorem append (h : Configures (inOrder parts) items) (h' : Configures (inOrder parts') items') :
    Configures (inOrder (parts ++ parts')) (items ++ items') := by
  obtain ⟨settings, hparts, hlines⟩ := h
  obtain ⟨settings', hparts', hlines'⟩ := h'
  refine ⟨settings ++ settings', inOrder_append hparts hparts', ?_⟩
  rw [optionLines_append, hlines, hlines', List.map_append]

end Configures

/-- A number which has been read becomes an option. -/
theorem configures_number (name : String) {field : String} {v : Binary64}
    (hv : c.number field = .ok v) :
    Configures (numberAt c field name) [.numberOption name v] := by
  refine ⟨[.number name v], ?_, rfl⟩
  unfold numberAt
  rw [hv]
  rfl

theorem configures_noTruths (c : Cursor) (stem : String) : Configures (truthsOf c stem []) [] :=
  .nil rfl

/-- A truth value which has been read becomes an option, before those of other fields. -/
theorem configures_truths (stem : String) {field : String} {rest : List String} {b : Bool}
    {items : List Item} (hb : c.bool field = .ok b) (hrest : Configures (truthsOf c stem rest) items) :
    Configures (truthsOf c stem (field :: rest)) (.boolOption (stem ++ field) b :: items) := by
  have hone : Configures (truthAt c field (stem ++ field)) [.boolOption (stem ++ field) b] := by
    refine ⟨[.truth (stem ++ field) b], ?_, ?_⟩
    · unfold truthAt
      rw [hb]
      rfl
    · cases b with
      | false => rfl
      | true => rfl
  exact hone.cons hrest

theorem OptionsGive.configures {stem : String} {fields : List String} {items : List Item}
    (h : OptionsGive c stem fields items) : Configures (numbersOf c stem fields) items := by
  induction h with
  | nil => exact .nil rfl
  | cons hv _ ih => exact (configures_number _ hv).cons ih

theorem OptionsGive.append {stem : String} {fields fields' : List String}
    {items items' : List Item} (h : OptionsGive c stem fields items)
    (h' : OptionsGive c stem fields' items') :
    OptionsGive c stem (fields ++ fields') (items ++ items') := by
  induction h with
  | nil => exact h'
  | cons hv _ ih => exact .cons hv ih

/-! ## §3. Items without options. -/

theorem PlatformGives.optionless {key : String} {items : List Item}
    (h : PlatformGives c key items) : optionLines items = [] := by
  cases h with
  | at91Sam => rfl
  | teensy => rfl
  | avr => rfl

theorem WatchdogGives.optionless {key user : String} {e : TypeExpr} {g : Gain}
    (h : WatchdogGives c key user e g) : optionLines g.items = [] := by
  cases h with
  | at91Sam => rfl
  | mk20 => rfl
  | avr => rfl

theorem AnalogGives.optionless {key : String} {a : AnalogDriver} {items : List Item}
    (h : AnalogGives c key a items) : optionLines items = [] := by
  cases h with
  | at91Sam => rfl
  | mk20 => rfl
  | avr => rfl

theorem PwmSectionGives.optionless {items : List Item} (h : PwmSectionGives c items) :
    optionLines items = [] := by
  cases h with
  | present hpwm =>
      cases hpwm with
      | disabled => rfl
      | at91Sam => rfl
  | absent => rfl

theorem DriversGive.optionless {k : Clock} {d : PinDriver} {a : AnalogDriver}
    {watchdog : TypeExpr} {g : Gain} (h : DriversGive c k d a watchdog g) :
    optionLines g.items = [] := by
  cases h with
  | mk _ _ hwatchdog hanalog hpwm =>
      have hhead : optionLines (.frameworkInclude k.family.header :: d.items) = [] := rfl
      simp only [Gain.items_append, Gain.items_ofItems, optionLines_append, hhead,
        hwatchdog.optionless, hanalog.optionless, hpwm.optionless, List.append_nil]

theorem optionless_helpers (helpers : List String) :
    optionLines (helpers.map helperInclude) = [] := by
  unfold optionLines
  rw [List.filterMap_map, List.filterMap_eq_nil_iff]
  intro _ _
  rfl

theorem TimerGives.optionless {key user : String} {clearance : Option String} {e : TypeExpr}
    {g : Gain} (h : TimerGives x c key user clearance e g) : optionLines g.items = [] := by
  cases h with
  | mk => rfl

theorem SerialGives.optionless {e : TypeExpr} {items : List Item} (h : SerialGives c e items) :
    optionLines items = [] := by
  cases h with
  | mk _ _ _ _ hdriver =>
      cases hdriver with
      | usb => rfl
      | at91Sam => rfl
      | teensy => rfl
      | avr => rfl

theorem CardGives.optionless {key : String} {e : TypeExpr} {g : Gain}
    (h : CardGives x c key e g) : optionLines g.items = [] := by
  cases h with
  | none => rfl
  | card _ hreader _ _ _ =>
      cases hreader with
      | mk _ _ hbus =>
          cases hbus with
          | at91Sam => rfl
          | avr => rfl

theorem ManagerGives.optionless {key user : String} {e : TypeExpr} {g : Gain}
    (h : ManagerGives c key user e g) : optionLines g.items = [] := by
  cases h with
  | constant => rfl
  | runtime _ hstore =>
      cases hstore with
      | none => rfl
      | eeprom _ hmemory _ _ =>
          cases hmemory with
          | i2c _ hbus _ _ _ =>
              cases hbus with
              | mk => rfl
          | teensy => rfl
          | avr => rfl

/-- **A board contributes no options.** -/
theorem BoardGives.optionless {y : Site document} {board : Cursor} {parts : BoardParts} {g : Gain}
    (h : BoardGives x board y parts g) : optionLines g.items = [] := by
  cases h with
  | @mk _ _ _ _ _ _ name _ precision _ _ _ _ _ _ _ _ _ helpers _ clearance _ _ _ _ _ _ _ _ _ _ _
      _ hplatform _ hdrivers _ _ _ _ htimer _ _ _ _ hserial _ hcard _ hmanager =>
      have hname : optionLines [.fill "BoardForBuild" (.text name)] = [] := rfl
      have hprecision : optionLines [.typeName "TheAxisDriverPrecisionParams" precision] = [] := rfl
      have hclearance : optionLines [.numberConstant "EventChannelTimerClearance" clearance] = [] :=
        rfl
      simp only [Gain.items_append, Gain.items_ofItems, optionLines_append, hname,
        hplatform.optionless, hdrivers.optionless, optionless_helpers, htimer.optionless, hprecision,
        hclearance, hserial.optionless, hcard.optionless, hmanager.optionless, List.append_nil]

theorem AnalogInputGives.optionless {key : String} {e : TypeExpr} {g : Gain}
    (h : AnalogInputGives x c key e g) : optionLines g.items = [] := by
  cases h with
  | mk => rfl

theorem PwmOutputGives.optionless {key user username : String} {e : TypeExpr} {g : Gain}
    (h : PwmOutputGives x c key user username e g) : optionLines g.items = [] := by
  cases h with
  | soft _ h =>
      cases h with
      | mk _ _ _ _ htimer =>
          rw [Gain.items_append, optionLines_append, htimer.optionless]
          rfl
  | hard _ h =>
      cases h with
      | mk => rfl

theorem Clock.optionless_closingItems (k : Clock) : optionLines k.closingItems = [] := by
  unfold optionLines
  rw [List.filterMap_eq_nil_iff]
  intro i hi
  rcases mem_closingItems hi with ⟨_, rfl⟩ | ⟨_, rfl⟩
  · rfl
  · rfl

/-! ## §4. Sections of a configuration. -/

/-- The points of a probe. -/
theorem PointsGive.configures {i : Nat} {nodes : List Cursor} {es : List TypeExpr}
    {items : List Item} (h : PointsGive i nodes es items) :
    Configures (inOrder ((nodes.zipIdx i).map pointSettings)) items := by
  induction h with
  | nil => exact .nil rfl
  | cons hpoint _ ih => exact hpoint.configures.cons ih

/-- The choice at `key` enters its node and reads its tag. -/
theorem Configures.chosen {key tag : String} {node : Cursor} {items : List Item}
    {f : Cursor → String → Reading (List Setting)} (hnode : c.Chosen key tag node)
    (h : Configures (f node tag) items) :
    Configures (do
      let node ← c.enter key
      let tag ← node.string "_compoundName"
      f node tag) items :=
  .bind hnode.entered (.bind hnode.tagged h)

theorem ProbeGives.configures {e : TypeExpr} {items : List Item} (h : ProbeGives x c e items) :
    Configures (probeOptions c) items := by
  cases h with
  | none hc hnode => exact .bind hc (.chosen hnode (.nil rfl))
  | probe hc hnode h =>
      apply Configures.bind hc
      apply Configures.chosen hnode
      cases h with
      | mk hoffset hsettings hnodes hpoints _ _ =>
          have hfields := hoffset.append hsettings
          exact .bind hnodes (hfields.configures.cons hpoints.configures)

/-- The homing of a stepper. -/
theorem HomingGives.configures {l : Char} {e : TypeExpr} {items : List Item}
    (h : HomingGives x c l e items) :
    Configures (homingOptions c (String.singleton l) ["HomeDir", "HomeEndInvert"]) items := by
  cases h with
  | none hnode => exact .chosen hnode (.nil rfl)
  | homing hnode hdirection _ hinvert hmotions =>
      have htruths := configures_truths (String.singleton l) hdirection
        (configures_truths _ hinvert (configures_noTruths _ _))
      apply Configures.chosen hnode
      exact (htruths.cons hmotions.configures.single).including "printer/AxisHomer.h"

/-- The homing of a virtual axis, whose truth values come in the other order. -/
theorem VirtualHomingGives.configures {l : Char} {e : TypeExpr} {items : List Item}
    (h : VirtualHomingGives x c l e items) :
    Configures (homingOptions c (String.singleton l) ["HomeEndInvert", "HomeDir"]) items := by
  cases h with
  | none hnode => exact .chosen hnode (.nil rfl)
  | homing hnode _ hinvert hdirection hmotions =>
      have htruths := configures_truths (String.singleton l) hinvert
        (configures_truths _ hdirection (configures_noTruths _ _))
      apply Configures.chosen hnode
      exact htruths.cons hmotions.configures.single

/-- **A stepper.** -/
theorem StepperGives.configures {i : Nat} {l : Char} {e : TypeExpr} {g : Gain}
    (hletter : c.letter "Name" = .ok l) (h : StepperGives x c i l e g) :
    Configures (stepperOptions c) g.items := by
  cases h with
  | mk _ _ _ _ hinvert hmotions hhoming _ htimer =>
      have htruths := configures_truths (String.singleton l) hinvert (configures_noTruths _ _)
      have hparts := htruths.cons (hmotions.configures.cons hhoming.configures.single)
      apply Configures.bind hletter
      rw [← Gain.append_assoc]
      exact (hparts.including "driver/AxisDriver.h").before htimer.optionless

/-- **A heater.** -/
theorem HeaterGives.configures {i : Nat} {l : Char} {e : TypeExpr} {g : Gain}
    (hletter : c.letter "Name" = .ok l) (h : HeaterGives x c i l e g) :
    Configures (heaterOptions c) g.items := by
  cases h with
  | mk hconversion hthermistor hcontrol hinterval hpid hobserver hobservation _ _ hinput hsafety
      houtput =>
      apply Configures.bind hletter
      apply Configures.bind hconversion
      apply Configures.bind hcontrol
      apply Configures.bind hobserver
      have hinterval := (configures_number (heaterStem l ++ "ControlInterval") hinterval).single
      have hsafety := hsafety.configures.after hinput.optionless
      have hparts := (hthermistor.configures.including "printer/thermistor/GenericThermistor.h").cons
        ((hpid.configures.including "printer/temp_control/PidControl.h").cons
        ((hobservation.configures.including "printer/TemperatureObserver.h").cons
        (hsafety.cons hinterval)))
      have hall := hparts.before houtput.optionless
      simp only [Gain.items_append, Gain.items_ofItems, List.append_assoc] at hall ⊢
      exact hall

/-- **A virtual axis.** -/
theorem VirtualAxisGives.configures {l : Char} {e : TypeExpr} {g : Gain}
    (hletter : c.letter "Name" = .ok l) (h : VirtualAxisGives x c l e g) :
    Configures (virtualAxisOptions c) g.items := by
  cases h with
  | mk hmotions hhoming =>
      exact .bind hletter (hmotions.configures.cons hhoming.configures.single)

/-- Things of one scope, each of which configures its own options. -/
theorem Things.configures {R : Cursor → Nat → Char → TypeExpr → Gain → Prop}
    {f : Cursor → Reading (List Setting)}
    (hR : ∀ c i l e g, c.letter "Name" = .ok l → R c i l e g → Configures (f c) g.items)
    {letters after : List Char} {i : Nat} {nodes : List Cursor} {es : List TypeExpr} {g : Gain}
    (h : Things R letters i nodes es g after) : Configures (inOrder (nodes.map f)) g.items := by
  induction h with
  | nil => exact .nil rfl
  | cons _ hletter h _ ih => exact (hR _ _ _ _ _ hletter h).cons ih

/-- Things without options. -/
theorem Things.optionless {R : Cursor → Nat → Char → TypeExpr → Gain → Prop}
    (hR : ∀ c i l e g, R c i l e g → optionLines g.items = []) {letters after : List Char}
    {i : Nat} {nodes : List Cursor} {es : List TypeExpr} {g : Gain}
    (h : Things R letters i nodes es g after) : optionLines g.items = [] := by
  induction h with
  | nil => rfl
  | cons _ _ h _ ih => rw [Gain.items_append, optionLines_append, hR _ _ _ _ _ h, ih]; rfl

/-- The objects of numbered fields are entered by their numbers. -/
theorem Numbered.map_enter {elems : Cursor} {stem : String} {i : Nat} {nodes : List Cursor}
    (h : Numbered elems stem i nodes) (f : Cursor → Reading (List Setting)) :
    (List.range' i nodes.length).map (fun j => do
        let node ← elems.enter (stem ++ Numeral.ofNat j)
        f node) = nodes.map f := by
  induction h with
  | nil => rfl
  | cons hc _ ih =>
      rw [List.length_cons, List.range'_succ, List.map_cons, List.map_cons, hc, ih]
      rfl

theorem TransformTypeGives.configures {tag : String} {e : TypeExpr} {items : List Item}
    (htag : c.string Cursor.tagKey = .ok tag) (h : TransformTypeGives c e items) :
    Configures (deltaOptions c tag) items := by
  cases h with
  | coreXY htag' =>
      cases htag.symm.trans htag'
      exact .nil rfl
  | @delta rod minSplit maxSplit items htag' hrod hoffsets _ _ =>
      cases htag.symm.trans htag'
      have hlast : optionLines [.numberConstant "DeltaMinSplitLength" minSplit,
          .numberConstant "DeltaMaxSplitLength" maxSplit] = [] := rfl
      have hparts := (configures_number "DeltaDiagonalRod" hrod).cons hoffsets.configures.single
      exact (hparts.before hlast).including "printer/transform/DeltaTransform.h"

theorem TransformTypeGives.tag_ne {tag : String} {e : TypeExpr} {items : List Item}
    (htag : c.string Cursor.tagKey = .ok tag) (h : TransformTypeGives c e items) :
    tag ≠ "NoTransform" := by
  cases h with
  | coreXY htag' =>
      cases htag.symm.trans htag'
      decide
  | delta htag' =>
      cases htag.symm.trans htag'
      decide

/-- **The transform.** -/
theorem TransformGives.configures {letters after : List Char} {e : TypeExpr} {g : Gain}
    (h : TransformGives x c letters e g after) : Configures (transformOptions c) g.items := by
  cases h with
  | none hnode => exact .chosen hnode (.nil rfl)
  | @some node tag axisNodes axes steppers type g segments items _ hnode haxisNodes haxes _ _ htype =>
      obtain ⟨n, hcount, -, -, hlength⟩ := haxisNodes.count
      obtain ⟨elems, helems, hnumbered⟩ := haxisNodes.numbered
      have haxes := haxes.configures (f := virtualAxisOptions) fun c _ l e g hletter h =>
        VirtualAxisGives.configures hletter h
      have hsegments : optionLines [.numberConstant "SegmentsPerSecond" segments] = [] := rfl
      have htypeItems := (htype.configures hnode.tagged).after hsegments
      have hparts := haxes.append htypeItems.single
      rw [← hnumbered.map_enter virtualAxisOptions, hlength, ← List.range_eq_range'] at hparts
      apply Configures.chosen hnode
      rw [if_neg (htype.tag_ne hnode.tagged)]
      exact .bind hcount (.bind helems hparts)

/-! ## §5. Compiled programs. -/

/-- **The sections of a machine.** -/
theorem SectionsGive.configures {s : Sections} {g : Gain} (h : SectionsGive x c s g) :
    ∃ steppers heaters, c.objects "steppers" 1 15 = .ok steppers
      ∧ c.objects "heaters" 0 15 = .ok heaters
      ∧ Configures (inOrder (probeOptions c :: (steppers.map stepperOptions
        ++ (heaters.map heaterOptions ++ [transformOptions c])))) g.items := by
  cases h with
  | mk hprobe hsteppers hheaters htransform hfans =>
      obtain ⟨hheaters⟩ := hheaters
      obtain ⟨hfans⟩ := hfans
      obtain ⟨hstepperNodes, hsteppers⟩ := hsteppers
      obtain ⟨hheaterNodes, hheaters⟩ := hheaters
      obtain ⟨-, hfans⟩ := hfans
      have hsteppers := hsteppers.configures (f := stepperOptions) fun c i l e g hletter h =>
        StepperGives.configures hletter h
      have hheaters := hheaters.configures (f := heaterOptions) fun c i l e g hletter h =>
        HeaterGives.configures hletter h
      have hnone : ∀ c i l e g, FanGives x c i l e g → optionLines g.items = [] := by
        intro c i l e g h
        cases h with
        | mk _ _ houtput => exact houtput.optionless
      refine ⟨_, _, hstepperNodes, hheaterNodes, ?_⟩
      have hmovement := hsteppers.append (hheaters.append htransform.configures.single)
      exact hprobe.configures.cons (hmovement.before (hfans.optionless hnone))

/-- The advanced settings have one option. -/
theorem AdvancedGives.configures {items : List Item} (h : AdvancedGives c items) :
    ∃ advanced, c.enter "advanced" = .ok advanced
      ∧ Configures (numberAt advanced "ForceTimeout" "ForceTimeout") items := by
  cases h with
  | @mk advanced blink timeout hadvanced _ htimeout =>
      have hhead : optionLines [.frameworkInclude "printer/PrinterMain.h",
          .numberConstant "FanSpeedMultiply" fanSpeedFactor,
          .numberConstant "LedBlinkInterval" blink] = [] := rfl
      exact ⟨advanced, hadvanced, (configures_number _ htimeout).after hhead⟩

/-- The parameters of the printer have two options, one of them of the board. -/
theorem ParamsGive.configures {board : BoardParts} {s : Sections} {e : TypeExpr}
    {items : List Item} (h : ParamsGive c board s e items) :
    Configures (inOrder [numberAt c "InactiveTime" "InactiveTime",
      numberAt board.performance "MaxStepsPerCycle" "MaxStepsPerCycle"]) items := by
  cases h with
  | mk hinactive hmaxSteps =>
      have hfactor : optionLines [.numberConstant "SpeedLimitMultiply" speedLimitFactor] = [] := rfl
      exact (configures_number _ hinactive).cons
        ((configures_number _ hmaxSteps).after hfactor).single

/-- **The section of a printer.** -/
theorem PrinterGives.configures {board : Cursor} {parts : BoardParts} {g : Gain}
    (hperformance : board.enter "performance" = .ok parts.performance)
    (h : PrinterGives x c parts g) : Configures (programOptions c board) g.items := by
  cases h with
  | @mk s params _ _ _ hadvanced hsections hparams =>
      obtain ⟨advanced, hadvanced, htimeout⟩ := hadvanced.configures
      obtain ⟨steppers, heaters, hsteppers, hheaters, hsections⟩ := hsections.configures
      have hlast : optionLines [printerResource params, .fill "FastEventRoot" (.text "MyPrinter"),
          .fill "EmergencyProvider" (.text "MyPrinter")] = [] := rfl
      have hall := htimeout.cons (hsections.append (hparams.configures.before hlast))
      apply Configures.bind hadvanced
      apply Configures.bind hsteppers
      apply Configures.bind hheaters
      apply Configures.bind hperformance
      simp only [List.cons_append, List.nil_append, List.append_assoc] at hall ⊢
      exact hall

/-- The finish of a build contributes no options. -/
theorem optionless_closingItems (x : Site document) (a : AnalogDriver) (g : Gain) :
    optionLines (closingItems x a g) = [] :=
  Clock.optionless_closingItems _

namespace Sample

/-- An object with another value in one of its fields. -/
def changed (key : String) (v : Value) : Value → Value
  | .object fields => .object (fields.map fun f => if f.1 = key then (key, v) else f)
  | other => other

/-- Homing towards the end stop of the delta machine. -/
def homing : Value :=
  tagged "homing" ([("HomeDir", .bool true), ("HomeEndInvert", .bool false),
    ("HomeEndstopInput", .string "I")] ++ numbers homingMotions)

/-- A probe with two points. -/
def deltaProbe : Value :=
  tagged "Probe" ([("ProbePoints", .list [.object (numbers ["X", "Y"]),
      .object (numbers ["X", "Y"])]),
    ("ProbePin", .string "I"), ("InvertInput", .bool true)]
    ++ numbers (probeOffset ++ probeSettings))

/-- A transform with one virtual axis, which drives the stepper. -/
def deltaTransform : Value :=
  tagged "Delta" ([("DimensionCount", .int 1),
    ("CartesianAxes", .object [("VirtualAxis0", .object ([("Name", .string "Y"),
      ("homing", homing)] ++ numbers virtualMotions))]),
    ("Steppers", .object [("TransformStepper0", .object [("StepperName", .string "X")])])]
    ++ numbers (["SegmentsPerSecond", "DiagnalRod", "MinSplitLength", "MaxSplitLength"]
      ++ deltaOffsets))

def deltaStepper : Value :=
  changed "homing" homing (changed "EnableCartesianSpeedLimit" (.bool false) stepper)

def deltaConfig : Value :=
  changed "probe_config" (.object [("probe", deltaProbe)])
    (changed "steppers" (.list [deltaStepper]) (changed "transform" deltaTransform config))

def deltaBoard : Value :=
  changed "digital_inputs" (.list [.object [("Name", .string "I"), ("Pin", .string "T"),
    ("InputMode", .string "M")]]) board

/-- A delta machine with a probe, which homes its stepper and its virtual axis. -/
def deltaDescription : Value :=
  .object [("selected_config", .string "C"), ("configurations", .list [deltaConfig]),
    ("boards", .list [deltaBoard])]

/-- The delta machine is compiled. -/
theorem delta_compiles : ∃ c, compile deltaDescription none = .ok c :=
  compiled_of_isOk (by decide +kernel)

/-- The configuration of the delta machine, at its place. -/
def deltaConfigAt : Cursor := ⟨deltaConfig, (Path.root.key "configurations").index 0⟩

/-- The board of the delta machine, at its place. -/
def deltaBoardAt : Cursor := ⟨deltaBoard, (Path.root.key "boards").index 0⟩

theorem delta_selected :
    selectSections (.root deltaDescription) none = .ok (deltaConfigAt, deltaBoardAt) := rfl

end Sample

end PrinterFirmware
