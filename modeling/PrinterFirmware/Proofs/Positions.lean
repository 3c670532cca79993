/-
  PrinterFirmware.Proofs.Positions
  ────────────────────────────────
  **THE ARGUMENTS OF THE PRINTER STAND AT THEIR POSITIONS.**

  The arguments of a template are put together from parts of different lengths: two for a
  digital input, two for a parser, one for each option.  Whatever is chosen in a
  description, the parts add up to the parameters of the template:

      TypeExpr.saturated    every instantiation in an expression has as many arguments
                            as its template has parameters
      AxisOf, LetteredOf    the elements of a list of the printer are those of the list
                            of the description, one for one

  Positions are counted from zero.
-/
import PrinterFirmware.Proofs.Options
import PrinterFirmware.Proofs.TimerUsers

namespace PrinterFirmware

open Document Naming Build Board Machine

variable {document : Value} {x : Site document} {c : Cursor}

/-! ## §1. Numbers of parameters. -/

/-- The templates from which a printer is put together, and how many parameters each
has. -/
def parameterCounts : List (String × Nat) :=
  [("PrinterMainParams", 23), ("PrinterMainAxisParams", 17), ("PrinterMainHomingParams", 2),
   ("AxisHomerService", 9), ("PrinterMainVirtualAxisParams", 5),
   ("PrinterMainVirtualHomingParams", 10), ("PrinterMainHeaterParams", 11),
   ("PrinterMainFanParams", 4), ("PrinterMainTransformParams", 4), ("PrinterMainProbeParams", 14),
   ("PrinterMainSdCardParams", 5)]

namespace TypeExpr

mutual

/-- The instantiations in an expression, from the outside to the inside: the template and
the arguments of each. -/
def instantiations : TypeExpr → List (String × List TypeExpr)
  | .text _ => []
  | .int _ => []
  | .bool _ => []
  | .char _ => []
  | .inst name args => (name, args) :: instantiationsAmong args

/-- The instantiations in several expressions. -/
def instantiationsAmong : List TypeExpr → List (String × List TypeExpr)
  | [] => []
  | e :: es => instantiations e ++ instantiationsAmong es

end

/-- Whether an instantiation has as many arguments as the template has parameters. -/
def exact (i : String × List TypeExpr) : Bool :=
  match parameterCounts.lookup i.1 with
  | some n => i.2.length == n
  | none => true

/-- Whether all instantiations in an expression are exact. -/
def saturated (e : TypeExpr) : Bool := e.instantiations.all exact

/-- Whether all instantiations in several expressions are exact. -/
def allSaturated (es : List TypeExpr) : Bool := (instantiationsAmong es).all exact

/-- **What is checked**: every instantiation of one of the templates has as many arguments
as that has parameters. -/
theorem length_of_saturated {e : TypeExpr} (h : e.saturated = true) {name : String} {n : Nat}
    (hn : parameterCounts.lookup name = some n) {args : List TypeExpr}
    (hargs : (name, args) ∈ e.instantiations) : args.length = n := by
  have hexact := List.all_eq_true.1 h _ hargs
  unfold exact at hexact
  rw [hn] at hexact
  exact beq_iff_eq.1 hexact

@[simp] theorem saturated_text (s : String) : (text s).saturated = true := rfl
@[simp] theorem saturated_int (n : Int) : (int n).saturated = true := rfl
@[simp] theorem saturated_bool (b : Bool) : (bool b).saturated = true := rfl
@[simp] theorem saturated_char (l : Char) : (char l).saturated = true := rfl

@[simp] theorem allSaturated_nil : allSaturated [] = true := rfl

@[simp] theorem allSaturated_cons (e : TypeExpr) (es : List TypeExpr) :
    allSaturated (e :: es) = (e.saturated && allSaturated es) :=
  List.all_append

@[simp] theorem allSaturated_append (es es' : List TypeExpr) :
    allSaturated (es ++ es') = (allSaturated es && allSaturated es') := by
  induction es with
  | nil => rfl
  | cons e rest ih =>
      rw [List.cons_append, allSaturated_cons, allSaturated_cons, ih, Bool.and_assoc]

/-- An instantiation of a template whose parameters are counted. -/
theorem saturated_inst {name : String} {n : Nat} {args : List TypeExpr}
    (hn : parameterCounts.lookup name = some n) (hlength : args.length = n)
    (hargs : allSaturated args = true) : (inst name args).saturated = true := by
  have hexact : exact (name, args) = true := by
    unfold exact
    rw [hn]
    exact beq_iff_eq.2 hlength
  show (exact (name, args) && allSaturated args) = true
  rw [hexact, hargs]
  rfl

/-- An instantiation of another template. -/
theorem saturated_other {name : String} {args : List TypeExpr}
    (hname : parameterCounts.lookup name = none) (hargs : allSaturated args = true) :
    (inst name args).saturated = true := by
  have hexact : exact (name, args) = true := by
    unfold exact
    rw [hname]
  show (exact (name, args) && allSaturated args) = true
  rw [hexact, hargs]
  rfl

@[simp] theorem saturated_list (es : List TypeExpr) : (list es).saturated = allSaturated es :=
  rfl

@[simp] theorem allSaturated_optionNames (stem : String) (fields : List String) :
    allSaturated (optionNames stem fields) = true := by
  induction fields with
  | nil => rfl
  | cons field rest ih => exact ih

end TypeExpr

open TypeExpr

/-! ## §2. Parts of a board. -/

theorem TimerGives.saturated {key user : String} {clearance : Option String} {e : TypeExpr}
    {g : Gain} (h : TimerGives x c key user clearance e g) : e.saturated = true := by
  cases h with
  | mk =>
      -- The service of each family has one more argument if there is a clearance.
      cases clearance with
      | none => cases x.clock.family <;> rfl
      | some => cases x.clock.family <;> rfl

theorem WatchdogGives.saturated {key user : String} {e : TypeExpr} {g : Gain}
    (h : WatchdogGives c key user e g) : e.saturated = true := by
  cases h with
  | at91Sam => rfl
  | mk20 => rfl
  | avr => rfl

theorem SerialGives.saturated {e : TypeExpr} {items : List Item} (h : SerialGives c e items) :
    e.saturated = true := by
  cases h with
  | mk _ _ _ _ hdriver =>
      cases hdriver with
      | usb => rfl
      | at91Sam => rfl
      | teensy => rfl
      | avr => rfl

/-- The parameters of an SD card: its reader, two for the parser, and two sizes. -/
theorem CardGives.saturated {key : String} {e : TypeExpr} {g : Gain} (h : CardGives x c key e g) :
    e.saturated = true := by
  cases h with
  | none => rfl
  | card _ hreader hparser _ _ =>
      cases hreader with
      | mk _ _ hbus =>
          cases hparser with
          | text =>
              cases hbus with
              | at91Sam => rfl
              | avr => rfl
          | binary =>
              cases hbus with
              | at91Sam => rfl
              | avr => rfl

theorem ManagerGives.saturated {key user : String} {e : TypeExpr} {g : Gain}
    (h : ManagerGives c key user e g) : e.saturated = true := by
  cases h with
  | constant => rfl
  | runtime _ hstore =>
      cases hstore with
      | none => rfl
      | eeprom _ hmemory _ _ =>
          cases hmemory with
          | i2c _ hbus _ _ _ =>
              cases hbus with
              | mk => rfl
          | teensy => rfl
          | avr => rfl

/-! ## §3. Sections of a printer. -/

theorem DigitalInputGives.saturated {key : String} {es : List TypeExpr}
    (h : DigitalInputGives x c key es) : allSaturated es = true := by
  cases h with
  | mk => rfl

/-- A digital input gives its pin and its mode. -/
theorem DigitalInputGives.length {key : String} {es : List TypeExpr}
    (h : DigitalInputGives x c key es) : es.length = 2 := by
  cases h with
  | mk => rfl

theorem length_optionNames (stem : String) (fields : List String) :
    (optionNames stem fields).length = fields.length :=
  List.length_map _

/-- The homing of a stepper: an end stop takes two of the nine parameters of the homer. -/
theorem HomingGives.saturated {l : Char} {e : TypeExpr} {items : List Item}
    (h : HomingGives x c l e items) : e.saturated = true := by
  cases h with
  | none => rfl
  | @homing node direction invert endstop items hnode _ hendstop _ _ =>
      obtain ⟨homer, hhomer⟩ : ∃ homer, homer = TypeExpr.inst "AxisHomerService"
          (endstop ++ .text (String.singleton l ++ "HomeEndInvert")
            :: optionNames (String.singleton l) homingMotions) := ⟨_, rfl⟩
      have hsaturated : homer.saturated = true := by
        rw [hhomer]
        refine saturated_inst (n := 9) rfl ?_ ?_
        · rw [List.length_append, hendstop.length]
          rfl
        · simp [hendstop.saturated]
      rw [← hhomer]
      refine saturated_inst (n := 2) rfl rfl ?_
      simp [hsaturated]

/-- **An axis has seventeen parameters**, whether it homes or not. -/
theorem StepperGives.saturated {i : Nat} {l : Char} {e : TypeExpr} {g : Gain}
    (h : StepperGives x c i l e g) : e.saturated = true := by
  cases h with
  | @mk port dirPin stepPin enablePin invertDir cartesian homing timer motionItems homingItems g
      _ _ _ _ _ _ hhoming _ htimer =>
      have hdriver : (TypeExpr.inst "AxisDriverService"
          [timer, .text "TheAxisDriverPrecisionParams"]).saturated = true := by
        apply saturated_other rfl
        simp [htimer.saturated]
      refine saturated_inst (n := 17) rfl rfl ?_
      simp [hhoming.saturated, hdriver]

theorem VirtualAxisGives.saturated {l : Char} {e : TypeExpr} {g : Gain}
    (h : VirtualAxisGives x c l e g) : e.saturated = true := by
  cases h with
  | @mk homing motionItems homingItems hmotions hhoming =>
      have hsaturated : homing.saturated = true := by
        cases hhoming with
        | none => rfl
        | homing _ hendstop _ _ _ =>
            refine saturated_inst (n := 10) rfl ?_ ?_
            · rw [List.length_append, hendstop.length]
              rfl
            · simp [hendstop.saturated]
      refine saturated_inst (n := 5) rfl rfl ?_
      simp [hsaturated]

theorem PwmOutputGives.saturated {key user username : String} {e : TypeExpr} {g : Gain}
    (h : PwmOutputGives x c key user username e g) : e.saturated = true := by
  cases h with
  | soft _ h =>
      cases h with
      | mk _ _ _ _ htimer =>
          apply saturated_other rfl
          simp [htimer.saturated]
  | hard _ h =>
      cases h with
      | mk _ hdriver =>
          cases hdriver with
          | avr => rfl
          | at91Sam => rfl

/-- **A heater has eleven parameters**, three of which are services with options of their
own. -/
theorem HeaterGives.saturated {i : Nat} {l : Char} {e : TypeExpr} {g : Gain}
    (h : HeaterGives x c i l e g) : e.saturated = true := by
  have hservice : ∀ (name stem : String) (fields : List String),
      parameterCounts.lookup name = none →
      (TypeExpr.inst name (optionNames stem fields)).saturated = true := by
    intro name stem fields hname
    exact saturated_other hname (allSaturated_optionNames stem fields)
  cases h with
  | mk _ _ _ _ _ _ _ _ _ hinput _ houtput =>
      cases hinput with
      | mk =>
          refine saturated_inst (n := 11) rfl rfl ?_
          simp [houtput.saturated, hservice "GenericThermistorService" _ _ rfl,
            hservice "PidControlService" _ _ rfl, hservice "TemperatureObserverService" _ _ rfl]

/-- A fan has four parameters, its PWM output the last of them. -/
theorem FanGives.saturated {i : Nat} {l : Char} {e : TypeExpr} {g : Gain}
    (h : FanGives x c i l e g) : e.saturated = true := by
  cases h with
  | mk _ _ houtput =>
      refine saturated_inst (n := 4) rfl rfl ?_
      simp [houtput.saturated]

/-- The points of a probe, one element for each. -/
theorem PointsGive.saturated {i : Nat} {nodes : List Cursor} {es : List TypeExpr}
    {items : List Item} (h : PointsGive i nodes es items) :
    allSaturated es = true ∧ es.length = nodes.length := by
  induction h with
  | nil => exact ⟨rfl, rfl⟩
  | cons _ _ ih =>
      obtain ⟨hsaturated, hlength⟩ := ih
      refine ⟨?_, ?_⟩
      · simp [hsaturated]
      · simp [hlength]

/-- **A probe has fourteen parameters**: the axes, a digital input, the settings and the
points. -/
theorem ProbeGives.saturated {e : TypeExpr} {items : List Item} (h : ProbeGives x c e items) :
    e.saturated = true := by
  cases h with
  | none => rfl
  | probe _ _ h =>
      cases h with
      | mk _ _ _ hpoints hinput _ =>
          refine saturated_inst (n := 14) rfl ?_ ?_
          · simp [hinput.length, length_optionNames, probeAxes, probeSettings]
          · have haxes : allSaturated probeAxes = true := rfl
            simp [haxes, hinput.saturated, hpoints.saturated.1]

/-- Things of one scope are saturated if each of them is. -/
theorem Things.saturated {R : Cursor → Nat → Char → TypeExpr → Gain → Prop}
    (hR : ∀ c i l e g, R c i l e g → e.saturated = true) {letters after : List Char} {i : Nat}
    {nodes : List Cursor} {es : List TypeExpr} {g : Gain}
    (h : Things R letters i nodes es g after) : allSaturated es = true := by
  induction h with
  | nil => rfl
  | cons _ _ h _ ih => rw [allSaturated_cons, hR _ _ _ _ _ h, ih]; rfl

theorem TransformSteppersGive.saturated {config : Cursor} {e : TypeExpr}
    (h : TransformSteppersGive config c e) : e.saturated = true := by
  cases h with
  | mk _ hes =>
      rw [saturated_list]
      clear * - hes
      induction hes with
      | nil => rfl
      | cons h _ ih =>
          cases h with
          | mk => exact ih

theorem TransformTypeGives.saturated {e : TypeExpr} {items : List Item}
    (h : TransformTypeGives c e items) : e.saturated = true := by
  cases h with
  | coreXY => rfl
  | delta => rfl

theorem TransformGives.saturated {letters after : List Char} {e : TypeExpr} {g : Gain}
    (h : TransformGives x c letters e g after) : e.saturated = true := by
  cases h with
  | none => rfl
  | some _ _ haxes hsteppers _ htype =>
      refine saturated_inst (n := 4) rfl rfl ?_
      have haxes := haxes.saturated fun _ _ _ _ _ h => VirtualAxisGives.saturated h
      simp [haxes, hsteppers.saturated, htype.saturated]

/-- The parts which a board leaves to the printer. -/
structure BoardParts.Saturated (parts : BoardParts) : Prop where
  serial : parts.serial.saturated = true
  ledPin : parts.ledPin.saturated = true
  eventTimer : parts.eventTimer.saturated = true
  watchdog : parts.watchdog.saturated = true
  sdCard : parts.sdCard.saturated = true
  configManager : parts.configManager.saturated = true

theorem BoardGives.saturated {y : Site document} {board : Cursor} {parts : BoardParts} {g : Gain}
    (h : BoardGives x board y parts g) : parts.Saturated := by
  cases h with
  | mk _ _ _ _ _ _ hdrivers _ _ _ _ htimer _ _ _ _ hserial _ hcard _ hmanager =>
      cases hdrivers with
      | mk _ _ hwatchdog _ _ =>
          exact ⟨hserial.saturated, rfl, htimer.saturated, hwatchdog.saturated, hcard.saturated,
            hmanager.saturated⟩

/-- **The printer has twenty-three parameters**, and all instantiations among them are
exact. -/
theorem ParamsGive.saturated {parts : BoardParts} {s : Sections} {e : TypeExpr}
    {items : List Item} {g : Gain} (hparts : parts.Saturated) (hsections : SectionsGive x c s g)
    (h : ParamsGive c parts s e items) : (printerExpr e).saturated = true := by
  cases hsections with
  | mk hprobe hsteppers hheaters htransform hfans =>
  obtain ⟨hheaters⟩ := hheaters
  obtain ⟨hfans⟩ := hfans
  obtain ⟨-, hsteppers⟩ := hsteppers
  obtain ⟨-, hheaters⟩ := hheaters
  obtain ⟨-, hfans⟩ := hfans
  have hsteppers := hsteppers.saturated fun _ _ _ _ _ h => StepperGives.saturated h
  have hheaters := hheaters.saturated fun _ _ _ _ _ h => HeaterGives.saturated h
  have hfans := hfans.saturated fun _ _ _ _ _ h => FanGives.saturated h
  cases h with
  | mk =>
      apply saturated_other rfl
      rw [allSaturated_cons, allSaturated_cons, allSaturated_cons, saturated_inst (n := 23) rfl rfl]
      · rfl
      · simp [hparts.serial, hparts.ledPin, hparts.eventTimer, hparts.watchdog, hparts.sdCard,
          hparts.configManager, hprobe.saturated, hsteppers, htransform.saturated, hheaters, hfans]

/-! ## §4. Elements of lists. -/

/-- An expression whose first argument is the letter of the object it comes from. -/
inductive LetteredOf (template : String) (node : Cursor) : TypeExpr → Prop where
  | mk {l : Char} {rest : List TypeExpr} (hletter : node.letter "Name" = .ok l) :
      LetteredOf template node (.inst template (.char l :: rest))

/-- The axis of a stepper: after its letter come three pins of the port which the stepper
references. -/
inductive AxisOf (board stepper : Cursor) : TypeExpr → Prop where
  | mk {l : Char} {name dirPin stepPin enablePin : String} {port : Cursor} {rest : List TypeExpr}
      (hletter : stepper.letter "Name" = .ok l) (hname : stepper.string "stepper_port" = .ok name)
      (hport : board.find "stepper_ports" "Name" name = .ok port)
      (hdirPin : port.string "DirPin" = .ok dirPin)
      (hstepPin : port.string "StepPin" = .ok stepPin)
      (henablePin : port.string "EnablePin" = .ok enablePin) :
      AxisOf board stepper (.inst "PrinterMainAxisParams"
        (.char l :: .text dirPin :: .text stepPin :: .text enablePin :: rest))

/-- The probe: its last argument has one element for each probing point. -/
inductive ProbeOf (config : Cursor) : TypeExpr → Prop where
  | none {section_ node : Cursor} (hsection : config.enter "probe_config" = .ok section_)
      (hnode : section_.Chosen "probe" "NoProbe" node) :
      ProbeOf config (.text "PrinterMainNoProbeParams")
  | probe {section_ node : Cursor} {nodes : List Cursor} {args points : List TypeExpr}
      (hsection : config.enter "probe_config" = .ok section_)
      (hnode : section_.Chosen "probe" "Probe" node)
      (hnodes : node.objects "ProbePoints" 1 20 = .ok nodes)
      (hbounds : 1 ≤ nodes.length ∧ nodes.length ≤ 20) (hpoints : args[13]? = some (.list points))
      (hlength : points.length = nodes.length) :
      ProbeOf config (.inst "PrinterMainProbeParams" args)

/-- The transform: a list of virtual axes and a list of steppers, both as long as the
transform has dimensions. -/
inductive TransformOf (config : Cursor) : TypeExpr → Prop where
  | none {node : Cursor} (hnode : config.Chosen "transform" "NoTransform" node) :
      TransformOf config (.text "PrinterMainNoTransformParams")
  | some {node elems : Cursor} {tag : String} {n : Nat} {nodes : List Cursor}
      {axes steppers rest : List TypeExpr} (hnode : config.Chosen "transform" tag node)
      (hcount : node.int "DimensionCount" = .ok n) (hbounds : 1 ≤ n ∧ n ≤ 3)
      (helems : node.enter "CartesianAxes" = .ok elems)
      (hnodes : Numbered elems "VirtualAxis" 0 nodes)
      (haxes : List.Forall₂ (LetteredOf "PrinterMainVirtualAxisParams") nodes axes)
      (hlength : axes.length = n) (hlength' : steppers.length = n) :
      TransformOf config
        (.inst "PrinterMainTransformParams" (.list axes :: .list steppers :: rest))

/-- The expression `e` is a list whose elements come from the list of objects at `key`, one
for one. -/
def ListOf (P : Cursor → TypeExpr → Prop) (c : Cursor) (key : String) (min max : Nat)
    (e : TypeExpr) : Prop :=
  ∃ nodes es, c.objects key min max = .ok nodes ∧ min ≤ nodes.length ∧ nodes.length ≤ max
    ∧ e = .list es ∧ List.Forall₂ P nodes es

/-- A list of objects has as many elements as it may have. -/
theorem objects_between {key : String} {min max : Nat} {nodes : List Cursor}
    (h : c.objects key min max = .ok nodes) : min ≤ nodes.length ∧ nodes.length ≤ max := by
  obtain ⟨elems, -, hcount, -, rfl⟩ := Cursor.objects_eq_ok.1 h
  have hlength : (c.elementsOf key elems).length = elems.length := by
    simp [Cursor.elementsOf]
  rwa [hlength]

theorem Things.forall₂ {R : Cursor → Nat → Char → TypeExpr → Gain → Prop}
    {P : Cursor → TypeExpr → Prop}
    (hR : ∀ c i l e g, c.letter "Name" = .ok l → R c i l e g → P c e) {letters after : List Char}
    {i : Nat} {nodes : List Cursor} {es : List TypeExpr} {g : Gain}
    (h : Things R letters i nodes es g after) : List.Forall₂ P nodes es := by
  induction h with
  | nil => exact .nil
  | cons _ hletter h _ ih => exact .cons (hR _ _ _ _ _ hletter h) ih

theorem ListedThings.listOf {R : Cursor → Nat → Char → TypeExpr → Gain → Prop}
    {P : Cursor → TypeExpr → Prop}
    (hR : ∀ c i l e g, c.letter "Name" = .ok l → R c i l e g → P c e) {key : String}
    {min max : Nat} {letters after : List Char} {e : TypeExpr} {g : Gain}
    (h : ListedThings R c key min max letters e g after) : ListOf P c key min max e := by
  cases h with
  | mk hnodes hes =>
      obtain ⟨hmin, hmax⟩ := objects_between hnodes
      exact ⟨_, _, hnodes, hmin, hmax, rfl, hes.forall₂ hR⟩

/-! ## §5. Positions. -/

theorem StepperGives.axisOf {board : Cursor} (hx : HardwareRegistered board [] x.objects) {i : Nat}
    {l : Char} {e : TypeExpr} {g : Gain} (hletter : c.letter "Name" = .ok l)
    (h : StepperGives x c i l e g) : AxisOf board c e := by
  cases h with
  | mk hport hdirPin hstepPin henablePin =>
      obtain ⟨name, hname, hnode⟩ := hport
      exact .mk hletter hname (hx.stepperPort hnode) hdirPin.read hstepPin.read henablePin.read

theorem HeaterGives.letteredOf {i : Nat} {l : Char} {e : TypeExpr} {g : Gain}
    (hletter : c.letter "Name" = .ok l) (h : HeaterGives x c i l e g) :
    LetteredOf "PrinterMainHeaterParams" c e := by
  cases h with
  | mk => exact .mk hletter

theorem VirtualAxisGives.letteredOf {l : Char} {e : TypeExpr} {g : Gain}
    (hletter : c.letter "Name" = .ok l) (h : VirtualAxisGives x c l e g) :
    LetteredOf "PrinterMainVirtualAxisParams" c e := by
  cases h with
  | mk => exact .mk hletter

theorem ProbeGives.probeOf {e : TypeExpr} {items : List Item} (h : ProbeGives x c e items) :
    ProbeOf c e := by
  cases h with
  | none hc hnode => exact .none hc hnode
  | probe hc hnode h =>
      cases h with
      | mk _ _ hnodes hpoints hinput _ =>
          cases hinput with
          | mk => exact .probe hc hnode hnodes (objects_between hnodes) rfl hpoints.saturated.2

theorem TransformGives.transformOf {letters after : List Char} {e : TypeExpr} {g : Gain}
    (h : TransformGives x c letters e g after) : TransformOf c e := by
  cases h with
  | none hnode => exact .none hnode
  | some hnode haxisNodes haxes hsteppers _ _ =>
      obtain ⟨n, hcount, hmin, hmax, hlength⟩ := haxisNodes.count
      obtain ⟨elems, helems, hnumbered⟩ := haxisNodes.numbered
      have haxes := haxes.forall₂ (P := LetteredOf "PrinterMainVirtualAxisParams")
        fun c _ l _ _ hletter h => VirtualAxisGives.letteredOf hletter h
      cases hsteppers with
      | mk hstepperNodes hes =>
          -- Both lists are counted by one field.
          obtain ⟨n', hcount', -, -, hlength'⟩ := hstepperNodes.count
          cases hcount.symm.trans hcount'
          obtain ⟨k, rfl⟩ : ∃ k : Nat, n = k := ⟨n.toNat, by omega⟩
          refine .some hnode hcount ?_ helems hnumbered haxes ?_ ?_
          · simp only [maxDimensions] at hmax
            omega
          · rw [← haxes.length_eq, hlength]
            rfl
          · rw [← hes.length_eq, hlength']
            rfl

/-- What stands at which position of the expression of a printer. -/
structure PrinterPositions (config board : Cursor) (printer : TypeExpr) : Prop where
  /-- Every template has its parameters, in all variants. -/
  counts : ∀ name n args, parameterCounts.lookup name = some n →
    (name, args) ∈ printer.instantiations → args.length = n
  params : ∃ args, printer = .inst "PrinterMain"
    [.text "MyContext", .text "Program", .inst "PrinterMainParams" args]
  probe : ∃ e, printer.argument? (printerArgument 15) = some e ∧ ProbeOf config e
  steppers : ∃ e, printer.argument? (printerArgument 19) = some e
    ∧ ListOf (AxisOf board) config "steppers" 1 15 e
  transform : ∃ e, printer.argument? (printerArgument 20) = some e ∧ TransformOf config e
  heaters : ∃ e, printer.argument? (printerArgument 21) = some e
    ∧ ListOf (LetteredOf "PrinterMainHeaterParams") config "heaters" 0 15 e
  fans : ∃ e, printer.argument? (printerArgument 22) = some e
    ∧ ListOf (fun _ e => ∃ args, e = .inst "PrinterMainFanParams" args) config "fans" 0 15 e

/-- **The positions of the parameters of a printer.** -/
theorem ParamsGive.positions {board : Cursor} {parts : BoardParts} {s : Sections} {e : TypeExpr}
    {items : List Item} {g : Gain} (hx : HardwareRegistered board [] x.objects)
    (hparts : parts.Saturated) (hsections : SectionsGive x c s g)
    (h : ParamsGive c parts s e items) : PrinterPositions c board (printerExpr e) := by
  have hsaturated := h.saturated hparts hsections
  cases hsections with
  | mk hprobe hsteppers hheaters htransform hfans =>
  obtain ⟨hheaters⟩ := hheaters
  obtain ⟨hfans⟩ := hfans
  cases h with
  | mk =>
      constructor
      · intro name n args hn hargs
        exact length_of_saturated hsaturated hn hargs
      · exact ⟨_, rfl⟩
      · exact ⟨_, rfl, hprobe.probeOf⟩
      · exact ⟨_, rfl, hsteppers.listOf fun _ _ _ _ _ hletter h => StepperGives.axisOf hx hletter h⟩
      · exact ⟨_, rfl, htransform.transformOf⟩
      · exact ⟨_, rfl, hheaters.listOf fun _ _ _ _ _ hletter h =>
          HeaterGives.letteredOf hletter h⟩
      · refine ⟨_, rfl, hfans.listOf ?_⟩
        intro _ _ _ _ _ _ h
        cases h with
        | mk => exact ⟨_, rfl⟩

/-- The printer of a compiled program has the parameters which the configuration gives. -/
theorem CompileGives.printer {name? : Option String} {compiled : Compiled}
    (h : CompileGives document name? compiled) :
    ∃ config board, ∃ x : Site document, ∃ parts boardGain sections sectionGain params items w,
      selectSections (.root document) name? = .ok (config, board)
        ∧ BoardGives (.start document) board x parts boardGain
        ∧ SectionsGive x config sections sectionGain
        ∧ ParamsGive config parts sections params items
        ∧ build document name? .empty = .ok compiled w
        ∧ w.draft.HasPrinter compiled.slots (printerExpr params) := by
  cases h with
  | @mk config board x parts a boardGain printerGain d hsections hboard hprinter hdeferred hd w
      _ _ hrun hdraft =>
      subst hdraft
      obtain ⟨hx, -, t, -, hevent⟩ := hboard.timers
      obtain ⟨s, g, params, paramItems, axes, hot, cool, front, back, hs, hparams, -, hitems,
        hfront, hback⟩ := hprinter.timers hx
      have hprinter := hasPrinter_of_build hrun (items_around_printer hd hitems)
        (hevent.bindings.append hfront)
        (hback.append (quiet_closingItems x a (boardGain ++ printerGain)))
      exact ⟨config, board, x, parts, boardGain, s, g, params, paramItems, w, hsections, hboard, hs,
        hparams, hrun, hprinter⟩

/-- **The arguments of the printer never shift.**  Whatever is chosen in a description, every
template of the expression of the printer has its number of parameters, and the lists of
steppers, heaters, fans, virtual axes and probing points stand at their positions with one
element for each object of the description, in the same order. -/
theorem compile_positions {name? : Option String} {compiled : Compiled}
    (h : compile document name? = .ok compiled) :
    ∃ config board w printer,
      selectSections (.root document) name? = .ok (config, board)
        ∧ build document name? .empty = .ok compiled w
        ∧ w.draft.HasPrinter compiled.slots printer
        ∧ PrinterPositions config board printer := by
  obtain ⟨config, board, x, parts, boardGain, s, g, params, items, w, hsections, hboard, hs,
    hparams, hrun, hprinter⟩ := (compile_gives h).printer
  obtain ⟨hx, -, -⟩ := hboard.timers
  exact ⟨config, board, w, printerExpr params, hsections, hrun, hprinter,
    hparams.positions hx hboard.saturated hs⟩

/-- The positions of the printer of the delta machine. -/
theorem delta_positions : ∃ compiled w printer,
    compile Sample.deltaDescription none = .ok compiled
      ∧ build Sample.deltaDescription none .empty = .ok compiled w
      ∧ w.draft.HasPrinter compiled.slots printer
      ∧ PrinterPositions Sample.deltaConfigAt Sample.deltaBoardAt printer := by
  obtain ⟨compiled, hcompiled⟩ := Sample.delta_compiles
  obtain ⟨config, board, w, printer, hsections, hrun, hprinter, hpositions⟩ :=
    compile_positions hcompiled
  cases Sample.delta_selected.symm.trans hsections
  exact ⟨compiled, w, printer, hcompiled, hrun, hprinter, hpositions⟩

end PrinterFirmware
