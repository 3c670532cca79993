/-
  PrinterFirmware.Proofs.Containment
  ──────────────────────────────────
  **NO TEXT OF A DESCRIPTION BREAKS OUT OF THE GENERATED SOURCE.**

  What the sections of the board and of the printer give is tame, and so is what the
  finish of the build adds: the resource of the analog inputs, whose pins are those which
  the heaters use, and the finished clock.  So every slot of a compiled program holds
  printable characters and line breaks only, neither dollar signs nor backslashes, and
  its brackets match.
-/
import PrinterFirmware.Proofs.Acceptance
import PrinterFirmware.Proofs.MachineText

namespace PrinterFirmware

open Document Naming Build Board Machine

variable {document : Value}

/-! ## §1. A small description. -/

namespace Sample

/-- An object with a tag. -/
def tagged (tag : String) (fields : List (String × Value)) : Value :=
  .object ((Cursor.tagKey, .string tag) :: fields)

/-- Fields which hold numbers. -/
def numbers (fields : List String) : List (String × Value) := fields.map fun f => (f, .int 1)

/-- The name of an output compare unit. -/
def unit (name : String) : Value := .object [("oc_unit", .string name)]

/-- A PWM output which is driven by an interrupt timer. -/
def softPwm (name pin unitName : String) : Value :=
  .object [("Name", .string name), ("Backend", tagged "SoftPwm"
    [("OutputPin", .string pin), ("OutputInvert", .bool false), ("PulseInterval", .int 1),
      ("Timer", unit unitName)])]

def stepper : Value :=
  .object ([("Name", .string "X"), ("stepper_port", .string "P"), ("InvertDir", .bool false),
    ("homing", tagged "no_homing" []), ("EnableCartesianSpeedLimit", .bool true)]
    ++ numbers stepperMotions)

def heater : Value :=
  .object ([("Name", .string "B"), ("conversion", .object (numbers thermistorSettings)),
    ("control", .object (numbers ("ControlInterval" :: controlSettings))),
    ("observer", .object (numbers observerSettings)), ("SetMCommand", .int 140),
    ("WaitMCommand", .int 190), ("ThermistorInput", .string "A"), ("pwm_output", .string "W")]
    ++ numbers safetySettings)

def fan : Value :=
  .object [("Name", .string "F"), ("SetMCommand", .int 106), ("OffMCommand", .int 107),
    ("pwm_output", .string "V")]

def config : Value :=
  .object [("name", .string "C"), ("board", .string "B"),
    ("advanced", .object (numbers ["LedBlinkInterval", "ForceTimeout"])),
    ("probe_config", .object [("probe", tagged "NoProbe" [])]),
    ("steppers", .list [stepper]), ("heaters", .list [heater]),
    ("transform", tagged "NoTransform" []), ("fans", .list [fan]), ("InactiveTime", .int 1)]

def platform : Value :=
  tagged "Teensy3"
    [("clock", tagged "Mk20Clock" [("prescaler", .int 1), ("primary_timer", .string "FTM0")]),
      ("pins", tagged "Mk20Pins" []),
      ("watchdog", tagged "Mk20Watchdog" (numbers ["Toval", "Prescval"])),
      ("adc", tagged "Mk20Adc" (numbers ["AdcADiv"]))]

def board : Value :=
  .object [("name", .string "B"),
    ("platform_config", .object [("board_for_build", .string "b"), ("output_type", .string "hex"),
      ("board_helper_includes", .list []), ("platform", platform)]),
    ("digital_inputs", .list []),
    ("stepper_ports", .list [.object [("Name", .string "P"), ("DirPin", .string "D"),
      ("StepPin", .string "S"), ("EnablePin", .string "E"), ("StepperTimer", unit "FTM0_0")]]),
    ("analog_inputs", .list [.object [("Name", .string "A"),
      ("Pin", .string "Mk20Pin<Mk20PortB,1>")]]),
    ("pwm_outputs", .list [softPwm "W" "H" "FTM0_1", softPwm "V" "G" "FTM1_0"]),
    ("LedPin", .string "L"), ("EventChannelTimer", unit "FTM0_2"),
    ("performance", .object ([("AxisDriverPrecisionParams", .string "Q"),
      ("FpType", .string "float")] ++ numbers ["EventChannelTimerClearance", "MaxStepsPerCycle",
        "StepperSegmentBufferSize", "EventChannelBufferSize", "LookaheadBufferSize",
        "LookaheadCommitCount"])),
    ("serial", .object (("Service", tagged "TeensyUsbSerial" []) :: numbers ["BaudRate",
      "RecvBufferSizeExp", "SendBufferSizeExp", "GcodeMaxParts"])),
    ("sdcard_config", .object [("sdcard", tagged "NoSdCard" [])]),
    ("runtime_config", .object [("config_manager", tagged "ConstantConfigManager" [])])]

/-- A printer with one axis, one heater and one fan. -/
def description : Value :=
  .object [("selected_config", .string "C"), ("configurations", .list [config]),
    ("boards", .list [board])]

end Sample

theorem compiled_of_isOk {name? : Option String} (h : (compile document name?).isOk = true) :
    ∃ c, compile document name? = .ok c := by
  cases hc : compile document name? with
  | ok c => exact ⟨c, rfl⟩
  | error e =>
      rw [hc] at h
      cases h

/-- The small description is compiled. -/
theorem Sample.compiles : ∃ c, compile description none = .ok c :=
  compiled_of_isOk (by decide +kernel)

/-! ## §2. Compiled programs. -/

/-- The items which the finish of a build adds are tame. -/
theorem tame_closingItems {x : Site document} {a : AnalogDriver} {g : Gain} (hx : x.Tame)
    (ha : a.Tame) (hg : g.Tame) : Item.TameAll (closingItems x a g) := by
  have hclock : Clock.Tame { x.clock with claims := g.units } :=
    ⟨hx.clock.prescaler, hx.clock.primary, hx.clock.configured, hg.units⟩
  exact .cons (ha.resource hg.pins) hclock.closingItems

/-- The items of a compiled program are tame. -/
theorem tame_compiled {config board : Cursor} {x : Site document} {parts : BoardParts}
    {a : AnalogDriver} {boardGain printerGain : Gain}
    (hboard : BoardGives (.start document) board x parts boardGain)
    (hprinter : PrinterGives x config parts printerGain)
    (hdeferred : x.deferred = [.analogDriver a]) :
    Item.TameAll ((boardGain ++ printerGain).items
      ++ closingItems x a (boardGain ++ printerGain)) := by
  obtain ⟨hx, hparts, hboardGain⟩ := hboard.tame rfl
  have hprinterGain := hprinter.tame hx.plain hparts
  have hgain := hboardGain.append hprinterGain
  have ha : a.Tame := hx.deferred a (by rw [hdeferred]; exact List.mem_cons_self)
  exact hgain.items.append (tame_closingItems hx ha hgain)

/-- **Every slot of a compiled program is source text**: its characters are printable or
line breaks, it has neither dollar signs nor backslashes, and every closing bracket of it
matches the latest open one, with none left open at the end. -/
theorem compile_slots_contained {name? : Option String} {c : Compiled}
    (h : compile document name? = .ok c) : ∀ e ∈ c.slots.entries, SourceText e.2 := by
  cases compile_gives h with
  | mk _ hboard hprinter hdeferred hd =>
      subst hd
      exact Draft.sourceText_slots (tame_compiled hboard hprinter hdeferred)

/-- The slots of the small description. -/
theorem sample_slots_contained : ∃ c, compile Sample.description none = .ok c
    ∧ ∀ e ∈ c.slots.entries, SourceText e.2 := by
  obtain ⟨c, hc⟩ := Sample.compiles
  exact ⟨c, hc, compile_slots_contained hc⟩

end PrinterFirmware
