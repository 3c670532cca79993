/-
  PrinterFirmware.Proofs.Drivers
  ──────────────────────────────
  **WHAT THE DRIVERS OF A BOARD GIVE.**

  The platform, pins, the watchdog, analog inputs and pulse width modulation.  For
  every walk a relation says, variant by variant, what it reads, what it gives and
  what it gains; the theorem after the relation says that the walk gives nothing else
  and reports only what is true.
-/
import PrinterFirmware.Board.Analog
import PrinterFirmware.Board.Platform
import PrinterFirmware.Board.Pwm
import PrinterFirmware.Board.Watchdog
import PrinterFirmware.Proofs.Timers

namespace PrinterFirmware

open Document Naming Build Board

variable {document : Value} {x : Site document} {c : Cursor}

/-! ## §1. Platforms. -/

/-- The items of the platform at `key`. -/
inductive PlatformGives (c : Cursor) (key : String) : List Item → Prop where
  | at91Sam {node : Cursor} (hnode : c.Chosen key "At91Sam3x8e" node) :
      PlatformGives c key
        [.platformInclude "aprinter/platform/at91sam3x/at91sam3x_support.h",
          .initCall (-1) "platform_init();"]
  | teensy {node : Cursor} (hnode : c.Chosen key "Teensy3" node) :
      PlatformGives c key [.platformInclude "aprinter/platform/teensy3/teensy3_support.h"]
  | avr {node : Cursor} {tag : String} (htag : tag ∈ ["AVR ATmega2560", "AVR ATmega1284p"])
      (hnode : c.Chosen key tag node) :
      PlatformGives c key
        [.platformInclude "avr/io.h", .platformInclude "aprinter/platform/avr/avr_support.h",
          .initCall (-3) "sei();"]

theorem declares_setUpPlatform (hc : c.In document) (key : String) :
    Declares x [] (setUpPlatform c key) fun _ g => ∃ items, PlatformGives c key items
      ∧ g = .ofItems items := by
  unfold setUpPlatform
  refine .choose hc ⟨_, rfl⟩ (.option ?_ (.option ?_ (.options ?_ .nil)))
  · intro node _ hnode
    apply Declares.afterPlain rfl rfl
    apply (declares_emit_plain rfl rfl).mono
    intro _ _ hgives
    subst hgives
    exact ⟨_, .at91Sam hnode, rfl⟩
  · intro node _ hnode
    apply (declares_emit_plain rfl rfl).mono
    intro _ _ hgives
    subst hgives
    exact ⟨_, .teensy hnode, rfl⟩
  · intro tag htag node _ hnode
    refine Declares.afterPlain rfl rfl (Declares.afterPlain rfl rfl ?_)
    apply (declares_emit_plain rfl rfl).mono
    intro _ _ hgives
    subst hgives
    exact ⟨_, .avr htag hnode, rfl⟩

/-! ## §2. Pins. -/

/-- A pin driver, with its header and its grammar of names. -/
structure PinDriver where
  tag : String
  header : String
  names : PinNames

/-- The pin drivers; each is a template named like its tag. -/
def pinDrivers : List PinDriver :=
  [⟨"At91SamPins", "system/At91SamPins.h", .ported "At91SamPin" "At91SamPio"⟩,
   ⟨"Mk20Pins", "system/Mk20Pins.h", .ported "Mk20Pin" "Mk20Port"⟩,
   ⟨"AvrPins", "system/AvrPins.h", .ported "AvrPin" "AvrPort"⟩]

/-- The pin driver at `key`. -/
inductive PinsGive (c : Cursor) (key : String) : PinDriver → Prop where
  | mk {d : PinDriver} {node : Cursor} (hd : d ∈ pinDrivers) (hnode : c.Chosen key d.tag node) :
      PinsGive c key d

/-- The items of a pin driver. -/
def PinDriver.items (d : PinDriver) : List Item :=
  [.frameworkInclude d.header,
    .resource 10 "MyPins" (.inst d.tag [.text "MyContext", .text "Program"]) (some "Pins")]

theorem leads_setUpPins (hc : c.In document) (key : String) (hx : x.phase = .collecting)
    (hnew : .pinNames ∉ x.kinds) :
    Leads x [.plain "MyPins"] (setUpPins c key) fun _ g x' => ∃ d, PinsGive c key d
      ∧ g = .ofItems d.items ∧ x' = x.withFacility (.pinNames [.identifier, d.names]) := by
  have hdriver : ∀ d ∈ pinDrivers, ∀ node, c.Chosen key d.tag node →
      Declares x [] (pinDriver d.header d.tag d.names node) fun r g => ∃ d, PinsGive c key d
        ∧ r = (.inst d.tag [.text "MyContext", .text "Program"], d.names)
        ∧ g = .ofItems [.frameworkInclude d.header] := by
    intro d hd node hnode
    unfold pinDriver
    apply Declares.afterPlain rfl rfl
    exact declares_pure ⟨d, .mk hd hnode, rfl, rfl⟩
  have hpins : Declares x [] (c.choose key [
      .option "At91SamPins"
        (pinDriver "system/At91SamPins.h" "At91SamPins" (.ported "At91SamPin" "At91SamPio")),
      .option "Mk20Pins" (pinDriver "system/Mk20Pins.h" "Mk20Pins" (.ported "Mk20Pin" "Mk20Port")),
      .option "AvrPins" (pinDriver "system/AvrPins.h" "AvrPins" (.ported "AvrPin" "AvrPort"))])
      fun r g => ∃ d, PinsGive c key d
        ∧ r = (.inst d.tag [.text "MyContext", .text "Program"], d.names)
        ∧ g = .ofItems [.frameworkInclude d.header] := by
    refine .choose hc ⟨_, rfl⟩ (.option ?_ (.option ?_ (.option ?_ .nil)))
    · intro node _ hnode
      exact hdriver ⟨"At91SamPins", _, _⟩ (by simp [pinDrivers]) node hnode
    · intro node _ hnode
      exact hdriver ⟨"Mk20Pins", _, _⟩ (by simp [pinDrivers]) node hnode
    · intro node _ hnode
      exact hdriver ⟨"AvrPins", _, _⟩ (by simp [pinDrivers]) node hnode
  unfold setUpPins
  apply Declares.leads (K := []) hpins
  intro r _ hgives
  obtain ⟨d, hd, rfl, rfl⟩ := hgives
  -- All families give one resource, whose symbol is the only one declared.
  have hresource : Item.symbol? (.resource 10 "MyPins"
      (.inst d.tag [.text "MyContext", .text "Program"]) (some "Pins"))
      = some (Symbol.plain "MyPins").name := rfl
  apply Declares.leads (M := []) (declares_emit hresource)
  intro _ _ hgives
  subst hgives
  have hfacility : (Facility.pinNames [.identifier, d.names]).New x :=
    ⟨hnew, fun _ h => (nomatch h), fun _ h => (nomatch h)⟩
  apply (leads_registerFacility hx hfacility).mono
  intro _ _ _ hgives
  obtain ⟨rfl, rfl⟩ := hgives
  exact ⟨d, hd, rfl, rfl⟩

/-- A pin at `key`, by a name which one of the grammars accepts. -/
structure Site.PinAt (x : Site document) (c : Cursor) (key name : String) : Prop where
  read : c.string key = .ok name
  accepted : x.grammars.any (·.accepts name) = true

theorem declares_pin (hx : .pinNames ∈ x.kinds) (hc : c.In document) (key : String) :
    Declares x [] (pin c key) fun name g => x.PinAt c key name ∧ g = ∅ := by
  unfold pin
  apply Declares.read (hc.placed.honest_string key)
  intro name hname hread
  apply (declares_pinNames hx).andThen
  intro _ _ hgives
  obtain ⟨rfl, rfl⟩ := hgives
  refine declares_ite ?_ ?_
  · intro haccepted
    exact declares_pure ⟨⟨hread, haccepted⟩, rfl⟩
  · intro _
    have htrue : Violation.TrueAt document (c.keyPath key) (.badFormat "invalid pin value") :=
      Or.inl ⟨name, hname⟩
    exact declares_read (R := fun _ => True) (honest_error htrue) fun _ _ ha => nomatch ha

/-- The digital input referenced at `key`: its pin and its mode. -/
inductive DigitalInputGives (x : Site document) (c : Cursor) (key : String) :
    List TypeExpr → Prop where
  | mk {input : Cursor} {name mode : String} (hinput : x.Refers .digitalInput c key input)
      (hname : x.PinAt input "Pin" name) (hmode : input.identifier "InputMode" = .ok mode) :
      DigitalInputGives x c key [.text name, .text mode]

theorem declares_digitalInput (hx : .pinNames ∈ x.kinds) (hc : c.In document) (key : String) :
    Declares x [] (digitalInput c key) fun es g => DigitalInputGives x c key es ∧ g = ∅ := by
  unfold digitalInput
  apply (declares_findObject .digitalInput hc key).andThen
  intro input _ hgives
  obtain ⟨hinput, rfl⟩ := hgives
  apply (declares_pin hx hinput.inside "Pin").andThen
  intro name _ hgives
  obtain ⟨hname, rfl⟩ := hgives
  apply Declares.read (hinput.inside.placed.honest_identifier _)
  intro mode _ hmode
  exact declares_pure ⟨.mk hinput hname hmode, rfl⟩

/-! ## §3. The watchdog. -/

/-- The watchdog at `key`, whose interrupt is bound to `user`. -/
inductive WatchdogGives (c : Cursor) (key user : String) : TypeExpr → Gain → Prop where
  | at91Sam {node : Cursor} {wdv : Int} (hnode : c.Chosen key "At91SamWatchdog" node)
      (hwdv : node.int "Wdv" = .ok wdv) :
      WatchdogGives c key user (.inst "At91SamWatchdogService" [.int wdv])
        (.ofItems [.frameworkInclude "system/At91SamWatchdog.h"])
  | mk20 {node : Cursor} {toval prescval : Int} (hnode : c.Chosen key "Mk20Watchdog" node)
      (htoval : node.int "Toval" = .ok toval) (hprescval : node.int "Prescval" = .ok prescval) :
      WatchdogGives c key user (.inst "Mk20WatchdogService" [.int toval, .int prescval])
        (.ofItems [.frameworkInclude "system/Mk20Watchdog.h",
          .interrupt ("AMBRO_MK20_WATCHDOG_GLOBAL(" ++ user ++ ")")])
  | avr {node : Cursor} {timeout : String} (hnode : c.Chosen key "AvrWatchdog" node)
      (htimeout : node.string "Timeout" = .ok timeout) (hformat : isWatchdogTimeout timeout = true) :
      WatchdogGives c key user (.inst "AvrWatchdogService" [.text timeout])
        (.ofItems [.frameworkInclude "system/AvrWatchdog.h", .interrupt "AMBRO_AVR_WATCHDOG_GLOBAL"])

theorem declares_watchdog (hc : c.In document) (key user : String) :
    Declares x [] (watchdog c key user) (WatchdogGives c key user) := by
  unfold watchdog
  refine .choose hc ⟨_, rfl⟩ (.option ?_ (.option ?_ (.option ?_ .nil)))
  · intro node hin hnode
    apply Declares.afterPlain rfl rfl
    apply Declares.read (hin.placed.honest_int _)
    intro wdv _ hwdv
    exact declares_pure (.at91Sam hnode hwdv)
  · intro node hin hnode
    refine Declares.afterPlain rfl rfl (Declares.afterPlain rfl rfl ?_)
    apply Declares.read (hin.placed.honest_int _)
    intro toval _ htoval
    apply Declares.read (hin.placed.honest_int _)
    intro prescval _ hprescval
    exact declares_pure (.mk20 hnode htoval hprescval)
  · intro node hin hnode
    apply Declares.read (hin.placed.honest_string _)
    intro timeout hplace htimeout
    refine declares_ite ?_ ?_
    · intro _
      have htrue : Violation.TrueAt document (node.keyPath "Timeout")
          (.badFormat "expected a WDTO_* constant") := Or.inl ⟨timeout, hplace⟩
      exact declares_reject htrue
    · intro hformat
      refine Declares.afterPlain rfl rfl (Declares.afterPlain rfl rfl ?_)
      exact declares_pure (.avr hnode htimeout (by simpa using hformat))

/-! ## §4. Analog inputs. -/

/-- The driver of the analog inputs at `key`, and what it contributes before the pins
are known. -/
inductive AnalogGives (c : Cursor) (key : String) : AnalogDriver → List Item → Prop where
  | at91Sam {node : Cursor} {freq interval smoothing : Binary64}
      {startup settling tracking transfer : Int} (hnode : c.Chosen key "At91SamAdc" node)
      (hfreq : node.number "freq" = .ok freq)
      (hinterval : node.number "avg_interval" = .ok interval)
      (hsmoothing : node.number "smoothing" = .ok smoothing)
      (hstartup : node.int "startup" = .ok startup)
      (hsettling : node.int "settling" = .ok settling)
      (htracking : node.int "tracking" = .ok tracking)
      (htransfer : node.int "transfer" = .ok transfer) :
      AnalogGives c key
        (.at91Sam (.inst "At91SamAdcParams"
          [.text "AdcFreq", .int startup, .int settling, .int tracking, .int transfer,
            .inst "At91SamAdcAvgParams" [.text "AdcAvgInterval"]]))
        [.frameworkInclude "system/At91SamAdc.h", .numberConstant "AdcFreq" freq,
          .numberConstant "AdcAvgInterval" interval,
          .intConstant .uint16 "AdcSmoothing" (smoothingFactor smoothing),
          .interrupt "AMBRO_AT91SAM_ADC_GLOBAL(MyAdc, MyContext())"]
  | mk20 {node : Cursor} {divisor : Int} (hnode : c.Chosen key "Mk20Adc" node)
      (hdivisor : node.int "AdcADiv" = .ok divisor) :
      AnalogGives c key .mk20
        [.frameworkInclude "system/Mk20Adc.h", .intConstant .int32 "AdcADiv" divisor,
          .interrupt "AMBRO_MK20_ADC_ISRS(MyAdc, MyContext())"]
  | avr {node : Cursor} {reference prescaler : Int} (hnode : c.Chosen key "AvrAdc" node)
      (hreference : node.int "RefSel" = .ok reference)
      (hprescaler : node.int "Prescaler" = .ok prescaler) :
      AnalogGives c key .avr
        [.frameworkInclude "system/AvrAdc.h", .intConstant .int32 "AdcRefSel" reference,
          .intConstant .int32 "AdcPrescaler" prescaler,
          .interrupt "AMBRO_AVR_ADC_ISRS(MyAdc, MyContext())"]

/-- The symbols of the drivers of analog inputs. -/
def analogPlain : List Symbol := analogSymbols.map .plain

theorem leads_setUpAnalog (hc : c.In document) (key : String) (hx : x.phase = .collecting)
    (hnew : .analogPins ∉ x.kinds) :
    Leads x analogPlain (setUpAnalog c key) fun _ g x' => ∃ d items, AnalogGives c key d items
      ∧ g = .ofItems items
      ∧ x' = { x.withFacility (.analogPins []) with deferred := x.deferred ++ [.analogDriver d] } := by
  unfold setUpAnalog
  rw [← List.append_nil analogPlain]
  -- The driver declares all its symbols before the facility is registered and the driver put off.
  refine Declares.leads (P := fun d g => ∃ items, AnalogGives c key d items ∧ g = .ofItems items)
    ?_ ?_
  · refine .choose hc ⟨_, rfl⟩ (.option ?_ (.option ?_ (.option ?_ .nil)))
    · intro node hin hnode
      -- Each family declares some of the symbols of all families.
      refine Declares.sublist (L := [.plain "AdcFreq", .plain "AdcAvgInterval",
        .plain "AdcSmoothing"]) ?_ (by decide)
      apply Declares.afterPlain rfl rfl
      apply Declares.read (hin.placed.honest_number _)
      intro freq _ hfreq
      apply Declares.afterSymbol rfl
      apply Declares.read (hin.placed.honest_number _)
      intro interval _ hinterval
      apply Declares.afterSymbol rfl
      apply Declares.read (hin.placed.honest_number _)
      intro smoothing _ hsmoothing
      apply Declares.afterSymbol rfl
      apply Declares.afterPlain rfl rfl
      apply Declares.read (hin.placed.honest_int _)
      intro startup _ hstartup
      apply Declares.read (hin.placed.honest_int _)
      intro settling _ hsettling
      apply Declares.read (hin.placed.honest_int _)
      intro tracking _ htracking
      apply Declares.read (hin.placed.honest_int _)
      intro transfer _ htransfer
      exact declares_pure ⟨_, .at91Sam hnode hfreq hinterval hsmoothing hstartup hsettling
        htracking htransfer, rfl⟩
    · intro node hin hnode
      refine Declares.sublist (L := [.plain "AdcADiv"]) ?_ (by decide)
      apply Declares.afterPlain rfl rfl
      apply Declares.read (hin.placed.honest_int _)
      intro divisor _ hdivisor
      apply Declares.afterSymbol rfl
      apply Declares.afterPlain rfl rfl
      exact declares_pure ⟨_, .mk20 hnode hdivisor, rfl⟩
    · intro node hin hnode
      refine Declares.sublist (L := [.plain "AdcRefSel", .plain "AdcPrescaler"]) ?_ (by decide)
      apply Declares.afterPlain rfl rfl
      apply Declares.read (hin.placed.honest_int _)
      intro reference _ hreference
      apply Declares.afterSymbol rfl
      apply Declares.read (hin.placed.honest_int _)
      intro prescaler _ hprescaler
      apply Declares.afterSymbol rfl
      apply Declares.afterPlain rfl rfl
      exact declares_pure ⟨_, .avr hnode hreference hprescaler, rfl⟩
  · intro d _ hgives
    obtain ⟨items, hd, rfl⟩ := hgives
    have hfacility : (Facility.analogPins []).New x := by
      refine ⟨hnew, fun _ h => (nomatch h), ?_⟩
      intro ps h
      cases h
      rfl
    apply Leads.bind (K := []) (M := []) (leads_registerFacility hx hfacility)
    intro _ _ _ hgives
    obtain ⟨rfl, rfl⟩ := hgives
    apply (leads_defer (x := x.withFacility (.analogPins [])) (.analogDriver d) hx).mono
    intro _ _ _ hgives
    obtain ⟨rfl, rfl⟩ := hgives
    refine ⟨d, items, hd, ?_, rfl⟩
    simp only [Gain.append_empty]

/-- The analog input referenced at `key`, whose pin is in use from now on. -/
inductive AnalogInputGives (x : Site document) (c : Cursor) (key : String) :
    TypeExpr → Gain → Prop where
  | mk {input : Cursor} {name : String} (hinput : x.Refers .analogInput c key input)
      (hname : x.PinAt input "Pin" name) :
      AnalogInputGives x c key (.text name) ⟨[], [], [name]⟩

theorem declares_analogInput (hx : .pinNames ∈ x.kinds) (hx' : .analogPins ∈ x.kinds)
    (hc : c.In document) (key : String) :
    Declares x [] (analogInput c key) (AnalogInputGives x c key) := by
  unfold analogInput
  apply (declares_findObject .analogInput hc key).andThen
  intro input _ hgives
  obtain ⟨hinput, rfl⟩ := hgives
  apply (declares_pin hx hinput.inside "Pin").andThen
  intro name _ hgives
  obtain ⟨hname, rfl⟩ := hgives
  apply (declares_addAnalogPin hx' name).andThen
  intro _ _ hgives
  subst hgives
  exact declares_pure (.mk hinput hname)

/-! ## §5. Pulse width modulation. -/

/-- What the PWM module at `key` contributes. -/
inductive PwmGives (c : Cursor) (key : String) : List Item → Prop where
  | disabled {node : Cursor} (hnode : c.Chosen key "Disabled" node) : PwmGives c key []
  | at91Sam {node : Cursor} {preA divA preB divB : Int} (hnode : c.Chosen key "At91Sam3xPwm" node)
      (hpreA : node.int "PreA" = .ok preA) (hdivA : node.int "DivA" = .ok divA)
      (hpreB : node.int "PreB" = .ok preB) (hdivB : node.int "DivB" = .ok divB) :
      PwmGives c key
        [.frameworkInclude "system/At91Sam3xPwm.h",
          .resource 25 "MyPwm"
            (.inst "At91Sam3xPwm" [.text "MyContext", .text "Program",
              .inst "At91Sam3xPwmParams" [.int preA, .int divA, .int preB, .int divB]])
            (some "Pwm")]

theorem declares_setUpPwm (hc : c.In document) (key : String) :
    Declares x [.plain "MyPwm"] (setUpPwm c key) fun _ g => ∃ items, PwmGives c key items
      ∧ g = .ofItems items := by
  -- The driver which has been read, and the items which it makes with its resource.
  have hdriver : Declares x [] (c.choose key [
      .option "Disabled" fun _ => return none,
      .option "At91Sam3xPwm" fun pwm => do
        emit (.frameworkInclude "system/At91Sam3xPwm.h")
        let preA ← pwm.int "PreA"
        let divA ← pwm.int "DivA"
        let preB ← pwm.int "PreB"
        let divB ← pwm.int "DivB"
        return some (TypeExpr.inst "At91Sam3xPwm"
          [.text "MyContext", .text "Program",
            .inst "At91Sam3xPwmParams" [.int preA, .int divA, .int preB, .int divB]])])
      fun d g => (d = none ∧ PwmGives c key [] ∧ g = ∅)
        ∨ ∃ e, d = some e ∧ g = .ofItems [.frameworkInclude "system/At91Sam3xPwm.h"]
          ∧ PwmGives c key [.frameworkInclude "system/At91Sam3xPwm.h",
              .resource 25 "MyPwm" e (some "Pwm")] := by
    refine .choose hc ⟨_, rfl⟩ (.option ?_ (.option ?_ .nil))
    · intro node _ hnode
      exact declares_pure (Or.inl ⟨rfl, .disabled hnode, rfl⟩)
    · intro node hin hnode
      apply Declares.afterPlain rfl rfl
      apply Declares.read (hin.placed.honest_int _)
      intro preA _ hpreA
      apply Declares.read (hin.placed.honest_int _)
      intro divA _ hdivA
      apply Declares.read (hin.placed.honest_int _)
      intro preB _ hpreB
      apply Declares.read (hin.placed.honest_int _)
      intro divB _ hdivB
      exact declares_pure (Or.inr ⟨_, rfl, rfl, .at91Sam hnode hpreA hdivA hpreB hdivB⟩)
  unfold setUpPwm
  apply hdriver.andThen
  intro d _ hcase
  rcases hcase with ⟨rfl, hpwm, rfl⟩ | ⟨e, rfl, rfl, hpwm⟩
  · exact declares_pure ⟨_, hpwm, rfl⟩
  · have hresource : Item.symbol? (.resource 25 "MyPwm" e (some "Pwm"))
        = some (Symbol.plain "MyPwm").name := rfl
    apply (declares_emit hresource).mono
    intro _ _ hgives
    subst hgives
    exact ⟨_, hpwm, rfl⟩

/-- The driver of a hardware PWM output. -/
inductive HardDriverGives (x : Site document) (c : Cursor) : TypeExpr → Prop where
  | avr {node : Cursor} {u : CompareUnit} {output : String}
      (hnode : c.Chosen "HardPwmDriver" "AvrClockPwm" node) (hu : x.UnitAt node "oc_unit" u)
      (houtput : x.PinAt node "OutputPin" output) :
      HardDriverGives x c
        (.inst "AvrClockPwmService" [.text (ClockFamily.avrChannel u), .text output])
  | at91Sam {node : Cursor} {prescaler period number : Int} {output signal : String}
      (hnode : c.Chosen "HardPwmDriver" "At91Sam3xPwmChannel" node)
      (hprescaler : node.int "ChannelPrescaler" = .ok prescaler)
      (hperiod : node.int "ChannelPeriod" = .ok period)
      (hnumber : node.int "ChannelNumber" = .ok number)
      (houtput : x.PinAt node "OutputPin" output)
      (hsignal : node.identifier "Signal" = .ok signal) :
      HardDriverGives x c
        (.inst "At91Sam3xPwmChannelService"
          [.int prescaler, .int period, .int number, .text output, .text ("'" ++ signal ++ "'")])

theorem declares_hardPwmDriver (hx : .clock ∈ x.kinds) (hx' : .pinNames ∈ x.kinds)
    (hc : c.In document) :
    Declares x [] (hardPwmDriver c) fun e g => HardDriverGives x c e ∧ g = ∅ := by
  unfold hardPwmDriver
  refine .choose hc ⟨_, rfl⟩ (.option ?_ (.option ?_ .nil))
  · intro node hin hnode
    apply (declares_compareUnit hx hin _).andThen
    intro u _ hgives
    obtain ⟨hu, rfl⟩ := hgives
    apply (declares_pin hx' hin _).andThen
    intro output _ hgives
    obtain ⟨houtput, rfl⟩ := hgives
    exact declares_pure ⟨.avr hnode hu houtput, rfl⟩
  · intro node hin hnode
    apply Declares.read (hin.placed.honest_int _)
    intro prescaler _ hprescaler
    apply Declares.read (hin.placed.honest_int _)
    intro period _ hperiod
    apply Declares.read (hin.placed.honest_int _)
    intro number _ hnumber
    apply (declares_pin hx' hin _).andThen
    intro output _ hgives
    obtain ⟨houtput, rfl⟩ := hgives
    apply Declares.read (hin.placed.honest_identifier _)
    intro signal _ hsignal
    exact declares_pure ⟨.at91Sam hnode hprescaler hperiod hnumber houtput hsignal, rfl⟩

/-- A PWM output which is driven by the pulses of an interrupt timer. -/
inductive SoftPwmGives (x : Site document) (output : Cursor) (user username : String) :
    TypeExpr → Gain → Prop where
  | mk {node : Cursor} {pinName : String} {invert : Bool} {interval : Binary64}
      {timer : TypeExpr} {g : Gain} (hnode : output.Chosen "Backend" "SoftPwm" node)
      (hpin : x.PinAt node "OutputPin" pinName) (hinvert : node.bool "OutputInvert" = .ok invert)
      (hinterval : node.number "PulseInterval" = .ok interval)
      (htimer : TimerGives x node "Timer" (user ++ "::TheTimer") none timer g) :
      SoftPwmGives x output user username
        (.inst "SoftPwmService"
          [.text pinName, .bool invert, .text (username ++ "PulseInterval"), timer])
        (.ofItems [.frameworkInclude "printer/pwm/SoftPwm.h",
          .numberConstant (username ++ "PulseInterval") interval] ++ g)

/-- A PWM output which is driven by a module of the microcontroller. -/
inductive HardPwmGives (x : Site document) (output : Cursor) : TypeExpr → Gain → Prop where
  | mk {node : Cursor} {driver : TypeExpr} (hnode : output.Chosen "Backend" "HardPwm" node)
      (hdriver : HardDriverGives x node driver) :
      HardPwmGives x output (.inst "HardPwmService" [driver])
        (.ofItems [.frameworkInclude "printer/pwm/HardPwm.h"])

/-- The PWM output referenced at `key`. -/
inductive PwmOutputGives (x : Site document) (c : Cursor) (key user username : String) :
    TypeExpr → Gain → Prop where
  | soft {output : Cursor} {e : TypeExpr} {g : Gain} (houtput : x.Refers .pwmOutput c key output)
      (h : SoftPwmGives x output user username e g) : PwmOutputGives x c key user username e g
  | hard {output : Cursor} {e : TypeExpr} {g : Gain} (houtput : x.Refers .pwmOutput c key output)
      (h : HardPwmGives x output e g) : PwmOutputGives x c key user username e g

theorem declares_pwmOutput (hx : .clock ∈ x.kinds) (hx' : .pinNames ∈ x.kinds)
    (hc : c.In document) (key user username : String) {t : Symbol}
    (ht : username ++ "PulseInterval" = t.name) :
    Declares x [t] (pwmOutput c key user username) (PwmOutputGives x c key user username) := by
  unfold pwmOutput
  apply (declares_findObject .pwmOutput hc key).andThen
  intro output _ hgives
  obtain ⟨houtput, rfl⟩ := hgives
  refine .choose houtput.inside ⟨_, rfl⟩ (.option ?_ (.option ?_ .nil))
  · intro node hin hnode
    apply Declares.afterPlain rfl rfl
    apply (declares_pin hx' hin _).andThen
    intro pinName _ hgives
    obtain ⟨hpin, rfl⟩ := hgives
    apply Declares.read (hin.placed.honest_bool _)
    intro invert _ hinvert
    apply Declares.read (hin.placed.honest_number _)
    intro interval _ hinterval
    apply (declares_declareNumber interval ht).cons
    intro _ _ hgives
    obtain ⟨rfl, rfl⟩ := hgives
    apply (declares_useTimer hx hin "Timer" _ none).map
    intro timer g htimer
    exact .soft houtput (.mk hnode hpin hinvert hinterval htimer)
  · intro node hin hnode
    refine Declares.sublist (L := []) ?_ (by simp)
    apply Declares.afterPlain rfl rfl
    apply (declares_hardPwmDriver hx hx' hin).map
    intro driver _ hgives
    obtain ⟨hdriver, rfl⟩ := hgives
    exact .hard houtput (.mk hnode hdriver)

end PrinterFirmware
