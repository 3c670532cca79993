/-
  PrinterFirmware.Proofs.Setup
  ────────────────────────────
  **WHAT THE SECTION OF A BOARD GIVES.**

  The walk over a board sets up the clock, the pins and the analog inputs and
  registers the objects of the board; `BoardGives` says to which site this leads,
  which parts the printer is built from and what has been gained until then.
-/
import PrinterFirmware.Board.Setup
import PrinterFirmware.Proofs.Services

namespace PrinterFirmware

open Document Naming Build Board

variable {document : Value} {x : Site document} {c : Cursor}

/-! ## §1. The build and its helpers. -/

theorem leads_buildName (hc : c.In document) (hnew : "BoardForBuild" ∉ x.slots) :
    Leads x [] (buildName c) fun name g x' =>
      (c.string "board_for_build" = .ok name ∧ isWord name = true)
        ∧ g = .ofItems [.fill "BoardForBuild" (.text name)]
        ∧ x' = { x with slots := x.slots ++ ["BoardForBuild"] } := by
  unfold buildName
  apply Leads.read (hc.placed.honest_string _)
  intro name hplace hname
  refine leads_ite ?_ ?_
  · intro _
    have htrue : Violation.TrueAt document (c.keyPath "board_for_build")
        (.badFormat "expected a word") := Or.inl ⟨name, hplace⟩
    exact leads_reject htrue
  · intro hword
    apply Leads.bind (K := []) (M := []) (leads_fill hnew)
    intro _ _ _ hgives
    obtain ⟨rfl, rfl⟩ := hgives
    exact leads_pure ⟨⟨hname, by simpa using hword⟩, rfl, rfl⟩

theorem honest_imageFormat (hc : c.In document) :
    Honest document (imageFormat c) fun _ => True := by
  unfold imageFormat
  apply (hc.placed.honest_string _).bind
  intro name hname
  cases hf : ImageFormat.ofName name with
  | ok f => exact honest_ok trivial
  | error v =>
      apply honest_error
      have hv : ∃ reason, v = .badFormat reason := by
        unfold ImageFormat.ofName at hf
        split at hf
        · cases hf
        · split at hf
          · cases hf
          · injection hf with hv
            exact ⟨_, hv.symm⟩
      obtain ⟨reason, rfl⟩ := hv
      exact Or.inl ⟨name, hname⟩

/-- The include of the header of a helper. -/
def helperInclude (helper : String) : Item := .frameworkInclude ("board/" ++ helper ++ ".h")

/-- The helpers of the section `c`, which all have words for names. -/
structure HelpersGive (c : Cursor) (helpers : List String) : Prop where
  read : c.strings "board_helper_includes" 0 maxHelpers = .ok helpers
  words : ∀ h ∈ helpers, isWord h = true

theorem declares_includeHelpers {helpers : List String} (hlist : ∃ elems,
      document.resolve? (c.keyPath "board_helper_includes").steps = some (.list elems)) :
    Declares x [] (includeHelpers c helpers) fun _ g =>
      (∀ h ∈ helpers, isWord h = true) ∧ g = .ofItems (helpers.map helperInclude) := by
  induction helpers with
  | nil => exact declares_pure ⟨by simp, rfl⟩
  | cons helper rest ih =>
      unfold includeHelpers
      refine declares_ite ?_ ?_
      · intro _
        obtain ⟨elems, helems⟩ := hlist
        apply declares_reject
        -- The whole list is reported, not the element.
        exact Or.inr ⟨c.path.steps, elems, rfl, helems⟩
      · intro hword
        refine Declares.afterPlain rfl rfl (ih.mono ?_)
        intro _ _ hgives
        obtain ⟨hrest, rfl⟩ := hgives
        refine ⟨?_, rfl⟩
        intro h hh
        rcases List.mem_cons.1 hh with rfl | hh
        · simpa using hword
        · exact hrest h hh

/-! ## §2. Drivers. -/

/-- What the PWM section of a platform contributes, if there is one. -/
inductive PwmSectionGives (platform : Cursor) : List Item → Prop where
  | present {items : List Item} (hpwm : PwmGives platform "pwm" items) :
      PwmSectionGives platform items
  | absent (hpwm : ¬ platform.has "pwm" = true) : PwmSectionGives platform []

/-- The drivers of a platform: the clock, the pins, the analog inputs, the expression of
the watchdog, and what they contribute. -/
inductive DriversGive (platform : Cursor) :
    Clock → PinDriver → AnalogDriver → TypeExpr → Gain → Prop where
  | mk {k : Clock} {d : PinDriver} {a : AnalogDriver} {watchdog : TypeExpr} {g : Gain}
      {analogItems pwmItems : List Item} (hclock : ClockChosen platform "clock" k)
      (hpins : PinsGive platform "pins" d)
      (hwatchdog : WatchdogGives platform "watchdog" "MyPrinter::GetWatchdog" watchdog g)
      (hanalog : AnalogGives platform "adc" a analogItems)
      (hpwm : PwmSectionGives platform pwmItems) :
      DriversGive platform k d a watchdog
        (.ofItems (.frameworkInclude k.family.header :: d.items)
          ++ (g ++ .ofItems (analogItems ++ pwmItems)))

/-- The site on which the drivers have been set up. -/
def Site.equipped (x : Site document) (k : Clock) (d : PinDriver) (a : AnalogDriver) :
    Site document :=
  { ((x.withFacility (.clock k)).withFacility (.pinNames [.identifier, d.names])).withFacility
      (.analogPins []) with deferred := x.deferred ++ [.analogDriver a] }

theorem leads_setUpDrivers (hc : c.In document) (hx : x.phase = .collecting) (hk : x.kinds = []) :
    Leads x (.plain "MyPins" :: analogPlain ++ [.plain "MyPwm"]) (setUpDrivers c)
      fun e g x' => ∃ k d a, DriversGive c k d a e g ∧ x' = x.equipped k d a := by
  unfold setUpDrivers
  have hclock : FacilityKind.clock ∉ x.kinds := by simp [hk]
  refine Leads.bind (K := []) (leads_setUpClock hc "clock" hx hclock) ?_
  intro _ _ _ hgives
  obtain ⟨k, hclock, rfl, rfl⟩ := hgives
  have hpins : FacilityKind.pinNames ∉ (x.withFacility (.clock k)).kinds := by
    simp [Site.withFacility, hk]
  refine Leads.bind (K := [.plain "MyPins"]) (leads_setUpPins hc "pins" hx hpins) ?_
  intro _ _ _ hgives
  obtain ⟨d, hpins, rfl, rfl⟩ := hgives
  refine Declares.leads (K := []) (declares_watchdog hc _ _) ?_
  intro watchdog g hwatchdog
  have hanalog : FacilityKind.analogPins ∉ ((x.withFacility (.clock k)).withFacility
      (.pinNames [.identifier, d.names])).kinds := by
    simp [Site.withFacility, hk]
  refine Leads.bind (K := analogPlain) (leads_setUpAnalog hc "adc" hx hanalog) ?_
  intro _ _ _ hgives
  obtain ⟨a, analogItems, hanalog, rfl, rfl⟩ := hgives
  refine leads_ite ?_ ?_
  · intro _
    refine Declares.leads (M := []) (declares_setUpPwm hc "pwm") ?_
    intro _ _ hgives
    obtain ⟨pwmItems, hpwm, rfl⟩ := hgives
    refine leads_pure ⟨k, d, a, ?_, rfl⟩
    rw [Gain.append_empty]
    exact .mk hclock hpins hwatchdog hanalog (.present hpwm)
  · intro hpwm
    refine leads_pure ⟨k, d, a, ?_, rfl⟩
    have h := DriversGive.mk hclock hpins hwatchdog hanalog (.absent hpwm)
    rw [List.append_nil] at h
    simp only [Gain.append_empty]
    exact h

/-! ## §3. Declared objects. -/

/-- Registering the objects of a board leads from the objects `before` to the objects
`after`. -/
inductive HardwareRegistered (board : Cursor) (before after : List NamedObject) : Prop where
  | mk {inputs ports analogs : List NamedObject}
      (hinputs : ListRegistered .digitalInput board "digital_inputs" before inputs)
      (hports : ListRegistered .stepperPort board "stepper_ports" inputs ports)
      (hanalogs : ListRegistered .analogInput board "analog_inputs" ports analogs)
      (houtputs : ListRegistered .pwmOutput board "pwm_outputs" analogs after)

/-- A PWM output which is registered is found among those of the board. -/
theorem HardwareRegistered.pwmOutput {board node : Cursor} {name : String}
    {objects : List NamedObject} (h : HardwareRegistered board [] objects)
    (hnode : lookUpObject objects .pwmOutput name = some node) :
    board.find "pwm_outputs" objectNameKey name = .ok node := by
  cases h with
  | mk hinputs hports hanalogs houtputs =>
      refine houtputs.find ?_ hnode
      obtain ⟨_, hinputs⟩ := hinputs
      obtain ⟨_, hports⟩ := hports
      obtain ⟨_, hanalogs⟩ := hanalogs
      rw [hanalogs.lookUp_other (by decide), hports.lookUp_other (by decide),
        hinputs.lookUp_other (by decide)]
      rfl

/-- A stepper port which is registered is found among those of the board. -/
theorem HardwareRegistered.stepperPort {board node : Cursor} {name : String}
    {objects : List NamedObject} (h : HardwareRegistered board [] objects)
    (hnode : lookUpObject objects .stepperPort name = some node) :
    board.find "stepper_ports" objectNameKey name = .ok node := by
  cases h with
  | mk hinputs hports hanalogs houtputs =>
      obtain ⟨_, hinputs⟩ := hinputs
      obtain ⟨_, hanalogs⟩ := hanalogs
      obtain ⟨_, houtputs⟩ := houtputs
      rw [houtputs.lookUp_other (by decide), hanalogs.lookUp_other (by decide)] at hnode
      refine hports.find ?_ hnode
      rw [hinputs.lookUp_other (by decide)]
      rfl

/-- An analog input which is registered is found among those of the board. -/
theorem HardwareRegistered.analogInput {board node : Cursor} {name : String}
    {objects : List NamedObject} (h : HardwareRegistered board [] objects)
    (hnode : lookUpObject objects .analogInput name = some node) :
    board.find "analog_inputs" objectNameKey name = .ok node := by
  cases h with
  | mk hinputs hports hanalogs houtputs =>
      obtain ⟨_, hinputs⟩ := hinputs
      obtain ⟨_, hports⟩ := hports
      obtain ⟨_, houtputs⟩ := houtputs
      rw [houtputs.lookUp_other (by decide)] at hnode
      refine hanalogs.find ?_ hnode
      rw [hports.lookUp_other (by decide), hinputs.lookUp_other (by decide)]
      rfl

theorem leads_registerHardware (hc : c.In document) (hx : x.phase = .collecting) :
    Leads x [] (registerHardware c) fun _ g x' => g = ∅ ∧
      ∃ objects h, HardwareRegistered c x.objects objects ∧ x' = x.withObjects objects h := by
  unfold registerHardware
  apply Leads.bind (K := []) (M := []) (leads_registerList .digitalInput hc hx _)
  intro _ _ _ hgives
  obtain ⟨rfl, inputs, h₁, hinputs, rfl⟩ := hgives
  refine Leads.bind (K := []) (M := []) (leads_registerList (x := x.withObjects inputs h₁)
    .stepperPort hc hx _) ?_
  intro _ _ _ hgives
  obtain ⟨rfl, ports, h₂, hports, rfl⟩ := hgives
  refine Leads.bind (K := []) (M := []) (leads_registerList (x := x.withObjects ports h₂)
    .analogInput hc hx _) ?_
  intro _ _ _ hgives
  obtain ⟨rfl, analogs, h₃, hanalogs, rfl⟩ := hgives
  apply (leads_registerList (x := x.withObjects analogs h₃) .pwmOutput hc hx _).mono
  intro _ _ _ hgives
  obtain ⟨rfl, outputs, h₄, houtputs, rfl⟩ := hgives
  exact ⟨rfl, outputs, h₄, .mk hinputs hports hanalogs houtputs, rfl⟩

/-! ## §4. The board. -/

/-- The section of a board: the site which it leads to, the parts which it leaves to
the printer, and what it contributes. -/
inductive BoardGives (x : Site document) (board : Cursor) :
    Site document → BoardParts → Gain → Prop where
  | mk {config platform performance serialSection cardSection managerSection : Cursor}
      {name ledPin precision : String} {format : ImageFormat} {k : Clock} {d : PinDriver}
      {a : AnalogDriver} {watchdog eventTimer serial sdCard configManager : TypeExpr}
      {helpers : List String} {objects : List NamedObject} {clearance : Binary64}
      {platformItems serialItems : List Item} {driverGain timerGain cardGain managerGain : Gain}
      {y : Site document} {h : ∀ o ∈ objects, o.node.In document}
      (hconfig : board.enter "platform_config" = .ok config)
      (hname : config.string "board_for_build" = .ok name) (hword : isWord name = true)
      (hformat : imageFormat config = .ok format)
      (hplatformItems : PlatformGives config "platform" platformItems)
      (hplatform : config.enter "platform" = .ok platform)
      (hdrivers : DriversGive platform k d a watchdog driverGain)
      (hhelpers : HelpersGive config helpers)
      (hobjects : HardwareRegistered board x.objects objects)
      (hy : y = ({ x with slots := x.slots ++ ["BoardForBuild"] }.equipped k d a).withObjects
        objects h)
      (hledPin : y.PinAt board "LedPin" ledPin)
      (htimer : TimerGives y board "EventChannelTimer" "MyPrinter::GetEventChannelTimer"
        (some "EventChannelTimerClearance") eventTimer timerGain)
      (hperformance : board.enter "performance" = .ok performance)
      (hprecision : performance.identifier "AxisDriverPrecisionParams" = .ok precision)
      (hclearance : performance.number "EventChannelTimerClearance" = .ok clearance)
      (hserialSection : board.enter "serial" = .ok serialSection)
      (hserial : SerialGives serialSection serial serialItems)
      (hcardSection : board.enter "sdcard_config" = .ok cardSection)
      (hcard : CardGives y cardSection "sdcard" sdCard cardGain)
      (hmanagerSection : board.enter "runtime_config" = .ok managerSection)
      (hmanager : ManagerGives managerSection "config_manager" "MyPrinter::GetConfigManager"
        configManager managerGain) :
      BoardGives x board y
        { buildName := name, imageFormat := format, performance, ledPin := .text ledPin,
          eventTimer, watchdog, serial, sdCard, configManager }
        (.ofItems [.fill "BoardForBuild" (.text name)] ++ (.ofItems platformItems
          ++ (driverGain ++ (.ofItems (helpers.map helperInclude) ++ (timerGain
          ++ (.ofItems [.typeName "TheAxisDriverPrecisionParams" precision]
          ++ (.ofItems [.numberConstant "EventChannelTimerClearance" clearance]
          ++ (.ofItems serialItems ++ (cardGain ++ managerGain)))))))))

/-- The symbols of the section of a board. -/
def boardPlain : List Symbol := boardSymbols.map .plain

theorem leads_setUp (hc : c.In document) (hx : x.phase = .collecting) (hk : x.kinds = [])
    (hs : "BoardForBuild" ∉ x.slots) :
    Leads x boardPlain (setUp c) fun parts g x' => BoardGives x c x' parts g := by
  -- The drivers declare first, then the event channel, and the storage last.
  have hsymbols : boardPlain = (.plain "MyPins" :: analogPlain ++ [.plain "MyPwm"])
      ++ (.plain "TheAxisDriverPrecisionParams" :: .plain "EventChannelTimerClearance"
        :: storePlain) := by decide
  rw [hsymbols]
  unfold setUp
  apply Leads.read (hc.placed.honest_enter _)
  intro config hconfigIn hconfig
  apply Leads.bind (K := []) (leads_buildName hconfigIn hs)
  intro name _ _ hgives
  obtain ⟨⟨hname, hword⟩, rfl, rfl⟩ := hgives
  apply Leads.read (honest_imageFormat hconfigIn)
  intro format _ hformat
  apply Declares.leads (K := []) (declares_setUpPlatform hconfigIn _)
  intro _ _ hgives
  obtain ⟨platformItems, hplatformItems, rfl⟩ := hgives
  apply Leads.read (hconfigIn.placed.honest_enter _)
  intro platform hplatformIn hplatform
  refine Leads.bind (leads_setUpDrivers
    (x := { x with slots := x.slots ++ ["BoardForBuild"] }) hplatformIn hx hk) ?_
  intro watchdog driverGain _ hgives
  obtain ⟨k, d, a, hdrivers, rfl⟩ := hgives
  apply Leads.read (hconfigIn.placed.honest_strings _ _ _)
  intro helpers hlist hhelpers
  apply Declares.leads (K := []) (declares_includeHelpers hlist)
  intro _ _ hgives
  obtain ⟨hwords, rfl⟩ := hgives
  refine Leads.bind (K := []) (leads_registerHardware
    (x := { x with slots := x.slots ++ ["BoardForBuild"] }.equipped k d a) hc hx) ?_
  intro _ _ _ hgives
  obtain ⟨rfl, objects, hinside, hobjects, rfl⟩ := hgives
  -- The services run on the site which has the objects; from here on it is known by its fields
  -- only.
  obtain ⟨y, hy⟩ : ∃ y, y = Site.withObjects
    ({ x with slots := x.slots ++ ["BoardForBuild"] }.equipped k d a) objects hinside := ⟨_, rfl⟩
  have hkinds : y.kinds = [.clock, .pinNames, .analogPins] := by
    rw [hy]
    show x.kinds ++ [FacilityKind.clock] ++ [.pinNames] ++ [.analogPins] = _
    rw [hk]
    rfl
  have hyclock : FacilityKind.clock ∈ y.kinds := by simp [hkinds]
  have hypins : FacilityKind.pinNames ∈ y.kinds := by simp [hkinds]
  rw [← hy]
  apply Declares.leads (K := []) (declares_pin hypins hc _)
  intro ledPin _ hgives
  obtain ⟨hledPin, rfl⟩ := hgives
  apply Declares.leads (K := []) (declares_useTimer hyclock hc _ _ _)
  intro eventTimer timerGain htimer
  apply Leads.read (hc.placed.honest_enter _)
  intro performance hperformanceIn hperformance
  apply Leads.read (hperformanceIn.placed.honest_identifier _)
  intro precision _ hprecision
  apply Declares.leads (K := [.plain "TheAxisDriverPrecisionParams"]) (declares_emit rfl)
  intro _ _ hgives
  subst hgives
  apply Leads.read (hperformanceIn.placed.honest_number _)
  intro clearance _ hclearance
  apply Declares.leads (K := [.plain "EventChannelTimerClearance"]) (declares_emit rfl)
  intro _ _ hgives
  subst hgives
  apply Leads.read (hc.placed.honest_enter _)
  intro serialSection hserialIn hserialSection
  apply Declares.leads (K := []) (declares_serialPort hserialIn)
  intro serial _ hgives
  obtain ⟨serialItems, hserial, rfl⟩ := hgives
  apply Leads.read (hc.placed.honest_enter _)
  intro cardSection hcardIn hcardSection
  apply Declares.leads (K := []) (declares_sdCard hypins hcardIn _)
  intro sdCard cardGain hcard
  apply Leads.read (hc.placed.honest_enter _)
  intro managerSection hmanagerIn hmanagerSection
  apply Declares.leads (K := storePlain) (M := []) (declares_configManager hmanagerIn _ _)
  intro configManager managerGain hmanager
  apply leads_pure
  simp only [Gain.append_empty, Gain.empty_append]
  exact .mk hconfig hname hword hformat hplatformItems hplatform hdrivers ⟨hhelpers, hwords⟩
    hobjects hy hledPin htimer hperformance hprecision hclearance hserialSection hserial
    hcardSection hcard hmanagerSection hmanager

end PrinterFirmware
