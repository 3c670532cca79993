/-
  PrinterFirmware.Proofs.Silence
  ──────────────────────────────
  **PARTS OF A PROGRAM WITHOUT INTERRUPT TIMERS.**

  Most walks give expressions without services of interrupt timers, and contribute items
  which bind the interrupt of no timer.  They are gone through here one after another;
  what remains are the event channel, the axes and the PWM outputs.
-/
import PrinterFirmware.Proofs.Acceptance
import PrinterFirmware.Proofs.Interrupts

namespace PrinterFirmware

open Document Naming Build Board Machine

variable {document : Value} {x : Site document} {c : Cursor}

/-- An expression without interrupt timers, and items which bind no interrupt of one. -/
structure Silent (e : TypeExpr) (items : List Item) : Prop where
  services : e.timerServices = []
  bindings : Item.Bindings items []

/-! ## §1. Quiet items. -/

namespace Item

theorem quiet_interrupt {text : String} (h : Apart text) : (interrupt text).Quiet := h.bindsTimer

theorem quiet_code {priority : Int} {text : String} (h : Apart text) : (code priority text).Quiet :=
  h.bindsTimer

theorem quiet_resource {priority : Int} (h : priority < printerPriority) (name : String)
    (expr : TypeExpr) (contextName : Option String) :
    (resource priority name expr contextName).Quiet := h

end Item

/-- Options which hold numbers are quiet. -/
theorem OptionsGive.bindings {stem : String} {fields : List String} {items : List Item}
    (h : OptionsGive c stem fields items) : Item.Bindings items [] := by
  induction h with
  | nil => exact .nil
  | cons _ _ ih => exact .quiet trivial ih

/-- The names of options are no services. -/
theorem servicesAmong_optionNames (stem : String) (fields : List String) :
    TypeExpr.servicesAmong (optionNames stem fields) = [] := by
  induction fields with
  | nil => rfl
  | cons field rest ih => exact ih

/-! ## §2. Drivers of a board. -/

theorem PlatformGives.bindings {key : String} {items : List Item}
    (h : PlatformGives c key items) : Item.Bindings items [] := by
  cases h with
  | at91Sam => exact .quiet trivial (.quiet trivial .nil)
  | teensy => exact .quiet trivial .nil
  | avr => exact .quiet trivial (.quiet trivial (.quiet trivial .nil))

theorem PinDriver.bindings (d : PinDriver) : Item.Bindings d.items [] :=
  .quiet trivial (.quiet (Item.quiet_resource (by decide) _ _ _) .nil)

theorem WatchdogGives.silent {key user : String} {e : TypeExpr} {g : Gain}
    (h : WatchdogGives c key user e g) : Silent e g.items := by
  cases h with
  | at91Sam => exact ⟨rfl, .quiet trivial .nil⟩
  | mk20 =>
      have hhead : Apart "AMBRO_MK20_WATCHDOG_GLOBAL(" := .lit rfl rfl
      have hquiet := Item.quiet_interrupt ((hhead.append user).append ")")
      exact ⟨rfl, .quiet trivial (.quiet hquiet .nil)⟩
  | avr =>
      have hline : Apart "AMBRO_AVR_WATCHDOG_GLOBAL" := .lit rfl rfl
      exact ⟨rfl, .quiet trivial (.quiet (Item.quiet_interrupt hline) .nil)⟩

theorem AnalogGives.bindings {key : String} {a : AnalogDriver} {items : List Item}
    (h : AnalogGives c key a items) : Item.Bindings items [] := by
  cases h with
  | at91Sam =>
      have hline : Apart "AMBRO_AT91SAM_ADC_GLOBAL(MyAdc, MyContext())" := .lit rfl rfl
      exact .quiet trivial (.quiet trivial (.quiet trivial (.quiet trivial
        (.quiet (Item.quiet_interrupt hline) .nil))))
  | mk20 =>
      have hline : Apart "AMBRO_MK20_ADC_ISRS(MyAdc, MyContext())" := .lit rfl rfl
      exact .quiet trivial (.quiet trivial (.quiet (Item.quiet_interrupt hline) .nil))
  | avr =>
      have hline : Apart "AMBRO_AVR_ADC_ISRS(MyAdc, MyContext())" := .lit rfl rfl
      exact .quiet trivial (.quiet trivial (.quiet trivial
        (.quiet (Item.quiet_interrupt hline) .nil)))

theorem PwmSectionGives.bindings {items : List Item} (h : PwmSectionGives c items) :
    Item.Bindings items [] := by
  cases h with
  | present hpwm =>
      cases hpwm with
      | disabled => exact .nil
      | at91Sam => exact .quiet trivial (.quiet (Item.quiet_resource (by decide) _ _ _) .nil)
  | absent => exact .nil

theorem DriversGive.silent {k : Clock} {d : PinDriver} {a : AnalogDriver} {watchdog : TypeExpr}
    {g : Gain} (h : DriversGive c k d a watchdog g) : Silent watchdog g.items := by
  cases h with
  | mk _ _ hwatchdog hanalog hpwm =>
      obtain ⟨hservices, hitems⟩ := hwatchdog.silent
      have hhead : Item.Bindings (.frameworkInclude k.family.header :: d.items) [] :=
        .quiet trivial d.bindings
      exact ⟨hservices, hhead.append (hitems.append (hanalog.bindings.append hpwm.bindings))⟩

theorem HelpersGive.bindings (helpers : List String) :
    Item.Bindings (helpers.map helperInclude) [] := by
  apply Item.Bindings.ofQuiet
  intro i hi
  obtain ⟨helper, -, rfl⟩ := List.mem_map.1 hi
  trivial

/-! ## §3. Services of a board. -/

theorem SerialGives.silent {e : TypeExpr} {items : List Item} (h : SerialGives c e items) :
    Silent e items := by
  cases h with
  | mk _ _ _ _ hdriver =>
      cases hdriver with
      | usb => exact ⟨rfl, .quiet trivial (.quiet trivial .nil)⟩
      | at91Sam =>
          have hbinding : Apart "AMBRO_AT91SAM3X_SERIAL_GLOBAL(" := .lit rfl rfl
          have hsetup : Apart "APRINTER_SETUP_NEWLIB_DEBUG_WRITE(At91Sam3xSerial_DebugWrite<" :=
            .lit rfl rfl
          exact ⟨rfl, .quiet trivial (.quiet trivial
            (.quiet (Item.quiet_interrupt ((hbinding.append _).append _))
            (.quiet (Item.quiet_code ((hsetup.append _).append _)) .nil)))⟩
      | teensy =>
          have hline : Apart "extern \"C\" \x7b void usb_init (void); \x7d" := .lit rfl rfl
          exact ⟨rfl, .quiet trivial (.quiet (Item.quiet_code hline) (.quiet trivial .nil))⟩
      | avr =>
          have hbinding : Apart "AMBRO_AVR_SERIAL_ISRS(" := .lit rfl rfl
          have hsetup : Apart "APRINTER_SETUP_AVR_DEBUG_WRITE(AvrSerial_DebugPutChar<" :=
            .lit rfl rfl
          exact ⟨rfl, .quiet trivial (.quiet trivial
            (.quiet (Item.quiet_interrupt ((hbinding.append _).append _))
            (.quiet (Item.quiet_code ((hsetup.append _).append _)) (.quiet trivial .nil))))⟩

theorem SpiGives.silent {key user : String} {e : TypeExpr} {g : Gain}
    (h : SpiGives c key user e g) : Silent e g.items := by
  cases h with
  | @at91Sam node device binding _ hdevice =>
      -- The macro is looked up in the table of devices.
      have hbinding : Apart binding := by
        have hall : ∀ d ∈ spiDevices, Apart d.2 := by
          intro d hd
          rcases List.mem_cons.1 hd with rfl | hd
          · exact .lit rfl rfl
          · rw [List.mem_singleton.1 hd]
            exact .lit rfl rfl
        obtain ⟨before, after, hsplit, -⟩ := List.lookup_eq_some_iff.1 hdevice.listed
        exact hall (device, binding) (hsplit ▸ List.mem_append_right before List.mem_cons_self)
      have hquiet := Item.quiet_interrupt (((hbinding.append "(").append user).append ", MyContext())")
      exact ⟨rfl, .quiet trivial (.quiet hquiet .nil)⟩
  | avr =>
      have hhead : Apart "AMBRO_AVR_SPI_ISRS(" := .lit rfl rfl
      have hquiet := Item.quiet_interrupt ((hhead.append user).append ", MyContext())")
      exact ⟨rfl, .quiet trivial (.quiet hquiet .nil)⟩

theorem CardGives.silent {key : String} {e : TypeExpr} {g : Gain} (h : CardGives x c key e g) :
    Silent e g.items := by
  cases h with
  | none => exact ⟨rfl, .nil⟩
  | @card node reader parser g baseSize commandSize _ hreader hparser _ _ =>
      have hparsed : TypeExpr.servicesAmong (parser ++ [.int baseSize, .int commandSize]) = [] := by
        cases hparser with
        | text => rfl
        | binary => rfl
      cases hreader with
      | @mk _ selectPin bus _ _ _ hbus =>
          obtain ⟨hservices, hitems⟩ := hbus.silent
          refine ⟨?_, .quiet trivial hitems⟩
          rw [List.cons_append, TypeExpr.timerServices_inst (by decide)]
          show TypeExpr.timerServices (.inst "SpiSdCardService" [.text selectPin, bus])
            ++ TypeExpr.servicesAmong _ = []
          rw [hparsed, TypeExpr.timerServices_inst (by decide)]
          show ([] ++ (bus.timerServices ++ [])) ++ [] = []
          rw [hservices]
          rfl

theorem EepromGives.silent {key user : String} {e : TypeExpr} {g : Gain}
    (h : EepromGives c key user e g) : Silent e g.items := by
  cases h with
  | i2c _ hbus _ _ _ _ =>
      cases hbus with
      | mk =>
          have hhead : Apart "AMBRO_AT91SAM_I2C_GLOBAL(" := .lit rfl rfl
          exact ⟨rfl, .quiet trivial (.quiet trivial
            (.quiet (Item.quiet_interrupt ((((hhead.append _).append _).append _).append _))
            (.quiet trivial (.quiet trivial .nil))))⟩
  | teensy => exact ⟨rfl, .quiet trivial .nil⟩
  | avr =>
      have hhead : Apart "AMBRO_AVR_EEPROM_ISRS(" := .lit rfl rfl
      have hquiet := Item.quiet_interrupt ((hhead.append user).append ", MyContext())")
      exact ⟨rfl, .quiet trivial (.quiet hquiet .nil)⟩

theorem ManagerGives.silent {key user : String} {e : TypeExpr} {g : Gain}
    (h : ManagerGives c key user e g) : Silent e g.items := by
  cases h with
  | constant => exact ⟨rfl, .quiet trivial .nil⟩
  | runtime _ hstore =>
      cases hstore with
      | none => exact ⟨rfl, .quiet trivial .nil⟩
      | eeprom _ hmemory _ _ =>
          obtain ⟨hservices, hitems⟩ := hmemory.silent
          refine ⟨?_, .quiet trivial (.quiet trivial hitems)⟩
          rw [TypeExpr.timerServices_inst (by decide)]
          show TypeExpr.timerServices (.inst "EepromConfigStoreService" _) ++ [] = []
          rw [TypeExpr.timerServices_inst (by decide)]
          show (_ ++ []) ++ [] = []
          rw [hservices]
          rfl

/-! ## §4. Sections of a printer. -/

theorem DigitalInputGives.services {key : String} {es : List TypeExpr}
    (h : DigitalInputGives x c key es) : TypeExpr.servicesAmong es = [] := by
  cases h with
  | mk => rfl

theorem PointsGive.silent {i : Nat} {nodes : List Cursor} {es : List TypeExpr} {items : List Item}
    (h : PointsGive i nodes es items) :
    TypeExpr.servicesAmong es = [] ∧ Item.Bindings items [] := by
  induction h with
  | nil => exact ⟨rfl, .nil⟩
  | @cons i point rest es items items' hpoint _ ih =>
      refine ⟨?_, hpoint.bindings.append ih.2⟩
      show TypeExpr.timerServices (TypeExpr.list _) ++ TypeExpr.servicesAmong es = []
      rw [TypeExpr.timerServices_list, servicesAmong_optionNames, ih.1]
      rfl

theorem ProbeGives.silent {e : TypeExpr} {items : List Item} (h : ProbeGives x c e items) :
    Silent e items := by
  cases h with
  | none => exact ⟨rfl, .nil⟩
  | probe _ _ h =>
      cases h with
      | mk hoffset hsettings _ hpoints hinput _ =>
          obtain ⟨hservices, hitems⟩ := hpoints.silent
          refine ⟨?_, (hoffset.bindings.append hsettings.bindings).append hitems⟩
          rw [TypeExpr.timerServices_inst (by decide)]
          simp only [TypeExpr.servicesAmong_append, servicesAmong_optionNames, hinput.services]
          show [] ++ [] ++ [] ++ [] ++ (TypeExpr.timerServices (TypeExpr.list _) ++ []) = []
          rw [TypeExpr.timerServices_list, hservices]
          rfl

theorem AdvancedGives.bindings {items : List Item} (h : AdvancedGives c items) :
    Item.Bindings items [] := by
  cases h with
  | mk => exact .quiet trivial (.quiet trivial (.quiet trivial (.quiet trivial .nil)))

theorem ParamsGive.bindings {board : BoardParts} {s : Sections} {e : TypeExpr} {items : List Item}
    (h : ParamsGive c board s e items) : Item.Bindings items [] := by
  cases h with
  | mk => exact .quiet trivial (.quiet trivial (.quiet trivial .nil))

/-- The homing of a stepper looks at no timer. -/
theorem HomingGives.silent {l : Char} {e : TypeExpr} {items : List Item}
    (h : HomingGives x c l e items) : Silent e items := by
  cases h with
  | none => exact ⟨rfl, .nil⟩
  | homing _ _ hendstop _ hmotions =>
      refine ⟨?_, .quiet trivial (.quiet trivial (.quiet trivial hmotions.bindings))⟩
      rw [TypeExpr.timerServices_inst (by decide)]
      show [] ++ (TypeExpr.timerServices (.inst "AxisHomerService" _) ++ []) = []
      rw [TypeExpr.timerServices_inst (by decide), TypeExpr.servicesAmong_append, hendstop.services]
      rfl

theorem VirtualAxisGives.silent {l : Char} {e : TypeExpr} {g : Gain}
    (h : VirtualAxisGives x c l e g) : Silent e g.items := by
  cases h with
  | mk hmotions hhoming =>
      cases hhoming with
      | none => exact ⟨rfl, hmotions.bindings.append .nil⟩
      | homing _ hendstop _ _ hmotions' =>
          refine ⟨?_, hmotions.bindings.append (.quiet trivial (.quiet trivial
            hmotions'.bindings))⟩
          rw [TypeExpr.timerServices_inst (by decide)]
          show TypeExpr.timerServices (.inst "PrinterMainVirtualHomingParams" _) ++ [] = []
          rw [TypeExpr.timerServices_inst (by decide), TypeExpr.servicesAmong_append,
            hendstop.services]
          rfl

/-- Things without interrupt timers, as a sequence. -/
theorem Things.silent {R : Cursor → Nat → Char → TypeExpr → Gain → Prop}
    (hR : ∀ c i l e g, R c i l e g → Silent e g.items) {letters after : List Char} {i : Nat}
    {nodes : List Cursor} {es : List TypeExpr} {g : Gain}
    (h : Things R letters i nodes es g after) :
    TypeExpr.servicesAmong es = [] ∧ Item.Bindings g.items [] := by
  induction h with
  | nil => exact ⟨rfl, .nil⟩
  | @cons letters after i c rest l e es g g' _ _ h _ ih =>
      obtain ⟨hservices, hitems⟩ := hR _ _ _ _ _ h
      refine ⟨?_, hitems.append ih.2⟩
      show e.timerServices ++ TypeExpr.servicesAmong es = []
      rw [hservices, ih.1]
      rfl

theorem TransformSteppersGive.services {config : Cursor} {e : TypeExpr}
    (h : TransformSteppersGive config c e) : e.timerServices = [] := by
  cases h with
  | mk _ hes =>
      rw [TypeExpr.timerServices_list]
      clear * - hes
      induction hes with
      | nil => rfl
      | cons h _ ih =>
          cases h with
          | mk => exact ih

theorem TransformTypeGives.silent {e : TypeExpr} {items : List Item}
    (h : TransformTypeGives c e items) : Silent e items := by
  cases h with
  | coreXY => exact ⟨rfl, .quiet trivial .nil⟩
  | delta _ _ hoffsets _ _ =>
      exact ⟨rfl, .quiet trivial (.quiet trivial
        (hoffsets.bindings.append (.quiet trivial (.quiet trivial .nil))))⟩

theorem TransformGives.silent {letters after : List Char} {e : TypeExpr} {g : Gain}
    (h : TransformGives x c letters e g after) : Silent e g.items := by
  cases h with
  | none => exact ⟨rfl, .nil⟩
  | @some node tag axisNodes axes steppers type g segments items _ _ _ haxes hsteppers _ htype =>
      obtain ⟨hservices, hitems⟩ := haxes.silent fun c _ l e g h => VirtualAxisGives.silent h
      refine ⟨?_, hitems.append (.quiet trivial htype.silent.bindings)⟩
      rw [TypeExpr.timerServices_inst (by decide)]
      show (TypeExpr.list axes).timerServices ++ (steppers.timerServices
        ++ ([] ++ (type.timerServices ++ []))) = []
      rw [TypeExpr.timerServices_list, hservices, hsteppers.services, htype.silent.services]
      rfl

/-! ## §5. The finish of a build. -/

/-- The bindings of the clock itself are none of interrupt timers. -/
theorem Clock.quiet_closingItems (k : Clock) : Item.Bindings k.closingItems [] := by
  apply Item.Bindings.ofQuiet
  intro i hi
  unfold closingItems at hi
  rw [List.mem_append, List.mem_append] at hi
  -- Bindings of single timers, bindings of the whole clock, and the slot.
  rcases hi with (hi | hi) | hi
  · obtain ⟨text, htext, rfl⟩ := List.mem_map.1 hi
    obtain ⟨timer, -, htimer⟩ := List.mem_filterMap.1 htext
    apply Item.quiet_interrupt
    cases hf : k.family with
    | at91Sam3x =>
        rw [hf] at htimer
        injection htimer with htimer
        rw [← htimer]
        have hhead : Apart "AMBRO_AT91SAM3X_CLOCK_TC" := .lit rfl rfl
        exact (hhead.append _).append _
    | mk20 =>
        rw [hf] at htimer
        injection htimer with htimer
        rw [← htimer]
        have hhead : Apart "AMBRO_MK20_CLOCK_FTM_GLOBAL(" := .lit rfl rfl
        exact (hhead.append _).append _
    | avr =>
        rw [hf] at htimer
        cases htimer
  · obtain ⟨text, htext, rfl⟩ := List.mem_map.1 hi
    apply Item.quiet_interrupt
    cases hf : k.family with
    | avr =>
        rw [hf] at htext
        rw [List.mem_singleton.1 htext]
        have hhead : Apart "AMBRO_AVR_CLOCK_ISRS(" := .lit rfl rfl
        exact (hhead.append _).append _
    | at91Sam3x =>
        rw [hf] at htext
        cases htext
    | mk20 =>
        rw [hf] at htext
        cases htext
  · rw [List.mem_singleton.1 hi]
    trivial

theorem quiet_closingItems (x : Site document) (a : AnalogDriver) (g : Gain) :
    Item.Bindings (closingItems x a g) [] :=
  .quiet (Item.quiet_resource (by decide) _ _ _) (Clock.quiet_closingItems _)

end PrinterFirmware
