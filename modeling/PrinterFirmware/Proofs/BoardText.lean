/-
  PrinterFirmware.Proofs.BoardText
  ────────────────────────────────
  **WHAT A BOARD GIVES IS TAME.**

  Every text which the section of a board brings into a program has passed the check of
  the field it comes from.  The lemmas follow the relations of the walks one by one: if
  the names which a walk is given are phrases, then what it gives and what it gains is
  tame.
-/
import PrinterFirmware.Proofs.Setup
import PrinterFirmware.Proofs.Source

namespace PrinterFirmware

open Document Naming Build Board

variable {document : Value} {x : Site document} {c : Cursor}

/-! ## §1. Fields. -/

theorem Document.Cursor.phrase_identifierWhere {key s : String} {valid : String → Bool}
    (h : c.identifierWhere key valid = .ok s) : Phrase s := by
  obtain ⟨-, hidentifier, -⟩ := identifierWhere_eq_ok.1 h
  exact phrase_identifier hidentifier

theorem Document.Cursor.phrase_identifier {key s : String} (h : c.identifier key = .ok s) :
    Phrase s :=
  phrase_identifierWhere h

theorem Document.Cursor.phrase_intConstant {key s : String} (h : c.intConstant key = .ok s) :
    Phrase s := by
  obtain ⟨n, -, rfl⟩ := intConstant_eq_ok.1 h
  exact Numeral.phrase_ofInt n

theorem Document.Cursor.phrase_boolConstant {key s : String} (h : c.boolConstant key = .ok s) :
    Phrase s := by
  obtain ⟨b, -, rfl⟩ := boolConstant_eq_ok.1 h
  cases b <;> decide

theorem Document.Cursor.wordChar_letter {key : String} {l : Char} (h : c.letter key = .ok l) :
    isWordChar l = true := by
  obtain ⟨s, -, hl⟩ := letter_eq_ok.1 h
  exact isUpper.wordChar (letter?_eq_some hl).2

/-- The grammars of a site have words for their fixed parts. -/
def Site.PlainNames (x : Site document) : Prop := ∀ names ∈ x.grammars, names.Plain

theorem Site.PinAt.phrase {key name : String} (h : x.PinAt c key name) (hx : x.PlainNames) :
    Phrase name := by
  obtain ⟨names, hmem, haccepts⟩ := List.any_eq_true.1 h.accepted
  exact PinNames.phrase (hx names hmem) haccepts

/-! ## §2. Clocks and timers. -/

theorem Naming.TimerNames.isDigit_timer {names : TimerNames} {name : String} {timer : Char}
    (h : names.timer? name = some timer) : Numeral.isDigit timer = true := by
  unfold timer? at h
  split at h
  · split at h
    · next hdigit =>
        injection h with h
        rw [← h]
        exact hdigit
    · cases h
  · cases h

theorem Naming.TimerNames.digit_channel_of_unit {names : TimerNames} {name : String}
    {u : CompareUnit} (h : names.unit? name = some u) :
    Numeral.isDigit u.timer = true ∧ names.isChannel u.channel = true := by
  unfold unit? at h
  split at h
  · split at h
    · next hdigit =>
        split at h
        · split at h
          · next hchannel =>
              injection h with h
              subst h
              exact ⟨hdigit, hchannel⟩
          · cases h
        · cases h
    · cases h
  · cases h

theorem ClockFamily.wordChar_channel {f : ClockFamily} {ch : Char}
    (h : f.names.isChannel ch = true) : isWordChar ch = true := by
  have hrange := Bool.and_eq_true_iff.1 h
  have hfirst := of_decide_eq_true hrange.1
  have hlast := of_decide_eq_true hrange.2
  cases f with
  | at91Sam3x =>
      have hupper : ch ≤ 'Z' := Char.le_trans hlast (by decide)
      exact isUpper.wordChar (by simp [isUpper, hupper]; exact hfirst)
  | mk20 => exact isDigit.wordChar h
  | avr => exact isUpper.wordChar h

/-- The digit of the timer and the channel of a unit are word characters. -/
theorem Site.UnitAt.wordChars {key : String} {u : CompareUnit} (h : x.UnitAt c key u) :
    isWordChar u.timer = true ∧ isWordChar u.channel = true := by
  obtain ⟨name, -, hu⟩ := h
  obtain ⟨hdigit, hchannel⟩ := TimerNames.digit_channel_of_unit hu
  exact ⟨isDigit.wordChar hdigit, ClockFamily.wordChar_channel hchannel⟩

theorem wordChar_readTimer {f : ClockFamily} {key : String} {timer : Char}
    (h : Clock.readTimer f c key = .ok timer) : isWordChar timer = true := by
  obtain ⟨name, -, htimer⟩ := Clock.readTimer_eq_ok.1 h
  exact isDigit.wordChar (TimerNames.isDigit_timer htimer)

/-- A call whose first argument is a phrase and whose last one is the context. -/
theorem phrase_call {head user : String} (hhead : Written isPrinted [] head.toList [')'])
    (huser : Phrase user) : Phrase (head ++ user ++ ", MyContext())") :=
  (hhead.phrase huser).andThen (.lit rfl)

theorem ModeGives.tame {e : TypeExpr} (h : ModeGives c e) : e.Tame := by
  cases h with
  | clock => exact .text (.lit rfl)
  | pwm8 => exact .inst (.lit rfl) (.cons .int .nil)
  | pwm16 => exact .inst (.lit rfl) (.cons .int (.cons .int .nil))

theorem phrase_named {stem : String} {ch : Char} (hstem : Phrase stem) (h : isWordChar ch = true) :
    Phrase (stem ++ String.singleton ch) :=
  Written.phrase hstem (phrase_singleton h)

theorem SettingsGive.tame {timer : Char} {e : TypeExpr} (h : SettingsGive timer c e)
    (htimer : isWordChar timer = true) : e.Tame := by
  cases h with
  | mk hmode =>
      have hname : Phrase ("AvrClockTc" ++ String.singleton timer) :=
        phrase_named (.lit rfl) htimer
      exact .inst (.lit rfl) (.cons (.text hname) (.cons hmode.tame .nil))

/-- Timers whose digits are word characters, with tame settings. -/
def TameTimers (timers : List (Char × TypeExpr)) : Prop :=
  ∀ e ∈ timers, isWordChar e.1 = true ∧ e.2.Tame

theorem TameTimers.put {timers : List (Char × TypeExpr)} (h : TameTimers timers) {timer : Char}
    {settings : TypeExpr} (htimer : isWordChar timer = true) (hsettings : settings.Tame) :
    TameTimers (Ascending.put timer settings timers) := by
  intro e he
  rcases Ascending.mem_put he with rfl | he
  · exact ⟨htimer, hsettings⟩
  · exact h e he

theorem Configured.tame {f : ClockFamily} {before after : List (Char × TypeExpr)}
    {nodes : List Cursor} (h : Configured f before nodes after) (hbefore : TameTimers before) :
    TameTimers after := by
  induction h with
  | nil => exact hbefore
  | cons htimer _ hsettings _ ih =>
      have hword := wordChar_readTimer htimer
      exact ih (hbefore.put hword (hsettings.tame hword))

/-- A clock with tame settings, whose timers and units have word characters for names. -/
structure Clock.Tame (k : Clock) : Prop where
  prescaler : Phrase k.prescaler
  primary : isWordChar k.primary = true
  configured : TameTimers k.configured
  claims : ∀ u ∈ k.claims, isWordChar u.timer = true ∧ isWordChar u.channel = true

theorem ClockChosen.tame {key : String} {k : Clock} (h : ClockChosen c key k) : k.Tame := by
  cases h with
  | mk _ hk =>
      obtain ⟨nodes, hconfigured⟩ := hk.configured
      refine ⟨Cursor.phrase_intConstant hk.prescaler, wordChar_readTimer hk.primary, ?_, ?_⟩
      · exact hconfigured.tame fun e he => absurd he List.not_mem_nil
      · rw [hk.claims]
        exact fun u hu => absurd hu List.not_mem_nil

theorem ClockFamily.phrase_avrChannel {u : CompareUnit} (htimer : isWordChar u.timer = true)
    (hchannel : isWordChar u.channel = true) : Phrase (avrChannel u) :=
  phrase_named (phrase_named (.lit rfl) htimer) hchannel

theorem ClockFamily.tame_timerService (f : ClockFamily) {u : CompareUnit}
    (htimer : isWordChar u.timer = true) (hchannel : isWordChar u.channel = true)
    {clearance : Option String} (hclearance : ∀ name ∈ clearance, Phrase name) :
    (f.timerService u clearance).Tame := by
  have hextra : TypeExpr.TameAll (clearance.toList.map TypeExpr.text) := by
    intro e he
    obtain ⟨name, hname, rfl⟩ := List.mem_map.1 he
    exact .text (hclearance name (Option.mem_toList.1 hname))
  cases f with
  | at91Sam3x =>
      have hname : Phrase ("At91Sam3xClockTC" ++ String.singleton u.timer) :=
        phrase_named (.lit rfl) htimer
      have hcomp : Phrase ("At91Sam3xClockComp" ++ String.singleton u.channel) :=
        phrase_named (.lit rfl) hchannel
      exact .inst (.lit rfl) (.cons (.text hname) (.cons (.text hcomp) hextra))
  | mk20 =>
      have hname : Phrase ("Mk20ClockFTM" ++ String.singleton u.timer) :=
        phrase_named (.lit rfl) htimer
      exact .inst (.lit rfl)
        (.cons (.text hname) (.cons (.text (phrase_singleton hchannel)) hextra))
  | avr => exact .inst (.lit rfl) (.cons (.text (phrase_avrChannel htimer hchannel)) hextra)

theorem ClockFamily.phrase_timerBinding (f : ClockFamily) {u : CompareUnit} {user : String}
    (htimer : isWordChar u.timer = true) (hchannel : isWordChar u.channel = true)
    (huser : Phrase user) : Phrase (f.timerBinding u user) := by
  have hcomma : Phrase ", " := .lit rfl
  have hcomp : Phrase ", At91Sam3xClockComp" := .lit rfl
  have htimer := phrase_singleton htimer
  have hchannel := phrase_singleton hchannel
  cases f with
  | at91Sam3x =>
      have hopen : Written isPrinted []
          "AMBRO_AT91SAM3X_CLOCK_INTERRUPT_TIMER_GLOBAL(At91Sam3xClockTC".toList [')'] :=
        .lit rfl
      exact phrase_call ((((hopen.phrase htimer).phrase hcomp).phrase hchannel).phrase hcomma) huser
  | mk20 =>
      have hopen : Written isPrinted []
          "AMBRO_MK20_CLOCK_INTERRUPT_TIMER_GLOBAL(Mk20ClockFTM".toList [')'] :=
        .lit rfl
      exact phrase_call ((((hopen.phrase htimer).phrase hcomma).phrase hchannel).phrase hcomma)
        huser
  | avr =>
      have hopen : Written isPrinted [] "AMBRO_AVR_CLOCK_INTERRUPT_TIMER_ISRS(".toList [')'] :=
        .lit rfl
      exact phrase_call ((((hopen.phrase htimer).phrase hcomma).phrase hchannel).phrase hcomma)
        huser

theorem TimerGives.tame {key user : String} {clearance : Option String} {e : TypeExpr} {g : Gain}
    (h : TimerGives x c key user clearance e g) (huser : Phrase user)
    (hclearance : ∀ name ∈ clearance, Phrase name) : e.Tame ∧ g.Tame := by
  cases h with
  | mk _ hu =>
      obtain ⟨htimer, hchannel⟩ := hu.wordChars
      refine ⟨ClockFamily.tame_timerService _ htimer hchannel hclearance, ?_, ?_, ?_⟩
      · exact .cons (ClockFamily.phrase_timerBinding _ htimer hchannel huser) .nil
      · intro u hu
        rw [List.mem_singleton.1 hu]
        exact ⟨htimer, hchannel⟩
      · exact fun p hp => absurd hp List.not_mem_nil

/-! ## §3. Drivers. -/

theorem PlatformGives.tame {key : String} {items : List Item} (h : PlatformGives c key items) :
    Item.TameAll items := by
  have hinclude : ∀ {path : String}, Phrase path → (Item.platformInclude path).Tame := fun h => h
  have hcall : ∀ {priority : Int} {text : String}, Phrase text →
      (Item.initCall priority text).Tame := fun h => h
  cases h with
  | at91Sam => exact .cons (hinclude (.lit rfl)) (.cons (hcall (.lit rfl)) .nil)
  | teensy => exact .cons (hinclude (.lit rfl)) .nil
  | avr =>
      exact .cons (hinclude (.lit rfl))
        (.cons (hinclude (.lit rfl)) (.cons (hcall (.lit rfl)) .nil))

/-- The pin drivers have words for the fixed parts of their names. -/
theorem tame_pinDrivers : ∀ d ∈ pinDrivers, d.names.Plain ∧ Phrase d.tag ∧ Phrase d.header := by
  decide

theorem PinDriver.tame_items {d : PinDriver} (h : d ∈ pinDrivers) : Item.TameAll d.items := by
  obtain ⟨-, htag, hheader⟩ := tame_pinDrivers d h
  refine .cons hheader (.cons (Item.tame_resource (.lit rfl) ?_ (.lit rfl)) .nil)
  exact .inst htag (.cons (.text (.lit rfl)) (.cons (.text (.lit rfl)) .nil))

theorem DigitalInputGives.tame {key : String} {es : List TypeExpr}
    (h : DigitalInputGives x c key es) (hx : x.PlainNames) : TypeExpr.TameAll es := by
  cases h with
  | mk _ hname hmode =>
      exact .cons (.text (hname.phrase hx)) (.cons (.text (Cursor.phrase_identifier hmode)) .nil)

theorem WatchdogGives.tame {key user : String} {e : TypeExpr} {g : Gain}
    (h : WatchdogGives c key user e g) (huser : Phrase user) : e.Tame ∧ g.Tame := by
  cases h with
  | at91Sam =>
      exact ⟨.inst (.lit rfl) (.cons .int .nil),
        Gain.tame_ofItems (.cons (Item.tame_frameworkInclude (.lit rfl)) .nil)⟩
  | mk20 =>
      have hopen : Written isPrinted [] "AMBRO_MK20_WATCHDOG_GLOBAL(".toList [')'] := .lit rfl
      have hbinding : Phrase ("AMBRO_MK20_WATCHDOG_GLOBAL(" ++ user ++ ")") :=
        (hopen.phrase huser).andThen (.lit rfl)
      exact ⟨.inst (.lit rfl) (.cons .int (.cons .int .nil)),
        Gain.tame_ofItems (.cons (Item.tame_frameworkInclude (.lit rfl))
          (.cons (Item.tame_interrupt hbinding) .nil))⟩
  | avr _ _ hformat =>
      exact ⟨.inst (.lit rfl) (.cons (.text (phrase_watchdogTimeout hformat)) .nil),
        Gain.tame_ofItems (.cons (Item.tame_frameworkInclude (.lit rfl))
          (.cons (Item.tame_interrupt (.lit rfl)) .nil))⟩

/-- The parameters of a driver of analog inputs are tame. -/
def AnalogDriver.Tame : AnalogDriver → Prop
  | .at91Sam params => params.Tame
  | .mk20 | .avr => True

theorem AnalogGives.tame {key : String} {a : AnalogDriver} {items : List Item}
    (h : AnalogGives c key a items) : a.Tame ∧ Item.TameAll items := by
  cases h with
  | at91Sam =>
      refine ⟨?_, ?_⟩
      · have hinterval : TypeExpr.Tame (.inst "At91SamAdcAvgParams" [.text "AdcAvgInterval"]) :=
          .inst (.lit rfl) (.cons (.text (.lit rfl)) .nil)
        exact .inst (.lit rfl) (.cons (.text (.lit rfl))
          (.cons .int (.cons .int (.cons .int (.cons .int (.cons hinterval .nil))))))
      · exact .cons (Item.tame_frameworkInclude (.lit rfl))
          (.cons (Item.tame_numberConstant (.lit rfl) _)
          (.cons (Item.tame_numberConstant (.lit rfl) _)
          (.cons (Item.tame_intConstant _ (.lit rfl) _)
          (.cons (Item.tame_interrupt (.lit rfl)) .nil))))
  | mk20 =>
      exact ⟨trivial, .cons (Item.tame_frameworkInclude (.lit rfl))
        (.cons (Item.tame_intConstant _ (.lit rfl) _)
        (.cons (Item.tame_interrupt (.lit rfl)) .nil))⟩
  | avr =>
      exact ⟨trivial, .cons (Item.tame_frameworkInclude (.lit rfl))
        (.cons (Item.tame_intConstant _ (.lit rfl) _)
        (.cons (Item.tame_intConstant _ (.lit rfl) _)
        (.cons (Item.tame_interrupt (.lit rfl)) .nil)))⟩

theorem AnalogDriver.Tame.resource {a : AnalogDriver} (h : a.Tame) {pins : List String}
    (hpins : ∀ p ∈ pins, Phrase p) : (a.resource pins).Tame := by
  have hpin : TypeExpr.TameAll (pins.map a.pin) := by
    intro e he
    obtain ⟨name, hname, rfl⟩ := List.mem_map.1 he
    have hname := hpins name hname
    cases a with
    | at91Sam => exact .inst (.lit rfl) (.cons (.text hname) (.cons (.text (.lit rfl)) .nil))
    | mk20 | avr => exact .text hname
  have hcontext : TypeExpr.Tame (.text "MyContext") := .text (.lit rfl)
  have hprogram : TypeExpr.Tame (.text "Program") := .text (.lit rfl)
  refine Item.tame_resource (.lit rfl) ?_ (.lit rfl)
  cases a with
  | at91Sam params =>
      exact .inst (.lit rfl)
        (.cons hcontext (.cons hprogram (.cons (.list hpin) (.cons h .nil))))
  | mk20 =>
      exact .inst (.lit rfl)
        (.cons hcontext (.cons hprogram (.cons (.list hpin) (.cons (.text (.lit rfl)) .nil))))
  | avr =>
      exact .inst (.lit rfl) (.cons hcontext (.cons hprogram (.cons (.list hpin)
        (.cons (.text (.lit rfl)) (.cons (.text (.lit rfl)) .nil)))))

theorem AnalogInputGives.tame {key : String} {e : TypeExpr} {g : Gain}
    (h : AnalogInputGives x c key e g) (hx : x.PlainNames) : e.Tame ∧ g.Tame := by
  cases h with
  | mk _ hname =>
      have hname := hname.phrase hx
      refine ⟨.text hname, .nil, fun u hu => absurd hu List.not_mem_nil, ?_⟩
      intro p hp
      rw [List.mem_singleton.1 hp]
      exact hname

theorem PwmGives.tame {key : String} {items : List Item} (h : PwmGives c key items) :
    Item.TameAll items := by
  cases h with
  | disabled => exact .nil
  | at91Sam =>
      have hparams : ∀ {a b d e : Int}, TypeExpr.Tame
          (.inst "At91Sam3xPwmParams" [.int a, .int b, .int d, .int e]) :=
        .inst (.lit rfl) (.cons .int (.cons .int (.cons .int (.cons .int .nil))))
      refine .cons (Item.tame_frameworkInclude (.lit rfl))
        (.cons (Item.tame_resource (.lit rfl) ?_ (.lit rfl)) .nil)
      exact .inst (.lit rfl)
        (.cons (.text (.lit rfl)) (.cons (.text (.lit rfl)) (.cons hparams .nil)))

theorem HardDriverGives.tame {e : TypeExpr} (h : HardDriverGives x c e) (hx : x.PlainNames) :
    e.Tame := by
  cases h with
  | avr _ hu houtput =>
      obtain ⟨htimer, hchannel⟩ := hu.wordChars
      exact .inst (.lit rfl) (.cons (.text (ClockFamily.phrase_avrChannel htimer hchannel))
        (.cons (.text (houtput.phrase hx)) .nil))
  | at91Sam _ _ _ _ houtput hsignal =>
      have hquote : Phrase "'" := .lit rfl
      have hsignal := (Written.phrase hquote (Cursor.phrase_identifier hsignal)).phrase hquote
      exact .inst (.lit rfl) (.cons .int (.cons .int (.cons .int
        (.cons (.text (houtput.phrase hx)) (.cons (.text hsignal) .nil)))))

theorem PwmOutputGives.tame {key user username : String} {e : TypeExpr} {g : Gain}
    (h : PwmOutputGives x c key user username e g) (hx : x.PlainNames) (huser : Phrase user)
    (husername : Phrase username) : e.Tame ∧ g.Tame := by
  cases h with
  | soft _ h =>
      cases h with
      | mk _ hpin _ _ htimer =>
          have hpulses : Phrase (username ++ "PulseInterval") :=
            Written.phrase husername (.lit rfl)
          have huser : Phrase (user ++ "::TheTimer") := Written.phrase huser (.lit rfl)
          obtain ⟨htimer, hg⟩ := htimer.tame huser (by simp)
          refine ⟨.inst (.lit rfl) (.cons (.text (hpin.phrase hx)) (.cons .bool
            (.cons (.text hpulses) (.cons htimer .nil)))), .append (Gain.tame_ofItems ?_) hg⟩
          exact .cons (Item.tame_frameworkInclude (.lit rfl))
            (.cons (Item.tame_numberConstant hpulses _) .nil)
  | hard _ h =>
      cases h with
      | mk _ hdriver =>
          exact ⟨.inst (.lit rfl) (.cons (hdriver.tame hx) .nil),
            Gain.tame_ofItems (.cons (Item.tame_frameworkInclude (.lit rfl)) .nil)⟩

/-! ## §4. Services. -/

theorem SpiGives.tame {key user : String} {e : TypeExpr} {g : Gain} (h : SpiGives c key user e g)
    (huser : Phrase user) : e.Tame ∧ g.Tame := by
  cases h with
  | at91Sam _ hdevice =>
      have hbindings : ∀ d ∈ spiDevices,
          Written isPrinted [] (d.2 ++ "(").toList [')'] := by decide
      obtain ⟨before, after, hmem, -⟩ := List.lookup_eq_some_iff.1 hdevice.listed
      have hbinding := hbindings _ (hmem ▸ List.mem_append_right before List.mem_cons_self)
      exact ⟨.inst (.lit rfl) (.cons (.text (Cursor.phrase_identifier hdevice.name)) .nil),
        Gain.tame_ofItems (.cons (Item.tame_frameworkInclude (.lit rfl))
          (.cons (Item.tame_interrupt (phrase_call hbinding huser)) .nil))⟩
  | avr =>
      have hopen : Written isPrinted [] "AMBRO_AVR_SPI_ISRS(".toList [')'] := .lit rfl
      exact ⟨.inst (.lit rfl) (.cons .int .nil),
        Gain.tame_ofItems (.cons (Item.tame_frameworkInclude (.lit rfl))
          (.cons (Item.tame_interrupt (phrase_call hopen huser)) .nil))⟩

theorem I2cGives.tame {key user username : String} {e : TypeExpr} {g : Gain}
    (h : I2cGives c key user username e g) (huser : Phrase user) (husername : Phrase username) :
    e.Tame ∧ g.Tame := by
  cases h with
  | @mk node device number divisor freq _ hdevice =>
      have hfreq : Phrase (username ++ "I2cFreq") := Written.phrase husername (.lit rfl)
      have hopen : Written isPrinted [] "AMBRO_AT91SAM_I2C_GLOBAL(".toList [')'] := .lit rfl
      have hcomma : Phrase ", " := .lit rfl
      have hhead := (hopen.phrase (Numeral.phrase_ofNat number)).phrase hcomma
      exact ⟨.inst (.lit rfl) (.cons (.text (Cursor.phrase_identifier hdevice.name))
          (.cons .int (.cons (.text hfreq) .nil))),
        Gain.tame_ofItems (.cons (Item.tame_frameworkInclude (.lit rfl))
          (.cons (Item.tame_interrupt (phrase_call hhead huser))
          (.cons (Item.tame_numberConstant hfreq _) .nil)))⟩

theorem EepromGives.tame {key user : String} {e : TypeExpr} {g : Gain}
    (h : EepromGives c key user e g) (huser : Phrase user) : e.Tame ∧ g.Tame := by
  cases h with
  | i2c _ hbus =>
      obtain ⟨hbus, hg⟩ := hbus.tame (Written.phrase huser (.lit rfl)) (.lit rfl)
      refine ⟨.inst (.lit rfl) (.cons hbus (.cons .int (.cons .int (.cons .int
        (.cons (.text (.lit rfl)) .nil))))), ?_⟩
      exact .append (Gain.tame_ofItems (.cons (Item.tame_frameworkInclude (.lit rfl)) .nil))
        (hg.append (Gain.tame_ofItems (.cons (Item.tame_numberConstant (.lit rfl) _) .nil)))
  | teensy =>
      exact ⟨.inst (.lit rfl) (.cons .int (.cons .int .nil)),
        Gain.tame_ofItems (.cons (Item.tame_frameworkInclude (.lit rfl)) .nil)⟩
  | avr =>
      have hopen : Written isPrinted [] "AMBRO_AVR_EEPROM_ISRS(".toList [')'] := .lit rfl
      exact ⟨.inst (.lit rfl) (.cons .int .nil),
        Gain.tame_ofItems (.cons (Item.tame_frameworkInclude (.lit rfl))
          (.cons (Item.tame_interrupt (phrase_call hopen huser)) .nil))⟩

theorem ManagerGives.tame {key user : String} {e : TypeExpr} {g : Gain}
    (h : ManagerGives c key user e g) (huser : Phrase user) : e.Tame ∧ g.Tame := by
  cases h with
  | constant =>
      exact ⟨.text (.lit rfl),
        Gain.tame_ofItems (.cons (Item.tame_frameworkInclude (.lit rfl)) .nil)⟩
  | runtime _ hstore =>
      have hinclude : ∀ {path : String}, Phrase path →
          (Gain.ofItems [.frameworkInclude path]).Tame :=
        fun h => Gain.tame_ofItems (.cons (Item.tame_frameworkInclude h) .nil)
      cases hstore with
      | none =>
          exact ⟨.inst (.lit rfl) (.cons (.text (.lit rfl)) .nil),
            .append (hinclude (.lit rfl)) Gain.tame_empty⟩
      | eeprom _ hmemory =>
          obtain ⟨hmemory, hg⟩ := hmemory.tame (Written.phrase huser (.lit rfl))
          refine ⟨.inst (.lit rfl) (.cons (.inst (.lit rfl)
            (.cons hmemory (.cons .int (.cons .int .nil)))) .nil), ?_⟩
          exact .append (hinclude (.lit rfl)) (.append (hinclude (.lit rfl)) hg)

theorem ParserGives.tame {es : List TypeExpr} (h : ParserGives c es) : TypeExpr.TameAll es := by
  cases h with
  | text =>
      exact .cons (.text (.lit rfl)) (.cons (.inst (.lit rfl) (.cons .int .nil)) .nil)
  | binary =>
      exact .cons (.text (.lit rfl)) (.cons (.inst (.lit rfl) (.cons .int .nil)) .nil)

theorem CardGives.tame {key : String} {e : TypeExpr} {g : Gain} (h : CardGives x c key e g)
    (hx : x.PlainNames) : e.Tame ∧ g.Tame := by
  cases h with
  | none => exact ⟨.text (.lit rfl), Gain.tame_empty⟩
  | card _ hreader hparser =>
      cases hreader with
      | @mk _ selectPin bus _ _ hpin hbus =>
          have hcard : Phrase "MyPrinter::GetSdCard<>" := .lit rfl
          obtain ⟨hbus, hg⟩ := hbus.tame (Written.phrase hcard (.lit rfl))
          have hreader : TypeExpr.Tame (.inst "SpiSdCardService" [.text selectPin, bus]) :=
            .inst (.lit rfl) (.cons (.text (hpin.phrase hx)) (.cons hbus .nil))
          refine ⟨.inst (.lit rfl) (.cons hreader (.append hparser.tame
            (.cons .int (.cons .int .nil)))), ?_⟩
          exact .append (Gain.tame_ofItems (.cons (Item.tame_frameworkInclude (.lit rfl)) .nil)) hg

theorem SerialDriverGives.tame {key user : String} {e : TypeExpr} {items : List Item}
    (h : SerialDriverGives c key user e items) (huser : Phrase user) :
    e.Tame ∧ Item.TameAll items := by
  have hcode : ∀ {priority : Int} {text : String}, Phrase text →
      (Item.code priority text).Tame := fun h => h
  have hcall : ∀ {priority : Int} {text : String}, Phrase text →
      (Item.initCall priority text).Tame := fun h => h
  cases h with
  | usb =>
      exact ⟨.text (.lit rfl), .cons (Item.tame_frameworkInclude (.lit rfl))
        (.cons (hcall (.lit rfl)) .nil)⟩
  | at91Sam =>
      have hopen : Written isPrinted [] "AMBRO_AT91SAM3X_SERIAL_GLOBAL(".toList [')'] := .lit rfl
      have hdebug : Written isPrinted []
          "APRINTER_SETUP_NEWLIB_DEBUG_WRITE(At91Sam3xSerial_DebugWrite<".toList ['>', ')'] :=
        .lit rfl
      exact ⟨.text (.lit rfl), .cons (Item.tame_frameworkInclude (.lit rfl))
        (.cons (Item.tame_frameworkInclude (.lit rfl))
        (.cons (Item.tame_interrupt (phrase_call hopen huser))
        (.cons (hcode ((hdebug.phrase huser).andThen (.lit rfl))) .nil)))⟩
  | teensy =>
      exact ⟨.text (.lit rfl), .cons (Item.tame_frameworkInclude (.lit rfl))
        (.cons (hcode (.lit rfl)) (.cons (hcall (.lit rfl)) .nil))⟩
  | avr =>
      have hopen : Written isPrinted [] "AMBRO_AVR_SERIAL_ISRS(".toList [')'] := .lit rfl
      have hdebug : Written isPrinted []
          "APRINTER_SETUP_AVR_DEBUG_WRITE(AvrSerial_DebugPutChar<".toList ['>', ')'] :=
        .lit rfl
      exact ⟨.inst (.lit rfl) (.cons .bool .nil),
        .cons (Item.tame_frameworkInclude (.lit rfl))
        (.cons (Item.tame_frameworkInclude (.lit rfl))
        (.cons (Item.tame_interrupt (phrase_call hopen huser))
        (.cons (hcode ((hdebug.phrase huser).andThen (.lit rfl)))
        (.cons (hcall (.lit rfl)) .nil))))⟩

theorem SerialGives.tame {e : TypeExpr} {items : List Item} (h : SerialGives c e items) :
    e.Tame ∧ Item.TameAll items := by
  cases h with
  | @mk _ _ _ parts _ _ hbaudRate hreceiveSize hsendSize hparts hdriver =>
      obtain ⟨hdriver, hitems⟩ := hdriver.tame (.lit rfl)
      have hopen : Written isPrinted [] "UINT32_C(".toList [')'] := .lit rfl
      have hbaudRate := (hopen.phrase (Cursor.phrase_intConstant hbaudRate)).andThen
        (.lit rfl : Written isPrinted [')'] ")".toList [])
      have hparts : TypeExpr.Tame (.inst "GcodeParserParams" [.text parts]) :=
        .inst (.lit rfl) (.cons (.text (Cursor.phrase_intConstant hparts)) .nil)
      refine ⟨.inst (.lit rfl) (.cons (.text hbaudRate) ?_), hitems⟩
      exact .cons (.text (Cursor.phrase_intConstant hreceiveSize))
        (.cons (.text (Cursor.phrase_intConstant hsendSize)) (.cons hparts (.cons hdriver .nil)))

/-! ## §5. Boards. -/

theorem HelpersGive.tame {helpers : List String} (h : HelpersGive c helpers) :
    Item.TameAll (helpers.map helperInclude) := by
  intro i hi
  obtain ⟨helper, hhelper, rfl⟩ := List.mem_map.1 hi
  have hboard : Phrase "board/" := .lit rfl
  exact Item.tame_frameworkInclude
    ((Written.phrase hboard (phrase_word (h.words helper hhelper))).phrase (.lit rfl))

theorem PwmSectionGives.tame {items : List Item} (h : PwmSectionGives c items) :
    Item.TameAll items := by
  cases h with
  | present hpwm => exact hpwm.tame
  | absent => exact .nil

/-- The parts which a board leaves to the printer are tame. -/
structure BoardParts.Tame (parts : BoardParts) : Prop where
  ledPin : parts.ledPin.Tame
  eventTimer : parts.eventTimer.Tame
  watchdog : parts.watchdog.Tame
  serial : parts.serial.Tame
  sdCard : parts.sdCard.Tame
  configManager : parts.configManager.Tame

/-- A site with tame facilities: its grammars of pins, its clock and the driver of its
analog inputs. -/
structure Site.Tame (x : Site document) : Prop where
  plain : x.PlainNames
  clock : x.clock.Tame
  deferred : ∀ a, .analogDriver a ∈ x.deferred → a.Tame

theorem ClockFamily.phrase_header (f : ClockFamily) : Phrase f.header := by
  cases f <;> exact .lit rfl

theorem DriversGive.tame {k : Clock} {d : PinDriver} {a : AnalogDriver} {e : TypeExpr} {g : Gain}
    (h : DriversGive c k d a e g) :
    (k.Tame ∧ d.names.Plain ∧ a.Tame) ∧ e.Tame ∧ g.Tame := by
  cases h with
  | mk hclock hpins hwatchdog hanalog hpwm =>
      cases hpins with
      | mk hd _ =>
          obtain ⟨hwatchdog, hwatchdogGain⟩ := hwatchdog.tame (.lit rfl)
          obtain ⟨hanalog, hanalogItems⟩ := hanalog.tame
          refine ⟨⟨hclock.tame, (tame_pinDrivers d hd).1, hanalog⟩, hwatchdog, ?_⟩
          have hheader := Item.tame_frameworkInclude (ClockFamily.phrase_header k.family)
          exact .append (Gain.tame_ofItems (.cons hheader (PinDriver.tame_items hd)))
            (hwatchdogGain.append (Gain.tame_ofItems (hanalogItems.append hpwm.tame)))

/-- **What the section of a board gives is tame, and so is the site it leads to.** -/
theorem BoardGives.tame {board : Cursor} {y : Site document} {parts : BoardParts} {g : Gain}
    (h : BoardGives x board y parts g) (hx : x.deferred = []) :
    y.Tame ∧ parts.Tame ∧ g.Tame := by
  cases h with
  | mk _ _ hword _ hplatformItems _ hdrivers hhelpers _ hy hledPin htimer _ hprecision _ _ hserial
      _ hcard _ hmanager =>
      obtain ⟨⟨hclock, hnames, hanalog⟩, hwatchdog, hdriverGain⟩ := hdrivers.tame
      -- The site has the pin names of the drivers, and no work put off but the analog driver.
      have hplain : y.PlainNames := by
        rw [hy]
        intro names hmem
        rcases List.mem_cons.1 hmem with rfl | hmem
        · trivial
        · rw [List.mem_singleton.1 hmem]
          exact hnames
      have hdeferred : ∀ a, Deferred.analogDriver a ∈ y.deferred → a.Tame := by
        rw [hy]
        show ∀ a, Deferred.analogDriver a ∈ x.deferred ++ [_] → a.Tame
        rw [hx]
        intro a ha
        injection List.mem_singleton.1 ha with ha
        rw [ha]
        exact hanalog
      have hclearance : ∀ name ∈ some "EventChannelTimerClearance", Phrase name := by
        intro name hname
        rw [← Option.mem_some.1 hname]
        exact .lit rfl
      obtain ⟨htimer, htimerGain⟩ := htimer.tame (.lit rfl) hclearance
      obtain ⟨hserial, hserialItems⟩ := hserial.tame
      obtain ⟨hcard, hcardGain⟩ := hcard.tame hplain
      obtain ⟨hmanager, hmanagerGain⟩ := hmanager.tame (.lit rfl)
      have hfill : Item.Tame (.fill "BoardForBuild" (.text _)) := phrase_word hword
      have hparams : Phrase "TheAxisDriverPrecisionParams" := .lit rfl
      have hprecision := Item.tame_typeName hparams (Cursor.phrase_identifier hprecision)
      refine ⟨⟨hplain, by rw [hy]; exact hclock, hdeferred⟩, ?_, ?_⟩
      · exact ⟨.text (hledPin.phrase hplain), htimer, hwatchdog, hserial, hcard, hmanager⟩
      · exact .append (Gain.tame_ofItems (.cons hfill .nil))
          (.append (Gain.tame_ofItems hplatformItems.tame)
          (.append hdriverGain (.append (Gain.tame_ofItems hhelpers.tame)
          (.append htimerGain (.append (Gain.tame_ofItems (.cons hprecision .nil))
          (.append (Gain.tame_ofItems (.cons (Item.tame_numberConstant (.lit rfl) _) .nil))
          (.append (Gain.tame_ofItems hserialItems) (.append hcardGain hmanagerGain))))))))

/-! ## §6. The finished clock. -/

theorem ClockFamily.tame_defaultTimer (f : ClockFamily) {timer : Char}
    (h : isWordChar timer = true) : (f.defaultTimer timer).Tame := by
  have hname : ∀ {stem : String}, Phrase stem →
      TypeExpr.Tame (.text (stem ++ String.singleton timer)) :=
    fun hstem => .text (phrase_named hstem h)
  cases f with
  | at91Sam3x => exact hname (.lit rfl)
  | mk20 => exact .inst (.lit rfl) (.cons (hname (.lit rfl)) .nil)
  | avr => exact .inst (.lit rfl) (.cons (hname (.lit rfl)) .nil)

theorem ClockFamily.phrase_defaultTimerBinding {f : ClockFamily} {timer : Char}
    (h : isWordChar timer = true) : ∀ text ∈ f.defaultTimerBinding? timer, Phrase text := by
  intro text htext
  cases f with
  | at91Sam3x =>
      injection htext with htext
      subst htext
      exact Written.phrase (phrase_named (.lit rfl) h) (.lit rfl)
  | mk20 =>
      injection htext with htext
      subst htext
      have hopen : Written isPrinted [] "AMBRO_MK20_CLOCK_FTM_GLOBAL(".toList [')'] := .lit rfl
      exact (hopen.phrase (phrase_singleton h)).andThen (.lit rfl)
  | avr => cases htext

theorem ClockFamily.phrase_clockBinding {f : ClockFamily} {primary : Char}
    (h : isWordChar primary = true) : ∀ text ∈ f.clockBinding? primary, Phrase text := by
  intro text htext
  cases f with
  | avr =>
      injection htext with htext
      subst htext
      have hopen : Written isPrinted [] "AMBRO_AVR_CLOCK_ISRS(".toList [')'] := .lit rfl
      exact (hopen.phrase (phrase_singleton h)).andThen (.lit rfl)
  | at91Sam3x | mk20 => cases htext

namespace Clock.Tame

variable {k : Clock}

/-- Timers which are needed and not configured have word characters for digits. -/
theorem wordChar_unconfigured (h : k.Tame) : ∀ timer ∈ k.unconfigured, isWordChar timer = true := by
  intro timer htimer
  rcases List.mem_cons.1 (Ascending.mem_setOf.1 (List.mem_filter.1 htimer).1) with rfl | hclaim
  · exact h.primary
  · obtain ⟨u, hu, rfl⟩ := List.mem_map.1 hclaim
    exact (h.claims u hu).1

theorem timers (h : k.Tame) : TameTimers k.timers := by
  have hfold : ∀ digits : List Char, (∀ timer ∈ digits, isWordChar timer = true) →
      ∀ ts, TameTimers ts → TameTimers (digits.foldl
        (fun ts timer => Ascending.put timer (k.family.defaultTimer timer) ts) ts) := by
    intro digits
    induction digits with
    | nil => exact fun _ ts hts => hts
    | cons timer rest ih =>
        intro hdigits ts hts
        have htimer := hdigits timer List.mem_cons_self
        exact ih (fun t ht => hdigits t (List.mem_cons_of_mem timer ht)) _
          (hts.put htimer (k.family.tame_defaultTimer htimer))
  exact hfold _ h.wordChar_unconfigured _ h.configured

theorem expr (h : k.Tame) : k.expr.Tame := by
  have htimers : TypeExpr.TameAll k.timerList := by
    intro e he
    obtain ⟨entry, hentry, rfl⟩ := List.mem_map.1 he
    rcases List.mem_append.1 hentry with hentry | hentry
    · exact (h.timers entry (List.mem_filter.1 hentry).1).2
    · exact (h.timers entry (List.mem_filter.1 hentry).1).2
  have hdriver : Phrase k.family.driver := by
    cases k.family <;> exact .lit rfl
  exact .inst hdriver (.cons (.text (.lit rfl)) (.cons (.text (.lit rfl))
    (.cons (.text h.prescaler) (.cons (.list htimers) .nil))))

/-- The items of a finished clock are tame. -/
theorem closingItems (h : k.Tame) : Item.TameAll k.closingItems := by
  refine .append (.append ?_ ?_) (.cons h.expr .nil)
  · intro i hi
    obtain ⟨text, htext, rfl⟩ := List.mem_map.1 hi
    obtain ⟨timer, htimer, hbinding⟩ := List.mem_filterMap.1 htext
    exact ClockFamily.phrase_defaultTimerBinding (h.wordChar_unconfigured timer htimer) text hbinding
  · intro i hi
    obtain ⟨text, htext, rfl⟩ := List.mem_map.1 hi
    exact ClockFamily.phrase_clockBinding h.primary text (Option.mem_toList.1 htext)

end Clock.Tame

end PrinterFirmware
