/-
  PrinterFirmware.Proofs.AnalogParts
  ──────────────────────────────────
  **PARTS OF A PROGRAM WHICH HAVE TO DO WITH ANALOG INPUTS.**

  Only the driver of the analog inputs declares constants of fixed width integer types, and
  only heaters put pins of analog inputs into use.  All parts of a description are gone
  through here one after another, for both at once.

      integersAmong      the constants of integer types among items
      Gain.Wired         what a contribution has of both
      CompileGives.wired what a compiled program has of both

  The other parts are `Wired` with nothing.
-/
import PrinterFirmware.Proofs.Containment

namespace PrinterFirmware

open Document Naming Build Board Machine

variable {document : Value} {x : Site document} {c : Cursor}

/-! ## §1. Constants of integer types. -/

/-- Whether an item is a constant of an integer type.  All other constants are second names
of types. -/
def Item.isInteger : Item → Bool
  | .constant declarator _ _ => declarator != "using"
  | _ => false

/-- The constants of integer types among items. -/
def integersAmong (items : List Item) : List Item := items.filter Item.isInteger

@[simp] theorem integersAmong_append (items items' : List Item) :
    integersAmong (items ++ items') = integersAmong items ++ integersAmong items' :=
  List.filter_append _ _

/-- The gain has the given constants of integer types, and the given pins. -/
structure Gain.Wired (g : Gain) (integers : List Item) (pins : List String) : Prop where
  integers : integersAmong g.items = integers
  pins : g.pins = pins

namespace Gain.Wired

variable {g g' : Gain} {items items' integers integers' : List Item} {pins pins' : List String}

theorem empty : (∅ : Gain).Wired [] [] := ⟨rfl, rfl⟩

theorem ofItems (h : integersAmong items = integers) : (Gain.ofItems items).Wired integers [] :=
  ⟨h, rfl⟩

theorem append (h : g.Wired integers pins) (h' : g'.Wired integers' pins') :
    (g ++ g').Wired (integers ++ integers') (pins ++ pins') := by
  constructor
  · rw [Gain.items_append, integersAmong_append, h.integers, h'.integers]
  · rw [Gain.pins_append, h.pins, h'.pins]

/-- Nothing comes before. -/
theorem after (h : g'.Wired integers pins) (hg : g.Wired [] []) : (g ++ g').Wired integers pins :=
  hg.append h

/-- Nothing comes behind. -/
theorem before (h : g.Wired integers pins) (hg : g'.Wired [] []) :
    (g ++ g').Wired integers pins := by
  have hboth := h.append hg
  rwa [List.append_nil, List.append_nil] at hboth

end Gain.Wired

/-! ## §2. Parts of a board. -/

theorem OptionsGive.integers {stem : String} {fields : List String} {items : List Item}
    (h : OptionsGive c stem fields items) : integersAmong items = [] := by
  induction h with
  | nil => rfl
  | cons _ _ ih => exact ih

theorem PlatformGives.integers {key : String} {items : List Item}
    (h : PlatformGives c key items) : integersAmong items = [] := by
  cases h with
  | at91Sam => rfl
  | teensy => rfl
  | avr => rfl

theorem WatchdogGives.wired {key user : String} {e : TypeExpr} {g : Gain}
    (h : WatchdogGives c key user e g) : g.Wired [] [] := by
  cases h with
  | at91Sam => exact ⟨rfl, rfl⟩
  | mk20 => exact ⟨rfl, rfl⟩
  | avr => exact ⟨rfl, rfl⟩

theorem PwmSectionGives.integers {items : List Item} (h : PwmSectionGives c items) :
    integersAmong items = [] := by
  cases h with
  | present hpwm =>
      cases hpwm with
      | disabled => rfl
      | at91Sam => rfl
  | absent => rfl

theorem integers_helpers (helpers : List String) :
    integersAmong (helpers.map helperInclude) = [] := by
  unfold integersAmong
  rw [List.filter_eq_nil_iff]
  intro item hitem
  obtain ⟨helper, -, rfl⟩ := List.mem_map.1 hitem
  exact Bool.false_ne_true

theorem TimerGives.wired {key user : String} {clearance : Option String} {e : TypeExpr}
    {g : Gain} (h : TimerGives x c key user clearance e g) : g.Wired [] [] := by
  cases h with
  | mk => exact ⟨rfl, rfl⟩

theorem SerialGives.integers {e : TypeExpr} {items : List Item} (h : SerialGives c e items) :
    integersAmong items = [] := by
  cases h with
  | mk _ _ _ _ hdriver =>
      cases hdriver with
      | usb => rfl
      | at91Sam => rfl
      | teensy => rfl
      | avr => rfl

theorem CardGives.wired {key : String} {e : TypeExpr} {g : Gain} (h : CardGives x c key e g) :
    g.Wired [] [] := by
  cases h with
  | none => exact .empty
  | card _ hreader _ _ _ =>
      cases hreader with
      | mk _ _ hbus =>
          cases hbus with
          | at91Sam => exact ⟨rfl, rfl⟩
          | avr => exact ⟨rfl, rfl⟩

theorem ManagerGives.wired {key user : String} {e : TypeExpr} {g : Gain}
    (h : ManagerGives c key user e g) : g.Wired [] [] := by
  cases h with
  | constant => exact ⟨rfl, rfl⟩
  | runtime _ hstore =>
      cases hstore with
      | none => exact ⟨rfl, rfl⟩
      | eeprom _ hmemory _ _ =>
          cases hmemory with
          | i2c _ hbus _ _ _ =>
              cases hbus with
              | mk => exact ⟨rfl, rfl⟩
          | teensy => exact ⟨rfl, rfl⟩
          | avr => exact ⟨rfl, rfl⟩

/-- The drivers declare the integers of the driver of the analog inputs. -/
theorem DriversGive.wired {k : Clock} {d : PinDriver} {a : AnalogDriver} {watchdog : TypeExpr}
    {g : Gain} (h : DriversGive c k d a watchdog g) : ∃ items,
      AnalogGives c "adc" a items ∧ g.Wired (integersAmong items) [] := by
  cases h with
  | mk _ _ hwatchdog hanalog hpwm =>
      refine ⟨_, hanalog, ((Gain.Wired.ofItems ?_).after hwatchdog.wired).after (.ofItems rfl)⟩
      rw [integersAmong_append, hpwm.integers, List.append_nil]

/-! ## §3. Sections of a printer. -/

theorem HomingGives.integers {l : Char} {e : TypeExpr} {items : List Item}
    (h : HomingGives x c l e items) : integersAmong items = [] := by
  cases h with
  | none => rfl
  | homing _ _ _ _ hmotions => exact hmotions.integers

theorem StepperGives.wired {i : Nat} {l : Char} {e : TypeExpr} {g : Gain}
    (h : StepperGives x c i l e g) : g.Wired [] [] := by
  cases h with
  | mk _ _ _ _ _ hmotions hhoming _ htimer =>
      refine (htimer.wired.after (.ofItems ?_)).after (.ofItems rfl)
      rw [integersAmong_append, hmotions.integers, hhoming.integers, List.append_nil]

theorem VirtualAxisGives.wired {l : Char} {e : TypeExpr} {g : Gain}
    (h : VirtualAxisGives x c l e g) : g.Wired [] [] := by
  cases h with
  | mk hmotions hhoming =>
      refine .ofItems ?_
      rw [integersAmong_append, hmotions.integers]
      cases hhoming with
      | none => rfl
      | homing _ _ _ _ hmotions => exact hmotions.integers

theorem PwmOutputGives.wired {key user username : String} {e : TypeExpr} {g : Gain}
    (h : PwmOutputGives x c key user username e g) : g.Wired [] [] := by
  cases h with
  | soft _ h =>
      cases h with
      | mk _ _ _ _ htimer => exact htimer.wired.after (.ofItems rfl)
  | hard _ h =>
      cases h with
      | mk => exact .ofItems rfl

theorem FanGives.wired {i : Nat} {l : Char} {e : TypeExpr} {g : Gain}
    (h : FanGives x c i l e g) : g.Wired [] [] := by
  cases h with
  | mk _ _ houtput => exact houtput.wired

theorem PointsGive.integers {i : Nat} {nodes : List Cursor} {es : List TypeExpr}
    {items : List Item} (h : PointsGive i nodes es items) : integersAmong items = [] := by
  induction h with
  | nil => rfl
  | cons hpoint _ ih => rw [integersAmong_append, hpoint.integers, ih, List.append_nil]

theorem ProbeGives.integers {e : TypeExpr} {items : List Item} (h : ProbeGives x c e items) :
    integersAmong items = [] := by
  cases h with
  | none => rfl
  | probe _ _ h =>
      cases h with
      | mk hoffset hsettings _ hpoints _ _ =>
          rw [integersAmong_append, integersAmong_append, hoffset.integers, hsettings.integers,
            hpoints.integers, List.append_nil, List.append_nil]

theorem AdvancedGives.integers {items : List Item} (h : AdvancedGives c items) :
    integersAmong items = [] := by
  cases h with
  | mk => rfl

theorem ParamsGive.integers {board : BoardParts} {s : Sections} {e : TypeExpr} {items : List Item}
    (h : ParamsGive c board s e items) : integersAmong items = [] := by
  cases h with
  | mk => rfl

/-- Things without analog inputs. -/
theorem Things.unwired {R : Cursor → Nat → Char → TypeExpr → Gain → Prop}
    (hR : ∀ c i l e g, R c i l e g → g.Wired [] []) {letters after : List Char} {i : Nat}
    {nodes : List Cursor} {es : List TypeExpr} {g : Gain}
    (h : Things R letters i nodes es g after) : g.Wired [] [] := by
  induction h with
  | nil => exact .empty
  | cons _ _ h _ ih => exact ih.after (hR _ _ _ _ _ h)

theorem TransformTypeGives.integers {e : TypeExpr} {items : List Item}
    (h : TransformTypeGives c e items) : integersAmong items = [] := by
  cases h with
  | coreXY => rfl
  | @delta rod minSplit maxSplit items _ _ hoffsets _ _ =>
      show integersAmong (items ++ _) = []
      rw [integersAmong_append, hoffsets.integers]
      rfl

theorem TransformGives.wired {letters after : List Char} {e : TypeExpr} {g : Gain}
    (h : TransformGives x c letters e g after) : g.Wired [] [] := by
  cases h with
  | none => exact .empty
  | some _ _ haxes _ _ htype =>
      have haxes := haxes.unwired fun _ _ _ _ _ h => VirtualAxisGives.wired h
      exact haxes.before (.ofItems htype.integers)

/-- **A heater puts the pin of its thermistor into use.** -/
theorem HeaterGives.wired {i : Nat} {l : Char} {e : TypeExpr} {g : Gain}
    (h : HeaterGives x c i l e g) : ∃ input name, x.Refers .analogInput c "ThermistorInput" input
      ∧ input.string "Pin" = .ok name ∧ g.Wired [] [name] := by
  cases h with
  | @mk _ _ _ interval _ _ _ _ thermistorItems pidItems observerItems safetyItems _ _ _
      hthermistor _ _ hpid _ hobservation _ _ hinput hsafety houtput =>
      cases hinput with
      | @mk input name hinput hname =>
          have hstart : integersAmong (.frameworkInclude "printer/thermistor/GenericThermistor.h"
              :: thermistorItems ++ .frameworkInclude "printer/temp_control/PidControl.h"
                :: pidItems ++ .frameworkInclude "printer/TemperatureObserver.h"
                  :: observerItems) = [] := by
            rw [integersAmong_append, integersAmong_append]
            show integersAmong thermistorItems ++ integersAmong pidItems
              ++ integersAmong observerItems = []
            rw [hthermistor.integers, hpid.integers, hobservation.integers]
            rfl
          have hsafe : integersAmong (safetyItems
              ++ [.numberOption (heaterStem l ++ "ControlInterval") interval]) = [] := by
            rw [integersAmong_append, hsafety.integers]
            rfl
          -- Of all parts of a heater only its input has a pin.
          have hpin : (⟨[], [], [name]⟩ : Gain).Wired [] [name] := ⟨rfl, rfl⟩
          refine ⟨input, name, hinput, hname.read, ?_⟩
          exact (hpin.before (houtput.wired.after (.ofItems hsafe))).after (.ofItems hstart)

/-! ## §4. Heaters. -/

/-- The pin of the analog input to which a heater refers. -/
def thermistorPin? (board heater : Cursor) : Option String := do
  let name ← (heater.string "ThermistorInput").toOption
  let input ← (board.find "analog_inputs" "Name" name).toOption
  (input.string "Pin").toOption

/-- The pin which a heater puts into use is the one of the input to which it refers. -/
theorem HeaterGives.thermistorPin {board : Cursor} (hx : HardwareRegistered board [] x.objects)
    {i : Nat} {l : Char} {e : TypeExpr} {g : Gain} (h : HeaterGives x c i l e g) :
    ∃ pin, thermistorPin? board c = some pin ∧ g.Wired [] [pin] := by
  obtain ⟨input, pin, ⟨name, hname, hinput⟩, hpin, hwired⟩ := h.wired
  refine ⟨pin, ?_, hwired⟩
  have hfind : board.find "analog_inputs" "Name" name = .ok input := hx.analogInput hinput
  unfold thermistorPin?
  rw [hname]
  show (board.find "analog_inputs" "Name" name).toOption.bind _ = _
  rw [hfind]
  show (input.string "Pin").toOption = _
  rw [hpin]
  rfl

/-- The heaters of a list put their pins into use one after another. -/
theorem Things.thermistorPins {board : Cursor} (hx : HardwareRegistered board [] x.objects)
    {letters after : List Char} {i : Nat} {heaters : List Cursor} {es : List TypeExpr} {g : Gain}
    (h : Things (HeaterGives x) letters i heaters es g after) :
    ∃ pins, heaters.map (thermistorPin? board) = pins.map some ∧ g.Wired [] pins := by
  induction h with
  | nil => exact ⟨[], rfl, .empty⟩
  | cons _ _ h _ ih =>
      obtain ⟨pin, hpin, hwired⟩ := h.thermistorPin hx
      obtain ⟨pins, hpins, hrest⟩ := ih
      refine ⟨pin :: pins, ?_, hwired.append hrest⟩
      rw [List.map_cons, List.map_cons, hpin, hpins]

/-! ## §5. Programs. -/

/-- The section of the driver of the analog inputs of a board. -/
def analogSection (board : Cursor) : Reading Cursor := do
  let config ← board.enter "platform_config"
  let platform ← config.enter "platform"
  platform.enter "adc"

theorem analogSection_eq {board config platform : Cursor}
    (hconfig : board.enter "platform_config" = .ok config)
    (hplatform : config.enter "platform" = .ok platform) :
    analogSection board = platform.enter "adc" := by
  unfold analogSection
  rw [hconfig]
  show (config.enter "platform" >>= _ : Reading Cursor) = _
  rw [hplatform]
  rfl

/-- The integers of a board are those of its driver of the analog inputs. -/
theorem BoardGives.wired {board : Cursor} {parts : BoardParts} {g : Gain}
    (h : BoardGives (.start document) board x parts g) :
    HardwareRegistered board [] x.objects ∧ ∃ platform a items,
      analogSection board = platform.enter "adc" ∧ AnalogGives platform "adc" a items
        ∧ x.deferred = [.analogDriver a] ∧ g.Wired (integersAmong items) [] := by
  cases h with
  | mk hconfig _ _ _ hplatformItems hplatform hdrivers _ hobjects hy _ htimer _ _ _ _ hserial _
      hcard _ hmanager =>
      subst hy
      obtain ⟨items, hanalog, hwired⟩ := hdrivers.wired
      refine ⟨hobjects, _, _, items, analogSection_eq hconfig hplatform, hanalog, rfl, ?_⟩
      -- Before the drivers and behind them there are no integers.
      have hservices := (hmanager.wired.after hcard.wired).after (.ofItems hserial.integers)
      refine ((hwired.before ?_).after (.ofItems hplatformItems.integers)).after (.ofItems rfl)
      exact (((hservices.after (.ofItems rfl)).after (.ofItems rfl)).after htimer.wired).after
        (.ofItems (integers_helpers _))

/-- The pins in use are those of the heaters. -/
theorem PrinterGives.wired {board : Cursor} {parts : BoardParts} {g : Gain}
    (hx : HardwareRegistered board [] x.objects) (h : PrinterGives x c parts g) :
    ∃ heaters pins, c.objects "heaters" 0 maxHeaters = .ok heaters
      ∧ heaters.map (thermistorPin? board) = pins.map some ∧ g.Wired [] pins := by
  cases h with
  | mk hadvanced hsections hparams =>
      cases hsections with
      | mk hprobe hsteppers hheaters htransform hfans =>
          obtain ⟨_, hsteppers⟩ := hsteppers
          obtain ⟨⟨hnodes, hheaters⟩⟩ := hheaters
          obtain ⟨⟨_, hfans⟩⟩ := hfans
          obtain ⟨pins, hpins, hwired⟩ := hheaters.thermistorPins hx
          have haxes := hsteppers.unwired fun _ _ _ _ _ h => StepperGives.wired h
          have hcool := hfans.unwired fun _ _ _ _ _ h => FanGives.wired h
          refine ⟨_, pins, hnodes, hpins, ?_⟩
          -- Of all sections of the printer only the heaters have pins.
          have hmovement := (hwired.before htransform.wired).after haxes
          have hprinter := (hmovement.before hcool).after (.ofItems hprobe.integers)
          refine (hprinter.before (.ofItems ?_)).after (.ofItems hadvanced.integers)
          rw [integersAmong_append, hparams.integers]
          rfl

theorem integers_closingItems (x : Site document) (a : AnalogDriver) (g : Gain) :
    integersAmong (closingItems x a g) = [] := by
  unfold integersAmong
  rw [List.filter_eq_nil_iff]
  intro item hitem
  rcases List.mem_cons.1 hitem with rfl | hitem
  · exact Bool.false_ne_true
  · rcases Clock.mem_closingItems hitem with ⟨_, rfl⟩ | ⟨_, rfl⟩
    · exact Bool.false_ne_true
    · exact Bool.false_ne_true

/-- What the draft of a compiled program has to do with analog inputs. -/
structure Draft.Wired (board : Cursor) (heaters : List Cursor) (d : Draft) (a : AnalogDriver)
    (items : List Item) (pins : List String) : Prop where
  driven : ∃ platform, analogSection board = platform.enter "adc"
    ∧ AnalogGives platform "adc" a items
  thermistors : heaters.map (thermistorPin? board) = pins.map some
  integers : integersAmong d.items = integersAmong items
  resource : a.resource pins ∈ d.items

/-- **Analog inputs of a compiled program.**  The integers of its draft are those of the
driver, whose resource is on the pins of the heaters. -/
theorem CompileGives.wired {name? : Option String} {c : Compiled}
    (h : CompileGives document name? c) : ∃ config board heaters w a items pins,
      selectSections (.root document) name? = .ok (config, board)
        ∧ config.objects "heaters" 0 maxHeaters = .ok heaters
        ∧ build document name? .empty = .ok c w
        ∧ c.slots = .ofEntries (w.draft.directSlots ++ w.draft.ownSlots)
        ∧ Item.TameAll w.draft.items ∧ w.draft.Wired board heaters a items pins := by
  cases h with
  | @mk config board x parts a boardGain printerGain d hsections hboard hprinter hdeferred hd w _
      _ hrun hdraft =>
      obtain ⟨hx, platform, a', items, hsection, hanalog, hdeferred', hwired⟩ := hboard.wired
      obtain rfl : a' = a := by
        rw [hdeferred] at hdeferred'
        injection hdeferred' with hdeferred'
        injection hdeferred' with hdeferred'
        exact hdeferred'.symm
      obtain ⟨heaters, pins, hheaters, hpins, hrest⟩ := hprinter.wired hx
      -- The board has the integers and the printer has the pins.
      have hall := hwired.append hrest
      rw [List.append_nil, List.nil_append] at hall
      subst hdraft
      refine ⟨config, board, heaters, w, a', items, pins, hsections, hheaters, hrun, rfl, ?_, ?_⟩
      · rw [hd]
        exact tame_compiled hboard hprinter hdeferred
      refine ⟨⟨platform, hsection, hanalog⟩, hpins, ?_, ?_⟩
      · rw [hd, integersAmong_append, hall.integers, integers_closingItems, List.append_nil]
      · rw [hd, ← hall.pins]
        exact List.mem_append_right _ List.mem_cons_self

end PrinterFirmware
