/-
  PrinterFirmware.Proofs.UnitClaims
  ─────────────────────────────────
  **EVERY USER OF AN INTERRUPT TIMER CLAIMS THE UNIT IT NAMES.**

  The event channel, the axes, and the heaters and fans with a PWM output which is driven
  by an interrupt timer claim an output compare unit each.  Which one is named in the
  section of the user, or in the declared object to which the section refers.  Nothing
  else is asked for: a unit can be claimed by several users, and then its interrupt is
  bound to each of them.

      unitUses                  the users of a description with the units they name
      Gain.Uses                 what is contributed with given uses: their claims and
                                their bindings, in the same order
      timerBinding_injective    a binding tells its unit and its user
      compile_claims_named      the claims and the bindings of a compiled program

  Main results: `compile_claims_named`, and `twins_share_unit` for a description which
  binds one interrupt twice.
-/
import Mathlib.Data.List.Nodup
import PrinterFirmware.Proofs.Options
import PrinterFirmware.Proofs.TimerUsers

namespace PrinterFirmware

open Document Naming Build Board Machine

variable {document : Value} {x : Site document} {c : Cursor}

/-! ## §1. Units which a description names. -/

/-- A user of an interrupt timer and the unit which it names. -/
structure UnitUse where
  user : TimerUser
  unit : CompareUnit
  deriving DecidableEq, Repr

/-- The line which binds the interrupt of the unit to the user. -/
def UnitUse.line (f : ClockFamily) (t : UnitUse) : String := f.timerBinding t.unit t.user.name

/-- The unit which is named in the object at `key`. -/
def unitAt? (f : ClockFamily) (c : Cursor) (key : String) : Option CompareUnit := do
  let timer ← (c.enter key).toOption
  let name ← (timer.string "oc_unit").toOption
  f.names.unit? name

/-- The unit of the port to which a stepper refers. -/
def portUnit? (f : ClockFamily) (board stepper : Cursor) : Option CompareUnit := do
  let name ← (stepper.string "stepper_port").toOption
  let port ← (board.find "stepper_ports" "Name" name).toOption
  unitAt? f port "StepperTimer"

/-- The unit of the PWM output to which a heater or a fan refers, if an interrupt timer
drives it. -/
def outputUnit? (f : ClockFamily) (board c : Cursor) : Option CompareUnit :=
  if usesSoftPwm board c then do
    let name ← (c.string "pwm_output").toOption
    let output ← (board.find "pwm_outputs" "Name" name).toOption
    let backend ← (output.enter "Backend").toOption
    unitAt? f backend "Timer"
  else none

/-- The uses among the things of a list, the first of which has number `i`. -/
def usesAmong (user : Nat → TimerUser) (unit? : Cursor → Option CompareUnit) (i : Nat) :
    List Cursor → List UnitUse
  | [] => []
  | c :: rest => (unit? c).toList.map (⟨user i, ·⟩) ++ usesAmong user unit? (i + 1) rest

/-- The uses of units on a board. -/
def unitUses (f : ClockFamily) (board : Cursor) (steppers heaters fans : List Cursor) :
    List UnitUse :=
  (unitAt? f board "EventChannelTimer").toList.map (⟨.eventChannel, ·⟩)
    ++ (usesAmong .axis (portUnit? f board) 0 steppers
      ++ usesAmong .heater (outputUnit? f board) 0 heaters
      ++ usesAmong .fan (outputUnit? f board) 0 fans)

/-- The tag of the clock of a board. -/
def clockTag (board : Cursor) : Reading String := do
  let config ← board.enter "platform_config"
  let platform ← config.enter "platform"
  let clock ← platform.enter "clock"
  clock.string Cursor.tagKey

/-! ## §2. Contributions with uses of units. -/

/-- The gain has the claims of the given uses and the bindings of their interrupts, in the
same order, and no others. -/
structure Gain.Uses (f : ClockFamily) (g : Gain) (uses : List UnitUse) : Prop where
  units : g.units = uses.map (·.unit)
  codes : Item.timerCodes g.items = uses.map fun t => (Item.interruptPriority, t.line f)

namespace Gain.Uses

variable {f : ClockFamily} {g g' : Gain} {uses uses' : List UnitUse} {items : List Item}

theorem append (h : g.Uses f uses) (h' : g'.Uses f uses') : (g ++ g').Uses f (uses ++ uses') := by
  constructor
  · rw [Gain.units_append, h.units, h'.units, List.map_append]
  · rw [Gain.items_append, Item.timerCodes_append, h.codes, h'.codes, List.map_append]

/-- Gains without claims and without bindings. -/
theorem nothing (hunits : g.units = []) (h : Item.Bindings g.items []) : g.Uses f [] :=
  ⟨hunits, h.timerCodes⟩

theorem ofItems (h : Item.Bindings items []) : (Gain.ofItems items).Uses f [] :=
  nothing rfl h

theorem after (h : g'.Uses f uses) (hg : g.Uses f []) : (g ++ g').Uses f uses := hg.append h

theorem before (h : g.Uses f uses) (hg : g'.Uses f []) : (g ++ g').Uses f uses := by
  have hboth := h.append hg
  rwa [List.append_nil] at hboth

end Gain.Uses

/-! ## §3. Parts without claims. -/

theorem WatchdogGives.units {key user : String} {e : TypeExpr} {g : Gain}
    (h : WatchdogGives c key user e g) : g.units = [] := by
  cases h <;> rfl

theorem DriversGive.units {k : Clock} {d : PinDriver} {a : AnalogDriver} {watchdog : TypeExpr}
    {g : Gain} (h : DriversGive c k d a watchdog g) : g.units = [] := by
  cases h with
  | mk _ _ hwatchdog _ _ => simp [hwatchdog.units]

theorem SpiGives.units {key user : String} {e : TypeExpr} {g : Gain}
    (h : SpiGives c key user e g) : g.units = [] := by
  cases h <;> rfl

theorem CardGives.units {key : String} {e : TypeExpr} {g : Gain} (h : CardGives x c key e g) :
    g.units = [] := by
  cases h with
  | none => rfl
  | card _ hreader _ _ _ =>
      cases hreader with
      | mk _ _ hbus => simp [hbus.units]

theorem EepromGives.units {key user : String} {e : TypeExpr} {g : Gain}
    (h : EepromGives c key user e g) : g.units = [] := by
  cases h with
  | i2c _ hbus _ _ _ _ =>
      cases hbus
      rfl
  | teensy => rfl
  | avr => rfl

theorem ManagerGives.units {key user : String} {e : TypeExpr} {g : Gain}
    (h : ManagerGives c key user e g) : g.units = [] := by
  cases h with
  | constant => rfl
  | runtime _ hstore =>
      cases hstore with
      | none => rfl
      | eeprom _ hmemory _ _ => simp [hmemory.units]

theorem TransformGives.units {letters after : List Char} {e : TypeExpr} {g : Gain}
    (h : TransformGives x c letters e g after) : g.units = [] := by
  cases h with
  | none => rfl
  | some _ _ haxes _ _ _ =>
      have haxesUnits : ∀ {letters after : List Char} {i : Nat} {nodes : List Cursor}
          {es : List TypeExpr} {g : Gain},
          Things (fun c _ l => VirtualAxisGives x c l) letters i nodes es g after →
            g.units = [] := by
        intro letters after i nodes es g h
        induction h with
        | nil => rfl
        | cons _ _ haxis _ ih =>
            cases haxis
            simp [ih]
      simp [haxesUnits haxes]

/-! ## §4. Users. -/

theorem TimerGives.uses {key name : String} {clearance : Option String} {e : TypeExpr} {g : Gain}
    (h : TimerGives x c key name clearance e g) (user : TimerUser) (hname : user.name = name) :
    ∃ u, unitAt? x.clock.family c key = some u ∧ g.Uses x.clock.family [⟨user, u⟩] := by
  cases h with
  | @mk node u hnode hu =>
      obtain ⟨unitName, hread, hunit⟩ := hu
      refine ⟨u, ?_, rfl, ?_⟩
      · rw [unitAt?, hnode]
        show (node.string "oc_unit").toOption.bind _ = some u
        rw [hread]
        exact hunit
      · have hline : Item.Bindings [.interrupt (x.clock.family.timerBinding u name)]
            [x.clock.family.timerBinding u name] :=
          .timer (x.clock.family.binds u clearance name).bindsTimer .nil
        rw [← hname] at hline ⊢
        exact hline.timerCodes

/-- A stepper uses the unit of its port. -/
theorem StepperGives.uses {board : Cursor} (hx : HardwareRegistered board [] x.objects) {i : Nat}
    {l : Char} {e : TypeExpr} {g : Gain} (h : StepperGives x c i l e g) :
    ∃ u, portUnit? x.clock.family board c = some u ∧ g.Uses x.clock.family [⟨.axis i, u⟩] := by
  cases h with
  | @mk port _ _ _ invertDir _ _ _ motionItems homingItems g hport _ _ _ _ hmotions hhoming _
      htimer =>
      obtain ⟨u, hunit, huses⟩ := htimer.uses (.axis i) rfl
      obtain ⟨name, hname, hnode⟩ := hport
      have hfind : board.find "stepper_ports" "Name" name = .ok port := hx.stepperPort hnode
      refine ⟨u, ?_, ?_⟩
      · rw [portUnit?, hname]
        show (board.find "stepper_ports" "Name" name).toOption.bind _ = some u
        rw [hfind]
        exact hunit
      · have hhead : Item.Bindings [.frameworkInclude "driver/AxisDriver.h",
            .boolOption (String.singleton l ++ "InvertDir") invertDir] [] :=
          .quiet trivial (.quiet trivial .nil)
        have hquiet : Item.Bindings (motionItems ++ homingItems) [] :=
          hmotions.bindings.append hhoming.silent.bindings
        exact (huses.after (.ofItems hquiet)).after (.ofItems hhead)

/-- A PWM output which is driven by an interrupt timer uses its unit, and any other none. -/
theorem PwmOutputGives.uses {board : Cursor} (hx : HardwareRegistered board [] x.objects)
    {output username : String} {e : TypeExpr} {g : Gain}
    (h : PwmOutputGives x c "pwm_output" output username e g) (user : TimerUser)
    (hname : user.name = output ++ "::TheTimer") :
    (outputUnit? x.clock.family board c).isSome = usesSoftPwm board c
      ∧ g.Uses x.clock.family ((outputUnit? x.clock.family board c).toList.map (⟨user, ·⟩)) := by
  cases h with
  | @soft node e g houtput h =>
      cases h with
      | @mk backend pinName invert interval timer g hbackend _ _ _ htimer =>
          obtain ⟨u, hunit, huses⟩ := htimer.uses user hname
          have hsoft : usesSoftPwm board c = true := usesSoftPwm_eq hx houtput hbackend
          obtain ⟨name, hread, hnode⟩ := houtput
          have hfind : board.find "pwm_outputs" "Name" name = .ok node := hx.pwmOutput hnode
          have hnamed : outputUnit? x.clock.family board c = some u := by
            rw [outputUnit?, if_pos hsoft, hread]
            show (board.find "pwm_outputs" "Name" name).toOption.bind _ = some u
            rw [hfind]
            show (node.enter "Backend").toOption.bind _ = some u
            rw [hbackend.entered]
            exact hunit
          have hhead : Item.Bindings [.frameworkInclude "printer/pwm/SoftPwm.h",
              .numberConstant (username ++ "PulseInterval") interval] [] :=
            .quiet trivial (.quiet trivial .nil)
          rw [hnamed, hsoft]
          exact ⟨rfl, huses.after (.ofItems hhead)⟩
  | hard houtput h =>
      cases h with
      | mk hbackend _ =>
          have hhard : usesSoftPwm board c = false :=
            (usesSoftPwm_eq hx houtput hbackend).trans (by decide)
          rw [outputUnit?, hhard, if_neg Bool.false_ne_true]
          have hhead : Item.Bindings [.frameworkInclude "printer/pwm/HardPwm.h"] [] :=
            .quiet trivial .nil
          exact ⟨rfl, .ofItems hhead⟩

theorem HeaterGives.uses {board : Cursor} (hx : HardwareRegistered board [] x.objects) {i : Nat}
    {l : Char} {e : TypeExpr} {g : Gain} (h : HeaterGives x c i l e g) :
    (outputUnit? x.clock.family board c).isSome = usesSoftPwm board c
      ∧ g.Uses x.clock.family
        ((outputUnit? x.clock.family board c).toList.map (⟨.heater i, ·⟩)) := by
  cases h with
  | @mk _ _ _ interval _ _ _ _ _ _ _ safetyItems _ _ _ hthermistor _ _ hpid _ hobservation _ _
      hinput hsafety houtput =>
      obtain ⟨hsome, huses⟩ := houtput.uses hx (.heater i) rfl
      refine ⟨hsome, ?_⟩
      -- The output comes last, and everything before it is quiet.
      have hinclude : ∀ path items, Item.Bindings items [] →
          Item.Bindings (.frameworkInclude path :: items) [] := fun _ _ h => .quiet trivial h
      have hhead := ((hinclude "printer/thermistor/GenericThermistor.h" _
        hthermistor.bindings).append (hinclude "printer/temp_control/PidControl.h" _
        hpid.bindings)).append (hinclude "printer/TemperatureObserver.h" _ hobservation.bindings)
      have hsafetyItems : Item.Bindings (safetyItems
          ++ [.numberOption (heaterStem l ++ "ControlInterval") interval]) [] :=
        hsafety.bindings.append (.quiet trivial .nil)
      cases hinput with
      | mk =>
          exact ((huses.after (.ofItems hsafetyItems)).after (.nothing rfl .nil)).after
            (.ofItems hhead)

theorem FanGives.uses {board : Cursor} (hx : HardwareRegistered board [] x.objects) {i : Nat}
    {l : Char} {e : TypeExpr} {g : Gain} (h : FanGives x c i l e g) :
    (outputUnit? x.clock.family board c).isSome = usesSoftPwm board c
      ∧ g.Uses x.clock.family
        ((outputUnit? x.clock.family board c).toList.map (⟨.fan i, ·⟩)) := by
  cases h with
  | mk _ _ houtput => exact houtput.uses hx (.fan i) rfl

/-! ## §5. Lists of users. -/

/-- The things of a list use the units which they name, in the order of the list. -/
theorem Things.uses {R : Cursor → Nat → Char → TypeExpr → Gain → Prop} {f : ClockFamily}
    {user : Nat → TimerUser} {unit? : Cursor → Option CompareUnit} {needs : Cursor → Bool}
    (hR : ∀ c i l e g, R c i l e g → (unit? c).isSome = needs c
      ∧ g.Uses f ((unit? c).toList.map (⟨user i, ·⟩)))
    {letters after : List Char} {i : Nat} {nodes : List Cursor} {es : List TypeExpr} {g : Gain}
    (h : Things R letters i nodes es g after) :
    (usesAmong user unit? i nodes).map (·.user) = usersAmong user needs i nodes
      ∧ g.Uses f (usesAmong user unit? i nodes) := by
  induction h with
  | nil => exact ⟨rfl, .nothing rfl .nil⟩
  | @cons letters after i c rest l e es g g' _ _ h _ ih =>
      obtain ⟨hneeds, hown⟩ := hR c i l e g h
      refine ⟨?_, hown.append ih.2⟩
      rw [usesAmong, usersAmong, List.map_append, ih.1, ← hneeds]
      cases unit? c <;> rfl

theorem ListedThings.uses {R : Cursor → Nat → Char → TypeExpr → Gain → Prop} {f : ClockFamily}
    {user : Nat → TimerUser} {unit? : Cursor → Option CompareUnit} {needs : Cursor → Bool}
    (hR : ∀ c i l e g, R c i l e g → (unit? c).isSome = needs c
      ∧ g.Uses f ((unit? c).toList.map (⟨user i, ·⟩)))
    {key : String} {min max : Nat} {letters after : List Char} {e : TypeExpr} {g : Gain}
    (h : ListedThings R c key min max letters e g after) :
    ∃ nodes, c.objects key min max = .ok nodes
      ∧ (usesAmong user unit? 0 nodes).map (·.user) = usersAmong user needs 0 nodes
      ∧ g.Uses f (usesAmong user unit? 0 nodes) := by
  cases h with
  | mk hnodes hes => exact ⟨_, hnodes, hes.uses hR⟩

/-! ## §6. The board and the printer. -/

/-- The event channel uses the unit which the board names for it. -/
theorem BoardGives.uses {board : Cursor} {parts : BoardParts} {g : Gain}
    (h : BoardGives (.start document) board x parts g) :
    HardwareRegistered board [] x.objects ∧ clockTag board = .ok x.clock.family.driver
      ∧ ∃ u, unitAt? x.clock.family board "EventChannelTimer" = some u
        ∧ g.Uses x.clock.family [⟨.eventChannel, u⟩] := by
  cases h with
  | @mk config platform performance serialSection cardSection managerSection name ledPin precision
      format k d a watchdog eventTimer serial sdCard configManager helpers objects clearance
      platformItems serialItems driverGain timerGain cardGain managerGain _ hinside
      hconfig _ _ _ hplatformItems hplatform hdrivers _ hobjects hy _ htimer _ _ _ _ hserial _ hcard
      _ hmanager =>
      obtain ⟨u, hunit, huses⟩ := htimer.uses .eventChannel rfl
      have hclock : x.clock = k := by
        rw [hy]
        rfl
      have hsite : x.objects = objects := by
        rw [hy]
        rfl
      refine ⟨hsite ▸ hobjects, ?_, u, hunit, ?_⟩
      · rw [hclock, clockTag, hconfig]
        show (config.enter "platform" >>= _ : Reading String) = _
        rw [hplatform]
        cases hdrivers with
        | mk hchosen _ _ _ _ =>
            cases hchosen with
            | mk hnode hk =>
                rw [hk.family]
                show (platform.enter "clock" >>= _ : Reading String) = _
                rw [hnode.entered]
                exact hnode.tagged
      · have hlater : Item.Bindings [.typeName "TheAxisDriverPrecisionParams" precision] [] :=
          .quiet trivial .nil
        have hclearance : Item.Bindings
            [.numberConstant "EventChannelTimerClearance" clearance] [] := .quiet trivial .nil
        -- What comes after the timer of the event channel claims nothing.
        have hrest : Gain.Uses x.clock.family (.ofItems [.typeName "TheAxisDriverPrecisionParams"
            precision] ++ (.ofItems [.numberConstant "EventChannelTimerClearance" clearance]
            ++ (.ofItems serialItems ++ (cardGain ++ managerGain)))) [] :=
          .after (.after (.after (.after (.nothing hmanager.units hmanager.silent.bindings)
            (.nothing hcard.units hcard.silent.bindings)) (.ofItems hserial.silent.bindings))
            (.ofItems hclearance)) (.ofItems hlater)
        exact ((((huses.before hrest).after (.ofItems (HelpersGive.bindings helpers))).after
          (.nothing hdrivers.units hdrivers.silent.bindings)).after
          (.ofItems hplatformItems.bindings)).after (.ofItems (.quiet trivial .nil))

/-- The axes, the heaters and the fans use the units which they name, in this order. -/
theorem PrinterGives.uses {board : Cursor} {parts : BoardParts} {g : Gain}
    (hx : HardwareRegistered board [] x.objects) (h : PrinterGives x c parts g) :
    ∃ steppers heaters fans uses, c.objects "steppers" 1 maxSteppers = .ok steppers
      ∧ c.objects "heaters" 0 maxHeaters = .ok heaters
      ∧ c.objects "fans" 0 maxFans = .ok fans
      ∧ uses = usesAmong .axis (portUnit? x.clock.family board) 0 steppers
        ++ usesAmong .heater (outputUnit? x.clock.family board) 0 heaters
        ++ usesAmong .fan (outputUnit? x.clock.family board) 0 fans
      ∧ uses.map (·.user) = usersAmong .axis (fun _ => true) 0 steppers
        ++ usersAmong .heater (usesSoftPwm board) 0 heaters
        ++ usersAmong .fan (usesSoftPwm board) 0 fans
      ∧ g.Uses x.clock.family uses := by
  cases h with
  | mk hadvanced hsections hparams =>
      cases hsections with
      | mk hprobe hsteppers hheaters htransform hfans =>
          obtain ⟨hheaters⟩ := hheaters
          obtain ⟨hfans⟩ := hfans
          have hstepper : ∀ c i l e g, StepperGives x c i l e g →
              (portUnit? x.clock.family board c).isSome = (fun _ => true) c
                ∧ g.Uses x.clock.family
                  ((portUnit? x.clock.family board c).toList.map (⟨.axis i, ·⟩)) := by
            intro c i l e g h
            obtain ⟨u, hunit, huses⟩ := h.uses hx
            rw [hunit]
            exact ⟨rfl, huses⟩
          obtain ⟨steppers, hstepperNodes, haxisUsers, haxes⟩ := hsteppers.uses hstepper
          obtain ⟨heaters, hheaterNodes, hheaterUsers, hhot⟩ := hheaters.uses
            fun c i l e g h => HeaterGives.uses hx h
          obtain ⟨fans, hfanNodes, hfanUsers, hcool⟩ := hfans.uses
            fun c i l e g h => FanGives.uses hx h
          refine ⟨steppers, heaters, fans, _, hstepperNodes, hheaterNodes, hfanNodes, rfl, ?_, ?_⟩
          · rw [List.map_append, List.map_append, haxisUsers, hheaterUsers, hfanUsers]
          -- The transform stands between the heaters and the fans and claims nothing.
          · have hmovement := haxes.append
              (hhot.before (.nothing htransform.units htransform.silent.bindings))
            have hprinter := (hmovement.append hcool).after
              (.ofItems hprobe.silent.bindings)
            refine .after (.before hprinter ⟨rfl, ?_⟩) (.ofItems hadvanced.bindings)
            rw [Gain.items_ofItems, Item.timerCodes_append, hparams.bindings.timerCodes]
            rfl

/-! ## §7. Bindings and users. -/

/-- A text tells its first character and the rest. -/
theorem singleton_append_inj {a b : Char} {s t : String}
    (h : String.singleton a ++ s = String.singleton b ++ t) : a = b ∧ s = t := by
  have hchars := congrArg String.toList h
  rw [String.toList_append, String.toList_append, String.toList_singleton, String.toList_singleton]
    at hchars
  obtain ⟨hhead, hrest⟩ := List.cons.inj hchars
  exact ⟨hhead, String.toList_injective hrest⟩

/-- A binding tells its unit and its user. -/
theorem ClockFamily.timerBinding_injective {f : ClockFamily} {u u' : CompareUnit}
    {user user' : String} (h : f.timerBinding u user = f.timerBinding u' user') :
    u = u' ∧ user = user' := by
  -- In all families a binding is a head, the timer, a text, the channel, a text and the user.
  have hparts : ∀ head middle : String, head ++ String.singleton u.timer ++ middle
        ++ String.singleton u.channel ++ ", " ++ user ++ ", MyContext())"
      = head ++ String.singleton u'.timer ++ middle
        ++ String.singleton u'.channel ++ ", " ++ user' ++ ", MyContext())" →
      u = u' ∧ user = user' := by
    intro head middle h
    rw [String.append_left_inj] at h
    simp only [String.append_assoc, String.append_right_inj] at h
    obtain ⟨htimer, h⟩ := singleton_append_inj h
    rw [String.append_right_inj] at h
    obtain ⟨hchannel, h⟩ := singleton_append_inj h
    rw [String.append_right_inj] at h
    refine ⟨?_, h⟩
    cases u
    cases u'
    cases htimer
    cases hchannel
    rfl
  cases f with
  | at91Sam3x => exact hparts _ _ h
  | mk20 => exact hparts _ _ h
  | avr => exact hparts _ _ h

/-- The users among the things of a list have the numbers of the things. -/
theorem mem_usersAmong {user : Nat → TimerUser} {needs : Cursor → Bool} {t : TimerUser} :
    ∀ {i : Nat} {nodes : List Cursor}, t ∈ usersAmong user needs i nodes → ∃ j ≥ i, t = user j := by
  intro i nodes ht
  induction nodes generalizing i with
  | nil => cases ht
  | cons c rest ih =>
      rw [usersAmong, List.mem_append] at ht
      rcases ht with ht | ht
      · split at ht
        · exact ⟨i, Nat.le_refl i, List.mem_singleton.1 ht⟩
        · cases ht
      · obtain ⟨j, hj, rfl⟩ := ih ht
        exact ⟨j, by omega, rfl⟩

theorem nodup_usersAmong {user : Nat → TimerUser} (huser : Function.Injective user)
    {needs : Cursor → Bool} (i : Nat) (nodes : List Cursor) :
    (usersAmong user needs i nodes).Nodup := by
  induction nodes generalizing i with
  | nil => exact List.nodup_nil
  | cons c rest ih =>
      rw [usersAmong]
      refine List.Nodup.append ?_ (ih (i + 1)) ?_
      · split
        · exact List.nodup_singleton _
        · exact List.nodup_nil
      · intro t ht hlater
        obtain ⟨j, hj, rfl⟩ := mem_usersAmong hlater
        split at ht
        · have := huser (List.mem_singleton.1 ht)
          omega
        · cases ht

/-- No user is counted twice. -/
theorem nodup_timerUsers (board : Cursor) (steppers heaters fans : List Cursor) :
    (timerUsers board steppers heaters fans).Nodup := by
  have haxis : Function.Injective TimerUser.axis := fun _ _ h => TimerUser.axis.inj h
  have hheater : Function.Injective TimerUser.heater := fun _ _ h => TimerUser.heater.inj h
  have hfan : Function.Injective TimerUser.fan := fun _ _ h => TimerUser.fan.inj h
  refine List.nodup_cons.2 ⟨?_, ?_⟩
  · intro h
    rw [List.mem_append, List.mem_append] at h
    rcases h with (h | h) | h <;> obtain ⟨j, -, hj⟩ := mem_usersAmong h <;> cases hj
  · refine List.Nodup.append (List.Nodup.append (nodup_usersAmong haxis 0 _)
      (nodup_usersAmong hheater 0 _) ?_) (nodup_usersAmong hfan 0 _) ?_
    · intro t ht ht'
      obtain ⟨j, -, rfl⟩ := mem_usersAmong ht
      obtain ⟨k, -, hk⟩ := mem_usersAmong ht'
      cases hk
    · intro t ht ht'
      obtain ⟨j, -, rfl⟩ := mem_usersAmong ht'
      rcases List.mem_append.1 ht with ht | ht <;> obtain ⟨k, -, hk⟩ := mem_usersAmong ht <;> cases hk

/-- Two lines which bind the interrupt of one unit. -/
def SameUnit (f : ClockFamily) (a b : String) : Prop :=
  ∃ u user user', a = f.timerBinding u user ∧ b = f.timerBinding u user'

theorem sameUnit_line_iff {f : ClockFamily} {s t : UnitUse} :
    SameUnit f (s.line f) (t.line f) ↔ s.unit = t.unit := by
  constructor
  · rintro ⟨u, user, user', hs, ht⟩
    exact (ClockFamily.timerBinding_injective hs).1.trans
      (ClockFamily.timerBinding_injective ht).1.symm
  · intro h
    refine ⟨t.unit, s.user.name, t.user.name, ?_, rfl⟩
    rw [← h]
    rfl

/-- No unit is bound twice if and only if no two users name one unit. -/
theorem pairwise_line_iff {f : ClockFamily} {uses : List UnitUse} :
    (uses.map (·.line f)).Pairwise (fun a b => ¬ SameUnit f a b)
      ↔ (uses.map (·.unit)).Nodup := by
  rw [List.Nodup, List.pairwise_map, List.pairwise_map]
  simp only [sameUnit_line_iff, ne_eq]

/-! ## §8. Compiled programs. -/

/-- The claims of a build and the code of its program are those of the users of interrupt
timers. -/
structure ClaimsNamed (f : ClockFamily) (board : Cursor) (steppers heaters fans : List Cursor)
    (claims : List CompareUnit) (code : String) : Prop where
  users : (unitUses f board steppers heaters fans).map (·.user)
    = timerUsers board steppers heaters fans
  claims : claims = (unitUses f board steppers heaters fans).map (·.unit)
  bindings : timerLines code = (unitUses f board steppers heaters fans).map (·.line f)

/-- The tag of a clock tells its family. -/
theorem family_of_driver {board : Cursor} {f f' : ClockFamily}
    (h : clockTag board = .ok f.driver) (h' : clockTag board = .ok f'.driver) : f = f' := by
  have htags : f.driver = f'.driver := Except.ok.inj (h.symm.trans h')
  revert htags
  cases f <;> cases f' <;> decide

theorem CompileGives.named {name? : Option String} {c : Compiled}
    (h : CompileGives document name? c) :
    ∃ config board steppers heaters fans code w f,
      selectSections (.root document) name? = .ok (config, board)
        ∧ clockTag board = .ok (ClockFamily.driver f)
        ∧ config.objects "steppers" 1 maxSteppers = .ok steppers
        ∧ config.objects "heaters" 0 maxHeaters = .ok heaters
        ∧ config.objects "fans" 0 maxFans = .ok fans
        ∧ build document name? .empty = .ok c w
        ∧ c.slots.get? "GlobalCode" = some code
        ∧ ClaimsNamed f board steppers heaters fans w.units code := by
  cases h with
  | @mk config board x parts a boardGain printerGain d hsections hboard hprinter hdeferred hd w _
      hunits hrun =>
      obtain ⟨hx, htag, u, hunit, hevent⟩ := hboard.uses
      obtain ⟨steppers, heaters, fans, uses, hsteppers, hheaters, hfans, huses, husers, hrest⟩ :=
        hprinter.uses hx
      -- The board comes before the printer, and the finish of the build binds no timer.
      have hall := hevent.append hrest
      have hnamed : unitUses x.clock.family board steppers heaters fans
          = [⟨.eventChannel, u⟩] ++ uses := by
        rw [unitUses, hunit, huses]
        rfl
      rw [← hnamed] at hall
      have htame : Item.TameAll d.items := by
        rw [hd]
        exact tame_compiled hboard hprinter hdeferred
      have hcodes : Item.timerCodes d.items
          = ((unitUses x.clock.family board steppers heaters fans).map
            (·.line x.clock.family)).map fun line => (Item.interruptPriority, line) := by
        rw [hd, Item.timerCodes_append, hall.codes, (quiet_closingItems x a _).timerCodes,
          List.map_map]
        exact List.append_nil _
      obtain ⟨code, hcode, hlines⟩ := Draft.code_of_items htame hcodes
      refine ⟨config, board, steppers, heaters, fans, code, w, x.clock.family, hsections, htag,
        hsteppers, hheaters, hfans, hrun, hcode, ?_, hunits.trans hall.units, hlines⟩
      rw [hnamed, List.map_append, husers]
      rfl

/-- **Every claim of a unit is named by its user, and bound to it.**  The units which have
been claimed when a build ends are those which are named for the event channel, for the
ports of the steppers, and for the PWM outputs of the heaters and of the fans which an
interrupt timer drives, in this order; the users are all different.  The code binds the
interrupt of each of these units to its user, in the same order, and no others.  So no
unit is bound twice if and only if no unit is claimed twice. -/
theorem compile_claims_named {name? : Option String} {c : Compiled}
    (h : compile document name? = .ok c) :
    ∃ config board steppers heaters fans code w f,
      selectSections (.root document) name? = .ok (config, board)
        ∧ clockTag board = .ok (ClockFamily.driver f)
        ∧ config.objects "steppers" 1 maxSteppers = .ok steppers
        ∧ config.objects "heaters" 0 maxHeaters = .ok heaters
        ∧ config.objects "fans" 0 maxFans = .ok fans
        ∧ build document name? .empty = .ok c w
        ∧ c.slots.get? "GlobalCode" = some code
        ∧ ClaimsNamed f board steppers heaters fans w.units code
        ∧ (timerUsers board steppers heaters fans).Nodup
        ∧ ((timerLines code).Pairwise (fun a b => ¬ SameUnit f a b) ↔ w.units.Nodup) := by
  obtain ⟨config, board, steppers, heaters, fans, code, w, f, hsections, htag, hsteppers, hheaters,
    hfans, hrun, hcode, hnamed⟩ := (compile_gives h).named
  refine ⟨config, board, steppers, heaters, fans, code, w, f, hsections, htag, hsteppers, hheaters,
    hfans, hrun, hcode, hnamed, nodup_timerUsers board steppers heaters fans, ?_⟩
  rw [hnamed.bindings, hnamed.claims]
  exact pairwise_line_iff

/-- The small description claims four units, all different. -/
theorem sample_claims_named : ∃ c w code, compile Sample.description none = .ok c
    ∧ build Sample.description none .empty = .ok c w ∧ c.slots.get? "GlobalCode" = some code
    ∧ w.units = [⟨'0', '2'⟩, ⟨'0', '0'⟩, ⟨'0', '1'⟩, ⟨'1', '0'⟩]
    ∧ (timerLines code).Pairwise (fun a b => ¬ SameUnit .mk20 a b) := by
  obtain ⟨c, hc⟩ := Sample.compiles
  obtain ⟨config, board, steppers, heaters, fans, code, w, f, hsections, htag, hsteppers, hheaters,
    hfans, hrun, hcode, hnamed, -, hexclusive⟩ := compile_claims_named hc
  cases Sample.selected.symm.trans hsections
  cases Sample.steppers_read.symm.trans hsteppers
  cases Sample.heaters_read.symm.trans hheaters
  cases Sample.fans_read.symm.trans hfans
  obtain rfl := family_of_driver (f := .mk20) rfl htag
  have hunits : w.units = [⟨'0', '2'⟩, ⟨'0', '0'⟩, ⟨'0', '1'⟩, ⟨'1', '0'⟩] := hnamed.claims
  have hdistinct : w.units.Nodup := by
    rw [hunits]
    decide
  exact ⟨c, w, code, hc, hrun, hcode, hunits, hexclusive.2 hdistinct⟩

namespace Sample

/-- A stepper on the port of the other one. -/
def twin : Value := changed "Name" (.string "Y") stepper

def twinsConfig : Value := changed "steppers" (.list [stepper, twin]) config

/-- A printer with two axes on one stepper port. -/
def twins : Value :=
  .object [("selected_config", .string "C"), ("configurations", .list [twinsConfig]),
    ("boards", .list [board])]

/-- The configuration of the twins, at its place. -/
def twinsConfigAt : Cursor := ⟨twinsConfig, (Path.root.key "configurations").index 0⟩

/-- The twins are compiled. -/
theorem twins_compiles : ∃ c, compile twins none = .ok c :=
  compiled_of_isOk (by decide +kernel)

end Sample

/-- **A unit can be claimed twice.**  The description of the twins is compiled; its two axes
claim the unit of their port, and its interrupt is bound to each of them. -/
theorem twins_share_unit : ∃ c w code, compile Sample.twins none = .ok c
    ∧ build Sample.twins none .empty = .ok c w ∧ ¬ w.units.Nodup
    ∧ c.slots.get? "GlobalCode" = some code
    ∧ ClockFamily.mk20.timerBinding ⟨'0', '0'⟩ (TimerUser.axis 0).name ∈ timerLines code
    ∧ ClockFamily.mk20.timerBinding ⟨'0', '0'⟩ (TimerUser.axis 1).name ∈ timerLines code
    ∧ ¬ (timerLines code).Pairwise (fun a b => ¬ SameUnit .mk20 a b) := by
  obtain ⟨c, hc⟩ := Sample.twins_compiles
  obtain ⟨config, board, steppers, heaters, fans, code, w, f, hsections, htag, hsteppers, hheaters,
    hfans, hrun, hcode, hnamed⟩ := (compile_gives hc).named
  have hselected : selectSections (.root Sample.twins) none
      = .ok (Sample.twinsConfigAt, Sample.boardAt) := rfl
  cases hselected.symm.trans hsections
  have hstepper : Sample.twinsConfigAt.objects "steppers" 1 maxSteppers
      = .ok [⟨Sample.stepper, (Sample.twinsConfigAt.keyPath "steppers").index 0⟩,
        ⟨Sample.twin, (Sample.twinsConfigAt.keyPath "steppers").index 1⟩] := rfl
  have hheater : Sample.twinsConfigAt.objects "heaters" 0 maxHeaters
      = .ok [⟨Sample.heater, (Sample.twinsConfigAt.keyPath "heaters").index 0⟩] := rfl
  have hfan : Sample.twinsConfigAt.objects "fans" 0 maxFans
      = .ok [⟨Sample.fan, (Sample.twinsConfigAt.keyPath "fans").index 0⟩] := rfl
  cases hstepper.symm.trans hsteppers
  cases hheater.symm.trans hheaters
  cases hfan.symm.trans hfans
  obtain rfl := family_of_driver (f := .mk20) rfl htag
  have hunits : w.units = [⟨'0', '2'⟩, ⟨'0', '0'⟩, ⟨'0', '0'⟩, ⟨'0', '1'⟩, ⟨'1', '0'⟩] :=
    hnamed.claims
  have htwice : ¬ w.units.Nodup := by
    rw [hunits]
    decide
  refine ⟨c, w, code, hc, hrun, htwice, hcode, ?_, ?_, ?_⟩
  · rw [hnamed.bindings]
    exact List.mem_map.2 ⟨⟨.axis 0, ⟨'0', '0'⟩⟩, .tail _ (.head _), rfl⟩
  · rw [hnamed.bindings]
    exact List.mem_map.2 ⟨⟨.axis 1, ⟨'0', '0'⟩⟩, .tail _ (.tail _ (.head _)), rfl⟩
  · rw [hnamed.bindings, pairwise_line_iff, ← hnamed.claims]
    exact htwice

end PrinterFirmware
