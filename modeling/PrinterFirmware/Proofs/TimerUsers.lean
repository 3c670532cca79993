/-
  PrinterFirmware.Proofs.TimerUsers
  ─────────────────────────────────
  **EVERY INTERRUPT IS BOUND TO THE USER OF ITS TIMER.**

  The service of an interrupt timer ends up in the expression of the printer, and the
  binding of its interrupt in the code of the program.  The two are written by different
  functions, the names of the users are made from the numbers of things, and the code is
  ordered by priority.  Still they agree one to one:

      the event channel      the argument of the printer for its timer
      the `i`-th axis        the driver of the `i`-th element of the steppers
      the `i`-th heater      its PWM output, if an interrupt timer drives it
      the `i`-th fan         its PWM output, if an interrupt timer drives it

  Everything else which is walked over has neither services nor bindings.  The expression is
  that of the one resource which has the name of the printer (`Draft.HasPrinter`).
-/
import PrinterFirmware.Proofs.Containment
import PrinterFirmware.Proofs.Distinct
import PrinterFirmware.Proofs.Silence

namespace PrinterFirmware

open Document Naming Build Board Machine

variable {document : Value} {x : Site document} {c : Cursor}

/-! ## §1. Users of interrupt timers. -/

/-- The users of interrupt timers. -/
inductive TimerUser where
  | eventChannel
  | axis (i : Nat)
  | heater (i : Nat)
  | fan (i : Nat)
  deriving DecidableEq, Repr

/-- The place of a parameter of the printer. -/
def printerArgument (i : Nat) : Place := [("PrinterMain", 2), ("PrinterMainParams", i)]

namespace TimerUser

/-- The expression through which the program reaches a user. -/
def name : TimerUser → String
  | eventChannel => "MyPrinter::GetEventChannelTimer"
  | axis i => "MyPrinter::GetAxisTimer<" ++ Numeral.ofNat i ++ ">"
  | heater i => "MyPrinter::GetHeaterPwm<" ++ Numeral.ofNat i ++ ">" ++ "::TheTimer"
  | fan i => "MyPrinter::GetFanPwm<" ++ Numeral.ofNat i ++ ">" ++ "::TheTimer"

/-- The place of the timer of a user in the expression of the printer. -/
def place : TimerUser → Place
  | eventChannel => printerArgument 12
  | axis i => printerArgument 19
      ++ [(TypeExpr.listName, i), ("PrinterMainAxisParams", 15), ("AxisDriverService", 0)]
  | heater i => printerArgument 21
      ++ [(TypeExpr.listName, i), ("PrinterMainHeaterParams", 10), ("SoftPwmService", 3)]
  | fan i => printerArgument 22
      ++ [(TypeExpr.listName, i), ("PrinterMainFanParams", 3), ("SoftPwmService", 3)]

end TimerUser

/-- The variant of the PWM output to which a heater or a fan refers. -/
def outputVariant (board c : Cursor) : Reading String := do
  let name ← c.string "pwm_output"
  let output ← board.find "pwm_outputs" "Name" name
  let backend ← output.enter "Backend"
  backend.string Cursor.tagKey

/-- Whether the PWM output of a heater or a fan is driven by an interrupt timer. -/
def usesSoftPwm (board c : Cursor) : Bool :=
  match outputVariant board c with
  | .ok tag => tag == "SoftPwm"
  | .error _ => false

/-- The users among the things of a list, the first of which has number `i`: a thing for
which `uses` holds uses a timer. -/
def usersAmong (user : Nat → TimerUser) (uses : Cursor → Bool) (i : Nat) :
    List Cursor → List TimerUser
  | [] => []
  | c :: rest => (if uses c then [user i] else []) ++ usersAmong user uses (i + 1) rest

/-- The users of interrupt timers on a board. -/
def timerUsers (board : Cursor) (steppers heaters fans : List Cursor) : List TimerUser :=
  .eventChannel :: (usersAmong .axis (fun _ => true) 0 steppers
    ++ usersAmong .heater (usesSoftPwm board) 0 heaters
    ++ usersAmong .fan (usesSoftPwm board) 0 fans)

/-! ## §2. Timers which a part of the printer holds. -/

/-- An interrupt timer of a program: its user, its service and the line which binds its
interrupt. -/
structure BoundTimer where
  user : TimerUser
  service : TypeExpr
  line : String

/-- The expression `e`, which stands at `outer` in the expression of the printer, and the
items which were contributed with it hold the given timers, in the same order, and no
others. -/
structure Carries (outer : Place) (e : TypeExpr) (items : List Item)
    (timers : List BoundTimer) : Prop where
  services : e.timerServices = timers.map (·.service)
  bindings : Item.Bindings items (timers.map (·.line))
  placed : ∀ t ∈ timers, ∃ inner, t.user.place = outer ++ inner
    ∧ e.argument? inner = some t.service
  bound : ∀ t ∈ timers, Binds t.service t.user.name t.line

section Parts

variable {outer : Place} {e : TypeExpr} {items items' : List Item} {timers : List BoundTimer}

theorem Silent.carries (h : Silent e items) (outer : Place) : Carries outer e items [] where
  services := h.services
  bindings := h.bindings
  placed := by simp
  bound := by simp

/-- A part inside a node, the other arguments of which have no services. -/
theorem Carries.argument {name : String} {i : Nat} {args : List TypeExpr}
    (h : Carries (outer ++ [(name, i)]) e items timers) (hname : name ∉ timerTemplates)
    (hget : args[i]? = some e) (honly : TypeExpr.servicesAmong args = e.timerServices) :
    Carries outer (.inst name args) items timers := by
  refine ⟨?_, h.bindings, ?_, h.bound⟩
  · rw [TypeExpr.timerServices_inst hname, honly]
    exact h.services
  · intro t ht
    obtain ⟨inner, hplace, hservice⟩ := h.placed t ht
    refine ⟨(name, i) :: inner, ?_, ?_⟩
    · rw [hplace, List.append_assoc]
      rfl
    · rw [TypeExpr.argument?_inst hget]
      exact hservice

/-- Quiet items before those of a part. -/
theorem Carries.after (h : Carries outer e items' timers) (hquiet : Item.Bindings items []) :
    Carries outer e (items ++ items') timers :=
  ⟨h.services, h.bindings.after hquiet, h.placed, h.bound⟩

/-- Quiet items after those of a part. -/
theorem Carries.before (h : Carries outer e items timers) (hquiet : Item.Bindings items' []) :
    Carries outer e (items ++ items') timers :=
  ⟨h.services, h.bindings.before hquiet, h.placed, h.bound⟩

end Parts

/-- The service of an interrupt timer, and the item which binds its interrupt. -/
theorem TimerGives.carries {key name : String} {clearance : Option String} {e : TypeExpr}
    {g : Gain} (h : TimerGives x c key name clearance e g) (user : TimerUser)
    (hname : user.name = name) :
    ∃ t : BoundTimer, t.user = user ∧ Carries user.place e g.items [t] := by
  cases h with
  | @mk node u _ _ =>
      have hbinds := x.clock.family.binds u clearance name
      refine ⟨⟨user, x.clock.family.timerService u clearance,
        x.clock.family.timerBinding u name⟩, rfl, ?_, ?_, ?_, ?_⟩
      · exact hbinds.timerServices
      · exact .timer hbinds.bindsTimer .nil
      · intro t ht
        rw [List.mem_singleton.1 ht]
        exact ⟨[], (List.append_nil _).symm, rfl⟩
      · intro t ht
        rw [List.mem_singleton.1 ht, hname]
        exact hbinds

/-! ## §3. Axes and PWM outputs. -/

/-- **The timer of an axis stands in its driver.** -/
theorem StepperGives.carries {i : Nat} {l : Char} {e : TypeExpr} {g : Gain}
    (h : StepperGives x c i l e g) : ∃ t : BoundTimer, t.user = .axis i
      ∧ Carries (printerArgument 19 ++ [(TypeExpr.listName, i)]) e g.items [t] := by
  cases h with
  | @mk port dirPin stepPin enablePin invertDir cartesian homing timer motionItems homingItems g
      _ _ _ _ _ hmotions hhoming _ htimer =>
      obtain ⟨t, huser, ht⟩ := htimer.carries (.axis i) rfl
      refine ⟨t, huser, ?_⟩
      have hplace : Carries ((printerArgument 19 ++ [(TypeExpr.listName, i)]
          ++ [("PrinterMainAxisParams", 15)]) ++ [("AxisDriverService", 0)]) timer g.items [t] := ht
      have hdriver : Carries (printerArgument 19 ++ [(TypeExpr.listName, i)]
          ++ [("PrinterMainAxisParams", 15)])
          (.inst "AxisDriverService" [timer, .text "TheAxisDriverPrecisionParams"]) g.items [t] :=
        hplace.argument (by decide) rfl (List.append_nil _)
      have hquiet : Item.Bindings (motionItems ++ homingItems) [] :=
        hmotions.bindings.append hhoming.silent.bindings
      have hhead : Item.Bindings [.frameworkInclude "driver/AxisDriver.h",
          .boolOption (String.singleton l ++ "InvertDir") invertDir] [] :=
        .quiet trivial (.quiet trivial .nil)
      apply ((hdriver.after hquiet).after hhead).argument (by decide) rfl
      rw [TypeExpr.servicesAmong_append, TypeExpr.servicesAmong_append, servicesAmong_optionNames]
      show homing.timerServices ++ (TypeExpr.timerServices (.inst "AxisDriverService"
        [timer, .text "TheAxisDriverPrecisionParams"]) ++ []) = _
      rw [hhoming.silent.services, List.append_nil]
      rfl

/-- The reference of a heater or a fan tells how its PWM output is driven. -/
theorem outputVariant_eq {board output backend : Cursor} {tag : String}
    (hx : HardwareRegistered board [] x.objects) (h : x.Refers .pwmOutput c "pwm_output" output)
    (hbackend : output.Chosen "Backend" tag backend) : outputVariant board c = .ok tag := by
  obtain ⟨name, hname, hnode⟩ := h
  have hfind := hx.pwmOutput hnode
  unfold outputVariant
  rw [hname]
  show (board.find "pwm_outputs" "Name" name >>= _ : Reading String) = .ok tag
  rw [show board.find "pwm_outputs" "Name" name = .ok output from hfind]
  show (output.enter "Backend" >>= _ : Reading String) = .ok tag
  rw [hbackend.entered]
  exact hbackend.tagged

/-- The variant of the PWM output tells whether an interrupt timer drives it. -/
theorem usesSoftPwm_eq {board output backend : Cursor} {tag : String}
    (hx : HardwareRegistered board [] x.objects) (h : x.Refers .pwmOutput c "pwm_output" output)
    (hbackend : output.Chosen "Backend" tag backend) :
    usesSoftPwm board c = (tag == "SoftPwm") := by
  unfold usesSoftPwm
  rw [outputVariant_eq hx h hbackend]

/-- **The timer of a PWM output stands in its service, if there is one.** -/
theorem PwmOutputGives.carries {board : Cursor} (hx : HardwareRegistered board [] x.objects)
    {output username : String} {e : TypeExpr} {g : Gain}
    (h : PwmOutputGives x c "pwm_output" output username e g) (user : TimerUser) (outer : Place)
    (hname : user.name = output ++ "::TheTimer")
    (hplace : user.place = outer ++ [("SoftPwmService", 3)]) :
    ∃ timers : List BoundTimer, timers.map (·.user) = (if usesSoftPwm board c then [user] else [])
      ∧ Carries outer e g.items timers := by
  cases h with
  | soft houtput h =>
      cases h with
      | @mk node pinName invert interval timer g hnode _ _ _ htimer =>
          obtain ⟨t, huser, ht⟩ := htimer.carries user hname
          have huses : usesSoftPwm board c = true := usesSoftPwm_eq hx houtput hnode
          refine ⟨[t], ?_, ?_⟩
          · rw [if_pos huses, List.map_singleton, huser]
          · rw [hplace] at ht
            -- The timer is the last argument of the service.
            have hservice : Carries outer (.inst "SoftPwmService" [.text pinName, .bool invert,
                .text (username ++ "PulseInterval"), timer]) g.items [t] :=
              ht.argument (by decide) rfl (List.append_nil _)
            have hhead : Item.Bindings [.frameworkInclude "printer/pwm/SoftPwm.h",
                .numberConstant (username ++ "PulseInterval") interval] [] :=
              .quiet trivial (.quiet trivial .nil)
            exact hservice.after hhead
  | hard houtput h =>
      cases h with
      | mk hnode hdriver =>
          have huses : ¬ usesSoftPwm board c = true := by
            rw [usesSoftPwm_eq hx houtput hnode]
            decide
          refine ⟨[], ?_, ?_⟩
          · rw [if_neg huses]
            rfl
          · have hhead : Item.Bindings [.frameworkInclude "printer/pwm/HardPwm.h"] [] :=
              .quiet trivial .nil
            refine Silent.carries ⟨?_, hhead⟩ outer
            cases hdriver with
            | avr => rfl
            | at91Sam => rfl

/-- The timer of a heater stands in its PWM output. -/
theorem HeaterGives.carries {board : Cursor} (hx : HardwareRegistered board [] x.objects) {i : Nat}
    {l : Char} {e : TypeExpr} {g : Gain} (h : HeaterGives x c i l e g) :
    ∃ timers : List BoundTimer,
      timers.map (·.user) = (if usesSoftPwm board c then [.heater i] else [])
      ∧ Carries (printerArgument 21 ++ [(TypeExpr.listName, i)]) e g.items timers := by
  cases h with
  | @mk conversion control observer interval setCommand waitCommand input output thermistorItems
      pidItems observerItems safetyItems inputGain g _ hthermistor _ _ hpid _ hobservation _ _ hinput
      hsafety houtput =>
      obtain ⟨timers, husers, ht⟩ := houtput.carries hx (.heater i)
        (printerArgument 21 ++ [(TypeExpr.listName, i)] ++ [("PrinterMainHeaterParams", 10)]) rfl rfl
      refine ⟨timers, husers, ?_⟩
      have hinputItems : Item.Bindings inputGain.items [] := by
        cases hinput with
        | mk => exact .nil
      have hinputServices : input.timerServices = [] := by
        cases hinput with
        | mk => rfl
      have hsafetyItems : Item.Bindings (safetyItems
          ++ [.numberOption (heaterStem l ++ "ControlInterval") interval]) [] :=
        hsafety.bindings.append (.quiet trivial .nil)
      have hinclude : ∀ path items, Item.Bindings items [] →
          Item.Bindings (.frameworkInclude path :: items) [] := fun _ _ h => .quiet trivial h
      have hhead := ((hinclude "printer/thermistor/GenericThermistor.h" _
        hthermistor.bindings).append (hinclude "printer/temp_control/PidControl.h" _
        hpid.bindings)).append (hinclude "printer/TemperatureObserver.h" _ hobservation.bindings)
      apply (((ht.after hsafetyItems).after hinputItems).after hhead).argument (by decide) rfl
      rw [TypeExpr.servicesAmong_append, TypeExpr.servicesAmong_append, servicesAmong_optionNames]
      show (input.timerServices ++ []) ++ [] ++ (output.timerServices ++ []) = _
      rw [hinputServices, List.append_nil output.timerServices]
      rfl

/-- The timer of a fan stands in its PWM output. -/
theorem FanGives.carries {board : Cursor} (hx : HardwareRegistered board [] x.objects) {i : Nat}
    {l : Char} {e : TypeExpr} {g : Gain} (h : FanGives x c i l e g) :
    ∃ timers : List BoundTimer,
      timers.map (·.user) = (if usesSoftPwm board c then [.fan i] else [])
      ∧ Carries (printerArgument 22 ++ [(TypeExpr.listName, i)]) e g.items timers := by
  cases h with
  | mk _ _ houtput =>
      obtain ⟨timers, husers, ht⟩ := houtput.carries hx (.fan i)
        (printerArgument 22 ++ [(TypeExpr.listName, i)] ++ [("PrinterMainFanParams", 3)]) rfl rfl
      exact ⟨timers, husers, ht.argument (by decide) rfl (List.append_nil _)⟩

/-! ## §4. Lists of things. -/

/-- The timers of things, of which those in `front` come before. -/
theorem Things.carries {R : Cursor → Nat → Char → TypeExpr → Gain → Prop} {outer : Place}
    {user : Nat → TimerUser} {uses : Cursor → Bool}
    (hR : ∀ c i l e g, R c i l e g → ∃ timers : List BoundTimer,
      timers.map (·.user) = (if uses c then [user i] else [])
        ∧ Carries (outer ++ [(TypeExpr.listName, i)]) e g.items timers)
    {letters after : List Char} {i : Nat} {nodes : List Cursor} {es : List TypeExpr} {g : Gain}
    (h : Things R letters i nodes es g after) :
    ∀ front : List TypeExpr, front.length = i → ∃ timers : List BoundTimer,
      timers.map (·.user) = usersAmong user uses i nodes
        ∧ TypeExpr.servicesAmong es = timers.map (·.service)
        ∧ Item.Bindings g.items (timers.map (·.line))
        ∧ (∀ t ∈ timers, ∃ inner, t.user.place = outer ++ inner
          ∧ (TypeExpr.list (front ++ es)).argument? inner = some t.service)
        ∧ ∀ t ∈ timers, Binds t.service t.user.name t.line := by
  induction h with
  | nil =>
      intro front _
      exact ⟨[], rfl, rfl, .nil, by simp, by simp⟩
  | @cons letters after i c rest l e es g g' _ _ h _ ih =>
      intro front hfront
      obtain ⟨own, howners, hown⟩ := hR c i l e g h
      -- For the rest, the thing itself is one more of those before.
      have hlength : (front ++ [e]).length = i + 1 := by
        rw [List.length_append, hfront]
        rfl
      obtain ⟨others, husers, hservices, hbindings, hplaced, hbound⟩ := ih (front ++ [e]) hlength
      rw [List.append_assoc, List.singleton_append] at hplaced
      refine ⟨own ++ others, ?_, ?_, ?_, ?_, ?_⟩
      · rw [List.map_append, howners, husers]
        rfl
      · show e.timerServices ++ TypeExpr.servicesAmong es = _
        rw [hown.services, hservices, List.map_append]
      · rw [List.map_append]
        exact hown.bindings.append hbindings
      · intro t ht
        rcases List.mem_append.1 ht with ht | ht
        · obtain ⟨inner, hplace, hservice⟩ := hown.placed t ht
          refine ⟨(TypeExpr.listName, i) :: inner, ?_, ?_⟩
          · rw [hplace, List.append_assoc]
            rfl
          · have hget : (front ++ e :: es)[i]? = some e := by
              rw [List.getElem?_append_right (Nat.le_of_eq hfront), hfront, Nat.sub_self]
              rfl
            unfold TypeExpr.list
            rw [TypeExpr.argument?_inst hget]
            exact hservice
        · exact hplaced t ht
      · intro t ht
        rcases List.mem_append.1 ht with ht | ht
        · exact hown.bound t ht
        · exact hbound t ht

/-- The timers of a list of things. -/
theorem ListedThings.carries {R : Cursor → Nat → Char → TypeExpr → Gain → Prop} {outer : Place}
    {user : Nat → TimerUser} {uses : Cursor → Bool}
    (hR : ∀ c i l e g, R c i l e g → ∃ timers : List BoundTimer,
      timers.map (·.user) = (if uses c then [user i] else [])
        ∧ Carries (outer ++ [(TypeExpr.listName, i)]) e g.items timers)
    {key : String} {min max : Nat} {letters after : List Char} {e : TypeExpr} {g : Gain}
    (h : ListedThings R c key min max letters e g after) :
    ∃ nodes timers, c.objects key min max = .ok nodes
      ∧ timers.map BoundTimer.user = usersAmong user uses 0 nodes
      ∧ Carries outer e g.items timers := by
  cases h with
  | mk hnodes hes =>
      obtain ⟨timers, husers, hservices, hbindings, hplaced, hbound⟩ := hes.carries hR [] rfl
      refine ⟨_, timers, hnodes, husers, ?_, hbindings, hplaced, hbound⟩
      rw [TypeExpr.timerServices_list]
      exact hservices

/-! ## §5. The whole printer. -/

/-- The expression of the printer. -/
def printerExpr (params : TypeExpr) : TypeExpr :=
  .inst "PrinterMain" [.text "MyContext", .text "Program", params]

/-- Parts of a board without interrupt timers; the timer of the event channel is the only
one which a board leaves to the printer. -/
structure BoardParts.Silent (parts : BoardParts) : Prop where
  ledPin : parts.ledPin.timerServices = []
  watchdog : parts.watchdog.timerServices = []
  serial : parts.serial.timerServices = []
  sdCard : parts.sdCard.timerServices = []
  configManager : parts.configManager.timerServices = []

/-- **A board gives the timer of the event channel and no other.** -/
theorem BoardGives.timers {board : Cursor} {parts : BoardParts} {g : Gain}
    (h : BoardGives (.start document) board x parts g) :
    HardwareRegistered board [] x.objects ∧ parts.Silent
      ∧ ∃ t : BoundTimer, t.user = .eventChannel
        ∧ Carries (printerArgument 12) parts.eventTimer g.items [t] := by
  cases h with
  | @mk config platform performance serialSection cardSection managerSection name ledPin precision
      format k d a watchdog eventTimer serial sdCard configManager helpers objects clearance
      platformItems serialItems driverGain timerGain cardGain managerGain _ hinside
      _ _ _ _ hplatform _ hdrivers _ hobjects hy _ htimer _ _ _ _ hserial _ hcard _ hmanager =>
      have hsite : x.objects = objects := by
        rw [hy]
        rfl
      refine ⟨hsite ▸ hobjects, ⟨rfl, hdrivers.silent.services, hserial.silent.services,
        hcard.silent.services, hmanager.silent.services⟩, ?_⟩
      obtain ⟨t, huser, ht⟩ := htimer.carries .eventChannel rfl
      refine ⟨t, huser, ?_⟩
      have hname : Item.Bindings [.fill "BoardForBuild" (.text name)] [] := .quiet trivial .nil
      have hlater : Item.Bindings [.typeName "TheAxisDriverPrecisionParams" precision] [] :=
        .quiet trivial .nil
      have hclearance : Item.Bindings [.numberConstant "EventChannelTimerClearance" clearance] [] :=
        .quiet trivial .nil
      have hrest := hlater.append (hclearance.append (hserial.silent.bindings.append
        (hcard.silent.bindings.append hmanager.silent.bindings)))
      exact ((((ht.before hrest).after (HelpersGive.bindings helpers)).after
        hdrivers.silent.bindings).after hplatform.bindings).after hname

/-- A part stands in the expression of the printer where it was put. -/
theorem Carries.inPrinter {i : Nat} {e : TypeExpr} {args : List TypeExpr} {items : List Item}
    {timers : List BoundTimer} (h : Carries (printerArgument i) e items timers)
    (hget : args[i]? = some e) :
    ∀ t ∈ timers, (printerExpr (.inst "PrinterMainParams" args)).argument? t.user.place
      = some t.service := by
  intro t ht
  obtain ⟨inner, hplace, hservice⟩ := h.placed t ht
  rw [hplace]
  show (printerExpr (.inst "PrinterMainParams" args)).argument?
    (("PrinterMain", 2) :: ("PrinterMainParams", i) :: inner) = some t.service
  unfold printerExpr
  rw [TypeExpr.argument?_inst rfl, TypeExpr.argument?_inst hget]
  exact hservice

/-- The timers of the sections of a machine: those of the axes, of the heaters and of the
fans, each with the list of the configuration which they come from. -/
structure SectionTimers (board config : Cursor) (s : Sections) (items : List Item)
    (axes hot cool : List BoundTimer) : Prop where
  probe : s.probe.timerServices = []
  transform : s.transform.timerServices = []
  steppers : ∃ nodes items, config.objects "steppers" 1 maxSteppers = .ok nodes
    ∧ axes.map BoundTimer.user = usersAmong .axis (fun _ => true) 0 nodes
    ∧ Carries (printerArgument 19) s.steppers items axes
  heaters : ∃ nodes items, config.objects "heaters" 0 maxHeaters = .ok nodes
    ∧ hot.map BoundTimer.user = usersAmong .heater (usesSoftPwm board) 0 nodes
    ∧ Carries (printerArgument 21) s.heaters items hot
  fans : ∃ nodes items, config.objects "fans" 0 maxFans = .ok nodes
    ∧ cool.map BoundTimer.user = usersAmong .fan (usesSoftPwm board) 0 nodes
    ∧ Carries (printerArgument 22) s.fans items cool
  bindings : Item.Bindings items ((axes ++ hot ++ cool).map (·.line))

/-- **The sections of a machine give the timers of axes, heaters and fans in this order.** -/
theorem SectionsGive.timers {board : Cursor} {s : Sections} {g : Gain}
    (hx : HardwareRegistered board [] x.objects) (h : SectionsGive x c s g) :
    ∃ axes hot cool, SectionTimers board c s g.items axes hot cool := by
  cases h with
  | mk hprobe hsteppers hheaters htransform hfans =>
      obtain ⟨hheaters⟩ := hheaters
      obtain ⟨hfans⟩ := hfans
      have hstepper : ∀ c i l e g, StepperGives x c i l e g → ∃ timers : List BoundTimer,
          timers.map (·.user) = (if (fun _ => true) c then [TimerUser.axis i] else [])
            ∧ Carries (printerArgument 19 ++ [(TypeExpr.listName, i)]) e g.items timers := by
        intro c i l e g h
        obtain ⟨t, huser, ht⟩ := h.carries
        refine ⟨[t], ?_, ht⟩
        rw [List.map_singleton, huser]
        rfl
      obtain ⟨steppers, axes, hstepperNodes, haxisUsers, haxes⟩ := hsteppers.carries hstepper
      obtain ⟨heaters, hot, hheaterNodes, hheaterUsers, hhot⟩ := hheaters.carries
        fun c i l e g h => HeaterGives.carries hx h
      obtain ⟨fans, cool, hfanNodes, hfanUsers, hcool⟩ := hfans.carries
        fun c i l e g h => FanGives.carries hx h
      refine ⟨axes, hot, cool, hprobe.silent.services, htransform.silent.services,
        ⟨_, _, hstepperNodes, haxisUsers, haxes⟩, ⟨_, _, hheaterNodes, hheaterUsers, hhot⟩,
        ⟨_, _, hfanNodes, hfanUsers, hcool⟩, ?_⟩
      rw [List.map_append, List.map_append]
      have hmovement := haxes.bindings.append
        (hhot.bindings.before htransform.silent.bindings)
      exact (hmovement.append hcool.bindings).after hprobe.silent.bindings

/-- The arguments of the printer at which there are timers. -/
theorem ParamsGive.arguments {board : BoardParts} {s : Sections} {e : TypeExpr} {items : List Item}
    (h : ParamsGive c board s e items) : ∃ args, e = .inst "PrinterMainParams" args
      ∧ args[12]? = some board.eventTimer ∧ args[19]? = some s.steppers
      ∧ args[21]? = some s.heaters ∧ args[22]? = some s.fans := by
  cases h with
  | mk => exact ⟨_, rfl, rfl, rfl, rfl, rfl⟩

/-- The services of interrupt timers in the expression of the printer. -/
theorem ParamsGive.services {board : BoardParts} {s : Sections} {e : TypeExpr} {items : List Item}
    (h : ParamsGive c board s e items) (hboard : board.Silent) (hprobe : s.probe.timerServices = [])
    (htransform : s.transform.timerServices = []) :
    (printerExpr e).timerServices = board.eventTimer.timerServices ++ (s.steppers.timerServices
      ++ (s.heaters.timerServices ++ s.fans.timerServices)) := by
  cases h with
  | mk =>
      unfold printerExpr
      rw [TypeExpr.timerServices_inst (by decide)]
      show TypeExpr.timerServices (.inst "PrinterMainParams" _) ++ [] = _
      rw [List.append_nil, TypeExpr.timerServices_inst (by decide)]
      show board.serial.timerServices ++ (board.ledPin.timerServices
        ++ (board.eventTimer.timerServices ++ (board.watchdog.timerServices
        ++ (board.sdCard.timerServices ++ (s.probe.timerServices
        ++ (board.configManager.timerServices ++ (s.steppers.timerServices
        ++ (s.transform.timerServices ++ (s.heaters.timerServices
        ++ (s.fans.timerServices ++ [])))))))))) = _
      rw [hboard.serial, hboard.ledPin, hboard.watchdog, hboard.sdCard, hboard.configManager, hprobe,
        htransform, List.append_nil]
      rfl

/-- **The resource of a printer comes after the bindings of its timers.** -/
theorem PrinterGives.timers {board : Cursor} {parts : BoardParts} {g : Gain}
    (hx : HardwareRegistered board [] x.objects) (h : PrinterGives x c parts g) :
    ∃ s sectionGain params paramItems axes hot cool front back,
      SectionsGive x c s sectionGain ∧ ParamsGive c parts s params paramItems
        ∧ SectionTimers board c s sectionGain.items axes hot cool
        ∧ g.items = front ++ printerResource params :: back
        ∧ Item.Bindings front ((axes ++ hot ++ cool).map (·.line)) ∧ Item.Bindings back [] := by
  cases h with
  | @mk s params advancedItems paramItems g hadvanced hsections hparams =>
      obtain ⟨axes, hot, cool, htimers⟩ := hsections.timers hx
      have hlast : Item.Bindings [.fill "FastEventRoot" (.text "MyPrinter"),
          .fill "EmergencyProvider" (.text "MyPrinter")] [] :=
        .quiet trivial (.quiet trivial .nil)
      refine ⟨s, g, params, paramItems, axes, hot, cool,
        advancedItems ++ (g.items ++ paramItems), _, hsections, hparams, htimers, ?_, ?_, hlast⟩
      · show advancedItems ++ (g.items ++ (paramItems ++ [_, _, _])) = _
        simp only [List.append_assoc]
      · exact (htimers.bindings.before hparams.bindings).after hadvanced.bindings

/-! ## §6. Compiled programs. -/

/-- The timers of a program agree with the lists of the configuration, with the
expression of the printer and with the code. -/
structure TimersAgree (board : Cursor) (steppers heaters fans : List Cursor)
    (printer : TypeExpr) (code : String) (timers : List BoundTimer) : Prop where
  users : timers.map (·.user) = timerUsers board steppers heaters fans
  /-- The services of interrupt timers in the expression of the printer. -/
  services : timers.map (·.service) = printer.timerServices
  /-- The lines which bind interrupts of timers in the code. -/
  lines : timers.map (·.line) = timerLines code
  placed : ∀ t ∈ timers, printer.argument? t.user.place = some t.service
  bound : ∀ t ∈ timers, Binds t.service t.user.name t.line

/-- No piece of code of a tame item has a line break. -/
theorem Item.TameAll.unbroken {items : List Item} (h : Item.TameAll items) :
    ∀ a ∈ items.filterMap Item.code?, '\n' ∉ a.2.toList := by
  intro a ha hbreak
  obtain ⟨i, hi, hcode⟩ := List.mem_filterMap.1 ha
  have hi := h i hi
  cases i with
  | code priority text =>
      injection hcode with hcode
      subst hcode
      have hi : Phrase text := hi
      exact hi.unbroken hbreak
  | constant | option | platformInclude | frameworkInclude | initCall | resource | fill =>
      cases hcode

/-- The lines of a program which bind timers are those of its items. -/
theorem Draft.code_of_items {d : Draft} {bindings : List String} (htame : Item.TameAll d.items)
    (h : Item.timerCodes d.items = bindings.map fun line => (Item.interruptPriority, line)) :
    ∃ code, (SlotMap.ofEntries (d.directSlots ++ d.ownSlots)).get? "GlobalCode" = some code
      ∧ timerLines code = bindings := by
  obtain ⟨code, hcode⟩ : ∃ code, code = lines (byPriority (d.items.filterMap codeLine?)) := ⟨_, rfl⟩
  have hcodeSlot : ("GlobalCode", code) ∈ d.ownSlots := by
    rw [hcode]
    simp [ownSlots]
  refine ⟨code, get?_ownSlot d hcodeSlot, ?_⟩
  rw [hcode]
  exact timerLines_code htame.unbroken h

/-- The items of a program before its printer and behind it. -/
theorem items_around_printer {d : Draft} {boardGain printerGain : Gain} {params : TypeExpr}
    {front back closing : List Item} (hd : d = ⟨(boardGain ++ printerGain).items ++ closing⟩)
    (hitems : printerGain.items = front ++ printerResource params :: back) :
    d.items = (boardGain.items ++ front) ++ printerResource params :: (back ++ closing) := by
  rw [hd]
  show boardGain.items ++ printerGain.items ++ closing = _
  rw [hitems]
  simp only [List.append_assoc, List.cons_append]

/-- The code of a program with a printer. -/
theorem Draft.code_of_printer {d : Draft} {front back : List Item} {params : TypeExpr}
    {bindings : List String} (hd : d.items = front ++ printerResource params :: back)
    (htame : Item.TameAll d.items) (hfront : Item.Bindings front bindings)
    (hback : Item.Bindings back []) :
    ∃ code, (SlotMap.ofEntries (d.directSlots ++ d.ownSlots)).get? "GlobalCode" = some code
      ∧ timerLines code = bindings := by
  -- The lines which bind timers are those of the items before the printer.
  have hcodes : Item.timerCodes d.items
      = bindings.map fun line => (Item.interruptPriority, line) := by
    rw [hd, Item.timerCodes_append, hfront.timerCodes]
    show _ ++ Item.timerCodes back = _
    rw [hback.timerCodes]
    exact List.append_nil _
  exact Draft.code_of_items htame hcodes

/-- The printer of a rendered program: the one resource with its name has the expression
`printer`, and its line is the last one of the resources in the text. -/
structure Draft.HasPrinter (d : Draft) (slots : SlotMap) (printer : TypeExpr) : Prop where
  rendered : d.render = .ok slots
  resource : ∀ r, r ∈ d.resources ∧ r.name = "MyPrinter" ↔ r = ⟨"MyPrinter", printer, none⟩
  text : ∃ before, slots.get? "GlobalResourceExprs"
    = some (before ++ "using MyPrinter = " ++ printer.render (.indented 0) ++ ";\n")

/-- The line of the printer comes after those of all other resources. -/
theorem Draft.printerText {d : Draft} {front back : List Item} {params : TypeExpr}
    {bindings : List String} (hd : d.items = front ++ printerResource params :: back)
    (hfront : Item.Bindings front bindings) (hback : Item.Bindings back []) :
    ∃ before, lines (d.resources.map Resource.exprLine)
      = before ++ "using MyPrinter = " ++ (printerExpr params).render (.indented 0) ++ ";\n" := by
  have hresources : d.items.filterMap resource? = front.filterMap resource?
      ++ (Item.printerPriority, ⟨"MyPrinter", printerExpr params, none⟩)
        :: back.filterMap resource? := by
    rw [hd, List.filterMap_append]
    rfl
  obtain ⟨before, hbefore⟩ := byPriority_last (front.filterMap resource?)
    (back.filterMap resource?) (⟨"MyPrinter", printerExpr params, none⟩ : Resource)
    (List.forall_mem_append.2 ⟨hfront.resources, hback.resources⟩)
  refine ⟨lines (before.map Resource.exprLine), ?_⟩
  unfold resources lines
  rw [hresources, hbefore, List.map_append, String.join_append]
  have hline : String.join ([(⟨"MyPrinter", printerExpr params, none⟩ : Resource)].map
      Resource.exprLine) = "using " ++ "MyPrinter" ++ " = "
        ++ (printerExpr params).render (.indented 0) ++ ";\n" := by
    rw [List.map_singleton, String.join_cons, String.join_nil, String.append_empty]
    rfl
  have husing : "using " ++ "MyPrinter" ++ " = " = "using MyPrinter = " := by decide
  rw [hline, husing]
  simp only [String.append_assoc]

/-- **The resource which the section of a printer contributes is its printer.** -/
theorem hasPrinter_of_build {name? : Option String} {compiled : Compiled} {w : Workspace}
    {front back : List Item} {params : TypeExpr} {bindings : List String}
    (hrun : build document name? .empty = .ok compiled w)
    (hitems : w.draft.items = front ++ printerResource params :: back)
    (hfront : Item.Bindings front bindings) (hback : Item.Bindings back []) :
    w.draft.HasPrinter compiled.slots (printerExpr params) := by
  obtain ⟨hgrown, hrendered⟩ := rendered_build hrun
  have hmem : ⟨"MyPrinter", printerExpr params, none⟩ ∈ w.draft.resources := by
    refine Draft.mem_resources.2 ⟨Item.printerPriority, ?_⟩
    rw [hitems]
    exact List.mem_append_right _ List.mem_cons_self
  refine ⟨hrendered, ?_, ?_⟩
  · intro r
    constructor
    · rintro ⟨hr, hname⟩
      exact hgrown.distinct.resource_eq hr hmem hname
    · rintro rfl
      exact ⟨hmem, rfl⟩
  · obtain ⟨before, hbefore⟩ := Draft.printerText hitems hfront hback
    have hslot : ("GlobalResourceExprs",
        Draft.lines (w.draft.resources.map Draft.Resource.exprLine)) ∈ w.draft.ownSlots := by
      simp [Draft.ownSlots]
    rw [(Draft.render_eq_ok_iff.1 hrendered).2, Draft.get?_ownSlot w.draft hslot]
    exact ⟨before, congrArg some hbefore⟩

/-- **Interrupts and the services of timers agree one to one.**  The lines of the code which
bind interrupts of timers are one for the event channel, one for every stepper in the
order of the list, and one for every heater and for every fan whose PWM output is driven
by an interrupt timer, in this order.  The services in the expression of the printer are
as many, in the same order; each stands at the place of its user, and names the timer and
the channel which are named in the line. -/
theorem compile_timers_agree {name? : Option String} {c : Compiled}
    (h : compile document name? = .ok c) :
    ∃ config board steppers heaters fans code w printer timers,
      selectSections (.root document) name? = .ok (config, board)
        ∧ config.objects "steppers" 1 maxSteppers = .ok steppers
        ∧ config.objects "heaters" 0 maxHeaters = .ok heaters
        ∧ config.objects "fans" 0 maxFans = .ok fans
        ∧ c.slots.get? "GlobalCode" = some code
        ∧ build document name? .empty = .ok c w
        ∧ w.draft.HasPrinter c.slots printer
        ∧ TimersAgree board steppers heaters fans printer code timers := by
  cases compile_gives h with
  | @mk config board x parts a boardGain printerGain d hsections hboard hprinter hdeferred hd w
      _ _ hrun hdraft =>
      subst hdraft
      have htame : Item.TameAll w.draft.items := by
        rw [hd]
        exact tame_compiled hboard hprinter hdeferred
      obtain ⟨hx, hparts, t, huser, hevent⟩ := hboard.timers
      obtain ⟨s, sectionGain, params, paramItems, axes, hot, cool, front, back, -, hparams, htimers,
        hitems, hfront, hback⟩ := hprinter.timers hx
      obtain ⟨steppers, axisItems, hsteppers, haxisUsers, haxes⟩ := htimers.steppers
      obtain ⟨heaters, heaterItems, hheaters, hheaterUsers, hhot⟩ := htimers.heaters
      obtain ⟨fans, fanItems, hfans, hfanUsers, hcool⟩ := htimers.fans
      obtain ⟨args, rfl, heventArg, haxesArg, hhotArg, hcoolArg⟩ := hparams.arguments
      have hall := items_around_printer hd hitems
      have hbefore := hevent.bindings.append hfront
      have hafter := hback.append (quiet_closingItems x a (boardGain ++ printerGain))
      obtain ⟨code, hcode, hlines⟩ := Draft.code_of_printer hall htame hbefore hafter
      have hplaced : ∀ u ∈ t :: (axes ++ hot ++ cool),
          (printerExpr (.inst "PrinterMainParams" args)).argument? u.user.place
            = some u.service := by
        rw [List.forall_mem_cons, List.forall_mem_append, List.forall_mem_append]
        exact ⟨hevent.inPrinter heventArg t List.mem_cons_self,
          ⟨haxes.inPrinter haxesArg, hhot.inPrinter hhotArg⟩, hcool.inPrinter hcoolArg⟩
      have hbound : ∀ u ∈ t :: (axes ++ hot ++ cool), Binds u.service u.user.name u.line := by
        rw [List.forall_mem_cons, List.forall_mem_append, List.forall_mem_append]
        exact ⟨hevent.bound t List.mem_cons_self, ⟨haxes.bound, hhot.bound⟩, hcool.bound⟩
      refine ⟨config, board, steppers, heaters, fans, code, w, _, t :: (axes ++ hot ++ cool),
        hsections, hsteppers, hheaters, hfans, hcode, hrun,
        hasPrinter_of_build hrun hall hbefore hafter, ?_, ?_, hlines.symm, hplaced, hbound⟩
      · rw [List.map_cons, List.map_append, List.map_append, huser, haxisUsers, hheaterUsers,
          hfanUsers]
        rfl
      · rw [hparams.services hparts htimers.probe htimers.transform, hevent.services,
          haxes.services, hhot.services, hcool.services, List.map_cons, List.map_append,
          List.map_append, List.append_assoc]
        rfl

/-- The configuration of the small description, at its place. -/
def Sample.configAt : Cursor := ⟨Sample.config, (Path.root.key "configurations").index 0⟩

/-- The board of the small description, at its place. -/
def Sample.boardAt : Cursor := ⟨Sample.board, (Path.root.key "boards").index 0⟩

theorem Sample.selected :
    selectSections (.root description) none = .ok (configAt, boardAt) := rfl

theorem Sample.steppers_read : configAt.objects "steppers" 1 maxSteppers
    = .ok [⟨stepper, (configAt.keyPath "steppers").index 0⟩] := rfl

theorem Sample.heaters_read : configAt.objects "heaters" 0 maxHeaters
    = .ok [⟨heater, (configAt.keyPath "heaters").index 0⟩] := rfl

theorem Sample.fans_read : configAt.objects "fans" 0 maxFans
    = .ok [⟨fan, (configAt.keyPath "fans").index 0⟩] := rfl

/-- In the small description the event channel, the axis, the heater and the fan have an
interrupt timer each. -/
theorem sample_timers_agree : ∃ c code steppers heaters fans w printer timers,
    compile Sample.description none = .ok c ∧ c.slots.get? "GlobalCode" = some code
      ∧ build Sample.description none .empty = .ok c w
      ∧ w.draft.HasPrinter c.slots printer
      ∧ TimersAgree Sample.boardAt steppers heaters fans printer code timers
      ∧ timers.map (·.user) = [.eventChannel, .axis 0, .heater 0, .fan 0] := by
  obtain ⟨c, hc⟩ := Sample.compiles
  obtain ⟨config, board, steppers, heaters, fans, code, w, printer, timers, hsections, hsteppers,
    hheaters, hfans, hcode, hrun, hprinter, hagree⟩ := compile_timers_agree hc
  cases Sample.selected.symm.trans hsections
  cases Sample.steppers_read.symm.trans hsteppers
  cases Sample.heaters_read.symm.trans hheaters
  cases Sample.fans_read.symm.trans hfans
  refine ⟨c, code, _, _, _, w, printer, timers, hc, hcode, hrun, hprinter, hagree, ?_⟩
  rw [hagree.users]
  rfl

end PrinterFirmware
