/-
  PrinterFirmware.Proofs.ParallelBoard
  ────────────────────────────────────
  **ONE BOARD IN TWO DOCUMENTS.**

  Every walk over the section of a board, and every walk which resolves a reference to an
  object of the board, goes side by side with itself on alike cursors.  The sections are
  gone through in the order in which a board is set up.
-/
import PrinterFirmware.Board.Setup
import PrinterFirmware.Proofs.Parallel

namespace PrinterFirmware

open Document Naming Build Board

/-! ## §1. The parts of a board. -/

/-- What is set up when the objects of a board have been registered: the services which the
printer uses. -/
def Board.setUpServices (board : Cursor) (buildName : String) (imageFormat : ImageFormat)
    (watchdog : TypeExpr) : Build BoardParts := do
  let ledPin ← pin board "LedPin"
  let eventTimer ← useTimer board "EventChannelTimer" "MyPrinter::GetEventChannelTimer"
    (some "EventChannelTimerClearance")
  let performance ← board.enter "performance"
  let precision ← performance.identifier "AxisDriverPrecisionParams"
  emit (.typeName "TheAxisDriverPrecisionParams" precision)
  let clearance ← performance.number "EventChannelTimerClearance"
  emit (.numberConstant "EventChannelTimerClearance" clearance)
  let serialSection ← board.enter "serial"
  let serial ← serialPort serialSection
  let cardSection ← board.enter "sdcard_config"
  let sdCard ← sdCard cardSection "sdcard"
  let managerSection ← board.enter "runtime_config"
  let configManager ← configManager managerSection "config_manager" "MyPrinter::GetConfigManager"
  return { buildName, imageFormat, performance, ledPin := .text ledPin, eventTimer, watchdog,
           serial, sdCard, configManager }

/-- A board is set up in three parts: its platform, its objects and its services. -/
theorem Board.setUp_eq (board : Cursor) : Board.setUp board = (do
    let config ← board.enter "platform_config"
    let buildName ← buildName config
    let imageFormat ← imageFormat config
    setUpPlatform config "platform"
    let platform ← config.enter "platform"
    let watchdog ← setUpDrivers platform
    let helpers ← config.strings "board_helper_includes" 0 maxHelpers
    includeHelpers config helpers
    registerHardware board
    setUpServices board buildName imageFormat watchdog) := rfl

variable [Correspondence] {c d : Cursor}

/-! ## §2. The clock. -/

theorem Document.Cursor.Alike.readTimer (h : c.Alike d) (f : ClockFamily) (key : String) :
    Matches Eq (Clock.readTimer f c key) (Clock.readTimer f d key) := by
  unfold Clock.readTimer
  apply (h.string key).andThen
  intro name
  cases f.names.timer? name with
  | some timer => exact .ok rfl
  | none => exact h.rejectAt key _

theorem Document.Cursor.Alike.readUnit (h : c.Alike d) (k : Clock) (key : String) :
    Matches Eq (k.readUnit c key) (k.readUnit d key) := by
  unfold Clock.readUnit
  apply (h.string key).andThen
  intro name
  cases k.family.names.unit? name with
  | some u => exact .ok rfl
  | none => exact h.rejectAt key _

theorem parallel_readSettings (h : c.Alike d) (timer : Char) :
    Parallel Eq (Clock.readSettings timer c) (Clock.readSettings timer d) := by
  unfold Clock.readSettings
  apply Parallel.andThen (α := TypeExpr)
  · refine parallel_choose h ⟨_, rfl⟩
      (.cons (.option ?_) (.cons (.option ?_) (.cons (.option ?_) .nil)))
    · intro _ _ _
      exact .pure rfl
    · intro _ _ h
      apply Parallel.read (h.int _)
      intro divide
      exact .pure rfl
    · intro _ _ h
      apply Parallel.read (h.int _)
      intro divide
      apply Parallel.read (h.int _)
      intro top
      exact .pure rfl
  · intro mode
    exact .pure rfl

theorem parallel_readConfigured (f : ClockFamily) {cs ds : List Cursor}
    (h : List.Forall₂ Cursor.Alike cs ds) (timers : List (Char × TypeExpr)) :
    Parallel Eq (Clock.readConfigured f timers cs) (Clock.readConfigured f timers ds) := by
  induction h generalizing timers with
  | nil => exact .pure rfl
  | cons hcd _ ih =>
      unfold Clock.readConfigured
      apply Parallel.read (hcd.readTimer f _)
      intro timer
      have hrest := (parallel_readSettings hcd timer).andThen fun settings =>
        ih (Ascending.put timer settings timers)
      apply parallel_ite
      · exact Parallel.read (hcd.reject _) fun _ => hrest
      · exact hrest

theorem parallel_readClock (h : c.Alike d) (f : ClockFamily) :
    Parallel Eq (Clock.read f c) (Clock.read f d) := by
  unfold Clock.read
  apply Parallel.read (h.intConstant _)
  intro prescaler
  have hprimary : ∀ timers, Parallel Eq
      (do
        let primary ← (Clock.readTimer f c "primary_timer" : Reading Char)
        return Clock.mk f prescaler primary timers [] : Build Clock)
      (do
        let primary ← (Clock.readTimer f d "primary_timer" : Reading Char)
        return Clock.mk f prescaler primary timers []) := by
    intro timers
    apply Parallel.read (h.readTimer f _)
    intro primary
    exact .pure rfl
  apply parallel_ite
  · apply Parallel.readAlike (h.objects _ _ _)
    intro cs ds hcs
    exact (parallel_readConfigured f hcs []).andThen hprimary
  · exact hprimary []

theorem parallel_setUpClock (h : c.Alike d) (key : String) :
    Parallel Eq (setUpClock c key) (setUpClock d key) := by
  unfold setUpClock
  apply Parallel.andThen (α := Clock)
  · refine parallel_choose h ⟨_, rfl⟩
      (.cons (.option ?_) (.cons (.option ?_) (.cons (.option ?_) .nil)))
    · exact fun _ _ h => parallel_readClock h .at91Sam3x
    · exact fun _ _ h => parallel_readClock h .mk20
    · exact fun _ _ h => parallel_readClock h .avr
  · intro k
    apply Parallel.emit
    exact .registerFacility _

theorem parallel_compareUnit (h : c.Alike d) (key : String) :
    Parallel Eq (compareUnit c key) (compareUnit d key) := by
  unfold compareUnit
  apply parallel_clock.andThen
  intro k
  exact .look (h.readUnit k key)

theorem parallel_claimTimer (h : c.Alike d) (user : String) (clearance : Option String) :
    Parallel Eq (claimTimer c user clearance) (claimTimer d user clearance) := by
  unfold claimTimer
  apply parallel_clock.andThen
  intro k
  apply Parallel.read (h.readUnit k _)
  intro u
  apply (Parallel.setFacility _).andThen
  intro _
  exact .pure rfl

theorem parallel_useTimer (h : c.Alike d) (key user : String) (clearance : Option String) :
    Parallel Eq (useTimer c key user clearance) (useTimer d key user clearance) := by
  unfold useTimer
  apply Parallel.readAlike (h.enter key)
  intro c' d' h'
  apply (parallel_claimTimer h' user clearance).andThen
  intro r
  apply Parallel.emit
  exact .pure rfl

/-! ## §3. Pins and inputs. -/

theorem parallel_pinDriver (header driver : String) (names : PinNames) :
    Parallel Eq (pinDriver header driver names c) (pinDriver header driver names d) :=
  .emit _ (Parallel.pure rfl)

theorem parallel_setUpPins (h : c.Alike d) (key : String) :
    Parallel Eq (setUpPins c key) (setUpPins d key) := by
  unfold setUpPins
  apply Parallel.andThen (α := TypeExpr × PinNames)
  · refine parallel_choose h ⟨_, rfl⟩
      (.cons (.option ?_) (.cons (.option ?_) (.cons (.option ?_) .nil)))
    · exact fun _ _ _ => parallel_pinDriver _ _ _
    · exact fun _ _ _ => parallel_pinDriver _ _ _
    · exact fun _ _ _ => parallel_pinDriver _ _ _
  · intro r
    apply Parallel.emit
    exact .registerFacility _

theorem parallel_pin (h : c.Alike d) (key : String) : Parallel Eq (pin c key) (pin d key) := by
  unfold pin
  apply Parallel.read (h.string key)
  intro name
  apply parallel_pinNames.andThen
  intro grammars
  apply parallel_ite
  · exact .pure rfl
  · exact .look (h.rejectAt key _)

theorem parallel_digitalInput (h : c.Alike d) (key : String) :
    Parallel Eq (digitalInput c key) (digitalInput d key) := by
  unfold digitalInput
  apply (Parallel.findObject .digitalInput h key).bind
  intro input input' hinput
  apply (parallel_pin hinput "Pin").andThen
  intro name
  apply Parallel.read (hinput.identifier _)
  intro mode
  exact .pure rfl

theorem parallel_setUpAnalog (h : c.Alike d) (key : String) :
    Parallel Eq (setUpAnalog c key) (setUpAnalog d key) := by
  unfold setUpAnalog
  apply Parallel.andThen (α := AnalogDriver)
  · refine parallel_choose h ⟨_, rfl⟩
      (.cons (.option ?_) (.cons (.option ?_) (.cons (.option ?_) .nil)))
    · intro _ _ h
      apply Parallel.emit
      apply Parallel.read (h.number _)
      intro freq
      apply Parallel.emit
      apply Parallel.read (h.number _)
      intro interval
      apply Parallel.emit
      apply Parallel.read (h.number _)
      intro smoothing
      apply Parallel.emit
      apply Parallel.emit
      apply Parallel.read (h.int _)
      intro startup
      apply Parallel.read (h.int _)
      intro settling
      apply Parallel.read (h.int _)
      intro tracking
      apply Parallel.read (h.int _)
      intro transfer
      exact .pure rfl
    · intro _ _ h
      apply Parallel.emit
      apply Parallel.read (h.int _)
      intro divisor
      apply Parallel.emit
      apply Parallel.emit
      exact .pure rfl
    · intro _ _ h
      apply Parallel.emit
      apply Parallel.read (h.int _)
      intro reference
      apply Parallel.emit
      apply Parallel.read (h.int _)
      intro prescaler
      apply Parallel.emit
      apply Parallel.emit
      exact .pure rfl
  · intro driver
    apply (Parallel.registerFacility _).andThen
    intro _
    exact .deferDriver driver

theorem parallel_analogInput (h : c.Alike d) (key : String) :
    Parallel Eq (analogInput c key) (analogInput d key) := by
  unfold analogInput
  apply (Parallel.findObject .analogInput h key).bind
  intro input input' hinput
  apply (parallel_pin hinput "Pin").andThen
  intro name
  apply (parallel_addAnalogPin name).andThen
  intro _
  exact .pure rfl

/-! ## §4. Pulse width modulation. -/

theorem parallel_setUpPwm (h : c.Alike d) (key : String) :
    Parallel Eq (setUpPwm c key) (setUpPwm d key) := by
  unfold setUpPwm
  apply Parallel.andThen (α := Option TypeExpr)
  · refine parallel_choose h ⟨_, rfl⟩ (.cons (.option ?_) (.cons (.option ?_) .nil))
    · intro _ _ _
      exact .pure rfl
    · intro _ _ h
      apply Parallel.emit
      apply Parallel.read (h.int _)
      intro preA
      apply Parallel.read (h.int _)
      intro divA
      apply Parallel.read (h.int _)
      intro preB
      apply Parallel.read (h.int _)
      intro divB
      exact .pure rfl
  · intro driver
    cases driver with
    | some driver => exact .item _
    | none => exact .pure rfl

theorem parallel_hardPwmDriver (h : c.Alike d) :
    Parallel Eq (hardPwmDriver c) (hardPwmDriver d) := by
  unfold hardPwmDriver
  refine parallel_choose h ⟨_, rfl⟩ (.cons (.option ?_) (.cons (.option ?_) .nil))
  · intro _ _ h
    apply (parallel_compareUnit h _).andThen
    intro u
    apply (parallel_pin h _).andThen
    intro output
    exact .pure rfl
  · intro _ _ h
    apply Parallel.read (h.int _)
    intro prescaler
    apply Parallel.read (h.int _)
    intro period
    apply Parallel.read (h.int _)
    intro number
    apply (parallel_pin h _).andThen
    intro output
    apply Parallel.read (h.identifier _)
    intro signal
    exact .pure rfl

theorem parallel_pwmOutput (h : c.Alike d) (key user username : String) :
    Parallel Eq (pwmOutput c key user username) (pwmOutput d key user username) := by
  unfold pwmOutput
  apply (Parallel.findObject .pwmOutput h key).bind
  intro output output' houtput
  refine parallel_choose houtput ⟨_, rfl⟩ (.cons (.option ?_) (.cons (.option ?_) .nil))
  · intro _ _ h
    apply Parallel.emit
    apply (parallel_pin h _).andThen
    intro outputPin
    apply Parallel.read (h.bool _)
    intro invert
    apply Parallel.read (h.number _)
    intro interval
    apply (parallel_declareNumber _ interval).andThen
    intro intervalName
    apply (parallel_useTimer h _ _ none).andThen
    intro timer
    exact .pure rfl
  · intro _ _ h
    apply Parallel.emit
    apply (parallel_hardPwmDriver h).andThen
    intro driver
    exact .pure rfl

/-! ## §5. The platform and the watchdog. -/

theorem parallel_setUpPlatform (h : c.Alike d) (key : String) :
    Parallel Eq (setUpPlatform c key) (setUpPlatform d key) := by
  unfold setUpPlatform
  refine parallel_choose h ⟨_, rfl⟩
      (.cons (.option ?_) (.cons (.option ?_) (.cons (.options ?_) .nil)))
  · intro _ _ _
    apply Parallel.emit
    exact .item _
  · intro _ _ _
    exact .item _
  · intro _ _ _ _
    apply Parallel.emit
    apply Parallel.emit
    exact .item _

theorem parallel_watchdog (h : c.Alike d) (key user : String) :
    Parallel Eq (watchdog c key user) (watchdog d key user) := by
  unfold watchdog
  refine parallel_choose h ⟨_, rfl⟩
      (.cons (.option ?_) (.cons (.option ?_) (.cons (.option ?_) .nil)))
  · intro _ _ h
    apply Parallel.emit
    apply Parallel.read (h.int _)
    intro wdv
    exact .pure rfl
  · intro _ _ h
    apply Parallel.emit
    apply Parallel.emit
    apply Parallel.read (h.int _)
    intro toval
    apply Parallel.read (h.int _)
    intro prescval
    exact .pure rfl
  · intro _ _ h
    apply Parallel.read (h.string _)
    intro timeout
    have hrest := Parallel.emit (.frameworkInclude "system/AvrWatchdog.h")
      (Parallel.emit (.interrupt "AMBRO_AVR_WATCHDOG_GLOBAL")
        (Parallel.pure (Eq.refl (TypeExpr.inst "AvrWatchdogService" [.text timeout]))))
    apply parallel_ite
    · exact Parallel.read (h.rejectAt _ _) fun _ => hrest
    · exact hrest

/-! ## §6. Buses and storage. -/

theorem Document.Cursor.Alike.lookUpDevice {α : Type} (h : c.Alike d)
    (devices : List (String × α)) (what : String) :
    Matches Eq (lookUpDevice c devices what) (lookUpDevice d devices what) := by
  unfold Board.lookUpDevice
  apply (h.identifier _).andThen
  intro device
  cases devices.lookup device with
  | some a => exact .ok rfl
  | none => exact h.reject _

theorem parallel_spi (h : c.Alike d) (key user : String) :
    Parallel Eq (spi c key user) (spi d key user) := by
  unfold spi
  refine parallel_choose h ⟨_, rfl⟩ (.cons (.option ?_) (.cons (.option ?_) .nil))
  · intro _ _ h
    apply Parallel.emit
    apply Parallel.read (h.lookUpDevice _ _)
    intro device
    apply Parallel.emit
    exact .pure rfl
  · intro _ _ h
    apply Parallel.emit
    apply Parallel.emit
    apply Parallel.read (h.int _)
    intro divisor
    exact .pure rfl

theorem parallel_i2c (h : c.Alike d) (key user username : String) :
    Parallel Eq (i2c c key user username) (i2c d key user username) := by
  unfold i2c
  refine parallel_choose h ⟨_, rfl⟩ (.cons (.option ?_) .nil)
  intro _ _ h
  apply Parallel.emit
  apply Parallel.read (h.lookUpDevice _ _)
  intro device
  apply Parallel.emit
  apply Parallel.read (h.int _)
  intro divisor
  apply Parallel.read (h.number _)
  intro freq
  apply (parallel_declareNumber _ freq).andThen
  intro freqName
  exact .pure rfl

theorem parallel_eeprom (h : c.Alike d) (key user : String) :
    Parallel Eq (eeprom c key user) (eeprom d key user) := by
  unfold eeprom
  refine parallel_choose h ⟨_, rfl⟩
      (.cons (.option ?_) (.cons (.option ?_) (.cons (.option ?_) .nil)))
  · intro _ _ h
    apply Parallel.emit
    apply (parallel_i2c h _ _ _).andThen
    intro bus
    apply Parallel.read (h.int _)
    intro address
    apply Parallel.read (h.int _)
    intro size
    apply Parallel.read (h.int _)
    intro blockSize
    apply Parallel.read (h.number _)
    intro timeout
    apply (parallel_declareNumber _ timeout).andThen
    intro timeoutName
    exact .pure rfl
  · intro _ _ h
    apply Parallel.emit
    apply Parallel.read (h.int _)
    intro size
    apply Parallel.read (h.int _)
    intro blockSize
    exact .pure rfl
  · intro _ _ h
    apply Parallel.emit
    apply Parallel.emit
    apply Parallel.read (h.int _)
    intro blockSize
    exact .pure rfl

theorem parallel_sdCardReader (h : c.Alike d) (key user : String) :
    Parallel Eq (sdCardReader c key user) (sdCardReader d key user) := by
  unfold sdCardReader
  refine parallel_choose h ⟨_, rfl⟩ (.cons (.option ?_) .nil)
  intro _ _ h
  apply Parallel.emit
  apply (parallel_pin h _).andThen
  intro selectPin
  apply (parallel_spi h _ _).andThen
  intro bus
  exact .pure rfl

theorem parallel_cardParser (h : c.Alike d) : Parallel Eq (cardParser c) (cardParser d) := by
  unfold cardParser
  refine parallel_choose h ⟨_, rfl⟩ (.cons (.option ?_) (.cons (.option ?_) .nil))
  · intro _ _ h
    apply Parallel.read (h.int _)
    intro parts
    exact .pure rfl
  · intro _ _ h
    apply Parallel.read (h.int _)
    intro parts
    exact .pure rfl

theorem parallel_sdCard (h : c.Alike d) (key : String) :
    Parallel Eq (sdCard c key) (sdCard d key) := by
  unfold sdCard
  refine parallel_choose h ⟨_, rfl⟩ (.cons (.option ?_) (.cons (.option ?_) .nil))
  · intro _ _ _
    exact .pure rfl
  · intro _ _ h
    apply (parallel_sdCardReader h _ _).andThen
    intro reader
    apply (parallel_cardParser h).andThen
    intro parser
    apply Parallel.read (h.int _)
    intro baseSize
    apply Parallel.read (h.int _)
    intro commandSize
    exact .pure rfl

theorem parallel_configStore (h : c.Alike d) (user : String) :
    Parallel Eq (configStore c user) (configStore d user) := by
  unfold configStore
  refine parallel_choose h ⟨_, rfl⟩ (.cons (.option ?_) (.cons (.option ?_) .nil))
  · intro _ _ _
    exact .pure rfl
  · intro _ _ h
    apply Parallel.emit
    apply (parallel_eeprom h _ _).andThen
    intro memory
    apply Parallel.read (h.int _)
    intro first
    apply Parallel.read (h.int _)
    intro last
    exact .pure rfl

theorem parallel_configManager (h : c.Alike d) (key user : String) :
    Parallel Eq (configManager c key user) (configManager d key user) := by
  unfold configManager
  refine parallel_choose h ⟨_, rfl⟩ (.cons (.option ?_) (.cons (.option ?_) .nil))
  · intro _ _ _
    apply Parallel.emit
    exact .pure rfl
  · intro _ _ h
    apply Parallel.emit
    apply (parallel_configStore h user).andThen
    intro store
    exact .pure rfl

/-! ## §7. Serial ports. -/

theorem parallel_serialDriver (h : c.Alike d) (key user : String) :
    Parallel Eq (serialDriver c key user) (serialDriver d key user) := by
  unfold serialDriver
  refine parallel_choose h ⟨_, rfl⟩ (.cons (.option ?_) (.cons (.option ?_)
    (.cons (.option ?_) (.cons (.option ?_) .nil))))
  · intro _ _ _
    apply Parallel.emit
    apply Parallel.emit
    exact .pure rfl
  · intro _ _ _
    apply Parallel.emit
    apply Parallel.emit
    apply Parallel.emit
    apply Parallel.emit
    exact .pure rfl
  · intro _ _ _
    apply Parallel.emit
    apply Parallel.emit
    apply Parallel.emit
    exact .pure rfl
  · intro _ _ h
    apply Parallel.emit
    apply Parallel.emit
    apply Parallel.emit
    apply Parallel.emit
    apply Parallel.emit
    apply Parallel.read (h.bool _)
    intro doubleSpeed
    exact .pure rfl

theorem parallel_serialPort (h : c.Alike d) : Parallel Eq (serialPort c) (serialPort d) := by
  unfold serialPort
  apply Parallel.read (h.intConstant _)
  intro baudRate
  apply Parallel.read (h.intConstant _)
  intro receiveSize
  apply Parallel.read (h.intConstant _)
  intro sendSize
  apply Parallel.read (h.intConstant _)
  intro parts
  apply (parallel_serialDriver h _ _).andThen
  intro driver
  exact .pure rfl

/-! ## §8. The board. -/

/-- Parts of a board which are equal but for the place of the performance section. -/
structure BoardParts.Alike (b b' : BoardParts) : Prop where
  performance : b.performance.Alike b'.performance
  rest : { b with performance := b'.performance } = b'

theorem parallel_buildName (h : c.Alike d) : Parallel Eq (buildName c) (buildName d) := by
  unfold buildName
  apply Parallel.read (h.string _)
  intro name
  have hrest := Parallel.emit (.fill "BoardForBuild" (.text name)) (Parallel.pure (Eq.refl name))
  apply parallel_ite
  · exact Parallel.read (h.rejectAt _ _) fun _ => hrest
  · exact hrest

theorem Document.Cursor.Alike.imageFormat (h : c.Alike d) :
    Matches Eq (imageFormat c) (imageFormat d) := by
  unfold Board.imageFormat
  apply (h.string _).andThen
  intro name
  cases ImageFormat.ofName name with
  | ok f => exact .ok rfl
  | error v => exact h.rejectAt _ _

theorem parallel_includeHelpers (h : c.Alike d) (helpers : List String) :
    Parallel Eq (includeHelpers c helpers) (includeHelpers d helpers) := by
  induction helpers with
  | nil => exact .pure rfl
  | cons helper rest ih =>
      have hrest := Parallel.emit (.frameworkInclude ("board/" ++ helper ++ ".h")) ih
      unfold includeHelpers
      apply parallel_ite
      · exact Parallel.read (h.rejectAt _ _) fun _ => hrest
      · exact hrest

theorem parallel_setUpDrivers (h : c.Alike d) :
    Parallel Eq (setUpDrivers c) (setUpDrivers d) := by
  unfold setUpDrivers
  apply (parallel_setUpClock h _).andThen
  intro _
  apply (parallel_setUpPins h _).andThen
  intro _
  apply (parallel_watchdog h _ _).andThen
  intro watchdog
  apply (parallel_setUpAnalog h _).andThen
  intro _
  -- Whether there is a PWM module depends on the value alone.
  rw [h.has]
  apply parallel_ite
  · apply (parallel_setUpPwm h _).andThen
    intro _
    exact .pure rfl
  · exact .pure rfl

theorem parallel_registerHardware (h : c.Alike d) :
    Parallel Eq (registerHardware c) (registerHardware d) := by
  unfold registerHardware
  apply (parallel_registerList _ h _).andThen
  intro _
  apply (parallel_registerList _ h _).andThen
  intro _
  apply (parallel_registerList _ h _).andThen
  intro _
  exact parallel_registerList _ h _

theorem parallel_setUpServices (h : c.Alike d) (buildName : String) (imageFormat : ImageFormat)
    (watchdog : TypeExpr) :
    Parallel BoardParts.Alike (setUpServices c buildName imageFormat watchdog)
      (setUpServices d buildName imageFormat watchdog) := by
  unfold setUpServices
  apply (parallel_pin h _).andThen
  intro ledPin
  apply (parallel_useTimer h _ _ _).andThen
  intro eventTimer
  apply Parallel.readAlike (h.enter _)
  intro performance performance' hperformance
  apply Parallel.read (hperformance.identifier _)
  intro precision
  apply Parallel.emit
  apply Parallel.read (hperformance.number _)
  intro clearance
  apply Parallel.emit
  apply Parallel.readAlike (h.enter _)
  intro serialSection serialSection' hserial
  apply (parallel_serialPort hserial).andThen
  intro serial
  apply Parallel.readAlike (h.enter _)
  intro cardSection cardSection' hcard
  apply (parallel_sdCard hcard _).andThen
  intro sdCard
  apply Parallel.readAlike (h.enter _)
  intro managerSection managerSection' hmanager
  apply (parallel_configManager hmanager _ _).andThen
  intro configManager
  exact .pure ⟨hperformance, rfl⟩

/-- **One board in two documents** leaves the same to its printer. -/
theorem parallel_setUp (h : c.Alike d) :
    Parallel BoardParts.Alike (Board.setUp c) (Board.setUp d) := by
  rw [Board.setUp_eq, Board.setUp_eq]
  apply Parallel.readAlike (h.enter _)
  intro config config' hconfig
  apply (parallel_buildName hconfig).andThen
  intro buildName
  apply Parallel.read hconfig.imageFormat
  intro imageFormat
  apply (parallel_setUpPlatform hconfig _).andThen
  intro _
  apply Parallel.readAlike (hconfig.enter _)
  intro platform platform' hplatform
  apply (parallel_setUpDrivers hplatform).andThen
  intro watchdog
  apply Parallel.read (hconfig.strings _ _ _)
  intro helpers
  apply (parallel_includeHelpers hconfig helpers).andThen
  intro _
  apply (parallel_registerHardware h).andThen
  intro _
  exact parallel_setUpServices h _ _ _

end PrinterFirmware
