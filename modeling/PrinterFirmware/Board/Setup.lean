/-
  PrinterFirmware.Board.Setup
  ───────────────────────────
  **THE SECTION OF A BOARD.**

  The sections of a board are walked in a fixed order: the platform and its
  drivers, the helper headers, the declared objects, and then the services which
  the printer uses.
-/
import PrinterFirmware.Board.Analog
import PrinterFirmware.Board.Platform
import PrinterFirmware.Board.Pwm
import PrinterFirmware.Board.Serial
import PrinterFirmware.Board.Storage
import PrinterFirmware.Board.Watchdog

namespace PrinterFirmware.Board

open Document Build

/-- The largest number of helper headers. -/
def maxHelpers : Nat := 20

/-- Reads the name of the board in the build, and fills its slot. -/
def buildName (config : Cursor) : Build String := do
  let name ← config.string "board_for_build"
  if !Naming.isWord name then
    (config.rejectAt "board_for_build" (.badFormat "expected a word") : Reading Unit)
  emit (.fill "BoardForBuild" (.text name))
  return name

/-- Reads the format of the firmware image. -/
def imageFormat (config : Cursor) : Reading ImageFormat := do
  let name ← config.string "output_type"
  match ImageFormat.ofName name with
  | .ok f => .ok f
  | .error v => config.rejectAt "output_type" v

/-- Includes the headers of helpers, up to the first one with a bad name. -/
def includeHelpers (config : Cursor) : List String → Build Unit
  | [] => pure ()
  | helper :: rest => do
      if !Naming.isWord helper then
        (config.rejectAt "board_helper_includes"
          (.badFormat ("invalid helper name '" ++ helper ++ "'")) : Reading Unit)
      emit (.frameworkInclude ("board/" ++ helper ++ ".h"))
      includeHelpers config rest

/-- Sets up the drivers of the section `platform`; gives the watchdog. -/
def setUpDrivers (platform : Cursor) : Build TypeExpr := do
  setUpClock platform "clock"
  setUpPins platform "pins"
  let watchdog ← watchdog platform "watchdog" "MyPrinter::GetWatchdog"
  setUpAnalog platform "adc"
  if platform.has "pwm" then setUpPwm platform "pwm"
  return watchdog

/-- Registers the objects which a board declares. -/
def registerHardware (board : Cursor) : Build Unit := do
  registerList .digitalInput board "digital_inputs"
  registerList .stepperPort board "stepper_ports"
  registerList .analogInput board "analog_inputs"
  registerList .pwmOutput board "pwm_outputs"

/-- Walks the section of a board. -/
def setUp (board : Cursor) : Build BoardParts := do
  let config ← board.enter "platform_config"
  let buildName ← buildName config
  let imageFormat ← imageFormat config
  setUpPlatform config "platform"
  let platform ← config.enter "platform"
  let watchdog ← setUpDrivers platform
  let helpers ← config.strings "board_helper_includes" 0 maxHelpers
  includeHelpers config helpers
  registerHardware board
  let ledPin ← pin board "LedPin"
  let eventTimer ← useTimer board "EventChannelTimer" "MyPrinter::GetEventChannelTimer"
    (some "EventChannelTimerClearance")
  let performance ← board.enter "performance"
  let precision ← performance.identifier "AxisDriverPrecisionParams"
  emit (.typeName "TheAxisDriverPrecisionParams" precision)
  let clearance ← performance.number "EventChannelTimerClearance"
  emit (.numberConstant "EventChannelTimerClearance" clearance)
  let serialSection ← board.enter "serial"
  let serial ← serialPort serialSection
  let cardSection ← board.enter "sdcard_config"
  let sdCard ← sdCard cardSection "sdcard"
  let managerSection ← board.enter "runtime_config"
  let configManager ← configManager managerSection "config_manager" "MyPrinter::GetConfigManager"
  return { buildName, imageFormat, performance, ledPin := .text ledPin, eventTimer, watchdog,
           serial, sdCard, configManager }

end PrinterFirmware.Board
