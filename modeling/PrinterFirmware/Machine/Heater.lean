/-
  PrinterFirmware.Machine.Heater
  ──────────────────────────────
  **HEATERS AND FANS.**

  A heater measures its temperature with a thermistor and controls it by a PWM
  output; a fan is a PWM output alone.  Both are named by letters, each in a scope
  of its own.  The options of the heater `E` begin with `EHeater`, and the
  constants of the fan `E` with `EFan`.
-/
import PrinterFirmware.Board.Analog
import PrinterFirmware.Board.Pwm
import PrinterFirmware.Document.Sequence
import PrinterFirmware.Machine.Options

namespace PrinterFirmware.Machine

open Document Build

def maxHeaters : Nat := 15

def maxFans : Nat := 15

/-- The settings by which a thermistor is converted to temperatures. -/
def thermistorSettings : List String := ["ResistorR", "R0", "Beta", "MinTemp", "MaxTemp"]

/-- The settings of the control loop. -/
def controlSettings : List String :=
  ["PidP", "PidI", "PidD", "PidIStateMin", "PidIStateMax", "PidDHistory"]

/-- The settings of the observer, which tells when a temperature is reached. -/
def observerSettings : List String := ["ObserverInterval", "ObserverTolerance", "ObserverMinTime"]

/-- The range of temperatures which a heater may have. -/
def safetySettings : List String := ["MinSafeTemp", "MaxSafeTemp"]

/-- The expressions through which the program reaches the PWM outputs of the
`i`-th heater and of the `i`-th fan. -/
def heaterOutputUser (i : Nat) : String := "MyPrinter::GetHeaterPwm<" ++ Numeral.ofNat i ++ ">"

@[inherit_doc heaterOutputUser]
def fanOutputUser (i : Nat) : String := "MyPrinter::GetFanPwm<" ++ Numeral.ofNat i ++ ">"

/-- The `i`-th heater. -/
def heater (c : Cursor) (i : Nat) : Build TypeExpr := do
  let letter ← claimLetter .heater c "Name"
  let stem := String.singleton letter ++ "Heater"
  let conversion ← c.enter "conversion"
  emit (.frameworkInclude "printer/thermistor/GenericThermistor.h")
  let thermistor ← numberOptions conversion (stem ++ "Temp") thermistorSettings
  let control ← c.enter "control"
  emit (.frameworkInclude "printer/temp_control/PidControl.h")
  let interval ← control.number "ControlInterval"
  let pid ← numberOptions control stem controlSettings
  let observer ← c.enter "observer"
  emit (.frameworkInclude "printer/TemperatureObserver.h")
  let observation ← numberOptions observer stem observerSettings
  let setCommand ← c.int "SetMCommand"
  let waitCommand ← c.int "WaitMCommand"
  let input ← Board.analogInput c "ThermistorInput"
  let safety ← numberOptions c stem safetySettings
  let intervalName ← declareOption (stem ++ "ControlInterval") interval
  let output ← Board.pwmOutput c "pwm_output" (heaterOutputUser i) stem
  return .inst "PrinterMainHeaterParams"
    ([.char letter, .int setCommand, .int waitCommand, input,
        .inst "GenericThermistorService" thermistor] ++ safety
      ++ [intervalName, .inst "PidControlService" pid,
          .inst "TemperatureObserverService" observation, output])

/-- The heaters of a configuration. -/
def heaters (config : Cursor) : Build TypeExpr :=
  withFreshLetters .heater (config.mapList "heaters" 0 maxHeaters heater)

/-- The `i`-th fan. -/
def fan (c : Cursor) (i : Nat) : Build TypeExpr := do
  let letter ← claimLetter .fan c "Name"
  let setCommand ← c.int "SetMCommand"
  let offCommand ← c.int "OffMCommand"
  let output ← Board.pwmOutput c "pwm_output" (fanOutputUser i) (String.singleton letter ++ "Fan")
  return .inst "PrinterMainFanParams"
    [.int setCommand, .int offCommand, .text "FanSpeedMultiply", output]

/-- The fans of a configuration. -/
def fans (config : Cursor) : Build TypeExpr :=
  withFreshLetters .fan (config.mapList "fans" 0 maxFans fan)

end PrinterFirmware.Machine
