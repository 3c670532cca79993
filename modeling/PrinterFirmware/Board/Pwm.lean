/-
  PrinterFirmware.Board.Pwm
  ─────────────────────────
  **PULSE WIDTH MODULATION.**

  A PWM output is driven by the pulses of an interrupt timer or by a PWM module of
  the microcontroller.
-/
import PrinterFirmware.Board.Pin
import PrinterFirmware.Board.Timer

namespace PrinterFirmware.Board

open Document Build

/-- Sets up the PWM module chosen at `key`, if there is one. -/
def setUpPwm (c : Cursor) (key : String) : Build Unit := do
  let driver ← c.choose key [
    .option "Disabled" fun _ => return none,
    .option "At91Sam3xPwm" fun pwm => do
      emit (.frameworkInclude "system/At91Sam3xPwm.h")
      let preA ← pwm.int "PreA"
      let divA ← pwm.int "DivA"
      let preB ← pwm.int "PreB"
      let divB ← pwm.int "DivB"
      return some (TypeExpr.inst "At91Sam3xPwm"
        [.text "MyContext", .text "Program",
          .inst "At91Sam3xPwmParams" [.int preA, .int divA, .int preB, .int divB]])]
  match driver with
  | some driver => emit (.resource 25 "MyPwm" driver (some "Pwm"))
  | none => pure ()

/-- The driver of a hardware PWM output, chosen at `HardPwmDriver`. -/
def hardPwmDriver (backend : Cursor) : Build TypeExpr :=
  backend.choose "HardPwmDriver" [
    .option "AvrClockPwm" fun driver => do
      let u ← compareUnit driver "oc_unit"
      let output ← pin driver "OutputPin"
      return .inst "AvrClockPwmService" [.text (ClockFamily.avrChannel u), .text output],
    .option "At91Sam3xPwmChannel" fun driver => do
      let prescaler ← driver.int "ChannelPrescaler"
      let period ← driver.int "ChannelPeriod"
      let number ← driver.int "ChannelNumber"
      let output ← pin driver "OutputPin"
      let signal ← driver.identifier "Signal"
      return .inst "At91Sam3xPwmChannelService"
        [.int prescaler, .int period, .int number, .text output, .text ("'" ++ signal ++ "'")]]

/-- Resolves the PWM output referenced at `key`.  `user` is the expression through
which the program reaches the owner of the output, and `username` begins the names
of the constants which are declared for it. -/
def pwmOutput (c : Cursor) (key user username : String) : Build TypeExpr := do
  let output ← findObject .pwmOutput c key
  output.choose "Backend" [
    .option "SoftPwm" fun backend => do
      emit (.frameworkInclude "printer/pwm/SoftPwm.h")
      let outputPin ← pin backend "OutputPin"
      let invert ← backend.bool "OutputInvert"
      let interval ← backend.number "PulseInterval"
      let intervalName ← declareNumber (username ++ "PulseInterval") interval
      let timer ← useTimer backend "Timer" (user ++ "::TheTimer") none
      return .inst "SoftPwmService" [.text outputPin, .bool invert, intervalName, timer],
    .option "HardPwm" fun backend => do
      emit (.frameworkInclude "printer/pwm/HardPwm.h")
      let driver ← hardPwmDriver backend
      return .inst "HardPwmService" [driver]]

end PrinterFirmware.Board
