/-
  PrinterFirmware.Machine.Axis
  ────────────────────────────
  **AXES.**

  A stepper drives an axis through the port it references.  A machine with a
  coordinate transform also has virtual axes.  Steppers and virtual axes are named
  by letters of one scope, which begin the names of their options.
-/
import PrinterFirmware.Board.Pin
import PrinterFirmware.Board.Timer
import PrinterFirmware.Document.Sequence
import PrinterFirmware.Machine.Options

namespace PrinterFirmware.Machine

open Document Build

/-- The largest number of steppers. -/
def maxSteppers : Nat := 15

/-- The motions of homing. -/
def homingMotions : List String :=
  ["HomeFastMaxDist", "HomeRetractDist", "HomeSlowMaxDist",
   "HomeFastSpeed", "HomeRetractSpeed", "HomeSlowSpeed"]

/-- The motions of a stepper. -/
def stepperMotions : List String :=
  ["StepsPerUnit", "MinPos", "MaxPos", "MaxSpeed", "MaxAccel", "DistanceFactor",
   "CorneringDistance"]

/-- The motions of a virtual axis. -/
def virtualMotions : List String := ["MinPos", "MaxPos", "MaxSpeed"]

/-! ## §1. Steppers. -/

/-- The homing of the stepper of an axis. -/
def stepperHoming (stepper : Cursor) (letter : Char) : Build TypeExpr :=
  stepper.choose "homing" [
    .option "no_homing" fun _ => return .text "PrinterMainNoHomingParams",
    .option "homing" fun homing => do
      emit (.frameworkInclude "printer/AxisHomer.h")
      let direction ← boolOption homing letter "HomeDir"
      let endstop ← Board.digitalInput homing "HomeEndstopInput"
      let invert ← boolOption homing letter "HomeEndInvert"
      let motions ← numberOptions homing (String.singleton letter) homingMotions
      return .inst "PrinterMainHomingParams"
        [direction, .inst "AxisHomerService" (endstop ++ invert :: motions)]]

/-- The expression through which the program reaches the timer of the `i`-th
axis. -/
def axisTimerUser (i : Nat) : String := "MyPrinter::GetAxisTimer<" ++ Numeral.ofNat i ++ ">"

/-- The axis of the `i`-th stepper. -/
def stepper (c : Cursor) (i : Nat) : Build TypeExpr := do
  let letter ← claimLetter .axis c "Name"
  let port ← findObject .stepperPort c "stepper_port"
  emit (.frameworkInclude "driver/AxisDriver.h")
  let dirPin ← Board.pin port "DirPin"
  let stepPin ← Board.pin port "StepPin"
  let enablePin ← Board.pin port "EnablePin"
  let invertDir ← boolOption c letter "InvertDir"
  let motions ← numberOptions c (String.singleton letter) stepperMotions
  let homing ← stepperHoming c letter
  let cartesian ← c.bool "EnableCartesianSpeedLimit"
  let timer ← Board.useTimer port "StepperTimer" (axisTimerUser i) none
  return .inst "PrinterMainAxisParams"
    ([.char letter, .text dirPin, .text stepPin, .text enablePin, invertDir] ++ motions
      ++ [homing, .bool cartesian, .int 32,
          .inst "AxisDriverService" [timer, .text "TheAxisDriverPrecisionParams"],
          .text "PrinterMainNoMicroStepParams"])

/-- The steppers of a configuration. -/
def steppers (config : Cursor) : Build TypeExpr := config.mapList "steppers" 1 maxSteppers stepper

/-! ## §2. Virtual axes. -/

/-- The homing of a virtual axis. -/
def virtualHoming (axis : Cursor) (letter : Char) : Build TypeExpr :=
  axis.choose "homing" [
    .option "no_homing" fun _ => return .text "PrinterMainNoVirtualHomingParams",
    .option "homing" fun homing => do
      let endstop ← Board.digitalInput homing "HomeEndstopInput"
      let invert ← boolOption homing letter "HomeEndInvert"
      let direction ← boolOption homing letter "HomeDir"
      let motions ← numberOptions homing (String.singleton letter) homingMotions
      return .inst "PrinterMainVirtualHomingParams" (endstop ++ invert :: direction :: motions)]

/-- A virtual axis. -/
def virtualAxis (c : Cursor) (_ : Nat) : Build TypeExpr := do
  let letter ← claimLetter .axis c "Name"
  let motions ← numberOptions c (String.singleton letter) virtualMotions
  let homing ← virtualHoming c letter
  return .inst "PrinterMainVirtualAxisParams" (.char letter :: motions ++ [homing])

end PrinterFirmware.Machine
