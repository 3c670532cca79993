/-
  PrinterFirmware.Build.Script
  ────────────────────────────
  **PERFORMING OPERATIONS AND SCRIPTS.**

  The meaning of every operation of a build, and of the steps of a script: a step
  finds its place in the document and performs its operation there.
-/
import PrinterFirmware.Board.Setup
import PrinterFirmware.Machine.Printer

namespace PrinterFirmware.Build

open Document

/-! ## §1. Operations. -/

/-- Contributes an item; constants and options answer with their names. -/
def contribute (item : Item) : Build Answer := do
  emit item
  match item with
  | .constant _ name _ | .option name _ _ => return .text name
  | _ => return .done

/-- The answer of an operation without a result. -/
def done (w : Build Unit) : Build Answer := do
  w
  return .done

/-- The answer of an operation whose result is an expression. -/
def answerExpr (w : Build TypeExpr) : Build Answer := do
  let e ← w
  return .expr e

/-- Performs an operation at the place `c` of the document `root`. -/
def perform (root c : Cursor) : Operation → Build Answer
  | .emit item => contribute item
  | .declareInt type name value =>
      match IntegerType.ofName type with
      | .ok t => contribute (.intConstant t name value)
      | .error v => return .refused v
  | .phase => return .phase (← get).phase
  | .registerList kind key => done (registerList kind c key)
  | .registerObjects kind nodes => do
      let cursors ← (nodes.mapM root.follow : Reading (List Cursor))
      done (registerObjects kind cursors)
  | .findObject kind key => do
      let node ← findObject kind c key
      return .place node.path
  | .registerAnalogPins pins => do
      registerFacility (.analogPins pins)
      return .texts pins
  | .analogPins => return .texts (← analogPins)
  | .addAnalogPin pin => do
      addAnalogPin pin
      return .texts (← analogPins)
  | .registerPinNames names => do
      registerFacility (.pinNames names)
      return .count names.length
  | .pinNames => return .pinNames (← pinNames)
  | .compareUnit key => return .compareUnit (← Board.compareUnit c key)
  | .claimTimer user clearance => do
      let (service, binding) ← Board.claimTimer c user clearance
      return .timer service binding
  | .defer steps => done (defer (.script root steps))
  | .claimLetter key => return .text (String.singleton (← claimLetter .axis c key))
  | .readInt key => do
      let _ ← c.int key
      return .done
  | .platform key => done (Board.setUpPlatform c key)
  | .clock key => done (Board.setUpClock c key)
  | .pins key => done (Board.setUpPins c key)
  | .analog key => done (Board.setUpAnalog c key)
  | .pwm key => done (Board.setUpPwm c key)
  | .watchdog key user => answerExpr (Board.watchdog c key user)
  | .spi key user => answerExpr (Board.spi c key user)
  | .i2c key user username => answerExpr (Board.i2c c key user username)
  | .eeprom key user => answerExpr (Board.eeprom c key user)
  | .serial key user => answerExpr (Board.serialDriver c key user)
  | .sdCard key user => answerExpr (Board.sdCardReader c key user)
  | .configManager key user => answerExpr (Board.configManager c key user)
  | .interruptTimer key user clearance => answerExpr (Board.useTimer c key user clearance)
  | .pwmOutput key user username => answerExpr (Board.pwmOutput c key user username)
  | .analogInput key => answerExpr (Board.analogInput c key)
  | .pin key => return .text (← Board.pin c key)
  | .digitalInput key => return .exprs (← Board.digitalInput c key)
  | .probe => answerExpr (Machine.probe c)
  | .steppers => answerExpr (Machine.steppers c)
  | .transform => answerExpr (Machine.transform c)
  | .heaters => answerExpr (Machine.heaters c)
  | .fans => answerExpr (Machine.fans c)
  | .board => return .board (← Board.setUp c)
  | .printer board => done (Machine.printer c board)

/-! ## §2. Steps and scripts. -/

/-- Performs a step on the document `root`. -/
def performStep (root : Cursor) : Script.Step → Build Answer
  | .mk descent operation _ => do
      let c ← root.follow descent
      perform root c operation

/-- Notes what a step of a deferred script answered. -/
def record (answer : Except Located Answer) : Build Unit :=
  modify fun w => { w with journal := w.journal ++ [answer] }

/-- Performs a step of a deferred script.  Unless the step is strict, a rejected
document is only noted. -/
def performDeferred (root : Cursor) (step : Script.Step) : Build Unit := fun w =>
  match performStep root step w with
  | .ok answer w => record (.ok answer) w
  | .error (.breach b) w => .error (.breach b) w
  | .error (.document e) w =>
      match step with
      | .mk _ _ true => .error (.document e) w
      | .mk _ _ false => record (.error e) w

/-- Performs the steps of a deferred script in order. -/
def performAll (root : Cursor) : List Script.Step → Build Unit
  | [] => pure ()
  | step :: rest => do
      performDeferred root step
      performAll root rest

end PrinterFirmware.Build
