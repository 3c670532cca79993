/-
  PrinterFirmware.Machine.Printer
  ───────────────────────────────
  **THE PRINTER.**

  The section of the printer is walked after the section of its board, in a fixed
  order: advanced settings, probe, steppers, heaters, transform and fans.  The
  results, together with the parts of the board, are the parameters of the
  printer's resource.
-/
import PrinterFirmware.Machine.Heater
import PrinterFirmware.Machine.Probe
import PrinterFirmware.Machine.Transform

namespace PrinterFirmware.Machine

open Document Build

/-- The factor from the range of a fan command to that of a PWM output. -/
def fanSpeedFactor : Binary64 := .ofRatio false 1 255

/-- The factor from a speed per minute to one per second. -/
def speedLimitFactor : Binary64 := .ofRatio false 1 60

/-- Declares the advanced settings. -/
def advancedSettings (config : Cursor) : Build Unit := do
  emit (.frameworkInclude "printer/PrinterMain.h")
  emit (.numberConstant "FanSpeedMultiply" fanSpeedFactor)
  let advanced ← config.enter "advanced"
  let blink ← advanced.number "LedBlinkInterval"
  emit (.numberConstant "LedBlinkInterval" blink)
  let timeout ← advanced.number "ForceTimeout"
  emit (.numberOption "ForceTimeout" timeout)

/-- The sections of a machine, as expressions. -/
structure Sections where
  probe : TypeExpr
  steppers : TypeExpr
  heaters : TypeExpr
  transform : TypeExpr
  fans : TypeExpr

/-- Walks the sections of a machine. -/
def sections (config : Cursor) : Build Sections := do
  let probe ← probe config
  let (steppers, heaters, transform) ← withFreshLetters .axis do
    let steppers ← steppers config
    let heaters ← heaters config
    let transform ← transform config
    return (steppers, heaters, transform)
  let fans ← fans config
  return { probe, steppers, heaters, transform, fans }

/-- The parameters of the printer. -/
def printerParams (config : Cursor) (board : BoardParts) (s : Sections) : Build TypeExpr := do
  let inactive ← config.number "InactiveTime"
  let inactiveName ← declareOption "InactiveTime" inactive
  let speedLimitName ← declareNumber "SpeedLimitMultiply" speedLimitFactor
  let performance := board.performance
  let maxSteps ← performance.number "MaxStepsPerCycle"
  let maxStepsName ← declareOption "MaxStepsPerCycle" maxSteps
  let segmentBuffer ← performance.intConstant "StepperSegmentBufferSize"
  let eventBuffer ← performance.intConstant "EventChannelBufferSize"
  let lookaheadBuffer ← performance.intConstant "LookaheadBufferSize"
  let lookaheadCommit ← performance.intConstant "LookaheadCommitCount"
  let fpType ← performance.identifierWhere "FpType" fun t => t == "float" || t == "double"
  return .inst "PrinterMainParams"
    [board.serial, board.ledPin, .text "LedBlinkInterval", inactiveName, speedLimitName,
      maxStepsName, .text segmentBuffer, .text eventBuffer, .text lookaheadBuffer,
      .text lookaheadCommit, .text "ForceTimeout", .text fpType, board.eventTimer, board.watchdog,
      board.sdCard, s.probe, .text "PrinterMainNoCurrentParams", board.configManager,
      .text "ConfigList", s.steppers, s.transform, s.heaters, s.fans]

/-- Walks the section of a printer and contributes its resource. -/
def printer (config : Cursor) (board : BoardParts) : Build Unit := do
  advancedSettings config
  let sections ← sections config
  let params ← printerParams config board sections
  emit (.resource 30 "MyPrinter"
    (.inst "PrinterMain" [.text "MyContext", .text "Program", params]) none)
  emit (.fill "FastEventRoot" (.text "MyPrinter"))
  emit (.fill "EmergencyProvider" (.text "MyPrinter"))

end PrinterFirmware.Machine
