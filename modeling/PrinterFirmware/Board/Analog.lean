/-
  PrinterFirmware.Board.Analog
  ────────────────────────────
  **ANALOG INPUTS.**

  Analog inputs are used all over a description, and their driver has to list the
  pins of all of them.  The driver is chosen early, the pins are collected as they
  are used, and the driver's resource is written when everything has been read.
-/
import PrinterFirmware.Board.Pin

namespace PrinterFirmware.Board

open Document Build

/-- A smoothing factor between zero and one in units of `2 ^ -16`, rounded down
and kept within sixteen bits. -/
def smoothingFactor (v : Binary64) : Int :=
  if v.isNaN then 0
  else if v.negative then 0
  else if v.isFinite then min (v.numerator * 65536 / v.denominator) 65535
  else 65535

/-- Sets up the driver of the analog inputs chosen at `key`. -/
def setUpAnalog (c : Cursor) (key : String) : Build Unit := do
  let driver ← c.choose key [
    .option "At91SamAdc" fun adc => do
      emit (.frameworkInclude "system/At91SamAdc.h")
      let freq ← adc.number "freq"
      emit (.numberConstant "AdcFreq" freq)
      let interval ← adc.number "avg_interval"
      emit (.numberConstant "AdcAvgInterval" interval)
      let smoothing ← adc.number "smoothing"
      emit (.intConstant .uint16 "AdcSmoothing" (smoothingFactor smoothing))
      emit (.interrupt "AMBRO_AT91SAM_ADC_GLOBAL(MyAdc, MyContext())")
      let startup ← adc.int "startup"
      let settling ← adc.int "settling"
      let tracking ← adc.int "tracking"
      let transfer ← adc.int "transfer"
      return .at91Sam (.inst "At91SamAdcParams"
        [.text "AdcFreq", .int startup, .int settling, .int tracking, .int transfer,
          .inst "At91SamAdcAvgParams" [.text "AdcAvgInterval"]]),
    .option "Mk20Adc" fun adc => do
      emit (.frameworkInclude "system/Mk20Adc.h")
      let divisor ← adc.int "AdcADiv"
      emit (.intConstant .int32 "AdcADiv" divisor)
      emit (.interrupt "AMBRO_MK20_ADC_ISRS(MyAdc, MyContext())")
      return AnalogDriver.mk20,
    .option "AvrAdc" fun adc => do
      emit (.frameworkInclude "system/AvrAdc.h")
      let reference ← adc.int "RefSel"
      emit (.intConstant .int32 "AdcRefSel" reference)
      let prescaler ← adc.int "Prescaler"
      emit (.intConstant .int32 "AdcPrescaler" prescaler)
      emit (.interrupt "AMBRO_AVR_ADC_ISRS(MyAdc, MyContext())")
      return .avr]
  registerFacility (.analogPins [])
  defer (.analogDriver driver)

/-- Resolves the analog input referenced at `key` and puts its pin into use. -/
def analogInput (c : Cursor) (key : String) : Build TypeExpr := do
  let input ← findObject .analogInput c key
  let name ← pin input "Pin"
  addAnalogPin name
  return .text name

/-- Writes the resource of the analog inputs. -/
def finishAnalog (d : AnalogDriver) : Build Unit := do
  let pins ← analogPins
  emit (d.resource pins)

end PrinterFirmware.Board
