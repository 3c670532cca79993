/-
  PrinterFirmware.Board.AnalogDriver
  ──────────────────────────────────
  **DRIVERS OF ANALOG INPUTS.**

  The driver of the analog inputs lists every pin in use, so its resource can
  only be written once the whole description has been read.  Until then the chosen
  driver is kept with its parameters.
-/
import PrinterFirmware.Program.Item

namespace PrinterFirmware

/-- A driver of analog inputs. -/
inductive AnalogDriver where
  | at91Sam (params : TypeExpr)
  | mk20
  | avr
  deriving Repr

namespace AnalogDriver

/-- A pin, wrapped as the driver requires. -/
def pin (d : AnalogDriver) (name : String) : TypeExpr :=
  match d with
  | at91Sam _ => .inst "At91SamAdcSmoothPin" [.text name, .text "AdcSmoothing"]
  | mk20 | avr => .text name

/-- The expression of the driver on the given pins. -/
def expr (d : AnalogDriver) (pins : List String) : TypeExpr :=
  let pinList : TypeExpr := .list (pins.map d.pin)
  match d with
  | at91Sam params => .inst "At91SamAdc" [.text "MyContext", .text "Program", pinList, params]
  | mk20 => .inst "Mk20Adc" [.text "MyContext", .text "Program", pinList, .text "AdcADiv"]
  | avr =>
      .inst "AvrAdc"
        [.text "MyContext", .text "Program", pinList, .text "AdcRefSel", .text "AdcPrescaler"]

/-- The resource of the driver on the given pins. -/
def resource (d : AnalogDriver) (pins : List String) : Item :=
  .resource 20 "MyAdc" (d.expr pins) (some "Adc")

end AnalogDriver

end PrinterFirmware
