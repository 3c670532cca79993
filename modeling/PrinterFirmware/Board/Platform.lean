/-
  PrinterFirmware.Board.Platform
  ──────────────────────────────
  **PLATFORMS.**

  The platform of a board brings the support headers of its microcontroller family
  and the calls which start it up.
-/
import PrinterFirmware.Build.Workspace

namespace PrinterFirmware.Board

open Document Build

/-- Sets up the platform chosen at `key`. -/
def setUpPlatform (c : Cursor) (key : String) : Build Unit :=
  c.choose key [
    .option "At91Sam3x8e" fun _ => do
      emit (.platformInclude "aprinter/platform/at91sam3x/at91sam3x_support.h")
      emit (.initCall (-1) "platform_init();"),
    .option "Teensy3" fun _ =>
      emit (.platformInclude "aprinter/platform/teensy3/teensy3_support.h"),
    .options ["AVR ATmega2560", "AVR ATmega1284p"] fun _ _ => do
      emit (.platformInclude "avr/io.h")
      emit (.platformInclude "aprinter/platform/avr/avr_support.h")
      emit (.initCall (-3) "sei();")]

end PrinterFirmware.Board
