/-
  PrinterFirmware.Board.Serial
  ────────────────────────────
  **SERIAL PORTS.**
-/
import PrinterFirmware.Build.Workspace

namespace PrinterFirmware.Board

open Document Build

/-- The driver of the serial port, chosen at `key`. -/
def serialDriver (c : Cursor) (key user : String) : Build TypeExpr :=
  c.choose key [
    .option "AsfUsbSerial" fun _ => do
      emit (.frameworkInclude "system/AsfUsbSerial.h")
      emit (.initCall 0 "udc_start();")
      return .text "AsfUsbSerialService",
    .option "At91Sam3xSerial" fun _ => do
      emit (.frameworkInclude "system/At91Sam3xSerial.h")
      emit (.frameworkInclude "system/NewlibDebugWrite.h")
      emit (.interrupt ("AMBRO_AT91SAM3X_SERIAL_GLOBAL(" ++ user ++ ", MyContext())"))
      emit (.code 0 ("APRINTER_SETUP_NEWLIB_DEBUG_WRITE(At91Sam3xSerial_DebugWrite<" ++ user
        ++ ">, MyContext())"))
      return .text "At91Sam3xSerialService",
    .option "TeensyUsbSerial" fun _ => do
      emit (.frameworkInclude "system/TeensyUsbSerial.h")
      emit (.code 0 "extern \"C\" \x7b void usb_init (void); \x7d")
      emit (.initCall 0 "usb_init();")
      return .text "TeensyUsbSerialService",
    .option "AvrSerial" fun serial => do
      emit (.frameworkInclude "system/AvrSerial.h")
      emit (.frameworkInclude "system/AvrDebugWrite.h")
      emit (.interrupt ("AMBRO_AVR_SERIAL_ISRS(" ++ user ++ ", MyContext())"))
      emit (.code 0 ("APRINTER_SETUP_AVR_DEBUG_WRITE(AvrSerial_DebugPutChar<" ++ user
        ++ ">, MyContext())"))
      emit (.initCall (-2) "aprinter_init_avr_debug_write();")
      let doubleSpeed ← serial.bool "DoubleSpeed"
      return .inst "AvrSerialService" [.bool doubleSpeed]]

/-- The serial port of the section `c`. -/
def serialPort (c : Cursor) : Build TypeExpr := do
  let baudRate ← c.intConstant "BaudRate"
  let receiveSize ← c.intConstant "RecvBufferSizeExp"
  let sendSize ← c.intConstant "SendBufferSizeExp"
  let parts ← c.intConstant "GcodeMaxParts"
  let driver ← serialDriver c "Service" "MyPrinter::GetSerial"
  return .inst "PrinterMainSerialParams"
    [.text ("UINT32_C(" ++ baudRate ++ ")"), .text receiveSize, .text sendSize,
      .inst "GcodeParserParams" [.text parts], driver]

end PrinterFirmware.Board
