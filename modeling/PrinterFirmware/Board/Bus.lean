/-
  PrinterFirmware.Board.Bus
  ─────────────────────────
  **SPI AND I2C BUSES.**

  The `user` of a bus is the expression through which the program reaches the
  object that owns it; the interrupts of the bus are bound to it.
-/
import PrinterFirmware.Build.Workspace

namespace PrinterFirmware.Board

open Document Build

/-- The SPI devices, with the macros which bind their interrupts. -/
def spiDevices : List (String × String) :=
  [("At91Sam3xSpiDevice", "AMBRO_AT91SAM3X_SPI_GLOBAL"),
   ("At91Sam3uSpiDevice", "AMBRO_AT91SAM3U_SPI_GLOBAL")]

/-- The I2C devices, with their numbers. -/
def i2cDevices : List (String × Nat) := [("At91SamI2cDevice1", 1)]

/-- Looks the device named at `Device` up in a table; `what` is the sort of the
device in messages. -/
def lookUpDevice {α : Type} (c : Cursor) (devices : List (String × α)) (what : String) :
    Reading (String × α) := do
  let device ← c.identifier "Device"
  match devices.lookup device with
  | some a => .ok (device, a)
  | none => c.reject (.invalid ("Incorrect " ++ what ++ " device"))

/-- The SPI bus chosen at `key`. -/
def spi (c : Cursor) (key user : String) : Build TypeExpr :=
  c.choose key [
    .option "At91SamSpi" fun spi => do
      emit (.frameworkInclude "system/At91SamSpi.h")
      let (device, binding) ← lookUpDevice spi spiDevices "SPI"
      emit (.interrupt (binding ++ "(" ++ user ++ ", MyContext())"))
      return .inst "At91SamSpiService" [.text device],
    .option "AvrSpi" fun spi => do
      emit (.frameworkInclude "system/AvrSpi.h")
      emit (.interrupt ("AMBRO_AVR_SPI_ISRS(" ++ user ++ ", MyContext())"))
      let divisor ← spi.int "SpeedDiv"
      return .inst "AvrSpiService" [.int divisor]]

/-- The I2C bus chosen at `key`.  Its frequency is declared as a constant whose
name begins with `username`. -/
def i2c (c : Cursor) (key user username : String) : Build TypeExpr :=
  c.choose key [
    .option "At91SamI2c" fun i2c => do
      emit (.frameworkInclude "system/At91SamI2c.h")
      let (device, number) ← lookUpDevice i2c i2cDevices "I2C"
      emit (.interrupt
        ("AMBRO_AT91SAM_I2C_GLOBAL(" ++ Numeral.ofNat number ++ ", " ++ user ++ ", MyContext())"))
      let divisor ← i2c.int "Ckdiv"
      let freq ← i2c.number "I2cFreq"
      let freqName ← declareNumber (username ++ "I2cFreq") freq
      return .inst "At91SamI2cService" [.text device, .int divisor, freqName]]

end PrinterFirmware.Board
