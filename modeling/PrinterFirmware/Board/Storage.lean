/-
  PrinterFirmware.Board.Storage
  ─────────────────────────────
  **STORAGE AND THE CONFIGURATION MANAGER.**

  A printer reads G-code from an SD card and can keep its options in an EEPROM.
-/
import PrinterFirmware.Board.Bus
import PrinterFirmware.Board.Pin

namespace PrinterFirmware.Board

open Document Build

/-- The EEPROM chosen at `key`. -/
def eeprom (c : Cursor) (key user : String) : Build TypeExpr :=
  c.choose key [
    .option "I2cEeprom" fun eeprom => do
      emit (.frameworkInclude "devices/I2cEeprom.h")
      let bus ← i2c eeprom "I2c" (user ++ "::GetI2c") "ConfigEeprom"
      let address ← eeprom.int "I2cAddr"
      let size ← eeprom.int "Size"
      let blockSize ← eeprom.int "BlockSize"
      let timeout ← eeprom.number "WriteTimeout"
      let timeoutName ← declareNumber "ConfigEepromWriteTimeout" timeout
      return .inst "I2cEepromService" [bus, .int address, .int size, .int blockSize, timeoutName],
    .option "TeensyEeprom" fun eeprom => do
      emit (.frameworkInclude "system/TeensyEeprom.h")
      let size ← eeprom.int "Size"
      let blockSize ← eeprom.int "FakeBlockSize"
      return .inst "TeensyEepromService" [.int size, .int blockSize],
    .option "AvrEeprom" fun eeprom => do
      emit (.frameworkInclude "system/AvrEeprom.h")
      emit (.interrupt ("AMBRO_AVR_EEPROM_ISRS(" ++ user ++ ", MyContext())"))
      let blockSize ← eeprom.int "FakeBlockSize"
      return .inst "AvrEepromService" [.int blockSize]]

/-- The SD card reader chosen at `key`. -/
def sdCardReader (c : Cursor) (key user : String) : Build TypeExpr :=
  c.choose key [
    .option "SpiSdCard" fun card => do
      emit (.frameworkInclude "devices/SpiSdCard.h")
      let selectPin ← pin card "SsPin"
      let bus ← spi card "SpiService" (user ++ "::GetSpi")
      return .inst "SpiSdCardService" [.text selectPin, bus]]

/-- The parser of the G-code on an SD card, chosen at `GcodeParser`: its template
and its parameters, which are two arguments of the card. -/
def cardParser (card : Cursor) : Build (List TypeExpr) :=
  card.choose "GcodeParser" [
    .option "TextGcodeParser" fun parser => do
      let parts ← parser.int "MaxParts"
      return [.text "FileGcodeParser", .inst "GcodeParserParams" [.int parts]],
    .option "BinaryGcodeParser" fun parser => do
      let parts ← parser.int "MaxParts"
      return [.text "BinaryGcodeParser", .inst "BinaryGcodeParserParams" [.int parts]]]

/-- The SD card chosen at `key`, if there is one. -/
def sdCard (c : Cursor) (key : String) : Build TypeExpr :=
  c.choose key [
    .option "NoSdCard" fun _ => return .text "PrinterMainNoSdCardParams",
    .option "SdCard" fun card => do
      let reader ← sdCardReader card "SdCardService" "MyPrinter::GetSdCard<>"
      let parser ← cardParser card
      let baseSize ← card.int "BufferBaseSize"
      let commandSize ← card.int "MaxCommandSize"
      return .inst "PrinterMainSdCardParams" (reader :: parser ++ [.int baseSize, .int commandSize])]

/-- Where a configuration manager keeps its options, chosen at `ConfigStore`. -/
def configStore (manager : Cursor) (user : String) : Build TypeExpr :=
  manager.choose "ConfigStore" [
    .option "NoStore" fun _ => return .text "RuntimeConfigManagerNoStoreService",
    .option "EepromConfigStore" fun store => do
      emit (.frameworkInclude "printer/config_store/EepromConfigStore.h")
      let memory ← eeprom store "Eeprom" (user ++ "::GetStore<>::GetEeprom")
      let first ← store.int "StartBlock"
      let last ← store.int "EndBlock"
      return .inst "EepromConfigStoreService" [memory, .int first, .int last]]

/-- The configuration manager chosen at `key`, which either makes the options
constant or keeps them in memory, with or without a store behind. -/
def configManager (c : Cursor) (key user : String) : Build TypeExpr :=
  c.choose key [
    .option "ConstantConfigManager" fun _ => do
      emit (.frameworkInclude "printer/config_manager/ConstantConfigManager.h")
      return .text "ConstantConfigManagerService",
    .option "RuntimeConfigManager" fun manager => do
      emit (.frameworkInclude "printer/config_manager/RuntimeConfigManager.h")
      let store ← configStore manager user
      return .inst "RuntimeConfigManagerService" [store]]

end PrinterFirmware.Board
