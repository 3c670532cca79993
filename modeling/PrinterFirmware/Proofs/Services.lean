/-
  PrinterFirmware.Proofs.Services
  ───────────────────────────────
  **WHAT THE SERVICES OF A BOARD GIVE.**

  Buses, the EEPROM, the SD card, the configuration manager and the serial port.  As
  for the drivers, a relation for every walk says what each variant reads, gives and
  gains, and the theorem after it says that there is nothing else.
-/
import PrinterFirmware.Board.Serial
import PrinterFirmware.Board.Storage
import PrinterFirmware.Proofs.Drivers

namespace PrinterFirmware

open Document Naming Build Board

variable {document : Value} {x : Site document} {c : Cursor}

/-! ## §1. Buses. -/

/-- The device which is named in the section `c`, from a table of devices. -/
structure DeviceGives {α : Type} (c : Cursor) (devices : List (String × α)) (device : String)
    (a : α) : Prop where
  name : c.identifier "Device" = .ok device
  listed : devices.lookup device = some a

theorem honest_lookUpDevice {α : Type} (hc : c.In document) (devices : List (String × α))
    (what : String) :
    Honest document (lookUpDevice c devices what) fun r => DeviceGives c devices r.1 r.2 := by
  unfold lookUpDevice
  apply (hc.placed.honest_identifier "Device").self.bind
  intro device hgives
  obtain ⟨-, hdevice⟩ := hgives
  cases hl : devices.lookup device with
  | some a => exact honest_ok ⟨hdevice, hl⟩
  | none => exact honest_error (Or.inl ⟨c.value, hc.placed, hc.object⟩)

/-- The SPI bus at `key`, whose interrupt is bound to `user`. -/
inductive SpiGives (c : Cursor) (key user : String) : TypeExpr → Gain → Prop where
  | at91Sam {node : Cursor} {device binding : String} (hnode : c.Chosen key "At91SamSpi" node)
      (hdevice : DeviceGives node spiDevices device binding) :
      SpiGives c key user (.inst "At91SamSpiService" [.text device])
        (.ofItems [.frameworkInclude "system/At91SamSpi.h",
          .interrupt (binding ++ "(" ++ user ++ ", MyContext())")])
  | avr {node : Cursor} {divisor : Int} (hnode : c.Chosen key "AvrSpi" node)
      (hdivisor : node.int "SpeedDiv" = .ok divisor) :
      SpiGives c key user (.inst "AvrSpiService" [.int divisor])
        (.ofItems [.frameworkInclude "system/AvrSpi.h",
          .interrupt ("AMBRO_AVR_SPI_ISRS(" ++ user ++ ", MyContext())")])

theorem declares_spi (hc : c.In document) (key user : String) :
    Declares x [] (spi c key user) (SpiGives c key user) := by
  unfold spi
  refine .choose hc ⟨_, rfl⟩ (.option ?_ (.option ?_ .nil))
  · intro node hin hnode
    apply Declares.afterPlain rfl rfl
    apply Declares.read (honest_lookUpDevice hin _ _)
    rintro ⟨device, binding⟩ hdevice -
    apply Declares.afterPlain rfl rfl
    exact declares_pure (.at91Sam hnode hdevice)
  · intro node hin hnode
    refine Declares.afterPlain rfl rfl (Declares.afterPlain rfl rfl ?_)
    apply Declares.read (hin.placed.honest_int _)
    intro divisor _ hdivisor
    exact declares_pure (.avr hnode hdivisor)

/-- The I2C bus at `key`, whose interrupt is bound to `user`. -/
inductive I2cGives (c : Cursor) (key user username : String) : TypeExpr → Gain → Prop where
  | mk {node : Cursor} {device : String} {number : Nat} {divisor : Int} {freq : Binary64}
      (hnode : c.Chosen key "At91SamI2c" node) (hdevice : DeviceGives node i2cDevices device number)
      (hdivisor : node.int "Ckdiv" = .ok divisor) (hfreq : node.number "I2cFreq" = .ok freq) :
      I2cGives c key user username
        (.inst "At91SamI2cService" [.text device, .int divisor, .text (username ++ "I2cFreq")])
        (.ofItems [.frameworkInclude "system/At91SamI2c.h",
          .interrupt ("AMBRO_AT91SAM_I2C_GLOBAL(" ++ Numeral.ofNat number ++ ", " ++ user
            ++ ", MyContext())"),
          .numberConstant (username ++ "I2cFreq") freq])

theorem declares_i2c (hc : c.In document) (key user username : String) {t : Symbol}
    (ht : username ++ "I2cFreq" = t.name) :
    Declares x [t] (i2c c key user username) (I2cGives c key user username) := by
  unfold i2c
  refine .choose hc ⟨_, rfl⟩ (.option ?_ .nil)
  intro node hin hnode
  apply Declares.afterPlain rfl rfl
  apply Declares.read (honest_lookUpDevice hin _ _)
  rintro ⟨device, number⟩ hdevice -
  apply Declares.afterPlain rfl rfl
  apply Declares.read (hin.placed.honest_int _)
  intro divisor _ hdivisor
  apply Declares.read (hin.placed.honest_number _)
  intro freq _ hfreq
  apply (declares_declareNumber freq ht).map
  intro _ _ hgives
  obtain ⟨rfl, rfl⟩ := hgives
  exact .mk hnode hdevice hdivisor hfreq

/-! ## §2. The EEPROM and the configuration manager. -/

/-- The EEPROM at `key`. -/
inductive EepromGives (c : Cursor) (key user : String) : TypeExpr → Gain → Prop where
  | i2c {node : Cursor} {bus : TypeExpr} {g : Gain} {address size blockSize : Int}
      {timeout : Binary64} (hnode : c.Chosen key "I2cEeprom" node)
      (hbus : I2cGives node "I2c" (user ++ "::GetI2c") "ConfigEeprom" bus g)
      (haddress : node.int "I2cAddr" = .ok address) (hsize : node.int "Size" = .ok size)
      (hblockSize : node.int "BlockSize" = .ok blockSize)
      (htimeout : node.number "WriteTimeout" = .ok timeout) :
      EepromGives c key user
        (.inst "I2cEepromService"
          [bus, .int address, .int size, .int blockSize, .text "ConfigEepromWriteTimeout"])
        (.ofItems [.frameworkInclude "devices/I2cEeprom.h"] ++ (g
          ++ .ofItems [.numberConstant "ConfigEepromWriteTimeout" timeout]))
  | teensy {node : Cursor} {size blockSize : Int} (hnode : c.Chosen key "TeensyEeprom" node)
      (hsize : node.int "Size" = .ok size) (hblockSize : node.int "FakeBlockSize" = .ok blockSize) :
      EepromGives c key user (.inst "TeensyEepromService" [.int size, .int blockSize])
        (.ofItems [.frameworkInclude "system/TeensyEeprom.h"])
  | avr {node : Cursor} {blockSize : Int} (hnode : c.Chosen key "AvrEeprom" node)
      (hblockSize : node.int "FakeBlockSize" = .ok blockSize) :
      EepromGives c key user (.inst "AvrEepromService" [.int blockSize])
        (.ofItems [.frameworkInclude "system/AvrEeprom.h",
          .interrupt ("AMBRO_AVR_EEPROM_ISRS(" ++ user ++ ", MyContext())")])

/-- The symbols of the EEPROM. -/
def storePlain : List Symbol := storeSymbols.map .plain

theorem declares_eeprom (hc : c.In document) (key user : String) :
    Declares x storePlain (eeprom c key user) (EepromGives c key user) := by
  unfold eeprom
  -- Only a store on a bus declares anything.
  refine .choose hc ⟨_, rfl⟩ (.option ?_ (.option ?_ (.option ?_ .nil)))
  · intro node hin hnode
    apply Declares.afterPlain rfl rfl
    have hname : "ConfigEeprom" ++ "I2cFreq" = (Symbol.plain "ConfigEepromI2cFreq").name := by decide
    apply (declares_i2c hin _ _ _ hname).cons
    intro bus g hbus
    apply Declares.read (hin.placed.honest_int _)
    intro address _ haddress
    apply Declares.read (hin.placed.honest_int _)
    intro size _ hsize
    apply Declares.read (hin.placed.honest_int _)
    intro blockSize _ hblockSize
    apply Declares.read (hin.placed.honest_number _)
    intro timeout _ htimeout
    apply (declares_declareNumber timeout rfl).map
    intro _ _ hgives
    obtain ⟨rfl, rfl⟩ := hgives
    exact .i2c hnode hbus haddress hsize hblockSize htimeout
  · intro node hin hnode
    refine Declares.sublist (L := []) ?_ (by simp)
    apply Declares.afterPlain rfl rfl
    apply Declares.read (hin.placed.honest_int _)
    intro size _ hsize
    apply Declares.read (hin.placed.honest_int _)
    intro blockSize _ hblockSize
    exact declares_pure (.teensy hnode hsize hblockSize)
  · intro node hin hnode
    refine Declares.sublist (L := []) ?_ (by simp)
    refine Declares.afterPlain rfl rfl (Declares.afterPlain rfl rfl ?_)
    apply Declares.read (hin.placed.honest_int _)
    intro blockSize _ hblockSize
    exact declares_pure (.avr hnode hblockSize)

/-- The store of the configuration manager `manager`. -/
inductive StoreGives (manager : Cursor) (user : String) : TypeExpr → Gain → Prop where
  | none {node : Cursor} (hnode : manager.Chosen "ConfigStore" "NoStore" node) :
      StoreGives manager user (.text "RuntimeConfigManagerNoStoreService") ∅
  | eeprom {node : Cursor} {memory : TypeExpr} {g : Gain} {first last : Int}
      (hnode : manager.Chosen "ConfigStore" "EepromConfigStore" node)
      (hmemory : EepromGives node "Eeprom" (user ++ "::GetStore<>::GetEeprom") memory g)
      (hfirst : node.int "StartBlock" = .ok first) (hlast : node.int "EndBlock" = .ok last) :
      StoreGives manager user (.inst "EepromConfigStoreService" [memory, .int first, .int last])
        (.ofItems [.frameworkInclude "printer/config_store/EepromConfigStore.h"] ++ g)

theorem declares_configStore (hc : c.In document) (user : String) :
    Declares x storePlain (configStore c user) (StoreGives c user) := by
  unfold configStore
  refine .choose hc ⟨_, rfl⟩ (.option ?_ (.option ?_ .nil))
  · intro node _ hnode
    exact declares_pure (.none hnode)
  · intro node hin hnode
    apply Declares.afterPlain rfl rfl
    rw [← List.append_nil storePlain]
    apply (declares_eeprom hin _ _).bind
    intro memory g hmemory
    apply Declares.read (hin.placed.honest_int _)
    intro first _ hfirst
    apply Declares.read (hin.placed.honest_int _)
    intro last _ hlast
    apply declares_pure
    rw [Gain.append_empty]
    exact .eeprom hnode hmemory hfirst hlast

/-- The configuration manager at `key`. -/
inductive ManagerGives (c : Cursor) (key user : String) : TypeExpr → Gain → Prop where
  | constant {node : Cursor} (hnode : c.Chosen key "ConstantConfigManager" node) :
      ManagerGives c key user (.text "ConstantConfigManagerService")
        (.ofItems [.frameworkInclude "printer/config_manager/ConstantConfigManager.h"])
  | runtime {node : Cursor} {store : TypeExpr} {g : Gain}
      (hnode : c.Chosen key "RuntimeConfigManager" node) (hstore : StoreGives node user store g) :
      ManagerGives c key user (.inst "RuntimeConfigManagerService" [store])
        (.ofItems [.frameworkInclude "printer/config_manager/RuntimeConfigManager.h"] ++ g)

theorem declares_configManager (hc : c.In document) (key user : String) :
    Declares x storePlain (configManager c key user) (ManagerGives c key user) := by
  unfold configManager
  refine .choose hc ⟨_, rfl⟩ (.option ?_ (.option ?_ .nil))
  · intro node _ hnode
    apply Declares.afterPlain rfl rfl
    exact declares_pure (.constant hnode)
  · intro node hin hnode
    apply Declares.afterPlain rfl rfl
    apply (declares_configStore hin user).map
    intro store g hstore
    exact .runtime hnode hstore

/-! ## §3. The SD card. -/

/-- The SD card reader at `key`. -/
inductive ReaderGives (x : Site document) (c : Cursor) (key user : String) :
    TypeExpr → Gain → Prop where
  | mk {node : Cursor} {selectPin : String} {bus : TypeExpr} {g : Gain}
      (hnode : c.Chosen key "SpiSdCard" node) (hpin : x.PinAt node "SsPin" selectPin)
      (hbus : SpiGives node "SpiService" (user ++ "::GetSpi") bus g) :
      ReaderGives x c key user (.inst "SpiSdCardService" [.text selectPin, bus])
        (.ofItems [.frameworkInclude "devices/SpiSdCard.h"] ++ g)

theorem declares_sdCardReader (hx : .pinNames ∈ x.kinds) (hc : c.In document)
    (key user : String) :
    Declares x [] (sdCardReader c key user) (ReaderGives x c key user) := by
  unfold sdCardReader
  refine .choose hc ⟨_, rfl⟩ (.option ?_ .nil)
  intro node hin hnode
  apply Declares.afterPlain rfl rfl
  apply (declares_pin hx hin _).andThen
  intro selectPin _ hgives
  obtain ⟨hpin, rfl⟩ := hgives
  apply (declares_spi hin _ _).map
  intro bus g hbus
  exact .mk hnode hpin hbus

/-- The parser of the G-code on a card: its template and its parameters. -/
inductive ParserGives (card : Cursor) : List TypeExpr → Prop where
  | text {node : Cursor} {parts : Int} (hnode : card.Chosen "GcodeParser" "TextGcodeParser" node)
      (hparts : node.int "MaxParts" = .ok parts) :
      ParserGives card [.text "FileGcodeParser", .inst "GcodeParserParams" [.int parts]]
  | binary {node : Cursor} {parts : Int}
      (hnode : card.Chosen "GcodeParser" "BinaryGcodeParser" node)
      (hparts : node.int "MaxParts" = .ok parts) :
      ParserGives card [.text "BinaryGcodeParser", .inst "BinaryGcodeParserParams" [.int parts]]

theorem declares_cardParser (hc : c.In document) :
    Declares x [] (cardParser c) fun es g => ParserGives c es ∧ g = ∅ := by
  unfold cardParser
  refine .choose hc ⟨_, rfl⟩ (.option ?_ (.option ?_ .nil))
  · intro node hin hnode
    apply Declares.read (hin.placed.honest_int _)
    intro parts _ hparts
    exact declares_pure ⟨.text hnode hparts, rfl⟩
  · intro node hin hnode
    apply Declares.read (hin.placed.honest_int _)
    intro parts _ hparts
    exact declares_pure ⟨.binary hnode hparts, rfl⟩

/-- The SD card at `key`. -/
inductive CardGives (x : Site document) (c : Cursor) (key : String) : TypeExpr → Gain → Prop where
  | none {node : Cursor} (hnode : c.Chosen key "NoSdCard" node) :
      CardGives x c key (.text "PrinterMainNoSdCardParams") ∅
  | card {node : Cursor} {reader : TypeExpr} {parser : List TypeExpr} {g : Gain}
      {baseSize commandSize : Int} (hnode : c.Chosen key "SdCard" node)
      (hreader : ReaderGives x node "SdCardService" "MyPrinter::GetSdCard<>" reader g)
      (hparser : ParserGives node parser) (hbaseSize : node.int "BufferBaseSize" = .ok baseSize)
      (hcommandSize : node.int "MaxCommandSize" = .ok commandSize) :
      CardGives x c key
        (.inst "PrinterMainSdCardParams" (reader :: parser ++ [.int baseSize, .int commandSize])) g

theorem declares_sdCard (hx : .pinNames ∈ x.kinds) (hc : c.In document) (key : String) :
    Declares x [] (sdCard c key) (CardGives x c key) := by
  unfold sdCard
  refine .choose hc ⟨_, rfl⟩ (.option ?_ (.option ?_ .nil))
  · intro node _ hnode
    exact declares_pure (.none hnode)
  · intro node hin hnode
    apply (declares_sdCardReader hx hin _ _).andThen
    intro reader g hreader
    apply (declares_cardParser hin).andThen
    intro parser _ hgives
    obtain ⟨hparser, rfl⟩ := hgives
    apply Declares.read (hin.placed.honest_int _)
    intro baseSize _ hbaseSize
    apply Declares.read (hin.placed.honest_int _)
    intro commandSize _ hcommandSize
    apply declares_pure
    rw [Gain.append_empty, Gain.append_empty]
    exact .card hnode hreader hparser hbaseSize hcommandSize

/-! ## §4. The serial port. -/

/-- The driver of the serial port at `key`. -/
inductive SerialDriverGives (c : Cursor) (key user : String) : TypeExpr → List Item → Prop where
  | usb {node : Cursor} (hnode : c.Chosen key "AsfUsbSerial" node) :
      SerialDriverGives c key user (.text "AsfUsbSerialService")
        [.frameworkInclude "system/AsfUsbSerial.h", .initCall 0 "udc_start();"]
  | at91Sam {node : Cursor} (hnode : c.Chosen key "At91Sam3xSerial" node) :
      SerialDriverGives c key user (.text "At91Sam3xSerialService")
        [.frameworkInclude "system/At91Sam3xSerial.h", .frameworkInclude "system/NewlibDebugWrite.h",
          .interrupt ("AMBRO_AT91SAM3X_SERIAL_GLOBAL(" ++ user ++ ", MyContext())"),
          .code 0 ("APRINTER_SETUP_NEWLIB_DEBUG_WRITE(At91Sam3xSerial_DebugWrite<" ++ user
            ++ ">, MyContext())")]
  | teensy {node : Cursor} (hnode : c.Chosen key "TeensyUsbSerial" node) :
      SerialDriverGives c key user (.text "TeensyUsbSerialService")
        [.frameworkInclude "system/TeensyUsbSerial.h",
          .code 0 "extern \"C\" \x7b void usb_init (void); \x7d", .initCall 0 "usb_init();"]
  | avr {node : Cursor} {doubleSpeed : Bool} (hnode : c.Chosen key "AvrSerial" node)
      (hdoubleSpeed : node.bool "DoubleSpeed" = .ok doubleSpeed) :
      SerialDriverGives c key user (.inst "AvrSerialService" [.bool doubleSpeed])
        [.frameworkInclude "system/AvrSerial.h", .frameworkInclude "system/AvrDebugWrite.h",
          .interrupt ("AMBRO_AVR_SERIAL_ISRS(" ++ user ++ ", MyContext())"),
          .code 0 ("APRINTER_SETUP_AVR_DEBUG_WRITE(AvrSerial_DebugPutChar<" ++ user
            ++ ">, MyContext())"),
          .initCall (-2) "aprinter_init_avr_debug_write();"]

theorem declares_serialDriver (hc : c.In document) (key user : String) :
    Declares x [] (serialDriver c key user) fun e g => ∃ items,
      SerialDriverGives c key user e items ∧ g = .ofItems items := by
  unfold serialDriver
  refine .choose hc ⟨_, rfl⟩ (.option ?_ (.option ?_ (.option ?_ (.option ?_ .nil))))
  · intro node _ hnode
    refine Declares.afterPlain rfl rfl (Declares.afterPlain rfl rfl ?_)
    exact declares_pure ⟨_, .usb hnode, rfl⟩
  · intro node _ hnode
    refine Declares.afterPlain rfl rfl (Declares.afterPlain rfl rfl ?_)
    refine Declares.afterPlain rfl rfl (Declares.afterPlain rfl rfl ?_)
    exact declares_pure ⟨_, .at91Sam hnode, rfl⟩
  · intro node _ hnode
    refine Declares.afterPlain rfl rfl (Declares.afterPlain rfl rfl ?_)
    apply Declares.afterPlain rfl rfl
    exact declares_pure ⟨_, .teensy hnode, rfl⟩
  · intro node hin hnode
    refine Declares.afterPlain rfl rfl (Declares.afterPlain rfl rfl ?_)
    refine Declares.afterPlain rfl rfl (Declares.afterPlain rfl rfl ?_)
    apply Declares.afterPlain rfl rfl
    apply Declares.read (hin.placed.honest_bool _)
    intro doubleSpeed _ hdoubleSpeed
    exact declares_pure ⟨_, .avr hnode hdoubleSpeed, rfl⟩

/-- The serial port of the section `c`. -/
inductive SerialGives (c : Cursor) : TypeExpr → List Item → Prop where
  | mk {baudRate receiveSize sendSize parts : String} {driver : TypeExpr} {items : List Item}
      (hbaudRate : c.intConstant "BaudRate" = .ok baudRate)
      (hreceiveSize : c.intConstant "RecvBufferSizeExp" = .ok receiveSize)
      (hsendSize : c.intConstant "SendBufferSizeExp" = .ok sendSize)
      (hparts : c.intConstant "GcodeMaxParts" = .ok parts)
      (hdriver : SerialDriverGives c "Service" "MyPrinter::GetSerial" driver items) :
      SerialGives c
        (.inst "PrinterMainSerialParams"
          [.text ("UINT32_C(" ++ baudRate ++ ")"), .text receiveSize, .text sendSize,
            .inst "GcodeParserParams" [.text parts], driver]) items

theorem declares_serialPort (hc : c.In document) :
    Declares x [] (serialPort c) fun e g => ∃ items, SerialGives c e items
      ∧ g = .ofItems items := by
  unfold serialPort
  apply Declares.read (hc.placed.honest_intConstant _)
  intro baudRate _ hbaudRate
  apply Declares.read (hc.placed.honest_intConstant _)
  intro receiveSize _ hreceiveSize
  apply Declares.read (hc.placed.honest_intConstant _)
  intro sendSize _ hsendSize
  apply Declares.read (hc.placed.honest_intConstant _)
  intro parts _ hparts
  apply (declares_serialDriver hc _ _).map
  intro driver _ hgives
  obtain ⟨items, hdriver, rfl⟩ := hgives
  exact ⟨items, .mk hbaudRate hreceiveSize hsendSize hparts hdriver, rfl⟩

end PrinterFirmware
