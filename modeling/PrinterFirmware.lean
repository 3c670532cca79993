import PrinterFirmware.Nix
import PrinterFirmware.Document.Format
import PrinterFirmware.Document.Choice
import PrinterFirmware.Document.Sequence
import PrinterFirmware.Naming.Timer
import PrinterFirmware.Naming.Pin
import PrinterFirmware.Program.Draft
import PrinterFirmware.Program.Emitter
import PrinterFirmware.Program.SlotDump
import PrinterFirmware.Program.MainTemplate
import PrinterFirmware.Build.Finish
import PrinterFirmware.Firmware
import PrinterFirmware.CommandLine.Destination
import PrinterFirmware.CommandLine.Folder
import PrinterFirmware.CommandLine.Run
import PrinterFirmware.Main
import PrinterFirmware.Proofs.Positions
import PrinterFirmware.Proofs.FinishedClock
import PrinterFirmware.Proofs.Independence
import PrinterFirmware.Proofs.ByteOrder
import PrinterFirmware.Proofs.Contribution
import PrinterFirmware.Proofs.Emission
import PrinterFirmware.Proofs.Rendering
import PrinterFirmware.Proofs.Composed
import PrinterFirmware.Proofs.Closing
import PrinterFirmware.Proofs.Reordered
import PrinterFirmware.Proofs.Following
import PrinterFirmware.Proofs.Rearrangement
import PrinterFirmware.Proofs.Filling
import PrinterFirmware.Proofs.Generation
import PrinterFirmware.Proofs.Pools
import PrinterFirmware.Proofs.UnitClaims
import PrinterFirmware.Proofs.Quoting
import PrinterFirmware.Proofs.ReadBack
import PrinterFirmware.Proofs.Outcome
import PrinterFirmware.Proofs.Declared
import PrinterFirmware.Proofs.Reached
import PrinterFirmware.Proofs.Readable
import PrinterFirmware.Proofs.Layouts
import PrinterFirmware.Proofs.SeventeenDigits
import PrinterFirmware.Proofs.Dispatch
import PrinterFirmware.Proofs.TransformLetters
import PrinterFirmware.Proofs.AnalogPins
import PrinterFirmware.Proofs.FixedWidth
import PrinterFirmware.Proofs.Grammars
import PrinterFirmware.Proofs.Indentation
import PrinterFirmware.Proofs.Locations
import PrinterFirmware.Proofs.Sequences
