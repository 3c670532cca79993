/-
  PrinterFirmware.Board.Watchdog
  ──────────────────────────────
  **WATCHDOGS.**
-/
import PrinterFirmware.Build.Workspace

namespace PrinterFirmware.Board

open Document Build

/-- The watchdog chosen at `key`, whose interrupt, if it has one, is bound to
`user`. -/
def watchdog (c : Cursor) (key user : String) : Build TypeExpr :=
  c.choose key [
    .option "At91SamWatchdog" fun watchdog => do
      emit (.frameworkInclude "system/At91SamWatchdog.h")
      let wdv ← watchdog.int "Wdv"
      return .inst "At91SamWatchdogService" [.int wdv],
    .option "Mk20Watchdog" fun watchdog => do
      emit (.frameworkInclude "system/Mk20Watchdog.h")
      emit (.interrupt ("AMBRO_MK20_WATCHDOG_GLOBAL(" ++ user ++ ")"))
      let toval ← watchdog.int "Toval"
      let prescval ← watchdog.int "Prescval"
      return .inst "Mk20WatchdogService" [.int toval, .int prescval],
    .option "AvrWatchdog" fun watchdog => do
      let timeout ← watchdog.string "Timeout"
      if !Naming.isWatchdogTimeout timeout then
        (watchdog.rejectAt "Timeout" (.badFormat "expected a WDTO_* constant") : Reading Unit)
      emit (.frameworkInclude "system/AvrWatchdog.h")
      emit (.interrupt "AMBRO_AVR_WATCHDOG_GLOBAL")
      return .inst "AvrWatchdogService" [.text timeout]]

end PrinterFirmware.Board
