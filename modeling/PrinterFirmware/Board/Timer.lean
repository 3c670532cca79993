/-
  PrinterFirmware.Board.Timer
  ───────────────────────────
  **THE CLOCK AND ITS INTERRUPT TIMERS IN A BUILD.**

  The clock is registered once for the whole board.  A user of an interrupt timer
  claims an output compare unit of the clock: it receives the expression of the
  timer's service, and the interrupt of the unit is bound to it.
-/
import PrinterFirmware.Build.Workspace

namespace PrinterFirmware.Board

open Document Naming Build

/-- Sets up the clock chosen at `key`. -/
def setUpClock (c : Cursor) (key : String) : Build Unit := do
  let clock ← c.choose key [
    .option "At91Sam3xClock" (Clock.read .at91Sam3x),
    .option "Mk20Clock" (Clock.read .mk20),
    .option "AvrClock" (Clock.read .avr)]
  emit (.frameworkInclude clock.family.header)
  registerFacility (.clock clock)

/-- Reads the output compare unit named at `key`. -/
def compareUnit (c : Cursor) (key : String) : Build CompareUnit := do
  let clock ← Build.clock
  clock.readUnit c key

/-- Claims the output compare unit of the timer section `c`.  Gives the service of
the timer and the code which binds its interrupt to `user`. -/
def claimTimer (c : Cursor) (user : String) (clearance : Option String) :
    Build (TypeExpr × String) := do
  let clock ← Build.clock
  let u ← clock.readUnit c "oc_unit"
  modify (·.setFacility (.clock (clock.claim u)))
  return (clock.family.timerService u clearance, clock.family.timerBinding u user)

/-- Claims the interrupt timer at `key` for `user` and binds its interrupt. -/
def useTimer (c : Cursor) (key user : String) (clearance : Option String) : Build TypeExpr := do
  let timer ← c.enter key
  let (service, binding) ← claimTimer timer user clearance
  emit (.interrupt binding)
  return service

end PrinterFirmware.Board
