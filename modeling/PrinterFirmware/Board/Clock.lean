/-
  PrinterFirmware.Board.Clock
  ───────────────────────────
  **THE CLOCK OF A BOARD.**

  The clock owns the hardware timers.  Timers can be configured one by one, on
  AVR boards; interrupt timers are claimed while the description is walked.  Once
  everything has been read, every timer which is claimed, or is the primary timer,
  and was not configured is used with default settings.  The finished clock lists
  its timers with the primary one first and the others by their digits.

  Nothing in the finished clock depends on the order or on the repetition of the
  claims.
-/
import PrinterFirmware.Document.Choice
import PrinterFirmware.Naming.Timer
import PrinterFirmware.Program.Item

namespace PrinterFirmware

open Document Naming

/-! ## §1. Families of clocks. -/

/-- The clock drivers of the supported microcontroller families. -/
inductive ClockFamily where
  | at91Sam3x
  | mk20
  | avr
  deriving DecidableEq, Repr

namespace ClockFamily

/-- The header which defines the driver. -/
def header : ClockFamily → String
  | at91Sam3x => "system/At91Sam3xClock.h"
  | mk20 => "system/Mk20Clock.h"
  | avr => "system/AvrClock.h"

/-- The template of the driver. -/
def driver : ClockFamily → String
  | at91Sam3x => "At91Sam3xClock"
  | mk20 => "Mk20Clock"
  | avr => "AvrClock"

/-- The field which holds the prescaler. -/
def prescalerKey : ClockFamily → String
  | at91Sam3x | mk20 => "prescaler"
  | avr => "PrescaleDivide"

/-- The grammar of the names of timers and output compare units. -/
def names : ClockFamily → TimerNames
  | at91Sam3x => ⟨"TC", none, 'A', 'C'⟩
  | mk20 => ⟨"FTM", some '_', '0', '9'⟩
  | avr => ⟨"TC", some '_', 'A', 'Z'⟩

/-- Whether timers can be configured one by one. -/
def hasConfiguredTimers : ClockFamily → Bool
  | avr => true
  | _ => false

/-- The name of an output compare unit of an AVR clock. -/
def avrChannel (u : CompareUnit) : String :=
  "AvrClockTcChannel" ++ String.singleton u.timer ++ String.singleton u.channel

/-- The service of an interrupt timer on an output compare unit. -/
def timerService (f : ClockFamily) (u : CompareUnit) (clearance : Option String) : TypeExpr :=
  let extra : List TypeExpr := clearance.toList.map .text
  match f with
  | at91Sam3x =>
      .inst "At91Sam3xClockInterruptTimerService"
        (.text ("At91Sam3xClockTC" ++ String.singleton u.timer)
          :: .text ("At91Sam3xClockComp" ++ String.singleton u.channel) :: extra)
  | mk20 =>
      .inst "Mk20ClockInterruptTimerService"
        (.text ("Mk20ClockFTM" ++ String.singleton u.timer)
          :: .text (String.singleton u.channel) :: extra)
  | avr => .inst "AvrClockInterruptTimerService" (.text (avrChannel u) :: extra)

/-- The code which binds the interrupt of an output compare unit to `user`. -/
def timerBinding (f : ClockFamily) (u : CompareUnit) (user : String) : String :=
  match f with
  | at91Sam3x =>
      "AMBRO_AT91SAM3X_CLOCK_INTERRUPT_TIMER_GLOBAL(At91Sam3xClockTC" ++ String.singleton u.timer
        ++ ", At91Sam3xClockComp" ++ String.singleton u.channel ++ ", " ++ user
        ++ ", MyContext())"
  | mk20 =>
      "AMBRO_MK20_CLOCK_INTERRUPT_TIMER_GLOBAL(Mk20ClockFTM" ++ String.singleton u.timer
        ++ ", " ++ String.singleton u.channel ++ ", " ++ user ++ ", MyContext())"
  | avr =>
      "AMBRO_AVR_CLOCK_INTERRUPT_TIMER_ISRS(" ++ String.singleton u.timer
        ++ ", " ++ String.singleton u.channel ++ ", " ++ user ++ ", MyContext())"

/-- A timer with default settings. -/
def defaultTimer (f : ClockFamily) (timer : Char) : TypeExpr :=
  match f with
  | at91Sam3x => .text ("At91Sam3xClockTC" ++ String.singleton timer)
  | mk20 => .inst "Mk20ClockFtmSpec" [.text ("Mk20ClockFTM" ++ String.singleton timer)]
  | avr => .inst "AvrClockTcSpec" [.text ("AvrClockTc" ++ String.singleton timer)]

/-- The code which binds the interrupt of a timer with default settings. -/
def defaultTimerBinding? (f : ClockFamily) (timer : Char) : Option String :=
  match f with
  | at91Sam3x =>
      some ("AMBRO_AT91SAM3X_CLOCK_TC" ++ String.singleton timer ++ "_GLOBAL(MyClock, MyContext())")
  | mk20 =>
      some ("AMBRO_MK20_CLOCK_FTM_GLOBAL(" ++ String.singleton timer ++ ", MyClock, MyContext())")
  | avr => none

/-- The code which binds the interrupts of the clock itself. -/
def clockBinding? (f : ClockFamily) (primary : Char) : Option String :=
  match f with
  | avr => some ("AMBRO_AVR_CLOCK_ISRS(" ++ String.singleton primary ++ ", MyClock, MyContext())")
  | _ => none

end ClockFamily

/-! ## §2. The clock of one board. -/

/-- The clock of a board, while its description is read. -/
structure Clock where
  family : ClockFamily
  /-- The text of the prescaler. -/
  prescaler : String
  primary : Char
  /-- The configured timers, in ascending order of their digits. -/
  configured : List (Char × TypeExpr)
  /-- The output compare units which have been claimed, in order. -/
  claims : List CompareUnit
  deriving Repr

namespace Clock

variable {σ : Type}

/-- Reads the name of a timer. -/
def readTimer (f : ClockFamily) (c : Cursor) (key : String) : Reading Char := do
  let name ← c.string key
  match f.names.timer? name with
  | some timer => .ok timer
  | none => c.rejectAt key (.badFormat "incorrect timer name")

/-- Reads the settings of a configured timer. -/
def readSettings (timer : Char) (c : Cursor) : Walk σ TypeExpr := do
  let mode ← c.choose "Mode" [
    .option "AvrClockTcModeClock" fun _ => return .text "AvrClockTcModeClock",
    .option "AvrClockTcMode8BitPwm" fun mode => do
      let divide ← mode.int "PrescaleDivide"
      return .inst "AvrClockTcMode8BitPwm" [.int divide],
    .option "AvrClockTcMode16BitPwm" fun mode => do
      let divide ← mode.int "PrescaleDivide"
      let top ← mode.int "TopVal"
      return .inst "AvrClockTcMode16BitPwm" [.int divide, .int top]]
  return .inst "AvrClockTcSpec" [.text ("AvrClockTc" ++ String.singleton timer), mode]

/-- Reads configured timers on top of those which have been read. -/
def readConfigured (f : ClockFamily) (timers : List (Char × TypeExpr)) :
    List Cursor → Walk σ (List (Char × TypeExpr))
  | [] => pure timers
  | c :: rest => do
      let timer ← readTimer f c "Timer"
      if (timers.lookup timer).isSome then
        (c.reject (.duplicateName "timer") : Reading Unit)
      let settings ← readSettings timer c
      readConfigured f (Ascending.put timer settings timers) rest

/-- The largest number of configured timers. -/
def maxConfigured : Nat := 20

/-- Reads the clock section of a description. -/
def read (f : ClockFamily) (c : Cursor) : Walk σ Clock := do
  let prescaler ← c.intConstant f.prescalerKey
  let configured ←
    if f.hasConfiguredTimers then do
      let timers ← c.objects "timers" 0 maxConfigured
      readConfigured f [] timers
    else pure []
  let primary ← readTimer f c "primary_timer"
  return { family := f, prescaler, primary, configured, claims := [] }

/-- Reads the name of an output compare unit. -/
def readUnit (clock : Clock) (c : Cursor) (key : String) : Reading CompareUnit := do
  let name ← c.string key
  match clock.family.names.unit? name with
  | some u => .ok u
  | none => c.rejectAt key (.badFormat "incorrect OC unit name")

/-- The clock with one more claim. -/
def claim (clock : Clock) (u : CompareUnit) : Clock := { clock with claims := clock.claims ++ [u] }

/-! ## §3. The finished clock. -/

/-- The timers which are needed, in ascending order. -/
def wanted (clock : Clock) : List Char :=
  Ascending.setOf (clock.primary :: clock.claims.map (·.timer))

/-- The timers which are needed and were not configured, in ascending order. -/
def unconfigured (clock : Clock) : List Char :=
  clock.wanted.filter fun timer => (clock.configured.lookup timer).isNone

/-- All timers with their settings, in ascending order. -/
def timers (clock : Clock) : List (Char × TypeExpr) :=
  clock.unconfigured.foldl (fun ts timer => Ascending.put timer (clock.family.defaultTimer timer) ts)
    clock.configured

/-- The settings of all timers, those of the primary one first. -/
def timerList (clock : Clock) : List TypeExpr :=
  ((clock.timers.filter (·.1 == clock.primary)) ++ clock.timers.filter (·.1 != clock.primary)).map
    (·.2)

/-- The expression of the clock. -/
def expr (clock : Clock) : TypeExpr :=
  .inst clock.family.driver
    [.text "MyContext", .text "Program", .text clock.prescaler, .list clock.timerList]

/-- What the finished clock contributes to the program. -/
def closingItems (clock : Clock) : List Item :=
  (clock.unconfigured.filterMap clock.family.defaultTimerBinding?).map Item.interrupt
    ++ (clock.family.clockBinding? clock.primary).toList.map Item.interrupt
    ++ [.fill "CLOCK" (.expr clock.expr (.indented 0))]

end Clock

end PrinterFirmware
