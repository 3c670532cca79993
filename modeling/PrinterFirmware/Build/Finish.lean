/-
  PrinterFirmware.Build.Finish
  ────────────────────────────
  **FINISHING A BUILD.**

  When the document has been read, the deferred work is done, the latest first;
  then the facilities make their contributions, in the order of their registration;
  and then the program is rendered.  The first failure ends the build.  Deferred
  work still contributes items, but registers nothing any more.
-/
import PrinterFirmware.Build.Script

namespace PrinterFirmware.Build

open Document

/-- Does a piece of deferred work.  A script begins with no axis letter in use. -/
def performWork : Deferred → Build Unit
  | .analogDriver d => Board.finishAnalog d
  | .script root steps => withFreshLetters .axis (performAll root steps)

/-- Does pieces of deferred work in order. -/
def performWorks : List Deferred → Build Unit
  | [] => pure ()
  | d :: rest => do
      performWork d
      performWorks rest

/-- Lets facilities make their contributions in order. -/
def closeFacilities : List Facility → Build Unit
  | [] => pure ()
  | f :: rest => do
      emitAll f.closingItems
      closeFacilities rest

/-- Facilities contribute their items in order. -/
theorem closeFacilities_eq (fs : List Facility) :
    closeFacilities fs = emitAll (fs.flatMap Facility.closingItems) := by
  induction fs with
  | nil => rfl
  | cons g rest ih => rw [List.flatMap_cons, emitAll_append, closeFacilities, ih]

/-- Finishes a build and renders the program. -/
def finish : Build SlotMap := do
  let w ← get
  set { w with phase := .finishing, deferred := [] }
  performWorks w.deferred.reverse
  let w ← get
  closeFacilities w.facilities
  let w ← get
  w.draft.render

end PrinterFirmware.Build
