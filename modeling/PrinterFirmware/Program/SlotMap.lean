/-
  PrinterFirmware.Program.SlotMap
  ───────────────────────────────
  **THE TEXT OF EVERY SLOT.**

  A finished program is a text for each named slot of a source template.  The
  entries are kept in ascending order of their names, each name once.
-/
import PrinterFirmware.Ascending

namespace PrinterFirmware

/-- Slot texts, in ascending order of the slot names. -/
structure SlotMap where
  entries : List (String × String)
  deriving DecidableEq, Repr

namespace SlotMap

/-- The text of a slot. -/
def get? (m : SlotMap) (slot : String) : Option String := m.entries.lookup slot

def contains (m : SlotMap) (slot : String) : Bool := (m.get? slot).isSome

def size (m : SlotMap) : Nat := m.entries.length

def isEmpty (m : SlotMap) : Bool := m.entries.isEmpty

/-- The slots, in ascending order. -/
def slots (m : SlotMap) : List String := m.entries.map (·.1)

/-- The map of a list of slots with their texts; of two texts for one slot the later
one counts. -/
def ofEntries (entries : List (String × String)) : SlotMap := ⟨Ascending.mapOf entries⟩

end SlotMap

end PrinterFirmware
