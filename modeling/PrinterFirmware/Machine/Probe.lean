/-
  PrinterFirmware.Machine.Probe
  ─────────────────────────────
  **THE BED PROBE.**
-/
import PrinterFirmware.Board.Pin
import PrinterFirmware.Machine.Options

namespace PrinterFirmware.Machine

open Document Build

/-- The largest number of probing points. -/
def maxProbePoints : Nat := 20

/-- The settings of a probe; the first two are its offset. -/
def probeOffset : List String := ["OffsetX", "OffsetY"]

/-- The settings of a probe after its offset. -/
def probeSettings : List String :=
  ["StartHeight", "LowHeight", "RetractDist", "MoveSpeed", "FastSpeed", "RetractSpeed", "SlowSpeed"]

/-- Declares probing points, the first of which has number `i`. -/
def probePoints (i : Nat) : List Cursor → Build (List TypeExpr)
  | [] => return []
  | point :: rest => do
      let coordinates ← numberOptions point ("ProbeP" ++ Numeral.ofNat i) ["X", "Y"]
      let points ← probePoints (i + 1) rest
      return .list coordinates :: points

/-- The plane in which a probe moves, and the axis along which it probes. -/
def probeAxes : List TypeExpr :=
  [.list [.inst "WrapInt" [.char 'X'], .inst "WrapInt" [.char 'Y']], .char 'Z']

/-- The probe of the section `probe`. -/
def probeParams (probe : Cursor) : Build TypeExpr := do
  let offset ← numberOptions probe "Probe" probeOffset
  let settings ← numberOptions probe "Probe" probeSettings
  let pointNodes ← probe.objects "ProbePoints" 1 maxProbePoints
  let points ← probePoints 1 pointNodes
  let input ← Board.digitalInput probe "ProbePin"
  let invert ← probe.boolConstant "InvertInput"
  return .inst "PrinterMainProbeParams"
    (probeAxes ++ input ++ [.text invert, .list offset] ++ settings ++ [.list points])

/-- The probe of a configuration, if it has one. -/
def probe (config : Cursor) : Build TypeExpr := do
  let c ← config.enter "probe_config"
  c.choose "probe" [
    .option "NoProbe" fun _ => return .text "PrinterMainNoProbeParams",
    .option "Probe" probeParams]

end PrinterFirmware.Machine
