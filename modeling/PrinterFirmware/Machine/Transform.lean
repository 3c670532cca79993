/-
  PrinterFirmware.Machine.Transform
  ─────────────────────────────────
  **COORDINATE TRANSFORMS.**

  A transform moves virtual, cartesian axes by driving steppers which are not
  cartesian themselves.  Its axes and steppers are read first, whatever the
  transform is; then its tag decides on the parameters of its own.
-/
import PrinterFirmware.Machine.Axis

namespace PrinterFirmware.Machine

open Document Build

/-- The largest number of dimensions of a transform. -/
def maxDimensions : Nat := 3

/-- A stepper which takes part in a transform, by the letter at `StepperName`.
The configuration has to have a stepper of that letter, which is not subject to
the cartesian speed limit. -/
def transformStepper (config c : Cursor) : Reading TypeExpr := do
  let letter ← c.letter "StepperName"
  match config.find "steppers" "Name" (String.singleton letter) with
  | .error _ => c.reject (.invalid ("Unknown stepper '" ++ String.singleton letter ++ "' referenced"))
  | .ok target =>
      let cartesian ← target.bool "EnableCartesianSpeedLimit"
      if cartesian then
        target.rejectAt "EnableCartesianSpeedLimit"
          (.invalid "A stepper involved in a coordinate transform may not be cartesian")
      else .ok (.inst "WrapInt" [.char letter])

/-- The carriages of a delta machine. -/
def deltaOffsets : List String := ["SmoothRodOffset", "EffectorOffset", "CarriageOffset"]

/-- The types of transforms. -/
def transformTypes : List (Clause Workspace TypeExpr) := [
  .option "CoreXY" fun _ => do
    emit (.frameworkInclude "printer/transform/CoreXyTransform.h")
    return .text "CoreXyTransformService",
  .option "Delta" fun transform => do
    emit (.frameworkInclude "printer/transform/DeltaTransform.h")
    let rod ← transform.number "DiagnalRod"
    let rodName ← declareOption "DeltaDiagonalRod" rod
    let offsets ← numberOptions transform "Delta" deltaOffsets
    let minSplit ← transform.number "MinSplitLength"
    let minSplitName ← declareNumber "DeltaMinSplitLength" minSplit
    let maxSplit ← transform.number "MaxSplitLength"
    let maxSplitName ← declareNumber "DeltaMaxSplitLength" maxSplit
    return .inst "DeltaTransformService"
      (rodName :: offsets ++ [.inst "DistanceSplitterParams" [minSplitName, maxSplitName]])]

/-- A transform of any type, by its tag. -/
def transformParams (config : Cursor) (tag : String) (c : Cursor) : Build TypeExpr := do
  let axes ← c.mapNumbered "DimensionCount" "CartesianAxes" "VirtualAxis" 1 maxDimensions virtualAxis
  let steppers ← c.mapNumbered "DimensionCount" "Steppers" "TransformStepper" 1 maxDimensions
    fun stepper _ => transformStepper config stepper
  let segments ← c.number "SegmentsPerSecond"
  let segmentsName ← declareNumber "SegmentsPerSecond" segments
  let choice ← Choice.ofClauses transformTypes
  let type ← c.chooseOn tag choice
  return .inst "PrinterMainTransformParams" [axes, steppers, segmentsName, type]

/-- The transform of a configuration, if it has one. -/
def transform (config : Cursor) : Build TypeExpr :=
  config.choose "transform" [
    .option "NoTransform" fun _ => return .text "PrinterMainNoTransformParams",
    .otherwise (transformParams config)]

end PrinterFirmware.Machine
