/-
  PrinterFirmware.Proofs.Transform
  ────────────────────────────────
  **WHAT A COORDINATE TRANSFORM GIVES.**

  The virtual axes of a transform claim letters of the scope of the steppers; its
  steppers are looked up in the configuration and claim nothing.
-/
import Mathlib.Data.List.Forall2
import PrinterFirmware.Proofs.Axes

namespace PrinterFirmware

open Document Naming Build Machine

variable {document : Value} {x : Site document} {c : Cursor}

/-! ## §1. Steppers of a transform. -/

/-- A stepper which takes part in a transform: a stepper of the configuration which is
not subject to the cartesian speed limit. -/
inductive TransformStepperGives (config c : Cursor) : TypeExpr → Prop where
  | mk {l : Char} {target : Cursor} (hletter : c.letter "StepperName" = .ok l)
      (htarget : config.find "steppers" "Name" (String.singleton l) = .ok target)
      (hcartesian : target.bool "EnableCartesianSpeedLimit" = .ok false) :
      TransformStepperGives config c (.inst "WrapInt" [.char l])

theorem honest_transformStepper {config : Cursor} (hconfig : config.In document)
    (hc : c.In document) :
    Honest document (transformStepper config c) (TransformStepperGives config c) := by
  unfold transformStepper
  apply (hc.placed.honest_letter _).self.bind
  intro l hgives
  obtain ⟨-, hletter⟩ := hgives
  have hfind := hconfig.placed.honest_find "steppers" "Name" (String.singleton l)
  cases htarget : config.find "steppers" "Name" (String.singleton l) with
  | error e =>
      -- The stepper which is missing is reported where it is asked for.
      exact honest_error (Or.inl ⟨c.value, hc.placed, hc.object⟩)
  | ok target =>
      have hin := (hfind.value target htarget).placed
      apply (hin.honest_bool "EnableCartesianSpeedLimit").self.bind
      intro cartesian hgives
      obtain ⟨hplace, hread⟩ := hgives
      cases cartesian with
      | true => exact honest_error (Or.inr hplace)
      | false => exact honest_ok (.mk hletter htarget hread)

/-- The steppers of a transform, in numbered fields. -/
inductive TransformSteppersGive (config c : Cursor) : TypeExpr → Prop where
  | mk {nodes : List Cursor} {es : List TypeExpr}
      (hnodes : Fields c "DimensionCount" "Steppers" "TransformStepper" 1 maxDimensions nodes)
      (hes : List.Forall₂ (TransformStepperGives config) nodes es) :
      TransformSteppersGive config c (.list es)

/-- A walk over numbered fields which only looks at the document. -/
theorem declares_walkSteppers {config elems : Cursor} (hconfig : config.In document)
    (hin : elems.In document) (stem : String) (count i : Nat) :
    Declares x [] (Cursor.walkNumbered elems stem
      (fun stepper _ => (transformStepper config stepper : Reading TypeExpr)) i count)
      fun es g => (∃ nodes, nodes.length = count ∧ Numbered elems stem i nodes
        ∧ List.Forall₂ (TransformStepperGives config) nodes es) ∧ g = ∅ := by
  induction count generalizing i with
  | zero => exact declares_pure ⟨⟨[], rfl, .nil, .nil⟩, rfl⟩
  | succ count ih =>
      apply Declares.read (hin.placed.honest_enter _)
      intro node hnodeIn hnode
      apply Declares.read (honest_transformStepper hconfig hnodeIn)
      intro e he _
      apply (ih (i + 1)).map
      intro es _ hgives
      obtain ⟨⟨nodes, hlen, hnodes, hes⟩, rfl⟩ := hgives
      exact ⟨⟨node :: nodes, by rw [List.length_cons, hlen], .cons hnode hnodes, .cons he hes⟩, rfl⟩

theorem declares_transformSteppers {config : Cursor} (hconfig : config.In document)
    (hc : c.In document) :
    Declares x [] (c.mapNumbered "DimensionCount" "Steppers" "TransformStepper" 1 maxDimensions
      fun stepper _ => (transformStepper config stepper : Reading TypeExpr))
      fun e g => TransformSteppersGive config c e ∧ g = ∅ := by
  intro U w hw hL
  apply ends_fields hc (by decide) (by decide)
  intro n elems hin hfields
  apply (declares_walkSteppers hconfig hin _ n 0 U w hw hL).mono
  intro es w' hgives
  obtain ⟨⟨g, x', ⟨⟨⟨nodes, hlen, hnodes, hes⟩, rfl⟩, rfl⟩, hg, hw'⟩, hl⟩ := hgives
  exact ⟨⟨_, _, ⟨⟨.mk (hfields nodes hlen hnodes) hes, rfl⟩, rfl⟩, hg, hw'⟩, hl⟩

/-! ## §2. Types of transforms. -/

/-- The parameters of the type of the transform `c`. -/
inductive TransformTypeGives (c : Cursor) : TypeExpr → List Item → Prop where
  | coreXY (htag : c.string Cursor.tagKey = .ok "CoreXY") :
      TransformTypeGives c (.text "CoreXyTransformService")
        [.frameworkInclude "printer/transform/CoreXyTransform.h"]
  | delta {rod minSplit maxSplit : Binary64} {items : List Item}
      (htag : c.string Cursor.tagKey = .ok "Delta") (hrod : c.number "DiagnalRod" = .ok rod)
      (hoffsets : OptionsGive c "Delta" deltaOffsets items)
      (hminSplit : c.number "MinSplitLength" = .ok minSplit)
      (hmaxSplit : c.number "MaxSplitLength" = .ok maxSplit) :
      TransformTypeGives c
        (.inst "DeltaTransformService" (.text "DeltaDiagonalRod" :: optionNames "Delta" deltaOffsets
          ++ [.inst "DistanceSplitterParams"
            [.text "DeltaMinSplitLength", .text "DeltaMaxSplitLength"]]))
        (.frameworkInclude "printer/transform/DeltaTransform.h"
          :: .numberOption "DeltaDiagonalRod" rod :: (items
          ++ [.numberConstant "DeltaMinSplitLength" minSplit,
            .numberConstant "DeltaMaxSplitLength" maxSplit]))

/-- The symbols of the types of transforms. -/
def transformTypePlain : List Symbol :=
  .plain "DeltaDiagonalRod" :: (deltaOffsets.map fun f => .plain ("Delta" ++ f))
    ++ [.plain "DeltaMinSplitLength", .plain "DeltaMaxSplitLength"]

theorem declares_transformType {choice : Choice Workspace TypeExpr} {tag : String}
    (hc : c.In document) (htag : c.string Cursor.tagKey = .ok tag)
    (hchoice : Choice.ofClauses transformTypes = .ok choice) :
    Declares x transformTypePlain (c.chooseOn tag choice) fun e g => ∃ items,
      TransformTypeGives c e items ∧ g = .ofItems items := by
  refine Declares.chooseOn hc htag hchoice (.option ?_ (.option ?_ .nil))
  · rintro node rfl rfl
    refine Declares.sublist (L := []) ?_ (by simp)
    apply Declares.afterPlain rfl rfl
    exact declares_pure ⟨_, .coreXY htag, rfl⟩
  · rintro node rfl rfl
    apply Declares.afterPlain rfl rfl
    apply Declares.read (hc.placed.honest_number _)
    intro rod _ hrod
    apply (declares_declareOption rod rfl).cons
    intro _ _ hgives
    obtain ⟨rfl, rfl⟩ := hgives
    refine (declares_numberOptions hc "Delta" (fun f => .plain ("Delta" ++ f))
      fun _ _ => rfl).bind ?_
    intro _ _ hgives
    obtain ⟨rfl, items, hoffsets, rfl⟩ := hgives
    apply Declares.read (hc.placed.honest_number _)
    intro minSplit _ hminSplit
    apply (declares_declareNumber minSplit rfl).cons
    intro _ _ hgives
    obtain ⟨rfl, rfl⟩ := hgives
    apply Declares.read (hc.placed.honest_number _)
    intro maxSplit _ hmaxSplit
    apply (declares_declareNumber maxSplit rfl).map
    intro _ _ hgives
    obtain ⟨rfl, rfl⟩ := hgives
    refine ⟨_, .delta htag hrod hoffsets hminSplit hmaxSplit, ?_⟩
    ext1 <;> simp

/-! ## §3. Transforms. -/

/-- The transform of a configuration, from the letters in use to the letters which are
in use afterwards. -/
inductive TransformGives (x : Site document) (config : Cursor) (letters : List Char) :
    TypeExpr → Gain → List Char → Prop where
  | none {node : Cursor} (hnode : config.Chosen "transform" "NoTransform" node) :
      TransformGives x config letters (.text "PrinterMainNoTransformParams") ∅ letters
  | some {c : Cursor} {tag : String} {axisNodes : List Cursor} {axes : List TypeExpr}
      {steppers type : TypeExpr} {g : Gain} {segments : Binary64} {items : List Item}
      {after : List Char} (hnode : config.Chosen "transform" tag c)
      (haxisNodes : Fields c "DimensionCount" "CartesianAxes" "VirtualAxis" 1 maxDimensions
        axisNodes)
      (haxes : Things (fun c _ l => VirtualAxisGives x c l) letters 0 axisNodes axes g after)
      (hsteppers : TransformSteppersGive config c steppers)
      (hsegments : c.number "SegmentsPerSecond" = .ok segments)
      (htype : TransformTypeGives c type items) :
      TransformGives x config letters
        (.inst "PrinterMainTransformParams"
          [.list axes, steppers, .text "SegmentsPerSecond", type])
        (g ++ .ofItems (.numberConstant "SegmentsPerSecond" segments :: items)) after

/-- The symbols of transforms, their axes apart. -/
def transformPlain : List Symbol := .plain "SegmentsPerSecond" :: transformTypePlain

/-- **A transform claims the letters of its axes and uses the symbols of transforms.** -/
theorem claims_transform (hx : .pinNames ∈ x.kinds) (hc : c.In document) :
    Claims x .axis (· ∈ transformPlain) (transform c) (TransformGives x c) := by
  unfold transform
  refine Claims.choose hc ⟨_, rfl⟩ (.option ?_ (.otherwise ?_ .nil))
  · intro node _ hnode
    have hpure : Occupies x (· ∈ transformPlain)
        (pure (.text "PrinterMainNoTransformParams") : Build TypeExpr)
        fun e g => e = .text "PrinterMainNoTransformParams" ∧ g = ∅ :=
      (declares_pure ⟨rfl, rfl⟩).occupies (by decide) (by decide)
    apply (hpure.claims (by decide)).mono
    intro ls _ _ _ hgives
    obtain ⟨⟨rfl, rfl⟩, rfl⟩ := hgives
    exact .none hnode
  · intro tag node hin hnode
    unfold transformParams
    apply (Claims.mapNumbered (claims_virtualAxis hx) hin (by decide) (by decide)).bindOnly
    intro ls _ g ls' hgives
    obtain ⟨axisNodes, axes, haxisNodes, haxes, rfl⟩ := hgives
    -- The rest claims nothing any more.
    have hrest : Declares x transformPlain (do
        let steppers ← node.mapNumbered "DimensionCount" "Steppers" "TransformStepper" 1
          maxDimensions fun stepper _ => (transformStepper c stepper : Reading TypeExpr)
        let segments ← node.number "SegmentsPerSecond"
        let segmentsName ← declareNumber "SegmentsPerSecond" segments
        let choice ← Choice.ofClauses transformTypes
        let type ← node.chooseOn tag choice
        return TypeExpr.inst "PrinterMainTransformParams"
          [.list axes, steppers, segmentsName, type])
        fun e g' => TransformGives x c ls e (g ++ g') ls' := by
      apply (declares_transformSteppers hc hin).andThen
      intro steppers _ hgives
      obtain ⟨hsteppers, rfl⟩ := hgives
      apply Declares.read (hin.placed.honest_number _)
      intro segments _ hsegments
      apply (declares_declareNumber segments rfl).cons
      intro _ _ hgives
      obtain ⟨rfl, rfl⟩ := hgives
      apply (@declares_transformType _ _ _ _ _ hin hnode.tagged rfl).map
      intro type _ hgives
      obtain ⟨items, htype, rfl⟩ := hgives
      exact .some hnode haxisNodes haxes hsteppers hsegments htype
    apply ((hrest.occupies (by decide) (by decide)).claims (by decide)).mono
    rintro ls₁ e g' ls'' ⟨he, rfl⟩ rfl
    exact he

end PrinterFirmware
