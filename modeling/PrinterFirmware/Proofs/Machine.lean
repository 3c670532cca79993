/-
  PrinterFirmware.Proofs.Machine
  ──────────────────────────────
  **WHAT THE SECTION OF A PRINTER GIVES.**

  The probe, the sections of a machine in their order and the parameters of the
  printer.  `PrinterGives` says what the whole section contributes, the resource of
  the printer last.
-/
import PrinterFirmware.Machine.Printer
import PrinterFirmware.Proofs.Heaters
import PrinterFirmware.Proofs.Transform

namespace PrinterFirmware

open Document Naming Build Board Machine

variable {document : Value} {x : Site document} {c : Cursor}

/-! ## §1. The probe. -/

/-- Probing points, the first of which has number `i`. -/
inductive PointsGive : Nat → List Cursor → List TypeExpr → List Item → Prop where
  | nil {i : Nat} : PointsGive i [] [] []
  | cons {i : Nat} {point : Cursor} {rest : List Cursor} {es : List TypeExpr}
      {items items' : List Item}
      (hpoint : OptionsGive point ("ProbeP" ++ Numeral.ofNat i) ["X", "Y"] items)
      (hrest : PointsGive (i + 1) rest es items') :
      PointsGive i (point :: rest)
        (.list (optionNames ("ProbeP" ++ Numeral.ofNat i) ["X", "Y"]) :: es) (items ++ items')

/-- The symbols of `n` points, the first of which has number `i`. -/
def pointSymbols (i : Nat) : Nat → List Symbol
  | 0 => []
  | n + 1 => .point i "X" :: .point i "Y" :: pointSymbols (i + 1) n

theorem pointSymbols_sublist {n m : Nat} (h : n ≤ m) (i : Nat) :
    (pointSymbols i n).Sublist (pointSymbols i m) := by
  induction n generalizing i m with
  | zero => exact List.nil_sublist _
  | succ n ih =>
      obtain ⟨k, rfl⟩ : ∃ k, m = k + 1 := ⟨m - 1, by omega⟩
      exact ((ih (by omega) (i + 1)).cons_cons _).cons_cons _

theorem declares_probePoints {points : List Cursor} (hpoints : ∀ p ∈ points, p.In document)
    (i : Nat) :
    Declares x (pointSymbols i points.length) (probePoints i points) fun es g =>
      ∃ items, PointsGive i points es items ∧ g = .ofItems items := by
  induction points generalizing i with
  | nil => exact declares_pure ⟨[], .nil, rfl⟩
  | cons point rest ih =>
      unfold probePoints
      refine Declares.bind (K := ["X", "Y"].map (.point i)) (declares_numberOptions
        (hpoints point List.mem_cons_self) _ (.point i) fun _ _ => rfl) ?_
      intro _ _ hgives
      obtain ⟨rfl, items, hpoint, rfl⟩ := hgives
      refine (ih (fun p hp => hpoints p (List.mem_cons_of_mem point hp)) (i + 1)).map ?_
      intro es _ hgives
      obtain ⟨items', hrest, rfl⟩ := hgives
      exact ⟨items ++ items', .cons hpoint hrest, rfl⟩

/-- The probe of the section `probe`. -/
inductive ProbeParamsGive (x : Site document) (probe : Cursor) : TypeExpr → List Item → Prop where
  | mk {nodes : List Cursor} {points input : List TypeExpr} {invert : String}
      {offsetItems settingItems pointItems : List Item}
      (hoffset : OptionsGive probe "Probe" probeOffset offsetItems)
      (hsettings : OptionsGive probe "Probe" probeSettings settingItems)
      (hnodes : probe.objects "ProbePoints" 1 maxProbePoints = .ok nodes)
      (hpoints : PointsGive 1 nodes points pointItems)
      (hinput : DigitalInputGives x probe "ProbePin" input)
      (hinvert : probe.boolConstant "InvertInput" = .ok invert) :
      ProbeParamsGive x probe
        (.inst "PrinterMainProbeParams"
          (probeAxes ++ input ++ [.text invert, .list (optionNames "Probe" probeOffset)]
            ++ optionNames "Probe" probeSettings ++ [.list points]))
        (offsetItems ++ settingItems ++ pointItems)

/-- The probe of a configuration. -/
inductive ProbeGives (x : Site document) (config : Cursor) : TypeExpr → List Item → Prop where
  | none {c node : Cursor} (hc : config.enter "probe_config" = .ok c)
      (hnode : c.Chosen "probe" "NoProbe" node) :
      ProbeGives x config (.text "PrinterMainNoProbeParams") []
  | probe {c node : Cursor} {e : TypeExpr} {items : List Item}
      (hc : config.enter "probe_config" = .ok c) (hnode : c.Chosen "probe" "Probe" node)
      (h : ProbeParamsGive x node e items) : ProbeGives x config e items

/-- The symbols of probes. -/
def probePlain : List Symbol :=
  probeSymbols.map .plain ++ pointSymbols 1 maxProbePoints

theorem declares_probeParams (hx : .pinNames ∈ x.kinds) (hc : c.In document) :
    Declares x probePlain (probeParams c) fun e g => ∃ items, ProbeParamsGive x c e items
      ∧ g = .ofItems items := by
  have hsymbols : probePlain = (probeOffset.map fun f => .plain ("Probe" ++ f))
      ++ ((probeSettings.map fun f => .plain ("Probe" ++ f))
      ++ (pointSymbols 1 maxProbePoints ++ [])) := rfl
  rw [hsymbols]
  unfold probeParams
  refine (declares_numberOptions hc "Probe" (fun f => .plain ("Probe" ++ f))
    fun _ _ => rfl).bind ?_
  intro _ _ hgives
  obtain ⟨rfl, offsetItems, hoffset, rfl⟩ := hgives
  refine (declares_numberOptions hc "Probe" (fun f => .plain ("Probe" ++ f))
    fun _ _ => rfl).bind ?_
  intro _ _ hgives
  obtain ⟨rfl, settingItems, hsettings, rfl⟩ := hgives
  apply Declares.read (hc.placed.honest_objects _ _ _)
  rintro nodes ⟨hlen, hnodesIn⟩ hnodes
  apply ((declares_probePoints hnodesIn 1).sublist (pointSymbols_sublist hlen 1)).bind
  intro points _ hgives
  obtain ⟨pointItems, hpoints, rfl⟩ := hgives
  apply (declares_digitalInput hx hc _).andThen
  intro input _ hgives
  obtain ⟨hinput, rfl⟩ := hgives
  apply Declares.read (hc.placed.honest_boolConstant _)
  intro invert _ hinvert
  refine declares_pure ⟨_, .mk hoffset hsettings hnodes hpoints hinput hinvert, ?_⟩
  ext1 <;> simp

theorem declares_probe (hx : .pinNames ∈ x.kinds) (hc : c.In document) :
    Declares x probePlain (probe c) fun e g => ∃ items, ProbeGives x c e items
      ∧ g = .ofItems items := by
  unfold probe
  apply Declares.read (hc.placed.honest_enter _)
  intro section_ hin hsection
  refine .choose hin ⟨_, rfl⟩ (.option ?_ (.option ?_ .nil))
  · intro node _ hnode
    exact declares_pure ⟨[], .none hsection hnode, rfl⟩
  · intro node hin hnode
    apply (declares_probeParams hx hin).mono
    intro e _ hgives
    obtain ⟨items, h, rfl⟩ := hgives
    exact ⟨items, .probe hsection hnode h, rfl⟩

/-! ## §2. Advanced settings and parameters. -/

/-- The advanced settings of a configuration. -/
inductive AdvancedGives (config : Cursor) : List Item → Prop where
  | mk {advanced : Cursor} {blink timeout : Binary64}
      (hadvanced : config.enter "advanced" = .ok advanced)
      (hblink : advanced.number "LedBlinkInterval" = .ok blink)
      (htimeout : advanced.number "ForceTimeout" = .ok timeout) :
      AdvancedGives config
        [.frameworkInclude "printer/PrinterMain.h", .numberConstant "FanSpeedMultiply" fanSpeedFactor,
          .numberConstant "LedBlinkInterval" blink, .numberOption "ForceTimeout" timeout]

/-- The symbols of the advanced settings. -/
def advancedPlain : List Symbol := advancedSymbols.map .plain

theorem declares_advancedSettings (hc : c.In document) :
    Declares x advancedPlain (advancedSettings c) fun _ g => ∃ items, AdvancedGives c items
      ∧ g = .ofItems items := by
  unfold advancedSettings
  apply Declares.afterPlain rfl rfl
  apply Declares.afterSymbol rfl
  apply Declares.read (hc.placed.honest_enter _)
  intro advanced hin hadvanced
  apply Declares.read (hin.placed.honest_number _)
  intro blink _ hblink
  apply Declares.afterSymbol rfl
  apply Declares.read (hin.placed.honest_number _)
  intro timeout _ htimeout
  apply (declares_emit rfl).mono
  intro _ _ hgives
  subst hgives
  exact ⟨_, .mk hadvanced hblink htimeout, rfl⟩

/-- The parameters of the printer. -/
inductive ParamsGive (config : Cursor) (board : BoardParts) (s : Sections) :
    TypeExpr → List Item → Prop where
  | mk {inactive maxSteps : Binary64}
      {segmentBuffer eventBuffer lookaheadBuffer lookaheadCommit fpType : String}
      (hinactive : config.number "InactiveTime" = .ok inactive)
      (hmaxSteps : board.performance.number "MaxStepsPerCycle" = .ok maxSteps)
      (hsegmentBuffer : board.performance.intConstant "StepperSegmentBufferSize"
        = .ok segmentBuffer)
      (heventBuffer : board.performance.intConstant "EventChannelBufferSize" = .ok eventBuffer)
      (hlookaheadBuffer : board.performance.intConstant "LookaheadBufferSize"
        = .ok lookaheadBuffer)
      (hlookaheadCommit : board.performance.intConstant "LookaheadCommitCount"
        = .ok lookaheadCommit)
      (hfpType : board.performance.identifierWhere "FpType" (fun t => t == "float" || t == "double")
        = .ok fpType) :
      ParamsGive config board s
        (.inst "PrinterMainParams"
          [board.serial, board.ledPin, .text "LedBlinkInterval", .text "InactiveTime",
            .text "SpeedLimitMultiply", .text "MaxStepsPerCycle", .text segmentBuffer,
            .text eventBuffer, .text lookaheadBuffer, .text lookaheadCommit, .text "ForceTimeout",
            .text fpType, board.eventTimer, board.watchdog, board.sdCard, s.probe,
            .text "PrinterMainNoCurrentParams", board.configManager, .text "ConfigList", s.steppers,
            s.transform, s.heaters, s.fans])
        [.numberOption "InactiveTime" inactive,
          .numberConstant "SpeedLimitMultiply" speedLimitFactor,
          .numberOption "MaxStepsPerCycle" maxSteps]

/-- The symbols of the parameters of the printer. -/
def paramsPlain : List Symbol := printerSymbols.map .plain

theorem declares_printerParams {board : BoardParts} {s : Sections} (hc : c.In document)
    (hboard : board.performance.In document) :
    Declares x paramsPlain (printerParams c board s) fun e g => ∃ items,
      ParamsGive c board s e items ∧ g = .ofItems items := by
  unfold printerParams
  apply Declares.read (hc.placed.honest_number _)
  intro inactive _ hinactive
  apply (declares_declareOption inactive rfl).cons
  intro _ _ hgives
  obtain ⟨rfl, rfl⟩ := hgives
  apply (declares_declareNumber speedLimitFactor rfl).cons
  intro _ _ hgives
  obtain ⟨rfl, rfl⟩ := hgives
  apply Declares.read (hboard.placed.honest_number _)
  intro maxSteps _ hmaxSteps
  apply (declares_declareOption maxSteps rfl).cons
  intro _ _ hgives
  obtain ⟨rfl, rfl⟩ := hgives
  apply Declares.read (hboard.placed.honest_intConstant _)
  intro segmentBuffer _ hsegmentBuffer
  apply Declares.read (hboard.placed.honest_intConstant _)
  intro eventBuffer _ heventBuffer
  apply Declares.read (hboard.placed.honest_intConstant _)
  intro lookaheadBuffer _ hlookaheadBuffer
  apply Declares.read (hboard.placed.honest_intConstant _)
  intro lookaheadCommit _ hlookaheadCommit
  apply Declares.read (hboard.placed.honest_identifierWhere _ _)
  intro fpType _ hfpType
  exact declares_pure ⟨_, .mk hinactive hmaxSteps hsegmentBuffer heventBuffer hlookaheadBuffer
    hlookaheadCommit hfpType, rfl⟩

/-! ## §3. The sections of a machine. -/

/-- The sections of a machine; the axes of a transform come after the steppers in one
scope of letters. -/
inductive SectionsGive (x : Site document) (config : Cursor) : Sections → Gain → Prop where
  | mk {probe steppers heaters transform fans : TypeExpr} {probeItems : List Item}
      {stepperGain heaterGain transformGain fanGain : Gain} {stepperLetters letters : List Char}
      (hprobe : ProbeGives x config probe probeItems)
      (hsteppers : ListedThings (StepperGives x) config "steppers" 1 maxSteppers [] steppers
        stepperGain stepperLetters)
      (hheaters : HeatersGive x config heaters heaterGain)
      (htransform : TransformGives x config stepperLetters transform transformGain letters)
      (hfans : FansGive x config fans fanGain) :
      SectionsGive x config { probe, steppers, heaters, transform, fans }
        (.ofItems probeItems ++ ((stepperGain ++ (heaterGain ++ transformGain)) ++ fanGain))

/-- The symbols of the sections of a machine. -/
def SectionSymbol (t : Symbol) : Prop :=
  t ∈ probePlain ∨ t ∈ transformPlain ∨ t.scope?.isSome

theorem scope_of_mem_probePlain : ∀ t ∈ probePlain, t.scope? = none := by decide

theorem scope_of_mem_transformPlain : ∀ t ∈ transformPlain, t.scope? = none := by decide

theorem transformPlain_not_probe : ∀ t ∈ transformPlain, t ∉ probePlain := by decide

theorem nodup_probePlain : probePlain.Nodup := by decide

theorem valid_probePlain : ∀ t ∈ probePlain, t.Valid := by decide

/-- The facilities which the sections of a machine need. -/
structure Site.Equipped (x : Site document) : Prop where
  clock : .clock ∈ x.kinds
  pinNames : .pinNames ∈ x.kinds
  analogPins : .analogPins ∈ x.kinds

/-- The steppers, the heaters and the transform, in the scope of the axes. -/
inductive MovementGives (x : Site document) (config : Cursor) (letters : List Char) :
    TypeExpr × TypeExpr × TypeExpr → Gain → List Char → Prop where
  | mk {steppers heaters transform : TypeExpr} {stepperGain heaterGain transformGain : Gain}
      {between after : List Char}
      (hsteppers : ListedThings (StepperGives x) config "steppers" 1 maxSteppers letters steppers
        stepperGain between)
      (hheaters : HeatersGive x config heaters heaterGain)
      (htransform : TransformGives x config between transform transformGain after) :
      MovementGives x config letters (steppers, heaters, transform)
        (stepperGain ++ (heaterGain ++ transformGain)) after

theorem claims_movement (hx : x.Equipped) (hc : c.In document) :
    Claims x .axis (fun t => (False ∨ t.scope? = some .heater) ∨ t ∈ transformPlain) (do
      let steppers ← steppers c
      let heaters ← heaters c
      let transform ← transform c
      return (steppers, heaters, transform)) (MovementGives x c) := by
  unfold steppers
  refine (Claims.mapList (claims_stepper hx.clock hx.pinNames) hc "steppers" 1
    maxSteppers).bindOnly ?_
  intro ls steppers stepperGain between hsteppers
  have hheaters := occupies_heaters hx.clock hx.pinNames hx.analogPins hc
  -- Heaters declare in their own scope, and the transform outside all scopes.
  refine (hheaters.claims ?_).bind ?_ ?_ ?_
  · intro t hcase
    rcases hcase with hf | ht
    · exact hf.elim
    · rw [ht]
      decide
  · rintro t (hf | ht) hmem
    · exact hf
    · rw [scope_of_mem_transformPlain t hmem] at ht
      cases ht
  · intro t hcase
    rcases hcase with hf | ht
    · exact hf.elim
    · rw [ht]
      decide
  · intro ls₁ heaters heaterGain _ hgives
    obtain ⟨hheaters, rfl⟩ := hgives
    apply (claims_transform hx.pinNames hc).map
    rintro ls₂ transform transformGain after htransform rfl rfl
    exact .mk hsteppers hheaters htransform

/-- **The sections of a machine use the symbols of their things and settings.** -/
theorem occupies_sections (hx : x.Equipped) (hc : c.In document) :
    Occupies x SectionSymbol (sections c) (SectionsGive x c) := by
  unfold sections
  have hprobe := (declares_probe hx.pinNames hc).occupies nodup_probePlain valid_probePlain
  have hmovement := (claims_movement hx hc).fresh
  have hfans := occupies_fans hx.clock hx.pinNames hc
  refine Reaches.widen (Occupies.bind hprobe ?_ fun probe g hprobe =>
    hmovement.bind ?_ fun r g' hmoves => hfans.map ?_) ?_
  -- None of the later symbols belongs to the probe.
  · rintro t ((((hf | ht) | ht) | ht) | (hf | ht)) hmem
    · exact hf
    · rw [scope_of_mem_probePlain t hmem] at ht
      cases ht
    · exact transformPlain_not_probe t ht hmem
    · rw [scope_of_mem_probePlain t hmem] at ht
      cases ht
    · exact hf
    · rw [scope_of_mem_probePlain t hmem] at ht
      cases ht
  -- None of the symbols of fans has been used before them.
  · rintro t (hf | ht) (((hf' | ht') | ht') | ht')
    · exact hf
    · exact hf
    · exact hf
    · exact hf
    · exact hf'
    · rw [ht] at ht'
      cases ht'
    · rw [scope_of_mem_transformPlain t ht'] at ht
      cases ht
    · rw [ht] at ht'
      cases ht'
  · intro fans fanGain hfans
    obtain ⟨probeItems, hprobe, rfl⟩ := hprobe
    obtain ⟨letters, hmoves⟩ := hmoves
    cases hmoves with
    | mk hsteppers hheaters htransform => exact .mk hprobe hsteppers hheaters htransform hfans
  · intro t hcase
    rcases hcase with ht | ((((hf | ht) | ht) | ht) | (hf | ht))
    · exact Or.inl ht
    · exact hf.elim
    · exact Or.inr (Or.inr (by rw [ht]; rfl))
    · exact Or.inr (Or.inl ht)
    · exact Or.inr (Or.inr (by rw [ht]; rfl))
    · exact hf.elim
    · exact Or.inr (Or.inr (by rw [ht]; rfl))

/-! ## §4. The printer. -/

/-- The resource of the printer. -/
def printerResource (params : TypeExpr) : Item :=
  .resource 30 "MyPrinter" (.inst "PrinterMain" [.text "MyContext", .text "Program", params]) none

/-- What the section of a printer contributes. -/
inductive PrinterGives (x : Site document) (config : Cursor) (board : BoardParts) : Gain → Prop where
  | mk {s : Sections} {params : TypeExpr} {advancedItems paramItems : List Item} {g : Gain}
      (hadvanced : AdvancedGives config advancedItems) (hsections : SectionsGive x config s g)
      (hparams : ParamsGive config board s params paramItems) :
      PrinterGives x config board
        (.ofItems advancedItems ++ (g ++ .ofItems (paramItems ++ [printerResource params,
          .fill "FastEventRoot" (.text "MyPrinter"),
          .fill "EmergencyProvider" (.text "MyPrinter")])))

/-- The symbols of the section of a printer. -/
def PrinterSymbol (t : Symbol) : Prop :=
  t ∈ advancedPlain ∨ SectionSymbol t ∨ t ∈ paramsPlain ++ [.plain "MyPrinter"]

/-- The slots which the section of a printer fills. -/
def printerSlots : List String := ["FastEventRoot", "EmergencyProvider"]

theorem leads_printerResource {params : TypeExpr}
    (hslots : ∀ slot ∈ printerSlots, slot ∉ x.slots) :
    Leads x [.plain "MyPrinter"] (do
      emit (printerResource params)
      emit (.fill "FastEventRoot" (.text "MyPrinter"))
      emit (.fill "EmergencyProvider" (.text "MyPrinter"))) fun _ g x' =>
        g = .ofItems [printerResource params, .fill "FastEventRoot" (.text "MyPrinter"),
          .fill "EmergencyProvider" (.text "MyPrinter")]
        ∧ x' = { x with slots := x.slots ++ printerSlots } := by
  have hresource : (printerResource params).symbol? = some (Symbol.plain "MyPrinter").name := rfl
  have hfirst : "FastEventRoot" ∉ x.slots := hslots _ (by decide)
  have hsecond : "EmergencyProvider" ∉ x.slots ++ ["FastEventRoot"] := by
    simpa using hslots "EmergencyProvider" (by decide)
  apply Declares.leads (M := []) (declares_emit hresource)
  intro _ _ hgives
  subst hgives
  apply Leads.bind (K := []) (M := []) (leads_fill hfirst)
  intro _ _ _ hgives
  obtain ⟨rfl, rfl⟩ := hgives
  apply (leads_fill (x := { x with slots := x.slots ++ ["FastEventRoot"] }) hsecond).mono
  intro _ _ _ hgives
  obtain ⟨rfl, rfl⟩ := hgives
  refine ⟨rfl, ?_⟩
  simp [printerSlots]

/-- **The section of a printer contributes its resource on the site of the board.** -/
theorem reaches_printer {board : BoardParts} (hx : x.Equipped) (hc : c.In document)
    (hboard : board.performance.In document) (hslots : ∀ slot ∈ printerSlots, slot ∉ x.slots) :
    Reaches x PrinterSymbol (printer c board) fun _ g x' => PrinterGives x c board g
      ∧ x' = { x with slots := x.slots ++ printerSlots } := by
  unfold printer
  have hadvanced := (declares_advancedSettings (x := x) hc).occupies (by decide) (by decide)
  refine Reaches.bind (T := fun t => SectionSymbol t ∨ t ∈ paramsPlain ++ [.plain "MyPrinter"])
    hadvanced ?_ ?_
  -- The settings come first; no later symbol is one of theirs.
  · have hprobe : ∀ t ∈ probePlain, t ∉ advancedPlain := by decide
    have htransform : ∀ t ∈ transformPlain, t ∉ advancedPlain := by decide
    have hparams : ∀ t ∈ paramsPlain ++ [.plain "MyPrinter"], t ∉ advancedPlain := by decide
    have hscope : ∀ t ∈ advancedPlain, t.scope? = none := by decide
    rintro t ((ht | ht | ht) | ht) hmem
    · exact hprobe t ht hmem
    · exact htransform t ht hmem
    · rw [hscope t hmem] at ht
      cases ht
    · exact hparams t ht hmem
  intro _ _ y hgives
  obtain ⟨⟨advancedItems, hitems, rfl⟩, rfl⟩ := hgives
  refine Reaches.bind (occupies_sections hx hc) ?_ ?_
  -- The parameters come last; no section declares one of them.
  · have hprobe : ∀ t ∈ probePlain, t ∉ paramsPlain ++ [.plain "MyPrinter"] := by decide
    have htransform : ∀ t ∈ transformPlain, t ∉ paramsPlain ++ [.plain "MyPrinter"] := by
      decide
    have hscope : ∀ t ∈ paramsPlain ++ [.plain "MyPrinter"], t.scope? = none := by decide
    intro t hmem hcase
    rcases hcase with ht | ht | ht
    · exact hprobe t ht hmem
    · exact htransform t ht hmem
    · rw [hscope t hmem] at ht
      cases ht
  intro s g _ hgives
  obtain ⟨hsections, rfl⟩ := hgives
  refine Leads.reaches (Declares.leads (declares_printerParams hc hboard) ?_) (by decide)
    (by decide)
  intro params _ hgives
  obtain ⟨paramItems, hparams, rfl⟩ := hgives
  apply (leads_printerResource hslots).mono
  intro _ _ _ hgives
  obtain ⟨rfl, rfl⟩ := hgives
  exact ⟨.mk hitems hsections hparams, rfl⟩

end PrinterFirmware
