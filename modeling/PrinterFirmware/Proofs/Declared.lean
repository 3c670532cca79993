/-
  PrinterFirmware.Proofs.Declared
  ───────────────────────────────
  **A PROGRAM DECLARES THE SETTINGS WHICH IT MENTIONS.**

  The parts of a program mention settings by their names alone; some other part declares
  them.  Five of the names are declared by every program.  The settings of the analog inputs
  are declared with their driver, and mentioned by its resource, unless the document itself
  writes them.  In the other direction every option is a leaf of the printer.

      SectionsGive.clear    the sections of a machine do not mention the analog inputs
      BoardGives.clear      neither do the parts of a board, its pins are those of the document
      Draft.Closed          what is mentioned is declared once, and every option is mentioned
      compile_closed        every compiled program is closed
-/
import PrinterFirmware.Proofs.Clear

namespace PrinterFirmware

open Document Naming Build Board Machine TypeExpr

variable {document : Value} {x : Site document} {c : Cursor}

/-! ## §1. Axes. -/

/-- Options of a homing are named after the letter of the axis. -/
theorem clear_homingNames (document : Value) (l : Char) :
    ClearText document (String.singleton l ++ "HomeDir")
      ∧ ClearText document (String.singleton l ++ "HomeEndInvert")
      ∧ AllClear document (optionNames (String.singleton l) homingMotions) :=
  ⟨clear_lettered l (by decide), clear_lettered l (by decide), allClear_letter l (by decide)⟩

theorem HomingGives.clear {l : Char} {e : TypeExpr} {items : List Item}
    (h : HomingGives x c l e items) : e.Clear document ∧ ∀ i ∈ items, i.Clear document := by
  cases h with
  | none => exact ⟨clear_text.2 (clear_fixed (by decide)), clear_plain rfl⟩
  | homing _ _ hendstop _ hmotions =>
      obtain ⟨hdirection, hinvert, hnames⟩ := clear_homingNames document l
      exact ⟨by simp [hendstop.clear, hdirection, hinvert, hnames],
        by simpa [Item.Clear, Item.boolOption] using hmotions.clear⟩

/-- The pins of a stepper stand in the section of its port. -/
theorem StepperGives.clear {i : Nat} {l : Char} {e : TypeExpr} {g : Gain}
    (h : StepperGives x c i l e g) : e.Clear document ∧ g.Clear document := by
  cases h with
  | mk hport hdirPin hstepPin henablePin _ hmotions hhoming _ htimer =>
      have hdirPin := clear_written (hdirPin.writes hport.inside (by decide))
      have hstepPin := clear_written (hstepPin.writes hport.inside (by decide))
      have henablePin := clear_written (henablePin.writes hport.inside (by decide))
      have hinvert : ClearText document (String.singleton l ++ "InvertDir") :=
        clear_lettered l (by decide)
      have hnames : AllClear document (optionNames (String.singleton l) stepperMotions) :=
        allClear_letter l (by decide)
      have hprecision : ClearText document "TheAxisDriverPrecisionParams" :=
        clear_fixed (by decide)
      have hmicroStep : ClearText document "PrinterMainNoMicroStepParams" :=
        clear_fixed (by decide)
      obtain ⟨hhoming, hhomingItems⟩ := hhoming.clear
      obtain ⟨htimer, hg⟩ := htimer.clear (by simp)
      refine ⟨?_, .append (.ofItems (clear_plain rfl)) (.append (.ofItems ?_) hg)⟩
      · simp [hdirPin, hstepPin, henablePin, hinvert, hnames, hhoming, htimer, hprecision,
          hmicroStep]
      · exact List.forall_mem_append.2 ⟨hmotions.clear, hhomingItems⟩

theorem VirtualHomingGives.clear {l : Char} {e : TypeExpr} {items : List Item}
    (h : VirtualHomingGives x c l e items) :
    e.Clear document ∧ ∀ i ∈ items, i.Clear document := by
  cases h with
  | none => exact ⟨clear_text.2 (clear_fixed (by decide)), clear_plain rfl⟩
  | homing _ hendstop _ _ hmotions =>
      obtain ⟨hdirection, hinvert, hnames⟩ := clear_homingNames document l
      exact ⟨by simp [hendstop.clear, hdirection, hinvert, hnames],
        by simpa [Item.Clear, Item.boolOption] using hmotions.clear⟩

theorem VirtualAxisGives.clear {l : Char} {e : TypeExpr} {g : Gain}
    (h : VirtualAxisGives x c l e g) : e.Clear document ∧ g.Clear document := by
  cases h with
  | mk hmotions hhoming =>
      have hnames : AllClear document (optionNames (String.singleton l) virtualMotions) :=
        allClear_letter l (by decide)
      obtain ⟨hhoming, hhomingItems⟩ := hhoming.clear
      exact ⟨by simp [hnames, hhoming],
        .ofItems (List.forall_mem_append.2 ⟨hmotions.clear, hhomingItems⟩)⟩

/-! ## §2. Heaters, fans and the probe. -/

theorem HeaterGives.clear {i : Nat} {l : Char} {e : TypeExpr} {g : Gain}
    (h : HeaterGives x c i l e g) : e.Clear document ∧ g.Clear document := by
  cases h with
  | mk _ hthermistor _ _ hpid _ hobservation _ _ hinput hsafety houtput =>
      -- an option of a heater has the letter first, then the stem of all heaters
      have hstem : ∀ field, ("Heater" ++ field).toList.head? ≠ some 'd' →
          ClearText document (heaterStem l ++ field) := by
        intro field hfield
        unfold heaterStem
        rw [String.append_assoc]
        exact clear_lettered l hfield
      have hinterval := hstem "ControlInterval" (by decide)
      have hcontrol : AllClear document (optionNames (heaterStem l) controlSettings) :=
        allClear_letterStem l (by decide)
      have hobserver : AllClear document (optionNames (heaterStem l) observerSettings) :=
        allClear_letterStem l (by decide)
      have hsafe : AllClear document (optionNames (heaterStem l) safetySettings) :=
        allClear_letterStem l (by decide)
      have hconversion : AllClear document
          (optionNames (heaterStem l ++ "Temp") thermistorSettings) := by
        unfold heaterStem
        rw [String.append_assoc]
        exact allClear_letterStem l (by decide)
      obtain ⟨hinput, hinputGain⟩ := hinput.clear
      obtain ⟨houtput, hg⟩ := houtput.clear (hstem _ (by decide))
      refine ⟨?_, .append (.ofItems ?_) (.append hinputGain (.append (.ofItems ?_) hg))⟩
      · simp [hinterval, hcontrol, hobserver, hsafe, hconversion, hinput, houtput]
      · simp only [List.forall_mem_append, List.forall_mem_cons]
        exact ⟨⟨⟨trivial, hthermistor.clear⟩, trivial, hpid.clear⟩, trivial, hobservation.clear⟩
      · exact List.forall_mem_append.2 ⟨hsafety.clear, clear_plain rfl⟩

theorem FanGives.clear {i : Nat} {l : Char} {e : TypeExpr} {g : Gain}
    (h : FanGives x c i l e g) : e.Clear document ∧ g.Clear document := by
  cases h with
  | mk _ _ houtput =>
      have hspeed : ClearText document "FanSpeedMultiply" := clear_fixed (by decide)
      have hinterval : ClearText document (String.singleton l ++ "Fan" ++ "PulseInterval") := by
        rw [String.append_assoc]
        exact clear_lettered l (by decide)
      obtain ⟨houtput, hg⟩ := houtput.clear hinterval
      exact ⟨by simp [hspeed, houtput], hg⟩

theorem PointsGive.clear {i : Nat} {nodes : List Cursor} {es : List TypeExpr} {items : List Item}
    (h : PointsGive i nodes es items) (document : Value) :
    AllClear document es ∧ ∀ i ∈ items, i.Clear document := by
  induction h with
  | nil => exact ⟨allClear_nil, clear_plain rfl⟩
  | @cons i _ _ _ _ _ hpoint _ ih =>
      -- the number of a point is not known, but what stands before it is
      have hnames : AllClear document (optionNames ("ProbeP" ++ Numeral.ofNat i) ["X", "Y"]) := by
        apply allClear_optionNames
        intro f _
        rw [String.append_assoc]
        exact clear_prefixed (by decide) _
      exact ⟨by simp [hnames, ih.1], List.forall_mem_append.2 ⟨hpoint.clear, ih.2⟩⟩

theorem ProbeGives.clear {e : TypeExpr} {items : List Item} (h : ProbeGives x c e items) :
    e.Clear document ∧ ∀ i ∈ items, i.Clear document := by
  cases h with
  | none => exact ⟨clear_text.2 (clear_fixed (by decide)), clear_plain rfl⟩
  | probe _ _ h =>
      cases h with
      | mk hoffset hsettings _ hpoints hinput hinvert =>
          have haxes : AllClear document probeAxes := by simp [probeAxes]
          have hinvert : ClearText document _ := clear_boolConstant hinvert
          have hoffsetNames : AllClear document (optionNames "Probe" probeOffset) :=
            allClear_fixedStem (by decide)
          have hsettingNames : AllClear document (optionNames "Probe" probeSettings) :=
            allClear_fixedStem (by decide)
          obtain ⟨hpoints, hpointItems⟩ := hpoints.clear document
          refine ⟨?_, ?_⟩
          · simp [haxes, hinput.clear, hinvert, hoffsetNames, hsettingNames, hpoints]
          · refine List.forall_mem_append.2 ⟨List.forall_mem_append.2 ⟨?_, ?_⟩, hpointItems⟩
            · exact hoffset.clear
            · exact hsettings.clear

/-! ## §3. Sections of a machine. -/

/-- Things of one scope are clear if each of them is. -/
theorem Things.clear {R : Cursor → Nat → Char → TypeExpr → Gain → Prop}
    (hR : ∀ c i l e g, R c i l e g → e.Clear document ∧ g.Clear document)
    {letters after : List Char} {i : Nat} {nodes : List Cursor} {es : List TypeExpr} {g : Gain}
    (h : Things R letters i nodes es g after) : AllClear document es ∧ g.Clear document := by
  induction h with
  | nil => exact ⟨allClear_nil, .empty⟩
  | cons _ _ h _ ih =>
      obtain ⟨he, hg⟩ := hR _ _ _ _ _ h
      exact ⟨allClear_cons.2 ⟨he, ih.1⟩, .append hg ih.2⟩

theorem ListedThings.clear {R : Cursor → Nat → Char → TypeExpr → Gain → Prop}
    (hR : ∀ c i l e g, R c i l e g → e.Clear document ∧ g.Clear document) {key : String}
    {min max : Nat} {letters after : List Char} {e : TypeExpr} {g : Gain}
    (h : ListedThings R c key min max letters e g after) : e.Clear document ∧ g.Clear document := by
  cases h with
  | mk _ hes =>
      obtain ⟨hes, hg⟩ := hes.clear hR
      exact ⟨clear_list.2 hes, hg⟩

/-- The steppers of a transform are mentioned by their letters. -/
theorem TransformSteppersGive.clear {config : Cursor} {e : TypeExpr}
    (h : TransformSteppersGive config c e) (document : Value) : e.Clear document := by
  cases h with
  | mk _ hes =>
      rw [clear_list]
      clear * - hes
      induction hes with
      | nil => exact allClear_nil
      | cons hstepper _ ih =>
          cases hstepper with
          | mk => exact allClear_cons.2 ⟨by simp, ih⟩

theorem TransformTypeGives.clear {e : TypeExpr} {items : List Item}
    (h : TransformTypeGives c e items) (document : Value) :
    e.Clear document ∧ ∀ i ∈ items, i.Clear document := by
  cases h with
  | coreXY => exact ⟨clear_text.2 (clear_fixed (by decide)), clear_plain rfl⟩
  | delta _ _ hoffsets =>
      have hrod : ClearText document "DeltaDiagonalRod" := clear_fixed (by decide)
      have hmin : ClearText document "DeltaMinSplitLength" := clear_fixed (by decide)
      have hmax : ClearText document "DeltaMaxSplitLength" := clear_fixed (by decide)
      have hnames : AllClear document (optionNames "Delta" deltaOffsets) :=
        allClear_fixedStem (by decide)
      refine ⟨by simp [hrod, hmin, hmax, hnames], ?_⟩
      simp only [List.forall_mem_cons, List.forall_mem_append]
      exact ⟨trivial, trivial, hoffsets.clear, trivial, trivial, by simp⟩

theorem TransformGives.clear {letters after : List Char} {e : TypeExpr} {g : Gain}
    (h : TransformGives x c letters e g after) : e.Clear document ∧ g.Clear document := by
  cases h with
  | none => exact ⟨clear_text.2 (clear_fixed (by decide)), .empty⟩
  | some _ _ haxes hsteppers _ htype =>
      have hsegments : ClearText document "SegmentsPerSecond" := clear_fixed (by decide)
      have haxis : ∀ (c : Cursor) (_ : Nat) l e g, VirtualAxisGives x c l e g →
          e.Clear document ∧ g.Clear document :=
        fun _ _ _ _ _ h => h.clear
      obtain ⟨haxes, hg⟩ := haxes.clear haxis
      obtain ⟨htype, hitems⟩ := htype.clear document
      refine ⟨by simp [haxes, hsteppers.clear document, hsegments, htype], .append hg (.ofItems ?_)⟩
      exact List.forall_mem_cons.2 ⟨trivial, hitems⟩

/-- **The sections of a machine do not mention settings of the analog inputs by chance.** -/
theorem SectionsGive.clear {s : Sections} {g : Gain} (h : SectionsGive x c s g) :
    AllClear document s.exprs ∧ g.Clear document := by
  cases h with
  | mk hprobe hsteppers hheaters htransform hfans =>
      obtain ⟨hheaters⟩ := hheaters
      obtain ⟨hfans⟩ := hfans
      obtain ⟨hprobe, hprobeItems⟩ := hprobe.clear
      obtain ⟨hsteppers, hstepperGain⟩ := hsteppers.clear fun _ _ _ _ _ h => h.clear
      obtain ⟨hheaters, hheaterGain⟩ := hheaters.clear fun _ _ _ _ _ h => h.clear
      obtain ⟨htransform, htransformGain⟩ := htransform.clear
      obtain ⟨hfans, hfanGain⟩ := hfans.clear fun _ _ _ _ _ h => h.clear
      refine ⟨by simp [Sections.exprs, hprobe, hsteppers, hheaters, htransform, hfans], ?_⟩
      exact .append (.ofItems hprobeItems)
        (.append (.append hstepperGain (.append hheaterGain htransformGain)) hfanGain)

/-! ## §4. Boards and printers. -/

theorem PlatformGives.clear {key : String} {items : List Item} (h : PlatformGives c key items) :
    ∀ i ∈ items, i.Clear document := by
  cases h with
  | at91Sam => exact clear_plain rfl
  | teensy => exact clear_plain rfl
  | avr => exact clear_plain rfl

/-- The parts of a board which its printer is put together from. -/
def BoardParts.exprs (parts : BoardParts) : List TypeExpr :=
  [parts.serial, parts.ledPin, parts.eventTimer, parts.watchdog, parts.sdCard,
    parts.configManager]

/-- **The parts of a board do not mention settings of the analog inputs by chance**, and its
pins are those of the document. -/
theorem BoardGives.clear {y : Site document} {board : Cursor} {parts : BoardParts} {g : Gain}
    (h : BoardGives x board y parts g) (hboard : board.In document) :
    AllClear document parts.exprs ∧ g.Clear document := by
  cases h with
  | mk _ _ _ _ hplatformItems _ hdrivers _ _ _ hledPin htimer _ _ _ _ hserial hcardSection hcard _
      hmanager =>
      have hclearance : ∀ name ∈ some "EventChannelTimerClearance", ClearText document name := by
        intro name hname
        rw [← Option.mem_some.1 hname]
        exact clear_fixed (by decide)
      have hledPin := clear_written (hledPin.writes hboard (by decide))
      -- the pin of a card stands in the document as the section of the card does
      have hcardIn := (hboard.placed.honest_enter _).value _ hcardSection
      obtain ⟨hwatchdog, hdriverGain⟩ := hdrivers.clear document
      obtain ⟨htimer, htimerGain⟩ := htimer.clear hclearance
      obtain ⟨hserial, hserialItems⟩ := hserial.clear document
      obtain ⟨hcard, hcardGain⟩ := hcard.clear hcardIn
      obtain ⟨hmanager, hmanagerGain⟩ := hmanager.clear document
      refine ⟨?_, ?_⟩
      · simp [BoardParts.exprs, hledPin, htimer, hwatchdog, hserial, hcard, hmanager]
      · exact .append (.ofItems (clear_plain rfl)) (.append (.ofItems hplatformItems.clear)
          (.append hdriverGain (.append (.ofItems (by simp [helperInclude, Item.Clear]))
          (.append htimerGain (.append (.ofItems (clear_plain rfl))
          (.append (.ofItems (clear_plain rfl)) (.append (.ofItems hserialItems)
          (.append hcardGain hmanagerGain))))))))

theorem ParamsGive.clear {parts : BoardParts} {s : Sections} {e : TypeExpr} {items : List Item}
    (h : ParamsGive c parts s e items) (hparts : AllClear document parts.exprs)
    (hs : AllClear document s.exprs) : e.Clear document ∧ ∀ i ∈ items, i.Clear document := by
  cases h with
  | mk _ _ hsegmentBuffer heventBuffer hlookaheadBuffer hlookaheadCommit hfpType =>
      have hsegmentBuffer : ClearText document _ := clear_intConstant hsegmentBuffer
      have heventBuffer : ClearText document _ := clear_intConstant heventBuffer
      have hlookaheadBuffer : ClearText document _ := clear_intConstant hlookaheadBuffer
      have hlookaheadCommit : ClearText document _ := clear_intConstant hlookaheadCommit
      have hfpType : ClearText document _ := clear_identifierWhere hfpType (by decide)
      have hfixed : ∀ s ∈ ["LedBlinkInterval", "InactiveTime", "SpeedLimitMultiply",
          "MaxStepsPerCycle", "ForceTimeout", "PrinterMainNoCurrentParams", "ConfigList"],
          ClearText document s := by
        have hnone : ∀ s ∈ ["LedBlinkInterval", "InactiveTime", "SpeedLimitMultiply",
            "MaxStepsPerCycle", "ForceTimeout", "PrinterMainNoCurrentParams", "ConfigList"],
            s ∉ analogSymbols := by decide
        exact fun s hs => clear_fixed (hnone s hs)
      simp only [BoardParts.exprs, Sections.exprs, allClear_cons, allClear_nil, and_true,
        List.forall_mem_cons] at hparts hs hfixed
      obtain ⟨hserial, hledPin, htimer, hwatchdog, hcard, hmanager⟩ := hparts
      obtain ⟨hprobe, hsteppers, htransform, hheaters, hfans⟩ := hs
      refine ⟨?_, clear_plain rfl⟩
      simp [hsegmentBuffer, heventBuffer, hlookaheadBuffer, hlookaheadCommit, hfpType, hfixed,
        hserial, hledPin, htimer, hwatchdog, hcard, hmanager, hprobe, hsteppers, htransform,
        hheaters, hfans]

theorem PrinterGives.clear {parts : BoardParts} {g : Gain} (h : PrinterGives x c parts g)
    (hparts : AllClear document parts.exprs) : g.Clear document := by
  cases h with
  | @mk s params advancedItems _ _ hadvanced hsections hparams =>
      obtain ⟨hs, hg⟩ := hsections.clear
      obtain ⟨hparams, hparamItems⟩ := hparams.clear hparts hs
      have hadvancedItems : ∀ i ∈ advancedItems, i.Clear document := by
        cases hadvanced with
        | mk => exact clear_plain rfl
      have hresource : ∀ i ∈ [printerResource params, .fill "FastEventRoot" (.text "MyPrinter"),
          .fill "EmergencyProvider" (.text "MyPrinter")], i.Clear document := by
        simp [printerResource, Item.Clear, hparams]
      exact .append (.ofItems hadvancedItems)
        (.append hg (.ofItems (List.forall_mem_append.2 ⟨hparamItems, hresource⟩)))

/-! ## §5. Declarations. -/

/-- A name is declared as a constant or as an option. -/
def Gain.Declares (g : Gain) (name : String) : Prop :=
  ∃ i ∈ g.items, i.constantName? = some name ∨ i.optionName? = some name

theorem Gain.Declares.mem {g : Gain} {name : String} {d : Draft} (h : g.Declares name)
    (hd : g.items ⊆ d.items) : name ∈ d.constants ++ d.options := by
  obtain ⟨i, hi, hname | hname⟩ := h
  · exact List.mem_append_left _ (List.mem_filterMap.2 ⟨i, hd hi, hname⟩)
  · exact List.mem_append_right _ (List.mem_filterMap.2 ⟨i, hd hi, hname⟩)

/-- A board declares the settings of the driver of its analog inputs, which it leaves to the
finish, and two of its own. -/
theorem BoardGives.declares {y : Site document} {board : Cursor} {parts : BoardParts} {g : Gain}
    (h : BoardGives x board y parts g) : ∃ a, y.deferred = x.deferred ++ [.analogDriver a]
      ∧ (∀ name ∈ a.settings, g.Declares name)
      ∧ ∀ name ∈ ["TheAxisDriverPrecisionParams", "EventChannelTimerClearance"],
        g.Declares name := by
  cases h with
  | @mk _ _ _ _ _ _ _ _ precision _ k d a _ _ _ _ _ _ _ clearance _ _ _ _ _ _ _ _ _ _ _ _ _ _
      hdrivers _ _ hy =>
      refine ⟨a, by rw [hy]; rfl, ?_, ?_⟩
      · cases hdrivers with
        | mk _ _ _ hanalog _ =>
            intro name hname
            obtain ⟨i, hi, hconstant⟩ := List.mem_filterMap.1 (hanalog.settings hname)
            exact ⟨i, by simp [hi], Or.inl hconstant⟩
      · intro name hname
        simp only [List.mem_cons, List.not_mem_nil, or_false] at hname
        rcases hname with rfl | rfl
        · exact ⟨.typeName "TheAxisDriverPrecisionParams" precision, by simp, Or.inl rfl⟩
        · exact ⟨.numberConstant "EventChannelTimerClearance" clearance, by simp, Or.inl rfl⟩

theorem PrinterGives.declares {parts : BoardParts} {g : Gain} (h : PrinterGives x c parts g) :
    ∀ name ∈ ["LedBlinkInterval", "ForceTimeout", "FanSpeedMultiply"], g.Declares name := by
  cases h with
  | mk hadvanced _ _ =>
      cases hadvanced with
      | @mk _ blink timeout _ _ _ =>
          intro name hname
          simp only [List.mem_cons, List.not_mem_nil, or_false] at hname
          rcases hname with rfl | rfl | rfl
          · exact ⟨.numberConstant "LedBlinkInterval" blink, by simp, Or.inl rfl⟩
          · exact ⟨.numberOption "ForceTimeout" timeout, by simp, Or.inr rfl⟩
          · exact ⟨.numberConstant "FanSpeedMultiply" fanSpeedFactor, by simp, Or.inl rfl⟩

/-! ## §6. Closed programs. -/

/-- The names which parts of a program mention as plain text, and which others declare. -/
def sharedNames : List String :=
  ["LedBlinkInterval", "ForceTimeout", "FanSpeedMultiply"]
    ++ ["TheAxisDriverPrecisionParams", "EventChannelTimerClearance"] ++ analogSymbols

/-- Mentions and declarations of a program which is compiled from a document belong together:
every option is a leaf of the printer, and a shared name which is a leaf of a resource has
exactly one declaration, unless the document itself writes it. -/
structure Draft.Closed (document : Value) (d : Draft) : Prop where
  printer : ∃ r ∈ d.resources, r.name = "MyPrinter"
  mentioned : ∀ r ∈ d.resources, r.name = "MyPrinter" → ∀ name ∈ d.options, name ∈ r.expr.leaves
  declared : ∀ name ∈ sharedNames, ¬ document.Writes name → ∀ r ∈ d.resources,
    name ∈ r.expr.leaves → (d.constants ++ d.options).count name = 1

theorem Clock.clear_closingItems (k : Clock) : ∀ i ∈ k.closingItems, i.Clear document := by
  intro i hi
  rcases Clock.mem_closingItems hi with ⟨_, rfl⟩ | ⟨_, rfl⟩
  · trivial
  · trivial

/-- A setting of the analog inputs which a resource mentions is written by the document, or
the resource is the one of the driver, to which the setting belongs. -/
theorem mentioned_setting {a : AnalogDriver} {g : Gain} {d : Draft} {r : Draft.Resource}
    {name : String} (hd : d.items = g.items ++ closingItems x a g) (hg : g.Clear document)
    (hr : r ∈ d.resources) (hname : name ∈ r.expr.leaves) (hsetting : name ∈ analogSymbols) :
    document.Writes name ∨ name ∈ a.settings := by
  obtain ⟨priority, hitem⟩ := Draft.mem_resources.1 hr
  rw [hd, List.mem_append] at hitem
  rcases hitem with hitem | hitem
  · exact Or.inl (hg.items _ hitem name hname hsetting)
  rcases List.mem_cons.1 hitem with hitem | hitem
  · -- the resource of the driver, on the pins of the gain
    injection hitem with _ _ hexpr _
    rw [hexpr] at hname
    rcases AnalogDriver.mem_leaves hname with hfixed | hpin | hown
    · have hnone : ∀ t ∈ ["MyContext", "Program"], t ∉ analogSymbols := by decide
      exact absurd hsetting (hnone name hfixed)
    · exact Or.inl (hg.pins name hpin)
    · exact Or.inr hown
  · exact Or.inl (Clock.clear_closingItems _ _ hitem name hname hsetting)

/-- The printer which a configuration gives mentions all options of its draft. -/
theorem mentioned_options {parts : BoardParts} {g g' : Gain} {d : Draft} {items : List Item}
    (hd : d.items = (g ++ g').items ++ items) (hg : optionLines g.items = [])
    (hg' : PrinterGives x c parts g') (hitems : optionLines items = []) :
    ∃ r ∈ d.resources, r.name = "MyPrinter" ∧ ∀ name ∈ d.options, name ∈ r.expr.leaves := by
  obtain ⟨params, hparams, hused⟩ := hg'.used
  have hoptions : d.options = declaredOptions g'.items := by
    have hsplit : d.options = declaredOptions ((g ++ g').items ++ items) :=
      congrArg declaredOptions hd
    rw [hsplit, Gain.items_append, declaredOptions_append, declaredOptions_append,
      declaredOptions_eq_nil hg, declaredOptions_eq_nil hitems, List.nil_append, List.append_nil]
  have hmem : printerResource params ∈ d.items := by
    rw [hd]
    simp [hparams]
  refine ⟨⟨"MyPrinter", .inst "PrinterMain" [.text "MyContext", .text "Program", params], none⟩,
    Draft.mem_resources.2 ⟨30, hmem⟩, rfl, ?_⟩
  intro name hname
  rw [hoptions] at hname
  simp [hused hname]

/-- **Every compiled program is closed**: its options are mentioned by its printer, and what
its resources mention of the shared names is declared exactly once. -/
theorem compile_closed {name? : Option String} {compiled : Compiled}
    (h : compile document name? = .ok compiled) :
    ∃ w, build document name? .empty = .ok compiled w ∧ w.draft.render = .ok compiled.slots
      ∧ w.draft.Closed document := by
  cases compile_gives h with
  | @mk config board x parts a boardGain printerGain d hsections hboard hprinter hdeferred hd w
      _ _ hrun hdraft =>
      obtain ⟨hgrown, hrender⟩ := rendered_build hrun
      have hdistinct : d.Distinct := hdraft ▸ hgrown.distinct
      have hin := ((honest_selectSections document name?).value _ hsections).2
      obtain ⟨hparts, hboardGain⟩ := hboard.clear hin
      have hclear : (boardGain ++ printerGain).Clear document :=
        hboardGain.append (hprinter.clear hparts)
      have hitems : d.items = (boardGain ++ printerGain).items
          ++ closingItems x a (boardGain ++ printerGain) := by
        rw [hd]
      have hsub : boardGain.items ⊆ d.items ∧ printerGain.items ⊆ d.items := by
        rw [hitems, Gain.items_append]
        exact ⟨fun i hi => by simp [hi], fun i hi => by simp [hi]⟩
      -- the driver which the finish writes is the one whose settings the board declares
      obtain ⟨a', ha', hsettings, hboardNames⟩ := hboard.declares
      have ha : a' = a := by
        have heq : [Deferred.analogDriver a'] = [.analogDriver a] := ha'.symm.trans hdeferred
        cases heq
        rfl
      subst ha
      obtain ⟨printer, hprinterIn, hprinterName, hmentioned⟩ := mentioned_options hitems
        hboard.optionless hprinter (optionless_closingItems x a' _)
      refine ⟨w, hrun, hrender, hdraft ▸ ⟨⟨printer, hprinterIn, hprinterName⟩, ?_, ?_⟩⟩
      · intro r hr hrname
        rw [hdistinct.resource_eq hr hprinterIn (hrname.trans hprinterName.symm)]
        exact hmentioned
      · intro name hshared hunwritten r hr hleaf
        -- what is declared at all is declared once
        apply hdistinct.count_declared
        unfold sharedNames at hshared
        rw [List.mem_append, List.mem_append] at hshared
        rcases hshared with (hown | hown) | hsetting
        · exact (hprinter.declares name hown).mem hsub.2
        · exact (hboardNames name hown).mem hsub.1
        · rcases mentioned_setting hitems hclear hr hleaf hsetting with hwritten | hown
          · exact absurd hwritten hunwritten
          · exact (hsettings name hown).mem hsub.1

/-- The delta machine is closed. -/
theorem delta_closed : ∃ compiled w, compile Sample.deltaDescription none = .ok compiled
    ∧ build Sample.deltaDescription none .empty = .ok compiled w
    ∧ w.draft.render = .ok compiled.slots ∧ w.draft.Closed Sample.deltaDescription := by
  obtain ⟨compiled, hcompiled⟩ := Sample.delta_compiles
  obtain ⟨w, hrun, hrender, hclosed⟩ := compile_closed hcompiled
  exact ⟨compiled, w, hcompiled, hrun, hrender, hclosed⟩

end PrinterFirmware
