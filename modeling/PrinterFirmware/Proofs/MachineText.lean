/-
  PrinterFirmware.Proofs.MachineText
  ──────────────────────────────────
  **WHAT A PRINTER GIVES IS TAME.**

  The names of a printer are built from a letter, from fixed words and from numbers, and
  all else which its section brings into a program comes from the board.  So every
  section is tame as soon as the site of the board is.
-/
import PrinterFirmware.Proofs.BoardText
import PrinterFirmware.Proofs.Machine

namespace PrinterFirmware

open Document Naming Build Board Machine

variable {document : Value} {x : Site document} {c : Cursor}

/-! ## §1. Options. -/

/-- The fields which options are named after. -/
theorem phrase_fields : ∀ fields ∈ [homingMotions, stepperMotions, virtualMotions, deltaOffsets,
    thermistorSettings, controlSettings, observerSettings, safetySettings, probeOffset,
    probeSettings, ["X", "Y"]], ∀ field ∈ fields, Phrase field := by
  decide

theorem tame_optionNames {stem : String} (hstem : Phrase stem) {fields : List String}
    (hfields : ∀ field ∈ fields, Phrase field) : TypeExpr.TameAll (optionNames stem fields) := by
  intro e he
  obtain ⟨field, hfield, rfl⟩ := List.mem_map.1 he
  exact .text (Written.phrase hstem (hfields field hfield))

theorem OptionsGive.tame {stem : String} {fields : List String} {items : List Item}
    (h : OptionsGive c stem fields items) (hstem : Phrase stem)
    (hfields : ∀ field ∈ fields, Phrase field) : Item.TameAll items := by
  induction h with
  | nil => exact .nil
  | @cons field rest v items _ _ ih =>
      have hname : Phrase (stem ++ field) :=
        Written.phrase hstem (hfields field List.mem_cons_self)
      exact .cons (Item.tame_numberOption hname v)
        (ih fun f hf => hfields f (List.mem_cons_of_mem field hf))

/-! ## §2. Axes. -/

theorem HomingGives.tame {l : Char} {e : TypeExpr} {items : List Item}
    (h : HomingGives x c l e items) (hx : x.PlainNames) (hl : isWordChar l = true) :
    e.Tame ∧ Item.TameAll items := by
  have hfields := phrase_fields homingMotions (by simp)
  have hstem := phrase_singleton hl
  cases h with
  | none => exact ⟨.text (.lit rfl), .nil⟩
  | homing _ _ hendstop _ hmotions =>
      have hdirection : Phrase (String.singleton l ++ "HomeDir") := Written.phrase hstem (.lit rfl)
      have hinvert : Phrase (String.singleton l ++ "HomeEndInvert") :=
        Written.phrase hstem (.lit rfl)
      have hhomer := TypeExpr.Tame.inst (Phrase.lit rfl : Phrase "AxisHomerService")
        ((hendstop.tame hx).append (.cons (.text hinvert) (tame_optionNames hstem hfields)))
      refine ⟨.inst (.lit rfl) (.cons (.text hdirection) (.cons hhomer .nil)), ?_⟩
      exact .cons (Item.tame_frameworkInclude (.lit rfl))
        (.cons (Item.tame_boolOption hdirection _)
        (.cons (Item.tame_boolOption hinvert _) (hmotions.tame hstem hfields)))

theorem phrase_axisTimerUser (i : Nat) : Phrase (axisTimerUser i) := by
  have hopen : Written isPrinted [] "MyPrinter::GetAxisTimer<".toList ['>'] := .lit rfl
  exact (hopen.phrase (Numeral.phrase_ofNat i)).andThen (.lit rfl)

theorem StepperGives.tame {i : Nat} {l : Char} {e : TypeExpr} {g : Gain}
    (h : StepperGives x c i l e g) (hx : x.PlainNames) (hl : isWordChar l = true) :
    e.Tame ∧ g.Tame := by
  have hfields := phrase_fields stepperMotions (by simp)
  have hstem := phrase_singleton hl
  cases h with
  | mk _ hdirPin hstepPin henablePin _ hmotions hhoming _ htimer =>
      have hinvert : Phrase (String.singleton l ++ "InvertDir") := Written.phrase hstem (.lit rfl)
      obtain ⟨hhoming, hhomingItems⟩ := hhoming.tame hx hl
      obtain ⟨htimer, hg⟩ := htimer.tame (phrase_axisTimerUser i) (by simp)
      have hdriver := TypeExpr.Tame.inst (Phrase.lit rfl : Phrase "AxisDriverService")
        (.cons htimer (.cons (.text (Phrase.lit rfl : Phrase "TheAxisDriverPrecisionParams")) .nil))
      have hpins : TypeExpr.TameAll [.char l, .text _, .text _, .text _, .text _] :=
        .cons (.char hl) (.cons (.text (hdirPin.phrase hx)) (.cons (.text (hstepPin.phrase hx))
          (.cons (.text (henablePin.phrase hx)) (.cons (.text hinvert) .nil))))
      refine ⟨.inst (.lit rfl) (.append (hpins.append (tame_optionNames hstem hfields)) ?_), ?_⟩
      · exact .cons hhoming (.cons .bool (.cons .int (.cons hdriver (.cons (.text (.lit rfl)) .nil))))
      · exact .append (Gain.tame_ofItems (.cons (Item.tame_frameworkInclude (.lit rfl))
            (.cons (Item.tame_boolOption hinvert _) .nil)))
          (.append (Gain.tame_ofItems ((hmotions.tame hstem hfields).append hhomingItems)) hg)

theorem VirtualHomingGives.tame {l : Char} {e : TypeExpr} {items : List Item}
    (h : VirtualHomingGives x c l e items) (hx : x.PlainNames) (hl : isWordChar l = true) :
    e.Tame ∧ Item.TameAll items := by
  have hfields := phrase_fields homingMotions (by simp)
  have hstem := phrase_singleton hl
  cases h with
  | none => exact ⟨.text (.lit rfl), .nil⟩
  | homing _ hendstop _ _ hmotions =>
      have hdirection : Phrase (String.singleton l ++ "HomeDir") := Written.phrase hstem (.lit rfl)
      have hinvert : Phrase (String.singleton l ++ "HomeEndInvert") :=
        Written.phrase hstem (.lit rfl)
      refine ⟨.inst (.lit rfl) ((hendstop.tame hx).append (.cons (.text hinvert)
        (.cons (.text hdirection) (tame_optionNames hstem hfields)))), ?_⟩
      exact .cons (Item.tame_boolOption hinvert _)
        (.cons (Item.tame_boolOption hdirection _) (hmotions.tame hstem hfields))

theorem VirtualAxisGives.tame {l : Char} {e : TypeExpr} {g : Gain}
    (h : VirtualAxisGives x c l e g) (hx : x.PlainNames) (hl : isWordChar l = true) :
    e.Tame ∧ g.Tame := by
  have hfields := phrase_fields virtualMotions (by simp)
  have hstem := phrase_singleton hl
  cases h with
  | mk hmotions hhoming =>
      obtain ⟨hhoming, hhomingItems⟩ := hhoming.tame hx hl
      refine ⟨.inst (.lit rfl) (.append (.cons (.char hl) (tame_optionNames hstem hfields))
        (.cons hhoming .nil)), ?_⟩
      exact Gain.tame_ofItems ((hmotions.tame hstem hfields).append hhomingItems)

/-! ## §3. Things of a list. -/

/-- Things are tame if every one of them is. -/
theorem Things.tame {R : Cursor → Nat → Char → TypeExpr → Gain → Prop} {letters after : List Char}
    {i : Nat} {cursors : List Cursor} {es : List TypeExpr} {g : Gain}
    (h : Things R letters i cursors es g after)
    (hR : ∀ {c i l e g}, R c i l e g → isWordChar l = true → e.Tame ∧ g.Tame) :
    TypeExpr.TameAll es ∧ g.Tame := by
  induction h with
  | nil => exact ⟨.nil, Gain.tame_empty⟩
  | cons _ hletter h _ ih =>
      obtain ⟨he, hg⟩ := hR h (Cursor.wordChar_letter hletter)
      exact ⟨.cons he ih.1, hg.append ih.2⟩

theorem ListedThings.tame {R : Cursor → Nat → Char → TypeExpr → Gain → Prop} {key : String}
    {min max : Nat} {letters after : List Char} {e : TypeExpr} {g : Gain}
    (h : ListedThings R c key min max letters e g after)
    (hR : ∀ {c i l e g}, R c i l e g → isWordChar l = true → e.Tame ∧ g.Tame) :
    e.Tame ∧ g.Tame := by
  cases h with
  | mk _ hes =>
      obtain ⟨hes, hg⟩ := hes.tame hR
      exact ⟨.list hes, hg⟩

/-! ## §4. Transforms. -/

theorem TransformSteppersGive.tame {config : Cursor} {e : TypeExpr}
    (h : TransformSteppersGive config c e) : e.Tame := by
  cases h with
  | mk _ hes =>
      refine .list ?_
      clear * - hes
      induction hes with
      | nil => exact .nil
      | cons hstepper _ ih =>
          cases hstepper with
          | mk hletter =>
              exact .cons (.inst (.lit rfl) (.cons (.char (Cursor.wordChar_letter hletter)) .nil)) ih

theorem TransformTypeGives.tame {e : TypeExpr} {items : List Item}
    (h : TransformTypeGives c e items) : e.Tame ∧ Item.TameAll items := by
  have hfields := phrase_fields deltaOffsets (by simp)
  have hstem : Phrase "Delta" := .lit rfl
  cases h with
  | coreXY =>
      exact ⟨.text (.lit rfl), .cons (Item.tame_frameworkInclude (.lit rfl)) .nil⟩
  | delta _ _ hoffsets =>
      have hsplitter := TypeExpr.Tame.inst (Phrase.lit rfl : Phrase "DistanceSplitterParams")
        (.cons (.text (Phrase.lit rfl : Phrase "DeltaMinSplitLength"))
          (.cons (.text (Phrase.lit rfl : Phrase "DeltaMaxSplitLength")) .nil))
      refine ⟨.inst (.lit rfl) (.append (.cons (.text (.lit rfl)) (tame_optionNames hstem hfields))
        (.cons hsplitter .nil)), ?_⟩
      exact .cons (Item.tame_frameworkInclude (.lit rfl))
        (.cons (Item.tame_numberOption (.lit rfl) _) (.append (hoffsets.tame hstem hfields)
        (.cons (Item.tame_numberConstant (.lit rfl) _)
        (.cons (Item.tame_numberConstant (.lit rfl) _) .nil))))

theorem TransformGives.tame {letters after : List Char} {e : TypeExpr} {g : Gain}
    (h : TransformGives x c letters e g after) (hx : x.PlainNames) : e.Tame ∧ g.Tame := by
  cases h with
  | none => exact ⟨.text (.lit rfl), Gain.tame_empty⟩
  | some _ _ haxes hsteppers _ htype =>
      obtain ⟨haxes, hg⟩ := haxes.tame fun h hl => h.tame hx hl
      obtain ⟨htype, hitems⟩ := htype.tame
      refine ⟨.inst (.lit rfl) (.cons (.list haxes) (.cons hsteppers.tame
        (.cons (.text (.lit rfl)) (.cons htype .nil)))), ?_⟩
      exact hg.append (Gain.tame_ofItems (.cons (Item.tame_numberConstant (.lit rfl) _) hitems))

/-! ## §5. Heaters and fans. -/

theorem phrase_heaterOutputUser (i : Nat) : Phrase (heaterOutputUser i) := by
  have hopen : Written isPrinted [] "MyPrinter::GetHeaterPwm<".toList ['>'] := .lit rfl
  exact (hopen.phrase (Numeral.phrase_ofNat i)).andThen (.lit rfl)

theorem phrase_fanOutputUser (i : Nat) : Phrase (fanOutputUser i) := by
  have hopen : Written isPrinted [] "MyPrinter::GetFanPwm<".toList ['>'] := .lit rfl
  exact (hopen.phrase (Numeral.phrase_ofNat i)).andThen (.lit rfl)

theorem HeaterGives.tame {i : Nat} {l : Char} {e : TypeExpr} {g : Gain}
    (h : HeaterGives x c i l e g) (hx : x.PlainNames) (hl : isWordChar l = true) :
    e.Tame ∧ g.Tame := by
  have hthermistor := phrase_fields thermistorSettings (by simp)
  have hcontrol := phrase_fields controlSettings (by simp)
  have hobserver := phrase_fields observerSettings (by simp)
  have hsafety := phrase_fields safetySettings (by simp)
  have hstem : Phrase (heaterStem l) := Written.phrase (phrase_singleton hl) (.lit rfl)
  have htemp : Phrase (heaterStem l ++ "Temp") := Written.phrase hstem (.lit rfl)
  have hinterval : Phrase (heaterStem l ++ "ControlInterval") := Written.phrase hstem (.lit rfl)
  cases h with
  | mk _ hconversion _ _ hpid _ hobservation _ _ hinput hlimits houtput =>
      obtain ⟨hinput, hinputGain⟩ := hinput.tame hx
      obtain ⟨houtput, hg⟩ := houtput.tame hx (phrase_heaterOutputUser i) hstem
      have hconversionItems := hconversion.tame htemp hthermistor
      have hpidItems := hpid.tame hstem hcontrol
      have hobserverItems := hobservation.tame hstem hobserver
      have hsafetyItems := hlimits.tame hstem hsafety
      have hservice : ∀ {name stem : String} {fields : List String}, Phrase name → Phrase stem →
          (∀ field ∈ fields, Phrase field) → (TypeExpr.inst name (optionNames stem fields)).Tame :=
        fun hname hstem hfields => .inst hname (tame_optionNames hstem hfields)
      refine ⟨.inst (.lit rfl) (.append (.append (.cons (.char hl) (.cons .int (.cons .int
          (.cons hinput (.cons (hservice (.lit rfl) htemp hthermistor) .nil)))))
          (tame_optionNames hstem hsafety)) ?_), ?_⟩
      · exact .cons (.text hinterval) (.cons (hservice (.lit rfl) hstem hcontrol)
          (.cons (hservice (.lit rfl) hstem hobserver) (.cons houtput .nil)))
      · refine .append (Gain.tame_ofItems ?_) (hinputGain.append (.append (Gain.tame_ofItems
          (hsafetyItems.append (.cons (Item.tame_numberOption hinterval _) .nil))) hg))
        exact .append (.append (.cons (Item.tame_frameworkInclude (.lit rfl)) hconversionItems)
          (.cons (Item.tame_frameworkInclude (.lit rfl)) hpidItems))
          (.cons (Item.tame_frameworkInclude (.lit rfl)) hobserverItems)

theorem FanGives.tame {i : Nat} {l : Char} {e : TypeExpr} {g : Gain} (h : FanGives x c i l e g)
    (hx : x.PlainNames) (hl : isWordChar l = true) : e.Tame ∧ g.Tame := by
  cases h with
  | mk _ _ houtput =>
      have hstem : Phrase (String.singleton l ++ "Fan") :=
        Written.phrase (phrase_singleton hl) (.lit rfl)
      obtain ⟨houtput, hg⟩ := houtput.tame hx (phrase_fanOutputUser i) hstem
      exact ⟨.inst (.lit rfl) (.cons .int (.cons .int (.cons (.text (.lit rfl)) (.cons houtput .nil)))),
        hg⟩

/-! ## §6. Printers. -/

theorem PointsGive.tame {i : Nat} {points : List Cursor} {es : List TypeExpr} {items : List Item}
    (h : PointsGive i points es items) : TypeExpr.TameAll es ∧ Item.TameAll items := by
  have hfields := phrase_fields ["X", "Y"] (by simp)
  induction h with
  | nil => exact ⟨.nil, .nil⟩
  | @cons i _ _ _ _ _ hpoint _ ih =>
      have hprobe : Phrase "ProbeP" := .lit rfl
      have hstem : Phrase ("ProbeP" ++ Numeral.ofNat i) :=
        Written.phrase hprobe (Numeral.phrase_ofNat i)
      exact ⟨.cons (.list (tame_optionNames hstem hfields)) ih.1,
        (hpoint.tame hstem hfields).append ih.2⟩

theorem ProbeGives.tame {e : TypeExpr} {items : List Item} (h : ProbeGives x c e items)
    (hx : x.PlainNames) : e.Tame ∧ Item.TameAll items := by
  have hoffsets := phrase_fields probeOffset (by simp)
  have hothers := phrase_fields probeSettings (by simp)
  have hstem : Phrase "Probe" := .lit rfl
  cases h with
  | none => exact ⟨.text (.lit rfl), .nil⟩
  | probe _ _ h =>
      cases h with
      | mk hoffset hsettings _ hpoints hinput hinvert =>
          obtain ⟨hpoints, hpointItems⟩ := hpoints.tame
          have haxis : ∀ {ch : Char}, isWordChar ch = true →
              (TypeExpr.inst "WrapInt" [.char ch]).Tame :=
            fun hch => .inst (.lit rfl) (.cons (.char hch) .nil)
          have haxes : TypeExpr.TameAll probeAxes :=
            .cons (.list (.cons (haxis (by decide)) (.cons (haxis (by decide)) .nil)))
              (.cons (.char (by decide)) .nil)
          refine ⟨.inst (.lit rfl) (.append (.append (.append (haxes.append (hinput.tame hx)) ?_)
            (tame_optionNames hstem hothers)) (.cons (.list hpoints) .nil)), ?_⟩
          · exact .cons (.text (Cursor.phrase_boolConstant hinvert))
              (.cons (.list (tame_optionNames hstem hoffsets)) .nil)
          · exact .append (.append (hoffset.tame hstem hoffsets) (hsettings.tame hstem hothers))
              hpointItems

theorem AdvancedGives.tame {items : List Item} (h : AdvancedGives c items) :
    Item.TameAll items := by
  cases h with
  | mk =>
      exact .cons (Item.tame_frameworkInclude (.lit rfl))
        (.cons (Item.tame_numberConstant (.lit rfl) _) (.cons (Item.tame_numberConstant (.lit rfl) _)
        (.cons (Item.tame_numberOption (.lit rfl) _) .nil)))

/-- The sections of a machine are tame. -/
structure Machine.Sections.Tame (s : Sections) : Prop where
  probe : s.probe.Tame
  steppers : s.steppers.Tame
  heaters : s.heaters.Tame
  transform : s.transform.Tame
  fans : s.fans.Tame

theorem SectionsGive.tame {s : Sections} {g : Gain} (h : SectionsGive x c s g)
    (hx : x.PlainNames) : s.Tame ∧ g.Tame := by
  cases h with
  | mk hprobe hsteppers hheaters htransform hfans =>
      cases hheaters with
      | mk hheaters =>
          cases hfans with
          | mk hfans =>
              obtain ⟨hprobe, hprobeItems⟩ := hprobe.tame hx
              obtain ⟨hsteppers, hstepperGain⟩ := hsteppers.tame fun h hl => h.tame hx hl
              obtain ⟨hheaters, hheaterGain⟩ := hheaters.tame fun h hl => h.tame hx hl
              obtain ⟨htransform, htransformGain⟩ := htransform.tame hx
              obtain ⟨hfans, hfanGain⟩ := hfans.tame fun h hl => h.tame hx hl
              exact ⟨⟨hprobe, hsteppers, hheaters, htransform, hfans⟩,
                .append (Gain.tame_ofItems hprobeItems)
                  ((hstepperGain.append (hheaterGain.append htransformGain)).append hfanGain)⟩

theorem ParamsGive.tame {board : BoardParts} {s : Sections} {e : TypeExpr} {items : List Item}
    (h : ParamsGive c board s e items) (hboard : board.Tame) (hs : s.Tame) :
    e.Tame ∧ Item.TameAll items := by
  cases h with
  | mk _ _ hsegmentBuffer heventBuffer hlookaheadBuffer hlookaheadCommit hfpType =>
      have hint : ∀ {c : Cursor} {key s : String}, c.intConstant key = .ok s →
          (TypeExpr.text s).Tame :=
        fun h => .text (Cursor.phrase_intConstant h)
      have hname : ∀ {s : String}, Phrase s → (TypeExpr.text s).Tame := .text
      refine ⟨.inst (.lit rfl) ?_, ?_⟩
      · exact .cons hboard.serial (.cons hboard.ledPin (.cons (hname (.lit rfl))
          (.cons (hname (.lit rfl)) (.cons (hname (.lit rfl)) (.cons (hname (.lit rfl))
          (.cons (hint hsegmentBuffer) (.cons (hint heventBuffer) (.cons (hint hlookaheadBuffer)
          (.cons (hint hlookaheadCommit) (.cons (hname (.lit rfl))
          (.cons (hname (Cursor.phrase_identifierWhere hfpType)) (.cons hboard.eventTimer
          (.cons hboard.watchdog (.cons hboard.sdCard (.cons hs.probe (.cons (hname (.lit rfl))
          (.cons hboard.configManager (.cons (hname (.lit rfl)) (.cons hs.steppers
          (.cons hs.transform (.cons hs.heaters (.cons hs.fans .nil))))))))))))))))))))))
      · exact .cons (Item.tame_numberOption (.lit rfl) _)
          (.cons (Item.tame_numberConstant (.lit rfl) _)
          (.cons (Item.tame_numberOption (.lit rfl) _) .nil))

/-- **What the section of a printer gains is tame**, if the site of its board and the
parts of the board are. -/
theorem PrinterGives.tame {board : BoardParts} {g : Gain} (h : PrinterGives x c board g)
    (hx : x.PlainNames) (hboard : board.Tame) : g.Tame := by
  cases h with
  | @mk _ params _ _ _ hadvanced hsections hparams =>
      obtain ⟨hs, hg⟩ := hsections.tame hx
      obtain ⟨hparams, hparamItems⟩ := hparams.tame hboard hs
      have hprinter : (printerResource params).Tame := by
        refine ⟨.lit rfl, .inst (.lit rfl) ?_, by simp⟩
        exact .cons (.text (.lit rfl)) (.cons (.text (.lit rfl)) (.cons hparams .nil))
      have hname : Phrase "MyPrinter" := .lit rfl
      have hfill : ∀ {slot : String}, (Item.fill slot (.text "MyPrinter")).Tame := fun {_} => hname
      exact .append (Gain.tame_ofItems hadvanced.tame) (hg.append (Gain.tame_ofItems
        (hparamItems.append (.cons hprinter (.cons hfill (.cons hfill .nil))))))

end PrinterFirmware
