/-
  PrinterFirmware.Proofs.Symbol
  ─────────────────────────────
  **THE SYMBOLS OF GENERATED PROGRAMS.**

  Constants, type names, options and resources share one namespace.  Their names
  come from three sources: fixed names, the numbered points of a probe, and fields
  which are prefixed by the letter of an axis, a heater or a fan.

      plain name                       `ForceTimeout`, `MyPins`, ...
      point number coordinate          `ProbeP3X`
      lettered scope letter field      `XMinPos`, `BHeaterPidP`, `AFanPulseInterval`

  Whatever the letters and numbers are, two symbols with one name are one symbol
  (`Symbol.name_injective`).  The second character tells the sources apart: it is
  a lowercase letter in a fixed name and an uppercase one after a letter.
-/
import PrinterFirmware.Machine.Printer

namespace PrinterFirmware

/-! ## §1. Fixed names. -/

/-- The constants of the analog drivers. -/
def analogSymbols : List String :=
  ["AdcFreq", "AdcAvgInterval", "AdcSmoothing", "AdcADiv", "AdcRefSel", "AdcPrescaler"]

/-- The constants of the EEPROM behind a configuration manager. -/
def storeSymbols : List String := ["ConfigEepromI2cFreq", "ConfigEepromWriteTimeout"]

/-- What the section of a board declares, in the order of its walk. -/
def boardSymbols : List String :=
  "MyPins" :: analogSymbols
    ++ ["MyPwm", "TheAxisDriverPrecisionParams", "EventChannelTimerClearance"] ++ storeSymbols

/-- The advanced settings of a machine. -/
def advancedSymbols : List String := ["FanSpeedMultiply", "LedBlinkInterval", "ForceTimeout"]

/-- The settings of a probe, its points apart. -/
def probeSymbols : List String :=
  (Machine.probeOffset ++ Machine.probeSettings).map ("Probe" ++ ·)

/-- The settings of a transform, its axes apart. -/
def transformSymbols : List String :=
  "SegmentsPerSecond" :: "DeltaDiagonalRod" :: Machine.deltaOffsets.map ("Delta" ++ ·)
    ++ ["DeltaMinSplitLength", "DeltaMaxSplitLength"]

/-- What the parameters of the printer declare. -/
def printerSymbols : List String := ["InactiveTime", "SpeedLimitMultiply", "MaxStepsPerCycle"]

/-- All fixed names. -/
def plainSymbols : List String :=
  boardSymbols ++ advancedSymbols ++ probeSymbols ++ transformSymbols ++ printerSymbols
    ++ ["MyPrinter", "MyAdc"]

/-! ## §2. Names after letters. -/

/-- What stands between the letter of a thing and the name of its field. -/
def LetterScope.stem : LetterScope → String
  | .axis => ""
  | .heater => "Heater"
  | .fan => "Fan"

/-- The fields of an axis; a virtual axis has some of them. -/
def axisFields : List String :=
  "InvertDir" :: Machine.stepperMotions ++ "HomeDir" :: "HomeEndInvert" :: Machine.homingMotions

/-- The fields of a heater. -/
def heaterFields : List String :=
  Machine.thermistorSettings.map ("Temp" ++ ·) ++ Machine.controlSettings
    ++ Machine.observerSettings ++ Machine.safetySettings ++ ["ControlInterval", "PulseInterval"]

/-- The fields which are declared for the things of a scope. -/
def LetterScope.fields : LetterScope → List String
  | .axis => axisFields
  | .heater => heaterFields
  | .fan => ["PulseInterval"]

/-- A symbol of a generated program. -/
inductive Symbol where
  | plain (name : String)
  | point (number : Nat) (coordinate : String)
  | lettered (scope : LetterScope) (letter : Char) (field : String)
  deriving DecidableEq

namespace Symbol

/-- The name of a symbol in the program. -/
def name : Symbol → String
  | plain name => name
  | point number coordinate => "ProbeP" ++ Numeral.ofNat number ++ coordinate
  | lettered scope letter field => String.singleton letter ++ scope.stem ++ field

/-- The symbols which can be declared. -/
def Valid : Symbol → Prop
  | plain name => name ∈ plainSymbols
  | point _ coordinate => coordinate ∈ ["X", "Y"]
  | lettered scope letter field => Naming.isUpper letter = true ∧ field ∈ scope.fields

instance : DecidablePred Valid := fun t =>
  match t with
  | plain name => inferInstanceAs (Decidable (name ∈ plainSymbols))
  | point _ coordinate => inferInstanceAs (Decidable (coordinate ∈ ["X", "Y"]))
  | lettered scope letter field =>
      inferInstanceAs (Decidable (Naming.isUpper letter = true ∧ field ∈ scope.fields))

@[simp] theorem name_plain (name : String) : (plain name).name = name := rfl

/-- The scope of a symbol with a letter. -/
def scope? : Symbol → Option LetterScope
  | lettered scope _ _ => some scope
  | _ => none

/-! ## §3. Names determine symbols. -/

/-- `a` to `z`. -/
def isLower (c : Char) : Bool := 'a' ≤ c && c ≤ 'z'

/-- The second character of a name is a lowercase letter. -/
def secondIsLower (s : String) : Bool := s.toList[1]?.any isLower

/-- The fields of all scopes. -/
def scopedFields : List (LetterScope × String) :=
  [LetterScope.axis, .heater, .fan].flatMap fun scope => scope.fields.map (scope, ·)

theorem secondIsLower_plain : ∀ s ∈ plainSymbols, secondIsLower s = true := by decide

theorem not_point_plain : ∀ s ∈ plainSymbols, "ProbeP".toList.isPrefixOf s.toList = false := by
  decide

theorem scopedFields_injective : ∀ a ∈ scopedFields, ∀ b ∈ scopedFields,
    a.1.stem ++ a.2 = b.1.stem ++ b.2 → a = b := by decide

theorem head_scopedFields : ∀ a ∈ scopedFields,
    (a.1.stem ++ a.2).toList.head?.any isLower = false := by decide

theorem mem_scopedFields {scope : LetterScope} {field : String} (h : field ∈ scope.fields) :
    (scope, field) ∈ scopedFields := by
  unfold scopedFields
  refine List.mem_flatMap.2 ⟨scope, ?_, List.mem_map.2 ⟨field, h, rfl⟩⟩
  cases scope <;> decide

/-- The name of a symbol with a letter: the letter, and what follows it. -/
theorem name_lettered (scope : LetterScope) (letter : Char) (field : String) :
    (lettered scope letter field).name.toList = letter :: (scope.stem ++ field).toList := by
  simp [name, String.append_assoc]

theorem secondIsLower_lettered {scope : LetterScope} {letter : Char} {field : String}
    (h : field ∈ scope.fields) : secondIsLower (lettered scope letter field).name = false := by
  unfold secondIsLower
  rw [name_lettered]
  have hd := head_scopedFields _ (mem_scopedFields h)
  cases ht : (scope.stem ++ field).toList with
  | nil => rfl
  | cons c rest =>
      rw [ht] at hd
      exact hd

theorem secondIsLower_point (number : Nat) (coordinate : String) :
    secondIsLower (point number coordinate).name = true := by
  simp [secondIsLower, name, isLower]

theorem digits_injective {m n : Nat} (h : Numeral.digits m = Numeral.digits n) : m = n := by
  rw [← Numeral.value_digits m, h, Numeral.value_digits]

/-- The names of points: the number stands between a fixed stem and one character. -/
theorem point_name_injective {m n : Nat} {a b : String} (ha : a ∈ ["X", "Y"]) (hb : b ∈ ["X", "Y"])
    (h : (point m a).name = (point n b).name) : m = n ∧ a = b := by
  have hc : Numeral.digits m ++ a.toList = Numeral.digits n ++ b.toList := by
    have := congrArg String.toList h
    simpa [name, Numeral.ofNat] using this
  have hlast := congrArg List.getLast? hc
  have hab : a = b := by
    simp only [List.mem_cons, List.not_mem_nil, or_false] at ha hb
    rcases ha with rfl | rfl <;> rcases hb with rfl | rfl <;> simp_all
  subst hab
  exact ⟨digits_injective (List.append_cancel_right hc), rfl⟩

/-- **Two symbols with one name are one symbol.** -/
theorem name_injective {s t : Symbol} (hs : s.Valid) (ht : t.Valid) (h : s.name = t.name) :
    s = t := by
  -- The second character tells lettered symbols from the others.
  have hl := congrArg secondIsLower h
  cases s with
  | plain a =>
      have ha := secondIsLower_plain a hs
      cases t with
      | plain b => exact congrArg plain h
      | point n b =>
          have hno := not_point_plain a hs
          have hn : a = (point n b).name := h
          rw [hn] at hno
          simp [name, List.isPrefixOf] at hno
      | lettered scope l f =>
          rw [secondIsLower_lettered ht.2] at hl
          exact absurd (ha.symm.trans hl) (by decide)
  | point m a =>
      have hm := secondIsLower_point m a
      cases t with
      | plain b =>
          have hno := not_point_plain b ht
          have hn : (point m a).name = b := h
          rw [← hn] at hno
          simp [name, List.isPrefixOf] at hno
      | point n b =>
          obtain ⟨rfl, rfl⟩ := point_name_injective hs ht h
          rfl
      | lettered scope l f =>
          rw [secondIsLower_lettered ht.2] at hl
          exact absurd (hm.symm.trans hl) (by decide)
  | lettered scope l f =>
      have hf : secondIsLower (lettered scope l f).name = false := secondIsLower_lettered hs.2
      cases t with
      | plain b =>
          have hb := secondIsLower_plain b ht
          exact absurd (hf.symm.trans (hl.trans hb)) (by decide)
      | point n b =>
          exact absurd (hf.symm.trans (hl.trans (secondIsLower_point n b))) (by decide)
      | lettered scope' l' f' =>
          have hc := congrArg String.toList h
          rw [name_lettered, name_lettered] at hc
          injection hc with hletter htail
          have hpair := scopedFields_injective _ (mem_scopedFields hs.2) _ (mem_scopedFields ht.2)
            (String.toList_inj.1 htail)
          injection hpair with hscope hfield
          rw [hletter, hscope, hfield]

end Symbol

end PrinterFirmware
