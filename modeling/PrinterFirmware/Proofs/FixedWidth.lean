/-
  PrinterFirmware.Proofs.FixedWidth
  ─────────────────────────────────
  **CONSTANTS OF FIXED WIDTH INTEGER TYPES AND THE RANGES OF THEIR TYPES.**

  A constant is declared with a type of a certain width.  Only the driver of the analog
  inputs declares such constants.  The smoothing factor is kept within the range of its
  type; the other constants are integers which are copied from the description, and
  nothing compares them with the range of theirs.

      IntegerType.Fits              whether a type has a value
      IntegerConstant.item_inj      a declaration tells its type, its name and its value
      fits_smoothingFactor          the smoothing factor is in the range of its type
      integerLines_lines            the lines of a program which declare integers
      compile_integer_constants     the constants of a compiled program

  Main results: `compile_integer_constants`, and `wide_constant_unfit` for a description
  whose integer does not fit.
-/
import PrinterFirmware.Proofs.AnalogParts
import PrinterFirmware.Proofs.Options
import PrinterFirmware.Proofs.Symbol
import PrinterFirmware.Proofs.TimerUsers

namespace PrinterFirmware

open Document Naming Build Board Machine

variable {document : Value} {x : Site document} {c : Cursor}

/-! ## §1. Ranges of types. -/

/-- The value is in the range of the type, which its width and its sign tell. -/
def IntegerType.Fits (t : IntegerType) (v : Int) : Prop :=
  if t.isSigned then -2 ^ (t.width - 1) ≤ v ∧ v < 2 ^ (t.width - 1) else 0 ≤ v ∧ v < 2 ^ t.width

instance (t : IntegerType) (v : Int) : Decidable (t.Fits v) := by
  unfold IntegerType.Fits
  infer_instance

/-- A constant of a fixed width integer type. -/
structure IntegerConstant where
  type : IntegerType
  name : String
  value : Int
  deriving DecidableEq, Repr

namespace IntegerConstant

/-- The value of the constant is in the range of its type. -/
def Fits (k : IntegerConstant) : Prop := k.type.Fits k.value

/-- The item which declares the constant. -/
def item (k : IntegerConstant) : Item := .intConstant k.type k.name k.value

/-- The line which declares the constant. -/
def line (k : IntegerConstant) : String :=
  "static " ++ k.type.declared ++ " const " ++ k.name ++ " = " ++ k.type.literal k.value ++ ";"

theorem isInteger_item (k : IntegerConstant) : k.item.isInteger = true := by
  have hne : ∀ t : IntegerType, "static " ++ t.declared ++ " const" ≠ "using" := by
    intro t h
    have hchars := congrArg String.toList h
    rw [String.toList_append, String.toList_append] at hchars
    have hhead : 's' = 'u' := List.head_eq_of_cons_eq hchars
    revert hhead
    decide
  exact bne_iff_ne.2 (hne k.type)

end IntegerConstant

theorem Numeral.ofInt_injective {m n : Int} (h : ofInt m = ofInt n) : m = n := by
  have hsigned : signed m = signed n := String.ofList_injective h
  -- A minus sign is no digit, so the signs are the same.
  have hsign : ∀ k l, '-' :: digits k ≠ digits l := by
    intro k l heq
    have hdigit := isDigit_digits l '-' (heq ▸ List.mem_cons_self)
    revert hdigit
    decide
  cases m with
  | ofNat m =>
      cases n with
      | ofNat n => rw [Symbol.digits_injective hsigned]
      | negSucc n => exact absurd hsigned.symm (hsign _ _)
  | negSucc m =>
      cases n with
      | ofNat n => exact absurd hsigned (hsign _ _)
      | negSucc n =>
          injection hsigned with _ hdigits
          have := Symbol.digits_injective hdigits
          rw [Nat.succ.inj this]

/-- A type tells its name. -/
theorem IntegerType.declared_injective {t t' : IntegerType} (h : t.declared = t'.declared) :
    t = t' := by
  revert h
  cases t <;> cases t' <;> decide +kernel

theorem IntegerType.literal_injective {t : IntegerType} {v v' : Int}
    (h : t.literal v = t.literal v') : v = v' := by
  unfold literal at h
  rw [String.append_left_inj, String.append_right_inj] at h
  exact Numeral.ofInt_injective h

/-- A declaration tells its type, its name and its value. -/
theorem IntegerConstant.item_injective : Function.Injective IntegerConstant.item := by
  rintro ⟨t, name, v⟩ ⟨t', name', v'⟩ h
  injection h with hdeclarator hname hvalue
  rw [String.append_left_inj, String.append_right_inj] at hdeclarator
  -- The literals can be compared once the types are known to be the same.
  obtain rfl := IntegerType.declared_injective hdeclarator
  obtain rfl : name = name' := hname
  obtain rfl := IntegerType.literal_injective hvalue
  rfl

/-! ## §2. The smoothing factor. -/

/-- **The smoothing factor is kept within its type.** -/
theorem fits_smoothingFactor (v : Binary64) : IntegerType.uint16.Fits (smoothingFactor v) := by
  have hrange : 0 ≤ smoothingFactor v ∧ smoothingFactor v ≤ 65535 := by
    unfold smoothingFactor
    split
    · decide
    · split
      · decide
      · split
        · have hscaled : (0 : Int) ≤ v.numerator * 65536 / v.denominator :=
            Int.ediv_nonneg (by omega) (Int.natCast_nonneg _)
          omega
        · decide
  show 0 ≤ smoothingFactor v ∧ smoothingFactor v < 65536
  omega

/-! ## §3. Lines of a program. -/

/-- Whether a line of a program declares a constant of an integer type. -/
def declaresInteger (line : String) : Bool := "static ".toList.isPrefixOf line.toList

/-- The lines of a text which declare constants of integer types, in order. -/
def integerLines (text : String) : List String := (Draft.linesOf text).filter declaresInteger

/-- The line of a constant, without its line break. -/
def Item.constantText? : Item → Option String
  | .constant declarator name value => some (declarator ++ " " ++ name ++ " = " ++ value ++ ";")
  | _ => none

/-- No line of a constant of a tame item is broken. -/
theorem Item.TameAll.unbroken_constants {items : List Item} (h : Item.TameAll items) :
    ∀ t ∈ items.filterMap Item.constantText?, '\n' ∉ t.toList := by
  intro t ht hbreak
  obtain ⟨i, hi, htext⟩ := List.mem_filterMap.1 ht
  have hi := h i hi
  cases i with
  | constant declarator name value =>
      injection htext with htext
      subst htext
      obtain ⟨hdeclarator, hname, hvalue⟩ := hi
      have hspace : Phrase " " := .lit rfl
      have hequals : Phrase " = " := .lit rfl
      have hphrase : Phrase _ := ((((hdeclarator.andThen hspace).andThen hname).andThen
        hequals).andThen hvalue).andThen (.lit rfl : Phrase ";")
      exact hphrase.unbroken hbreak
  | option | platformInclude | frameworkInclude | code | initCall | resource | fill =>
      cases htext

/-- A line declares an integer only if its item does. -/
theorem declaresInteger_of_item {i : Item} {text : String} (h : i.constantText? = some text)
    (hline : declaresInteger text = true) : i.isInteger = true := by
  cases i with
  | constant declarator name value =>
      injection h with h
      subst h
      refine bne_iff_ne.2 ?_
      rintro rfl
      -- The line would begin as the one of a second name does.
      unfold declaresInteger at hline
      simp only [String.toList_append, List.append_assoc] at hline
      exact Bool.false_ne_true hline
  | option | platformInclude | frameworkInclude | code | initCall | resource | fill => cases h

theorem declaresInteger_line (k : IntegerConstant) : declaresInteger k.line = true := by
  unfold declaresInteger IntegerConstant.line
  rw [List.isPrefixOf_iff_prefix]
  simp only [String.toList_append, List.append_assoc]
  exact List.prefix_append _ _

theorem constantText?_item (k : IntegerConstant) : k.item.constantText? = some k.line := by
  refine congrArg some ?_
  unfold IntegerConstant.line
  simp only [String.append_assoc]
  rfl

/-- The lines which declare integers are those of the items which do. -/
theorem filter_constantTexts (items : List Item) :
    (items.filterMap Item.constantText?).filter declaresInteger
      = ((integersAmong items).filterMap Item.constantText?).filter declaresInteger := by
  unfold integersAmong
  rw [List.filter_filterMap, List.filter_filterMap, List.filterMap_filter]
  refine List.filterMap_congr fun i _ => ?_
  cases hinteger : i.isInteger with
  | true => rfl
  | false =>
      cases htext : i.constantText? with
      | none => rfl
      | some text =>
          have hother : declaresInteger text = false := by
            refine Bool.eq_false_iff.2 fun hline => ?_
            rw [declaresInteger_of_item htext hline] at hinteger
            cases hinteger
          show Option.filter declaresInteger (some text) = none
          rw [Option.filter_some, hother]
          rfl

/-- **The lines of a program which declare integers are those of its constants.** -/
theorem integerLines_lines {items : List Item} {constants : List IntegerConstant}
    (htame : Item.TameAll items)
    (h : integersAmong items = constants.map IntegerConstant.item) :
    integerLines (Draft.lines (items.filterMap Draft.constantLine?))
      = constants.map IntegerConstant.line := by
  have hlines : items.filterMap Draft.constantLine?
      = (items.filterMap Item.constantText?).map (· ++ "\n") := by
    rw [List.map_filterMap]
    congr 1
    funext i
    cases i with
    | constant declarator name value =>
        show some _ = some _
        simp only [String.append_assoc]
        rfl
    | option | platformInclude | frameworkInclude | code | initCall | resource | fill => rfl
  have htexts : (constants.map IntegerConstant.item).filterMap Item.constantText?
      = constants.map IntegerConstant.line := by
    rw [List.filterMap_map, ← List.filterMap_eq_map]
    exact List.filterMap_congr fun k _ => constantText?_item k
  -- The lines which are kept on account of their items are those of the constants.
  have hkept : (constants.map IntegerConstant.line).filter declaresInteger
      = constants.map IntegerConstant.line := by
    rw [List.filter_eq_self]
    intro line hline
    obtain ⟨k, -, rfl⟩ := List.mem_map.1 hline
    exact declaresInteger_line k
  have hempty : declaresInteger "" = false := by decide
  unfold integerLines
  rw [hlines, Draft.linesOf_lines htame.unbroken_constants, List.filter_append, List.filter_cons,
    hempty, filter_constantTexts, h, htexts, hkept]
  exact List.append_nil _

/-! ## §4. Constants of a description. -/

/-- The integer constants of a driver of analog inputs, as its section describes them.
Integers are taken as they are. -/
def driverConstants (tag : String) (analog : Cursor) : Reading (List IntegerConstant) :=
  if tag = "At91SamAdc" then do
    let smoothing ← analog.number "smoothing"
    return [⟨.uint16, "AdcSmoothing", smoothingFactor smoothing⟩]
  else if tag = "Mk20Adc" then do
    let divisor ← analog.int "AdcADiv"
    return [⟨.int32, "AdcADiv", divisor⟩]
  else do
    let reference ← analog.int "RefSel"
    let prescaler ← analog.int "Prescaler"
    return [⟨.int32, "AdcRefSel", reference⟩, ⟨.int32, "AdcPrescaler", prescaler⟩]

/-- The integer constants of the driver of the analog inputs of a board. -/
def analogConstants (board : Cursor) : Reading (List IntegerConstant) := do
  let analog ← analogSection board
  let tag ← analog.string Cursor.tagKey
  driverConstants tag analog

/-- A driver declares the constants which its section describes. -/
theorem AnalogGives.constants {key : String} {a : AnalogDriver} {items : List Item}
    (h : AnalogGives c key a items) : ∃ analog tag constants, c.enter key = .ok analog
      ∧ analog.string Cursor.tagKey = .ok tag ∧ driverConstants tag analog = .ok constants
      ∧ integersAmong items = constants.map IntegerConstant.item := by
  cases h with
  | @at91Sam node _ _ smoothing _ _ _ _ hnode _ _ hsmoothing =>
      refine ⟨node, _, [⟨.uint16, "AdcSmoothing", smoothingFactor smoothing⟩], hnode.entered,
        hnode.tagged, ?_, ?_⟩
      · show (node.number "smoothing" >>= _ : Reading _) = _
        rw [hsmoothing]
        rfl
      · rfl
  | @mk20 node divisor hnode hdivisor => 
      refine ⟨node, _, [⟨.int32, "AdcADiv", divisor⟩], hnode.entered, hnode.tagged, ?_, ?_⟩
      · show (node.int "AdcADiv" >>= _ : Reading _) = _
        rw [hdivisor]
        rfl
      · rfl
  | @avr node reference prescaler hnode hreference hprescaler =>
      refine ⟨node, _, [⟨.int32, "AdcRefSel", reference⟩, ⟨.int32, "AdcPrescaler", prescaler⟩],
        hnode.entered, hnode.tagged, ?_, ?_⟩
      · show (node.int "RefSel" >>= _ : Reading _) = _
        rw [hreference]
        show (node.int "Prescaler" >>= _ : Reading _) = _
        rw [hprescaler]
        rfl
      · rfl

/-- A constant is copied from the description, or it is kept within its type. -/
theorem fits_of_analogConstants {board : Cursor} {constants : List IntegerConstant}
    (h : analogConstants board = .ok constants) {k : IntegerConstant} (hk : k ∈ constants) :
    k.type = .int32 ∨ k.Fits := by
  obtain ⟨analog, -, h⟩ := reading_bind_eq_ok.1 h
  obtain ⟨tag, -, h⟩ := reading_bind_eq_ok.1 h
  unfold driverConstants at h
  split at h
  · obtain ⟨smoothing, -, h⟩ := reading_bind_eq_ok.1 h
    cases h
    rw [List.mem_singleton.1 hk]
    exact Or.inr (fits_smoothingFactor smoothing)
  · split at h
    · obtain ⟨divisor, -, h⟩ := reading_bind_eq_ok.1 h
      cases h
      rw [List.mem_singleton.1 hk]
      exact Or.inl rfl
    · obtain ⟨reference, -, h⟩ := reading_bind_eq_ok.1 h
      obtain ⟨prescaler, -, h⟩ := reading_bind_eq_ok.1 h
      cases h
      rcases List.mem_pair.1 hk with rfl | rfl
      · exact Or.inl rfl
      · exact Or.inl rfl

/-! ## §5. Compiled programs. -/

/-- The constants of integer types of a program: the items which declare them, and the lines
of its text which do. -/
structure Draft.HasIntegers (d : Draft) (text : String) (constants : List IntegerConstant) :
    Prop where
  items : integersAmong d.items = constants.map IntegerConstant.item
  lines : integerLines text = constants.map IntegerConstant.line

/-- A constant which a program declares is one of its constants. -/
theorem Draft.HasIntegers.mem_items {d : Draft} {text : String} {constants : List IntegerConstant}
    (h : d.HasIntegers text constants) {k : IntegerConstant} :
    k.item ∈ d.items ↔ k ∈ constants := by
  have hkept : k.item ∈ d.items ↔ k.item ∈ integersAmong d.items := by
    unfold integersAmong
    rw [List.mem_filter, k.isInteger_item]
    exact (and_iff_left rfl).symm
  rw [hkept, h.items, List.mem_map_of_injective IntegerConstant.item_injective]

theorem CompileGives.integers {name? : Option String} {c : Compiled}
    (h : CompileGives document name? c) : ∃ config board w constants text,
      selectSections (.root document) name? = .ok (config, board)
        ∧ analogConstants board = .ok constants
        ∧ build document name? .empty = .ok c w
        ∧ c.slots.get? "EXTRA_CONSTANTS" = some text
        ∧ w.draft.HasIntegers text constants := by
  obtain ⟨config, board, heaters, w, a, items, pins, hsections, -, hrun, hslots, htame,
    hwired⟩ := h.wired
  obtain ⟨platform, hsection, hanalog⟩ := hwired.driven
  obtain ⟨analog, tag, constants, hnode, htag, hconstants, hitems⟩ := hanalog.constants
  have hintegers := hwired.integers.trans hitems
  have hslot : ("EXTRA_CONSTANTS", Draft.lines (w.draft.items.filterMap Draft.constantLine?))
      ∈ w.draft.ownSlots := by
    simp [Draft.ownSlots]
  have hdescribed : analogConstants board = .ok constants := by
    unfold analogConstants
    rw [hsection, hnode]
    show (analog.string Cursor.tagKey >>= _ : Reading _) = _
    rw [htag]
    exact hconstants
  exact ⟨config, board, w, constants, _, hsections, hdescribed, hrun,
    hslots ▸ Draft.get?_ownSlot w.draft hslot, hintegers, integerLines_lines htame hintegers⟩

/-- **The integer constants of a program are those of its driver of the analog inputs.**
They are declared in the order in which they are described, and their values are the ones
of the description.  A smoothing factor is within the range of its type.  So all constants
are within the ranges of their types if and only if the integers which are copied from the
description are in the range of their type. -/
theorem compile_integer_constants {name? : Option String} {c : Compiled}
    (h : compile document name? = .ok c) : ∃ config board w constants text,
      selectSections (.root document) name? = .ok (config, board)
        ∧ analogConstants board = .ok constants
        ∧ build document name? .empty = .ok c w
        ∧ c.slots.get? "EXTRA_CONSTANTS" = some text
        ∧ w.draft.HasIntegers text constants
        ∧ ((∀ k : IntegerConstant, k.item ∈ w.draft.items → k.Fits)
          ↔ ∀ k ∈ constants, k.type = .int32 → k.Fits) := by
  obtain ⟨config, board, w, constants, text, hsections, hconstants, hrun, htext, hdeclares⟩ :=
    (compile_gives h).integers
  refine ⟨config, board, w, constants, text, hsections, hconstants, hrun, htext, hdeclares, ?_⟩
  constructor
  · intro hall k hk _
    exact hall k (hdeclares.mem_items.2 hk)
  · intro hcopied k hk
    have hk := hdeclares.mem_items.1 hk
    rcases fits_of_analogConstants hconstants hk with htype | hfits
    · exact hcopied k hk htype
    · exact hfits

/-- The divisor of the small description is in the range of its type. -/
theorem sample_integers_fit : ∃ c w text, compile Sample.description none = .ok c
    ∧ build Sample.description none .empty = .ok c w
    ∧ c.slots.get? "EXTRA_CONSTANTS" = some text
    ∧ integerLines text = ["static int32_t const AdcADiv = INT32_C(1);"]
    ∧ ∀ k : IntegerConstant, k.item ∈ w.draft.items → k.Fits := by
  obtain ⟨c, hc⟩ := Sample.compiles
  obtain ⟨config, board, w, constants, text, hsections, hconstants, hrun, htext, hdeclares,
    hfits⟩ := compile_integer_constants hc
  cases Sample.selected.symm.trans hsections
  have hdivisor : analogConstants Sample.boardAt = .ok [⟨.int32, "AdcADiv", 1⟩] := rfl
  cases hdivisor.symm.trans hconstants
  refine ⟨c, w, text, hc, hrun, htext, ?_, hfits.2 ?_⟩
  · rw [hdeclares.lines]
    decide +kernel
  · intro k hk _
    rw [List.mem_singleton.1 hk]
    show IntegerType.int32.Fits 1
    decide

namespace Sample

/-- The driver of the analog inputs with a divisor which needs more than thirty-two bits. -/
def wideAnalog : Value := tagged "Mk20Adc" [("AdcADiv", .int 2147483648)]

def wideBoard : Value :=
  changed "platform_config" (.object [("board_for_build", .string "b"),
    ("output_type", .string "hex"), ("board_helper_includes", .list []),
    ("platform", changed "adc" wideAnalog platform)]) board

/-- A printer whose analog inputs have a divisor out of range. -/
def wide : Value :=
  .object [("selected_config", .string "C"), ("configurations", .list [config]),
    ("boards", .list [wideBoard])]

/-- The board with the divisor, at its place. -/
def wideBoardAt : Cursor := ⟨wideBoard, (Path.root.key "boards").index 0⟩

/-- The description is compiled. -/
theorem wide_compiles : ∃ c, compile wide none = .ok c :=
  compiled_of_isOk (by decide +kernel)

end Sample

/-- **A constant can be out of the range of its type.**  The description with the divisor
`2 ^ 31` is compiled, and the divisor is declared as an integer of thirty-two bits. -/
theorem wide_constant_unfit : ∃ c w text k, compile Sample.wide none = .ok c
    ∧ build Sample.wide none .empty = .ok c w ∧ c.slots.get? "EXTRA_CONSTANTS" = some text
    ∧ k = (⟨.int32, "AdcADiv", 2147483648⟩ : IntegerConstant) ∧ k.item ∈ w.draft.items
    ∧ k.line ∈ integerLines text ∧ ¬ k.Fits := by
  obtain ⟨c, hc⟩ := Sample.wide_compiles
  obtain ⟨config, board, w, constants, text, hsections, hconstants, hrun, htext, hdeclares⟩ :=
    (compile_gives hc).integers
  have hselected : selectSections (.root Sample.wide) none
      = .ok (Sample.configAt, Sample.wideBoardAt) := rfl
  cases hselected.symm.trans hsections
  have hdivisor : analogConstants Sample.wideBoardAt = .ok [⟨.int32, "AdcADiv", 2147483648⟩] := rfl
  cases hdivisor.symm.trans hconstants
  refine ⟨c, w, text, _, hc, hrun, htext, rfl, hdeclares.mem_items.2 List.mem_cons_self, ?_, ?_⟩
  · rw [hdeclares.lines]
    exact List.mem_cons_self
  · show ¬ IntegerType.int32.Fits 2147483648
    decide

end PrinterFirmware
