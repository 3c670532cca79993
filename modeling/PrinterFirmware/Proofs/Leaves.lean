/-
  PrinterFirmware.Proofs.Leaves
  ─────────────────────────────
  **EVERY OPTION OF A PROGRAM IS A LEAF OF ITS PRINTER.**

  The leaves of an expression are the texts which it copies into the program as they are.
  A part of the printer which contributes an option puts its name into its expression; the
  lemmas follow the relations of the walks one by one, and say of each part that the options
  among its items are leaves of its expression.

      leaves               the texts in an expression
      declaredOptions      the names of the options among items
      PrinterGives.used    every option of a printer is a leaf of its expression
-/
import PrinterFirmware.Proofs.Distinct
import PrinterFirmware.Proofs.Options

namespace PrinterFirmware

open Document Naming Build Board Machine

variable {document : Value} {x : Site document} {c : Cursor}

/-! ## §1. Leaves. -/

namespace TypeExpr

mutual

/-- The texts in an expression, from the left to the right. -/
def leaves : TypeExpr → List String
  | .text s => [s]
  | .int _ => []
  | .bool _ => []
  | .char _ => []
  | .inst _ args => leavesAmong args

/-- The texts in several expressions. -/
def leavesAmong : List TypeExpr → List String
  | [] => []
  | e :: es => leaves e ++ leavesAmong es

end

@[simp] theorem leaves_text (s : String) : (text s).leaves = [s] := rfl
@[simp] theorem leaves_int (n : Int) : (int n).leaves = [] := rfl
@[simp] theorem leaves_bool (b : Bool) : (bool b).leaves = [] := rfl
@[simp] theorem leaves_char (l : Char) : (char l).leaves = [] := rfl

@[simp] theorem leaves_inst (name : String) (args : List TypeExpr) :
    (inst name args).leaves = leavesAmong args := rfl

@[simp] theorem leaves_list (es : List TypeExpr) : (list es).leaves = leavesAmong es := rfl

@[simp] theorem leavesAmong_nil : leavesAmong [] = [] := rfl

@[simp] theorem leavesAmong_cons (e : TypeExpr) (es : List TypeExpr) :
    leavesAmong (e :: es) = e.leaves ++ leavesAmong es := rfl

@[simp] theorem leavesAmong_append (es es' : List TypeExpr) :
    leavesAmong (es ++ es') = leavesAmong es ++ leavesAmong es' := by
  induction es with
  | nil => rfl
  | cons e rest ih =>
      rw [List.cons_append, leavesAmong_cons, leavesAmong_cons, ih, List.append_assoc]

theorem mem_leavesAmong {s : String} {es : List TypeExpr} :
    s ∈ leavesAmong es ↔ ∃ e ∈ es, s ∈ e.leaves := by
  induction es with
  | nil => simp
  | cons e rest ih => simp [ih]

@[simp] theorem leavesAmong_optionNames (stem : String) (fields : List String) :
    leavesAmong (optionNames stem fields) = fields.map (stem ++ ·) := by
  induction fields with
  | nil => rfl
  | cons field rest ih => exact congrArg ((stem ++ field) :: ·) ih

end TypeExpr

open TypeExpr

/-! ## §2. Options among items. -/

/-- The names of the options among items. -/
def declaredOptions (items : List Item) : List String := items.filterMap Item.optionName?

@[simp] theorem declaredOptions_nil : declaredOptions [] = [] := rfl

@[simp] theorem declaredOptions_append (items items' : List Item) :
    declaredOptions (items ++ items') = declaredOptions items ++ declaredOptions items' :=
  List.filterMap_append

@[simp] theorem declaredOptions_number (name : String) (v : Binary64) (items : List Item) :
    declaredOptions (.numberOption name v :: items) = name :: declaredOptions items := rfl

@[simp] theorem declaredOptions_bool (name : String) (b : Bool) (items : List Item) :
    declaredOptions (.boolOption name b :: items) = name :: declaredOptions items := rfl

@[simp] theorem declaredOptions_include (path : String) (items : List Item) :
    declaredOptions (.frameworkInclude path :: items) = declaredOptions items := rfl

@[simp] theorem declaredOptions_constant (name : String) (v : Binary64) (items : List Item) :
    declaredOptions (.numberConstant name v :: items) = declaredOptions items := rfl

/-- Items without lines of options declare none. -/
theorem declaredOptions_eq_nil {items : List Item} (h : optionLines items = []) :
    declaredOptions items = [] := by
  unfold optionLines at h
  rw [List.filterMap_eq_nil_iff] at h
  unfold declaredOptions
  rw [List.filterMap_eq_nil_iff]
  intro item hitem
  have hnone := h item hitem
  cases item <;> first | rfl | cases hnone

theorem OptionsGive.declared {stem : String} {fields : List String} {items : List Item}
    (h : OptionsGive c stem fields items) :
    declaredOptions items = fields.map (stem ++ ·) := by
  induction h with
  | nil => rfl
  | cons _ _ ih => exact congrArg (_ :: ·) ih

/-- The options among the items are leaves of the expression. -/
def Used (e : TypeExpr) (items : List Item) : Prop := declaredOptions items ⊆ e.leaves

theorem used_of_optionless {items : List Item} (h : optionLines items = []) (e : TypeExpr) :
    Used e items := by
  unfold Used
  rw [declaredOptions_eq_nil h]
  exact List.nil_subset _

/-! ## §3. Axes. -/

theorem HomingGives.used {l : Char} {e : TypeExpr} {items : List Item}
    (h : HomingGives x c l e items) : Used e items := by
  cases h with
  | none => exact used_of_optionless rfl _
  | homing _ _ _ _ hmotions =>
      intro name hname
      simp only [declaredOptions_include, declaredOptions_bool, hmotions.declared,
        List.mem_cons] at hname
      rcases hname with rfl | rfl | hname
      · simp
      · simp
      · simp [hname]

theorem StepperGives.used {i : Nat} {l : Char} {e : TypeExpr} {g : Gain}
    (h : StepperGives x c i l e g) : Used e g.items := by
  cases h with
  | mk _ _ _ _ _ hmotions hhoming _ htimer =>
      intro name hname
      simp only [Gain.items_append, Gain.items_ofItems, declaredOptions_append, hmotions.declared,
        declaredOptions_eq_nil htimer.optionless, declaredOptions_include, declaredOptions_bool,
        declaredOptions_nil, List.mem_append, List.mem_singleton, List.not_mem_nil, or_false] at hname
      rcases hname with rfl | hname | hname
      · simp
      · simp [hname]
      · simp [hhoming.used hname]

theorem VirtualHomingGives.used {l : Char} {e : TypeExpr} {items : List Item}
    (h : VirtualHomingGives x c l e items) : Used e items := by
  cases h with
  | none => exact used_of_optionless rfl _
  | homing _ _ _ _ hmotions =>
      intro name hname
      simp only [declaredOptions_bool, hmotions.declared, List.mem_cons] at hname
      rcases hname with rfl | rfl | hname
      · simp
      · simp
      · simp [hname]

theorem VirtualAxisGives.used {l : Char} {e : TypeExpr} {g : Gain}
    (h : VirtualAxisGives x c l e g) : Used e g.items := by
  cases h with
  | mk hmotions hhoming =>
      intro name hname
      simp only [Gain.items_ofItems, declaredOptions_append, hmotions.declared,
        List.mem_append] at hname
      rcases hname with hname | hname
      · simp [hname]
      · simp [hhoming.used hname]

/-! ## §4. Heaters, points and transforms. -/

theorem HeaterGives.used {i : Nat} {l : Char} {e : TypeExpr} {g : Gain}
    (h : HeaterGives x c i l e g) : Used e g.items := by
  cases h with
  | mk _ hthermistor _ _ hpid _ hobservation _ _ hinput hsafety houtput =>
      intro name hname
      simp only [Gain.items_append, Gain.items_ofItems, declaredOptions_append,
        hthermistor.declared, hpid.declared, hobservation.declared, hsafety.declared,
        declaredOptions_eq_nil hinput.optionless, declaredOptions_eq_nil houtput.optionless,
        declaredOptions_include, declaredOptions_number, declaredOptions_nil, List.cons_append,
        List.mem_append, List.mem_singleton, List.not_mem_nil, or_false, false_or] at hname
      rcases hname with ((hname | hname) | hname) | hname | rfl
      · simp [hname]
      · simp [hname]
      · simp [hname]
      · simp [hname]
      · simp

theorem PointsGive.used {i : Nat} {nodes : List Cursor} {es : List TypeExpr} {items : List Item}
    (h : PointsGive i nodes es items) : declaredOptions items ⊆ leavesAmong es := by
  induction h with
  | nil => exact List.nil_subset _
  | cons hpoint _ ih =>
      intro name hname
      rw [declaredOptions_append, hpoint.declared, List.mem_append] at hname
      rcases hname with hname | hname
      · simp only [leavesAmong_cons, leaves_list, leavesAmong_optionNames, List.mem_append]
        exact Or.inl hname
      · simp only [leavesAmong_cons, List.mem_append]
        exact Or.inr (ih hname)

theorem ProbeGives.used {e : TypeExpr} {items : List Item} (h : ProbeGives x c e items) :
    Used e items := by
  cases h with
  | none => exact used_of_optionless rfl _
  | probe _ _ h =>
      cases h with
      | mk hoffset hsettings _ hpoints _ _ =>
          intro name hname
          simp only [declaredOptions_append, hoffset.declared, hsettings.declared,
            List.mem_append] at hname
          rcases hname with (hname | hname) | hname
          · simp [hname]
          · simp [hname]
          · simp [hpoints.used hname]

/-- Things of one scope use their options if each of them does. -/
theorem Things.used {R : Cursor → Nat → Char → TypeExpr → Gain → Prop}
    (hR : ∀ c i l e g, R c i l e g → Used e g.items) {letters after : List Char} {i : Nat}
    {nodes : List Cursor} {es : List TypeExpr} {g : Gain}
    (h : Things R letters i nodes es g after) : declaredOptions g.items ⊆ leavesAmong es := by
  induction h with
  | nil => exact List.nil_subset _
  | cons _ _ h _ ih =>
      rw [Gain.items_append, declaredOptions_append, leavesAmong_cons]
      exact List.append_subset.2 ⟨List.subset_append_of_subset_left _ (hR _ _ _ _ _ h),
        List.subset_append_of_subset_right _ ih⟩

theorem TransformTypeGives.used {e : TypeExpr} {items : List Item}
    (h : TransformTypeGives c e items) : Used e items := by
  cases h with
  | coreXY => exact used_of_optionless rfl _
  | delta _ _ hoffsets =>
      intro name hname
      simp only [declaredOptions_include, declaredOptions_number, declaredOptions_append,
        declaredOptions_constant, declaredOptions_nil, hoffsets.declared, List.mem_cons,
        List.append_nil] at hname
      rcases hname with rfl | hname
      · simp
      · simp [hname]

theorem TransformGives.used {letters after : List Char} {e : TypeExpr} {g : Gain}
    (h : TransformGives x c letters e g after) : Used e g.items := by
  cases h with
  | none => exact used_of_optionless rfl _
  | some _ _ haxes _ _ htype =>
      have haxes := haxes.used fun _ _ _ _ _ h => VirtualAxisGives.used h
      intro name hname
      simp only [Gain.items_append, Gain.items_ofItems, declaredOptions_append,
        declaredOptions_constant, List.mem_append] at hname
      rcases hname with hname | hname
      · simp [haxes hname]
      · simp [htype.used hname]

/-! ## §5. The printer. -/

/-- The parts of a machine which its printer is put together from. -/
def Machine.Sections.exprs (s : Sections) : List TypeExpr :=
  [s.probe, s.steppers, s.transform, s.heaters, s.fans]

theorem SectionsGive.used {s : Sections} {g : Gain} (h : SectionsGive x c s g) :
    declaredOptions g.items ⊆ leavesAmong s.exprs := by
  cases h with
  | mk hprobe hsteppers hheaters htransform hfans =>
      obtain ⟨-, hsteppers⟩ := hsteppers
      obtain ⟨-, hheaters⟩ := hheaters
      obtain ⟨-, hfans⟩ := hfans
      have hfan : ∀ c i l e g, FanGives x c i l e g → Used e g.items := by
        intro c i l e g h
        cases h with
        | mk _ _ houtput => exact used_of_optionless houtput.optionless _
      have hsteppers := hsteppers.used fun _ _ _ _ _ h => StepperGives.used h
      have hheaters := hheaters.used fun _ _ _ _ _ h => HeaterGives.used h
      have hfans := hfans.used hfan
      intro name hname
      simp only [Gain.items_append, Gain.items_ofItems, declaredOptions_append,
        List.mem_append] at hname
      unfold Sections.exprs
      rcases hname with hname | (hname | hname | hname) | hname
      · simp [hprobe.used hname]
      · simp [hsteppers hname]
      · simp [hheaters hname]
      · simp [htransform.used hname]
      · simp [hfans hname]

/-- The expression of the printer has the leaves of its sections; the options of its own
parameters and the advanced one are among its leaves, too. -/
theorem ParamsGive.leaves {parts : BoardParts} {s : Sections} {e : TypeExpr} {items : List Item}
    (h : ParamsGive c parts s e items) :
    leavesAmong s.exprs ⊆ e.leaves ∧ Used e items ∧ "ForceTimeout" ∈ e.leaves := by
  cases h with
  | mk =>
      refine ⟨?_, ?_, ?_⟩
      · intro name hname
        simp only [Sections.exprs, leavesAmong_cons, leavesAmong_nil, List.append_nil,
          List.mem_append] at hname
        rcases hname with hname | hname | hname | hname | hname
        · simp [hname]
        · simp [hname]
        · simp [hname]
        · simp [hname]
        · simp [hname]
      · intro name hname
        simp only [declaredOptions_number, declaredOptions_constant, declaredOptions_nil,
          List.mem_cons, List.not_mem_nil, or_false] at hname
        rcases hname with rfl | rfl
        · simp
        · simp
      · simp

/-- **Every option of a printer is a leaf of its expression**: those of its sections, the
advanced one and the two of its parameters. -/
theorem PrinterGives.used {parts : BoardParts} {g : Gain} (h : PrinterGives x c parts g) :
    ∃ params, printerResource params ∈ g.items ∧ Used params g.items := by
  cases h with
  | @mk s params advancedItems paramItems g hadvanced hsections hparams =>
      obtain ⟨hleaves, hparams, htimeout⟩ := hparams.leaves
      have hfills : declaredOptions [printerResource params,
          .fill "FastEventRoot" (.text "MyPrinter"),
          .fill "EmergencyProvider" (.text "MyPrinter")] = [] := rfl
      have hadvanced : declaredOptions advancedItems = ["ForceTimeout"] := by
        cases hadvanced with
        | mk => rfl
      refine ⟨params, by simp, ?_⟩
      intro name hname
      simp only [Gain.items_append, Gain.items_ofItems, declaredOptions_append, hfills, hadvanced,
        List.append_nil, List.mem_append, List.mem_singleton] at hname
      rcases hname with rfl | hname | hname
      · exact htimeout
      · exact hleaves (hsections.used hname)
      · exact hparams hname

end PrinterFirmware
