/-
  PrinterFirmware.Proofs.TransformLetters
  ───────────────────────────────────────
  **A TRANSFORM MOVES STEPPERS OF ITS CONFIGURATION.**

  A transform names the steppers which it moves by their letters, and gives letters to its
  virtual axes.  The letters of the steppers and of the virtual axes are one scope.  So a
  letter which the transform names belongs to one stepper at most; it has to belong to one,
  which is not subject to the cartesian speed limit.

      Things.letters         things of one scope have different letters
      CarriedOnce            one of the steppers has the letter, and no other
      LinkedTransform        the transform of a compiled program
      TransformFault         what is wrong with other transforms

  Main result: `compile_transform_linked`.
-/
import Mathlib.Data.List.Nodup
import PrinterFirmware.Proofs.Positions

namespace PrinterFirmware

open Document Naming Build Machine

variable {document : Value} {x : Site document} {c : Cursor}

/-! ## §1. Letters and numbered fields. -/

/-- Things of one scope have letters which are different, and not in use before. -/
theorem Things.letters {R : Cursor → Nat → Char → TypeExpr → Gain → Prop}
    {letters after : List Char} {i : Nat} {nodes : List Cursor} {es : List TypeExpr} {g : Gain}
    (h : Things R letters i nodes es g after) (hletters : letters.Nodup) :
    after.Nodup ∧ ∃ new, after = letters ++ new ∧ nodes.map (·.letter letterKey) = new.map .ok := by
  induction h with
  | nil => exact ⟨hletters, [], (List.append_nil _).symm, rfl⟩
  | @cons letters after i c rest l e es g g' hnew hletter _ _ ih =>
      have hone : (letters ++ [l]).Nodup :=
        List.nodup_append_comm.1 (List.nodup_cons.2 ⟨hnew, hletters⟩)
      obtain ⟨hafter, new, rfl, hnew⟩ := ih hone
      refine ⟨hafter, l :: new, List.append_assoc _ _ _, ?_⟩
      rw [List.map_cons, List.map_cons, hletter, hnew]

/-- The objects of numbered fields by their numbers. -/
theorem Numbered.getElem? {elems : Cursor} {stem : String} {i : Nat} {nodes : List Cursor}
    (h : Numbered elems stem i nodes) {j : Nat} (hj : j < nodes.length) {d : Cursor}
    (hd : elems.enter (stem ++ Numeral.ofNat (i + j)) = .ok d) : nodes[j]? = some d := by
  induction h generalizing j with
  | nil => cases hj
  | @cons i c rest hc _ ih =>
      cases j with
      | zero => exact congrArg some (Except.ok.inj (hc.symm.trans hd))
      | succ j =>
          refine ih (Nat.lt_of_succ_lt_succ hj) ?_
          rwa [Nat.succ_add_eq_add_succ]

/-- An object which is named by the letter of another has this letter. -/
theorem letter_of_isNamed {d : Cursor} {key key' : String} {l : Char} (hl : d.letter key' = .ok l)
    (h : c.isNamed key (String.singleton l) = true) : c.letter key = .ok l := by
  obtain ⟨s, -, hs⟩ := Cursor.letter_eq_ok.1 hl
  obtain ⟨rfl, -⟩ := Cursor.letter?_eq_some hs
  have hstring : c.string key = .ok (String.singleton l) := by
    refine Cursor.fieldAs_eq_ok.2 ?_
    rw [Cursor.isNamed_iff.1 h]
    rfl
  exact Cursor.letter_eq_ok.2 ⟨_, hstring, hs⟩

/-- What is found in a list of objects is one of them. -/
theorem mem_of_find {key field value : String} {min max : Nat} {nodes : List Cursor} {e : Cursor}
    (hnodes : c.objects key min max = .ok nodes) (he : c.find key field value = .ok e) :
    e ∈ nodes ∧ e.isNamed field value = true := by
  obtain ⟨elems, helems, -, -, rfl⟩ := Cursor.objects_eq_ok.1 hnodes
  obtain ⟨elems', helems', he⟩ := reading_bind_eq_ok.1 he
  cases helems.symm.trans helems'
  split at he
  · next e' hfind =>
      cases he
      refine ⟨List.mem_of_find?_eq_some hfind, ?_⟩
      exact List.find?_some (p := fun d : Cursor => d.isNamed field value) hfind
  · cases he

/-! ## §2. Transforms of compiled programs. -/

/-- Exactly one of the steppers has the letter `l`, and it is not subject to the cartesian
speed limit. -/
def CarriedOnce (steppers : List Cursor) (l : Char) : Prop :=
  ∃ before stepper after, steppers = before ++ stepper :: after ∧ stepper.letter "Name" = .ok l
    ∧ stepper.bool "EnableCartesianSpeedLimit" = .ok false
    ∧ ∀ other ∈ before ++ after, other.letter "Name" ≠ .ok l

/-- The transform with the tag `tag` at `node`, and its expression.  The letters of the
steppers and of the virtual axes are all different, and those which the transform names are
carried by one stepper each. -/
inductive LinkedTransform (config node : Cursor) (tag : String) : TypeExpr → Prop where
  | mk {steppers axes nodes : List Cursor} {axisLetters letters : List Char}
      {axesExpr : TypeExpr} {rest : List TypeExpr} (htag : tag = "CoreXY" ∨ tag = "Delta")
      (hsteppers : config.objects "steppers" 1 maxSteppers = .ok steppers)
      (haxes : Fields node "DimensionCount" "CartesianAxes" "VirtualAxis" 1 maxDimensions axes)
      (hletters : (steppers ++ axes).map (·.letter "Name") = axisLetters.map .ok)
      (hdistinct : axisLetters.Nodup)
      (hnodes : Fields node "DimensionCount" "Steppers" "TransformStepper" 1 maxDimensions nodes)
      (hnames : nodes.map (·.letter "StepperName") = letters.map .ok)
      (hcarried : ∀ l ∈ letters, CarriedOnce steppers l) :
      LinkedTransform config node tag (.inst "PrinterMainTransformParams"
        (axesExpr :: .list (letters.map fun l => .inst "WrapInt" [.char l]) :: rest))

/-- A stepper which is found by the letter of another object is the only one of this letter. -/
theorem carriedOnce_of_find {config d target : Cursor} {key : String} {min max : Nat}
    {steppers : List Cursor} {axisLetters : List Char} {l : Char}
    (hsteppers : config.objects "steppers" min max = .ok steppers)
    (hletters : steppers.map (·.letter "Name") = axisLetters.map .ok)
    (hdistinct : axisLetters.Nodup) (hl : d.letter key = .ok l)
    (htarget : config.find "steppers" "Name" (String.singleton l) = .ok target)
    (hcartesian : target.bool "EnableCartesianSpeedLimit" = .ok false) :
    CarriedOnce steppers l := by
  obtain ⟨hmem, hnamed⟩ := mem_of_find hsteppers htarget
  have hletter : target.letter "Name" = .ok l := letter_of_isNamed hl hnamed
  obtain ⟨before, after, rfl⟩ := List.append_of_mem hmem
  refine ⟨before, target, after, rfl, hletter, hcartesian, ?_⟩
  have hnodup : ((before ++ target :: after).map (·.letter "Name")).Nodup := by
    rw [hletters]
    exact hdistinct.map fun _ _ h => Except.ok.inj h
  rw [(List.perm_middle.map _).nodup_iff, List.map_cons, hletter] at hnodup
  intro other hother heq
  exact (List.nodup_cons.1 hnodup).1 (List.mem_map.2 ⟨other, hother, heq⟩)

/-- The steppers of a transform are carried by one stepper each. -/
theorem TransformSteppersGive.letters {config : Cursor} {steppers : List Cursor}
    {axisLetters : List Char} {e : TypeExpr}
    (hsteppers : config.objects "steppers" 1 maxSteppers = .ok steppers)
    (hletters : steppers.map (·.letter "Name") = axisLetters.map .ok)
    (hdistinct : axisLetters.Nodup) (h : TransformSteppersGive config c e) :
    ∃ (nodes : List Cursor) (letters : List Char),
      Fields c "DimensionCount" "Steppers" "TransformStepper" 1 maxDimensions nodes
        ∧ nodes.map (·.letter "StepperName") = letters.map .ok
        ∧ e = .list (letters.map fun l => .inst "WrapInt" [.char l])
        ∧ ∀ l ∈ letters, CarriedOnce steppers l := by
  cases h with
  | @mk nodes es hnodes hes =>
      have hall : ∃ letters : List Char, nodes.map (·.letter "StepperName") = letters.map .ok
          ∧ es = letters.map (fun l => .inst "WrapInt" [.char l])
          ∧ ∀ l ∈ letters, CarriedOnce steppers l := by
        clear hnodes
        -- The letter of each step is looked up among the same steppers.
        induction hes with
        | nil => exact ⟨[], rfl, rfl, fun _ hl => nomatch hl⟩
        | cons he _ ih =>
            obtain ⟨letters, hnames, rfl, hcarried⟩ := ih
            cases he with
            | @mk l target hl htarget hcartesian =>
                refine ⟨l :: letters, ?_, rfl, ?_⟩
                · rw [List.map_cons, List.map_cons, hl, hnames]
                · intro k hk
                  cases hk with
                  | head =>
                      exact carriedOnce_of_find hsteppers hletters hdistinct hl htarget hcartesian
                  | tail _ hk => exact hcarried k hk
      obtain ⟨letters, hnames, rfl, hcarried⟩ := hall
      exact ⟨nodes, letters, hnodes, hnames, rfl, hcarried⟩

theorem TransformTypeGives.tag {tag : String} {e : TypeExpr} {items : List Item}
    (h : TransformTypeGives c e items) (htag : c.string Cursor.tagKey = .ok tag) :
    tag = "CoreXY" ∨ tag = "Delta" := by
  cases h with
  | coreXY h => exact .inl (Except.ok.inj (htag.symm.trans h))
  | delta h => exact .inr (Except.ok.inj (htag.symm.trans h))

/-- A transform whose axes come after the steppers in one scope of letters. -/
theorem TransformGives.linked {config node : Cursor} {steppers : List Cursor}
    {es : List TypeExpr} {stepperGain g : Gain} {letters after : List Char} {tag : String}
    {e : TypeExpr} (hsteppers : config.objects "steppers" 1 maxSteppers = .ok steppers)
    (hes : Things (StepperGives x) [] 0 steppers es stepperGain letters)
    (h : TransformGives x config letters e g after) (hnode : config.Chosen "transform" tag node)
    (htag : tag ≠ "NoTransform") : LinkedTransform config node tag e := by
  -- The scope is empty before the steppers, and the virtual axes come after them in it.
  obtain ⟨hletters, stepperLetters, hstepperLetters, hmap⟩ := hes.letters List.nodup_nil
  rw [List.nil_append] at hstepperLetters
  subst hstepperLetters
  cases h with
  | none hchosen =>
      cases hnode.entered.symm.trans hchosen.entered
      cases hnode.tagged.symm.trans hchosen.tagged
      exact absurd rfl htag
  | @some c tag' axisNodes axes _ _ _ _ _ _ hchosen haxisNodes haxes htransformSteppers _ htype =>
      cases hnode.entered.symm.trans hchosen.entered
      cases hnode.tagged.symm.trans hchosen.tagged
      obtain ⟨hafter, new, rfl, hnew⟩ := haxes.letters hletters
      obtain ⟨nodes, names, hnodes, hnames, rfl, hcarried⟩ :=
        htransformSteppers.letters hsteppers hmap hletters
      refine .mk (htype.tag hchosen.tagged) hsteppers haxisNodes ?_ hafter hnodes hnames hcarried
      rw [List.map_append, List.map_append]
      exact congrArg₂ _ hmap hnew

/-! ## §3. Transforms which are not compiled. -/

/-- The object in field `i` of the numbered fields at `key` of a transform. -/
def TransformField (node : Cursor) (key stem : String) (i : Nat) (c : Cursor) : Prop :=
  ∃ n elems, node.int "DimensionCount" = .ok n ∧ (i : Int) < n ∧ node.enter key = .ok elems
    ∧ elems.enter (stem ++ Numeral.ofNat i) = .ok c

/-- The places of axes. -/
inductive AxisPlace where
  | stepper (i : Nat)
  | virtual (i : Nat)

/-- The axis at a place: a stepper of the configuration, or a virtual axis of the transform
at `node`. -/
inductive AxisAt (config node : Cursor) : AxisPlace → Cursor → Prop where
  | stepper {steppers : List Cursor} {i : Nat} {c : Cursor}
      (hsteppers : config.objects "steppers" 1 maxSteppers = .ok steppers)
      (hc : steppers[i]? = some c) : AxisAt config node (.stepper i) c
  | virtual {i : Nat} {c : Cursor} (hc : TransformField node "CartesianAxes" "VirtualAxis" i c) :
      AxisAt config node (.virtual i) c

/-- What is wrong with a transform: it names a letter which no stepper has, or that of a
stepper which is subject to the cartesian speed limit, or two axes have one letter. -/
inductive TransformFault (config node : Cursor) : Prop where
  | unknown {i : Nat} {c : Cursor} {l : Char}
      (hc : TransformField node "Steppers" "TransformStepper" i c)
      (hl : c.letter "StepperName" = .ok l)
      (hunknown : ∀ j s, AxisAt config node (.stepper j) s → s.letter "Name" ≠ .ok l)
  | cartesian {i j : Nat} {c s : Cursor} {l : Char}
      (hc : TransformField node "Steppers" "TransformStepper" i c)
      (hl : c.letter "StepperName" = .ok l) (hs : AxisAt config node (.stepper j) s)
      (hname : s.letter "Name" = .ok l) (hcartesian : s.bool "EnableCartesianSpeedLimit" = .ok true)
  | repeated {p q : AxisPlace} {c d : Cursor} {l : Char} (hc : AxisAt config node p c)
      (hd : AxisAt config node q d) (hpq : p ≠ q) (hl : c.letter "Name" = .ok l)
      (hl' : d.letter "Name" = .ok l)

/-- The numbered fields of a transform by their numbers. -/
theorem Fields.getElem? {node : Cursor} {key stem : String} {min max i : Nat}
    {nodes : List Cursor} (h : Fields node "DimensionCount" key stem min max nodes)
    (hc : TransformField node key stem i c) : nodes[i]? = some c := by
  obtain ⟨n, elems, hcount, hi, helems, hc⟩ := hc
  obtain ⟨n', hcount', -, -, hlength⟩ := h.count
  obtain ⟨elems', helems', hnumbered⟩ := h.numbered
  cases hcount.symm.trans hcount'
  cases helems.symm.trans helems'
  refine hnumbered.getElem? (by omega) ?_
  rwa [Nat.zero_add]

/-- The index of a place among all axes: the virtual axes come after the steppers. -/
def AxisPlace.index (steppers : Nat) : AxisPlace → Nat
  | .stepper i => i
  | .virtual i => steppers + i

theorem AxisPlace.eq_of_index {n : Nat} {p q : AxisPlace} (hp : ∀ i, p = .stepper i → i < n)
    (hq : ∀ i, q = .stepper i → i < n) (h : p.index n = q.index n) : p = q := by
  cases p with
  | stepper i =>
      cases q with
      | stepper j => exact congrArg _ h
      | virtual j =>
          have hi := hp i rfl
          simp only [index] at h
          omega
  | virtual i =>
      cases q with
      | stepper j =>
          have hj := hq j rfl
          simp only [index] at h
          omega
      | virtual j => exact congrArg _ (Nat.add_left_cancel h)

theorem AxisAt.getElem? {config node : Cursor} {steppers axes : List Cursor} {p : AxisPlace}
    (hsteppers : config.objects "steppers" 1 maxSteppers = .ok steppers)
    (haxes : Fields node "DimensionCount" "CartesianAxes" "VirtualAxis" 1 maxDimensions axes)
    (h : AxisAt config node p c) :
    (steppers ++ axes)[p.index steppers.length]? = some c
      ∧ ∀ i, p = .stepper i → i < steppers.length := by
  cases h with
  | @stepper steppers' i c hsteppers' hc =>
      cases hsteppers.symm.trans hsteppers'
      obtain ⟨hlt, -⟩ := List.getElem?_eq_some_iff.1 hc
      refine ⟨?_, ?_⟩
      · rw [AxisPlace.index, List.getElem?_append_left hlt]
        exact hc
      · rintro j ⟨⟩
        exact hlt
  | @virtual i c hc =>
      refine ⟨?_, fun j hj => nomatch hj⟩
      rw [AxisPlace.index, List.getElem?_append_right (Nat.le_add_right _ _),
        Nat.add_sub_cancel_left]
      exact haxes.getElem? hc

/-- A transform of a compiled program has no fault. -/
theorem LinkedTransform.faultless {config node : Cursor} {tag : String} {e : TypeExpr}
    (h : LinkedTransform config node tag e) : ¬ TransformFault config node := by
  cases h with
  | @mk steppers axes nodes axisLetters letters _ _ _ hsteppers haxes hletters hdistinct hnodes
      hnames hcarried =>
      -- A letter which the transform names is carried by one stepper.
      have hnamed : ∀ {i : Nat} {c : Cursor} {l : Char},
          TransformField node "Steppers" "TransformStepper" i c → c.letter "StepperName" = .ok l →
            CarriedOnce steppers l := by
        intro i c l hc hl
        have hmem : Except.ok l ∈ nodes.map (·.letter "StepperName") :=
          List.mem_map.2 ⟨c, List.mem_of_getElem? (hnodes.getElem? hc), hl⟩
        rw [hnames] at hmem
        obtain ⟨l', hl', heq⟩ := List.mem_map.1 hmem
        cases heq
        exact hcarried l hl'
      intro hfault
      cases hfault with
      -- The letter which is said to be unknown is carried by a stepper.
      | unknown hc hl hunknown =>
          obtain ⟨before, stepper, after, rfl, hletter, -, -⟩ := hnamed hc hl
          exact hunknown before.length stepper (.stepper hsteppers (by simp)) hletter
      | cartesian hc hl hs hname hcartesian =>
          obtain ⟨before, stepper, after, rfl, -, hfree, hother⟩ := hnamed hc hl
          cases hs with
          | stepper hsteppers' hs =>
              cases hsteppers.symm.trans hsteppers'
              -- The stepper which carries the letter is not cartesian, and no other has it.
              have hmem := List.perm_middle.mem_iff.1 (List.mem_of_getElem? hs)
              rcases List.mem_cons.1 hmem with rfl | hmem
              · cases hfree.symm.trans hcartesian
              · exact hother _ hmem hname
      | @repeated p q c d l hc hd hpq hl hl' =>
          obtain ⟨hp, hplt⟩ := hc.getElem? hsteppers haxes
          obtain ⟨hq, hqlt⟩ := hd.getElem? hsteppers haxes
          have hnodup : ((steppers ++ axes).map (·.letter "Name")).Nodup := by
            rw [hletters]
            exact hdistinct.map fun _ _ h => Except.ok.inj h
          -- Both places have one index among the axes, as all letters there are different.
          refine hpq (AxisPlace.eq_of_index hplt hqlt ?_)
          have hletter : ((steppers ++ axes).map (·.letter "Name"))[p.index steppers.length]?
              = ((steppers ++ axes).map (·.letter "Name"))[q.index steppers.length]? := by
            rw [List.getElem?_map, List.getElem?_map, hp, hq]
            exact congrArg some (hl.trans hl'.symm)
          obtain ⟨hlt, -⟩ := List.getElem?_eq_some_iff.1 hp
          exact (List.getElem?_inj (by rwa [List.length_map]) hnodup).1 hletter

/-! ## §4. Compiled programs. -/

/-- The transform is the twenty-first argument of the printer. -/
theorem CompileGives.transformLinked {name? : Option String} {config board node : Cursor}
    {tag : String} {compiled : Compiled} (h : CompileGives document name? compiled)
    (hsections : selectSections (.root document) name? = .ok (config, board))
    (hnode : config.Chosen "transform" tag node) (htag : tag ≠ "NoTransform") :
    ∃ (w : Workspace) (printer e : TypeExpr),
      build document name? .empty = .ok compiled w
        ∧ w.draft.HasPrinter compiled.slots printer
        ∧ printer.argument? (printerArgument 20) = some e
        ∧ LinkedTransform config node tag e := by
  obtain ⟨config', board', x, parts, boardGain, s, g, params, items, w, hsections', -, hs,
    hparams, hrun, hprinter⟩ := h.printer
  cases hsections.symm.trans hsections'
  cases hs with
  | mk _ hsteppers _ htransform _ =>
      cases hsteppers with
      | mk helems hes =>
          have hthis := htransform.linked helems hes hnode htag
          cases hparams with
          | mk => exact ⟨w, _, _, hrun, hprinter, rfl, hthis⟩

/-- **A transform moves steppers of the configuration, each by a letter of its own.**  In a
program which is compiled with a transform, the letters of all steppers and virtual axes are
different; the transform is of one of the two types, and its list of steppers has, for each
dimension, the letter which is named there; this is the letter of exactly one stepper, which
is not subject to the cartesian speed limit.  A description with a transform which names a
letter of no stepper, or that of a cartesian one, or whose axes have a letter twice, is not
compiled. -/
theorem compile_transform_linked {name? : Option String} {config board node : Cursor}
    {tag : String} (hsections : selectSections (.root document) name? = .ok (config, board))
    (hnode : config.Chosen "transform" tag node) (htag : tag ≠ "NoTransform") :
    (∀ compiled, compile document name? = .ok compiled →
        ∃ (w : Workspace) (printer e : TypeExpr),
          build document name? .empty = .ok compiled w
            ∧ w.draft.HasPrinter compiled.slots printer
            ∧ printer.argument? (printerArgument 20) = some e
            ∧ LinkedTransform config node tag e)
      ∧ (TransformFault config node → ∃ e, compile document name? = .error e) := by
  have hlinked := fun compiled (h : compile document name? = .ok compiled) =>
    (compile_gives h).transformLinked hsections hnode htag
  refine ⟨hlinked, ?_⟩
  intro hfault
  cases hcompiled : compile document name? with
  | error e => exact ⟨e, rfl⟩
  | ok compiled =>
      obtain ⟨_, _, e, -, -, -, he⟩ := hlinked compiled hcompiled
      exact absurd hfault he.faultless

namespace Sample

/-- The transform of the delta machine, at its place. -/
def deltaTransformAt : Cursor := ⟨deltaTransform, deltaConfigAt.keyPath "transform"⟩

/-- The configuration of the delta machine with a cartesian stepper. -/
def cartesianConfig : Value := changed "steppers" (.list [stepper]) deltaConfig

def cartesianDescription : Value :=
  .object [("selected_config", .string "C"), ("configurations", .list [cartesianConfig]),
    ("boards", .list [deltaBoard])]

/-- The configuration with a cartesian stepper, at its place. -/
def cartesianConfigAt : Cursor := ⟨cartesianConfig, (Path.root.key "configurations").index 0⟩

/-- Its transform, which is that of the delta machine. -/
def cartesianTransformAt : Cursor := ⟨deltaTransform, cartesianConfigAt.keyPath "transform"⟩

end Sample

/-- The delta machine moves its stepper by the letter X.  It is not compiled with a stepper
which is cartesian. -/
theorem delta_transform_linked :
    (∃ (compiled : Compiled) (w : Workspace) (printer e : TypeExpr),
      compile Sample.deltaDescription none = .ok compiled
        ∧ build Sample.deltaDescription none .empty = .ok compiled w
        ∧ w.draft.HasPrinter compiled.slots printer
        ∧ printer.argument? (printerArgument 20) = some e
        ∧ LinkedTransform Sample.deltaConfigAt Sample.deltaTransformAt "Delta" e)
      ∧ ∃ e, compile Sample.cartesianDescription none = .error e := by
  refine ⟨?_, ?_⟩
  · obtain ⟨compiled, hcompiled⟩ := Sample.delta_compiles
    have hchosen : Sample.deltaConfigAt.Chosen "transform" "Delta" Sample.deltaTransformAt :=
      ⟨rfl, rfl⟩
    obtain ⟨w, printer, e, hrun, hprinter, he, hthis⟩ :=
      (compile_transform_linked Sample.delta_selected hchosen (by decide)).1 compiled hcompiled
    exact ⟨compiled, w, printer, e, hcompiled, hrun, hprinter, he, hthis⟩
  · have hsections : selectSections (.root Sample.cartesianDescription) none
        = .ok (Sample.cartesianConfigAt, Sample.deltaBoardAt) := rfl
    have hchosen : Sample.cartesianConfigAt.Chosen "transform" "Delta"
        Sample.cartesianTransformAt := ⟨rfl, rfl⟩
    refine (compile_transform_linked hsections hchosen (by decide)).2 ?_
    -- The transform names the letter of the only stepper.
    let named : Cursor := ⟨.object [("StepperName", .string "X")],
      (Sample.cartesianTransformAt.keyPath "Steppers").key "TransformStepper0"⟩
    have hname : "TransformStepper" ++ Numeral.ofNat 0 = "TransformStepper0" := by
      decide +kernel
    have hfield : TransformField Sample.cartesianTransformAt "Steppers" "TransformStepper" 0
        named := by
      refine ⟨1, _, rfl, by decide, rfl, ?_⟩
      rw [hname]
      rfl
    have hletter : named.letter "StepperName" = .ok 'X' := rfl
    have hstepper : AxisAt Sample.cartesianConfigAt Sample.cartesianTransformAt (.stepper 0)
        ⟨Sample.stepper, (Sample.cartesianConfigAt.keyPath "steppers").index 0⟩ :=
      .stepper rfl rfl
    exact .cartesian hfield hletter hstepper rfl rfl

end PrinterFirmware
