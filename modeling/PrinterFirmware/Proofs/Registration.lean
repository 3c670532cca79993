/-
  PrinterFirmware.Proofs.Registration
  ───────────────────────────────────
  **OBJECTS AND FACILITIES WITHIN THE RULES.**

  References and facilities are used on the site on which they have been set up.
  What registers something leads to another site:

      registerList        the objects of a list of the document, each under a name
                          of its own (`Registered`)
      registerFacility    one more kind of facility
      defer               one more piece of deferred work

  The clock and the list of analog pins change while they are used: a claim and a
  pin are gains.
-/
import PrinterFirmware.Proofs.Discipline

namespace PrinterFirmware

open Document Naming Build

variable {document : Value}

/-! ## §1. References. -/

/-- The object which is registered under a name. -/
def lookUpObject (objects : List NamedObject) (kind : Hardware) (name : String) : Option Cursor :=
  (objects.find? fun o => o.kind == kind && o.name == name).map (·.node)

/-- The reference at `key` leads to the object `node`. -/
def Site.Refers (x : Site document) (kind : Hardware) (c : Cursor) (key : String)
    (node : Cursor) : Prop :=
  ∃ name, c.string key = .ok name ∧ lookUpObject x.objects kind name = some node

theorem Site.Refers.inside {x : Site document} {kind : Hardware} {c node : Cursor} {key : String}
    (h : x.Refers kind c key node) : node.In document := by
  obtain ⟨name, -, hnode⟩ := h
  unfold lookUpObject at hnode
  obtain ⟨o, ho, rfl⟩ := Option.map_eq_some_iff.1 hnode
  exact x.inside o (List.mem_of_find?_eq_some ho)

/-- A reference leads to a registered object, or to none. -/
theorem declares_findObject {x : Site document} {c : Cursor} (kind : Hardware)
    (hc : c.In document) (key : String) :
    Declares x [] (findObject kind c key) fun node g => x.Refers kind c key node ∧ g = ∅ := by
  unfold findObject
  refine Declares.read (hc.placed.honest_string key) ?_
  intro name hname hread U w hw _
  refine Ends.bind (Q := fun v w' => v = w ∧ w' = w) (ends_ok rfl ⟨rfl, rfl⟩) ?_
  intro v w' hgives
  obtain ⟨rfl, rfl⟩ := hgives
  have hlook : w'.object? kind name = lookUpObject x.objects kind name := by
    rw [← hw.objects]
    rfl
  rw [hlook]
  cases hnode : lookUpObject x.objects kind name with
  | none => exact ends_error rfl hname
  | some node =>
      refine ends_pure ⟨⟨∅, x, ⟨⟨⟨name, hread, hnode⟩, rfl⟩, rfl⟩, .refl _, ?_⟩, fun _ => rfl⟩
      exact hw.mono fun _ ht => Or.inl ht

/-! ## §2. Registered objects. -/

/-- Registering `nodes` one after another leads from the objects `before` to the
objects `after`: every node has a name which is new among its kind. -/
inductive Registered (kind : Hardware) :
    List Cursor → (before : List NamedObject) → (after : List NamedObject) → Prop where
  | nil {objects : List NamedObject} : Registered kind [] objects objects
  | cons {node : Cursor} {rest : List Cursor} {name : String} {objects after : List NamedObject}
      (hname : node.string objectNameKey = .ok name)
      (hnew : lookUpObject objects kind name = none)
      (hrest : Registered kind rest (objects ++ [⟨kind, name, node⟩]) after) :
      Registered kind (node :: rest) objects after

theorem display_not_lettered (kind : Hardware) : kind.display ∉ letteredThings := by
  cases kind <;> decide

/-- Registered objects stand in the document if the nodes do. -/
theorem Registered.inside {kind : Hardware} {nodes : List Cursor} {before after : List NamedObject}
    (h : Registered kind nodes before after) (hn : ∀ n ∈ nodes, n.In document)
    (hb : ∀ o ∈ before, o.node.In document) : ∀ o ∈ after, o.node.In document := by
  induction h with
  | nil => exact hb
  | @cons node rest name objects after _ _ _ ih =>
      refine ih (fun n hmem => hn n (List.mem_cons_of_mem node hmem)) ?_
      intro o ho
      rcases List.mem_append.1 ho with ho | ho
      · exact hb o ho
      · rw [List.mem_singleton.1 ho]
        exact hn node List.mem_cons_self

/-- A node is named as its name field says. -/
theorem isNamed_of_string {node : Cursor} {field name : String}
    (h : node.string field = .ok name) (wanted : String) :
    node.isNamed field wanted = (name == wanted) := by
  unfold Cursor.isNamed
  rw [Cursor.fieldAs_eq_ok.1 h]
  rfl

/-- One more object is found under its name, if there was none before. -/
theorem lookUpObject_concat (objects : List NamedObject) (kind : Hardware) (nodeName : String)
    (node : Cursor) (name : String) :
    lookUpObject (objects ++ [⟨kind, nodeName, node⟩]) kind name
      = (lookUpObject objects kind name).or (if nodeName == name then some node else none) := by
  unfold lookUpObject
  rw [List.find?_append, Option.map_or]
  congr 1
  by_cases hn : nodeName = name
  · simp [hn]
  · simp [hn]

/-- A name stays free if an object of another name is registered. -/
theorem lookUpObject_concat_eq_none {objects : List NamedObject} {kind : Hardware}
    {nodeName name : String} {node : Cursor} :
    lookUpObject (objects ++ [⟨kind, nodeName, node⟩]) kind name = none ↔
      lookUpObject objects kind name = none ∧ nodeName ≠ name := by
  rw [lookUpObject_concat, Option.or_eq_none_iff]
  by_cases hn : nodeName = name
  · simp [hn]
  · simp [hn]

/-- The object which is registered under a name is the first one of that name. -/
theorem Registered.lookUp {kind : Hardware} {nodes : List Cursor} {before after : List NamedObject}
    (h : Registered kind nodes before after) (name : String) :
    lookUpObject after kind name
      = (lookUpObject before kind name).or (nodes.find? (·.isNamed objectNameKey name)) := by
  induction h with
  | nil => exact (Option.or_none).symm
  | @cons node rest nodeName objects after hname _ _ ih =>
      rw [ih, lookUpObject_concat, Option.or_assoc, List.find?_cons, isNamed_of_string hname]
      cases nodeName == name <;> rfl

/-- Registering objects of one kind leaves those of the others alone. -/
theorem Registered.lookUp_other {kind other : Hardware} {nodes : List Cursor}
    {before after : List NamedObject} (h : Registered kind nodes before after)
    (hne : kind ≠ other) (name : String) :
    lookUpObject after other name = lookUpObject before other name := by
  induction h with
  | nil => rfl
  | @cons node rest nodeName objects after _ _ _ ih =>
      rw [ih]
      unfold lookUpObject
      rw [List.find?_append]
      have hskip : List.find? (fun o : NamedObject => o.kind == other && o.name == name)
          [⟨kind, nodeName, node⟩] = none := by
        rw [List.find?_cons, beq_false_of_ne hne]
        rfl
      rw [hskip, Option.or_none]

/-- A build while the document is being read. -/
theorem whileCollecting_ok {w : Workspace} (r : Registration) (h : w.phase = .collecting) :
    whileCollecting r w = .ok () w := by
  unfold whileCollecting
  rw [bind_ok (get_eq w), h]
  rfl

/-- Nothing is registered any more. -/
theorem whileCollecting_finishing {w : Workspace} (h : w.phase = .finishing) (r : Registration) :
    whileCollecting r w = .error (.breach (.closed r)) w := by
  unfold whileCollecting
  rw [bind_ok (get_eq w), h]
  rfl

/-- A registration while the document is being read, before a walk. -/
theorem leads_whileCollecting {α : Type} {x : Site document} {L : List Symbol} {r : Registration}
    {k : Unit → Build α} {P : α → Gain → Site document → Prop} (hx : x.phase = .collecting)
    (hk : Leads x L (k ()) P) : Leads x L (whileCollecting r >>= k) P := by
  intro U w hw hL
  refine Ends.bind (Q := fun _ w' => w' = w) ?_ ?_
  · exact ends_ok (a := ()) (whileCollecting_ok r (hw.phase.trans hx)) rfl
  · intro _ _ hgives
    subst hgives
    exact hk U _ hw hL

/-- The first of several objects has to have a name. -/
theorem addObjects_unnamed {kind : Hardware} {node : Cursor} {rest : List Cursor} {e : Located}
    (hname : node.string objectNameKey = .error e) (w : Workspace) :
    addObjects kind (node :: rest) w = .error (.document e) w := by
  unfold addObjects
  rw [hname]
  rfl

/-- A named object is added before the others, if its name is new among its kind. -/
theorem addObjects_named {kind : Hardware} {node : Cursor} {rest : List Cursor} {name : String}
    (hname : node.string objectNameKey = .ok name) (w : Workspace) :
    addObjects kind (node :: rest) w
      = if (lookUpObject w.objects kind name).isSome then
          .error (.document ⟨node.path, .duplicateName kind.display⟩) w
        else addObjects kind rest { w with objects := w.objects ++ [⟨kind, name, node⟩] } := by
  rw [addObjects, hname]
  show (if (lookUpObject w.objects kind name).isSome then _ else _ : Build Unit) w = _
  split
  · rfl
  · rfl

/-- Objects of the document are added up to the first one without a name of its own. -/
theorem ends_addObjects (kind : Hardware) {nodes : List Cursor}
    (h : ∀ n ∈ nodes, n.In document) (w : Workspace) :
    Ends (addObjects kind nodes) w (fun _ w' => ∃ objects, Registered kind nodes w.objects objects
        ∧ w' = { w with objects := objects }) (Reports document) := by
  induction nodes generalizing w with
  | nil => exact ends_pure ⟨w.objects, .nil, rfl⟩
  | cons node rest ih =>
      have hnode := h node List.mem_cons_self
      cases hname : node.string objectNameKey with
      | error e =>
          exact ends_error (addObjects_unnamed hname w)
            ((hnode.placed.honest_string _).violation e hname)
      | ok name =>
          have hadd : addObjects kind (node :: rest) w = _ := addObjects_named hname w
          by_cases hold : (lookUpObject w.objects kind name).isSome = true
          · have htrue : Violation.TrueAt document node.path (.duplicateName kind.display) := by
              show if _ then _ else _
              rw [if_neg (display_not_lettered kind)]
              exact ⟨node.value, hnode.placed, hnode.object⟩
            rw [if_pos hold] at hadd
            exact ends_error hadd htrue
          · rw [if_neg hold] at hadd
            have hrest := ih (fun n hn => h n (List.mem_cons_of_mem node hn))
              { w with objects := w.objects ++ [⟨kind, name, node⟩] }
            constructor
            · intro _ w' hrun
              obtain ⟨objects, hobjects, rfl⟩ := hrest.result () w' (hadd.symm.trans hrun)
              exact ⟨objects, .cons hname (Option.not_isSome_iff_eq_none.1 hold) hobjects, rfl⟩
            · intro e w' hrun
              exact hrest.failure e w' (hadd.symm.trans hrun)

/-- Objects are added if and only if each has a name of its own, and nothing else changes. -/
theorem addObjects_eq_ok {kind : Hardware} {nodes : List Cursor} {w w' : Workspace} :
    addObjects kind nodes w = .ok () w' ↔
      ∃ objects, Registered kind nodes w.objects objects ∧ w' = { w with objects := objects } := by
  induction nodes generalizing w with
  | nil =>
      constructor
      · rintro ⟨⟩
        exact ⟨_, .nil, rfl⟩
      · rintro ⟨_, ⟨⟩, rfl⟩
        rfl
  | cons node rest ih =>
      constructor
      · intro h
        cases hname : node.string objectNameKey with
        | error e => cases (addObjects_unnamed hname w).symm.trans h
        | ok name =>
            rw [addObjects_named hname] at h
            by_cases hold : (lookUpObject w.objects kind name).isSome = true
            · rw [if_pos hold] at h
              cases h
            · rw [if_neg hold] at h
              obtain ⟨objects, hrest, rfl⟩ := ih.1 h
              exact ⟨objects, .cons hname (Option.not_isSome_iff_eq_none.1 hold) hrest, rfl⟩
      · rintro ⟨objects, hobjects, rfl⟩
        cases hobjects with
        | cons hname hnew hrest =>
            rw [addObjects_named hname, hnew]
            exact ih.2 ⟨objects, hrest, rfl⟩

/-- Registering the list at `key` leads from the objects `before` to the objects
`after`. -/
inductive ListRegistered (kind : Hardware) (c : Cursor) (key : String)
    (before after : List NamedObject) : Prop where
  | mk {nodes : List Cursor} (hnodes : c.objects key 0 maxObjects = .ok nodes)
      (h : Registered kind nodes before after)

/-- A registered object of a list is found there by its name. -/
theorem ListRegistered.find {kind : Hardware} {c node : Cursor} {key name : String}
    {before after : List NamedObject} (h : ListRegistered kind c key before after)
    (hnone : lookUpObject before kind name = none)
    (hnode : lookUpObject after kind name = some node) :
    c.find key objectNameKey name = .ok node := by
  cases h with
  | mk hnodes h =>
      obtain ⟨elems, helems, -, -, rfl⟩ := Cursor.objects_eq_ok.1 hnodes
      rw [h.lookUp, hnone, Option.none_or] at hnode
      unfold Cursor.find
      rw [helems]
      dsimp only [bind, Except.bind]
      rw [hnode]

/-- The site with other objects of the document. -/
def Site.withObjects (x : Site document) (objects : List NamedObject)
    (h : ∀ o ∈ objects, o.node.In document) : Site document :=
  { x with objects := objects, inside := h }

/-- The objects of a list are registered while the document is being read. -/
theorem leads_registerList {x : Site document} {c : Cursor} (kind : Hardware) (hc : c.In document)
    (hx : x.phase = .collecting) (key : String) :
    Leads x [] (registerList kind c key) fun _ g x' => g = ∅ ∧
      ∃ objects h, ListRegistered kind c key x.objects objects
        ∧ x' = x.withObjects objects h := by
  unfold registerList
  apply Leads.read (hc.placed.honest_objects _ _ _)
  rintro nodes ⟨-, hnodes⟩ hread
  apply leads_whileCollecting hx
  intro U w hw _
  apply (ends_addObjects kind hnodes w).mono
  intro _ w' hgives
  obtain ⟨objects, hobjects, rfl⟩ := hgives
  rw [hw.objects] at hobjects
  refine ⟨⟨∅, _, ⟨rfl, objects, hobjects.inside hnodes x.inside, ⟨hread, hobjects⟩, rfl⟩,
    ⟨?_, ?_, ?_⟩, ?_⟩, fun _ => rfl⟩
  · exact (List.append_nil _).symm
  · exact (List.append_nil _).symm
  · exact (List.append_nil _).symm
  · refine ⟨hw.phase, hw.kinds, hw.clock, hw.grammars, rfl, hw.deferred, hw.slots, ?_⟩
    intro s hs
    obtain ⟨t, ht, hU, hname⟩ := hw.symbols s hs
    exact ⟨t, ht, Or.inl hU, hname⟩

/-! ## §3. Facilities in use. -/

/-- A facility which has been registered is found. -/
theorem Workspace.facility?_of_mem {w : Workspace} {kind : FacilityKind}
    (h : kind ∈ w.facilities.map (·.kind)) : ∃ f, w.facility? kind = some f ∧ f.kind = kind := by
  obtain ⟨g, hg, hkind⟩ := List.mem_map.1 h
  cases hf : w.facility? kind with
  | some f =>
      refine ⟨f, rfl, ?_⟩
      have := List.find?_some (p := fun g : Facility => g.kind == kind) hf
      exact beq_iff_eq.1 this
  | none =>
      have := List.find?_eq_none.1 hf g hg
      simp [hkind] at this

theorem Workspace.facility?_eq_none {w : Workspace} {kind : FacilityKind}
    (h : kind ∉ w.facilities.map (·.kind)) : w.facility? kind = none := by
  refine List.find?_eq_none.2 ?_
  intro f hf hk
  exact h (List.mem_map.2 ⟨f, hf, beq_iff_eq.1 hk⟩)

/-- Replacing a facility does not change which ones there are. -/
theorem Workspace.kinds_setFacility (w : Workspace) (f : Facility) :
    (w.setFacility f).facilities.map (·.kind) = w.facilities.map (·.kind) := by
  unfold setFacility
  rw [List.map_map]
  apply List.map_congr_left
  intro g _
  by_cases hg : g.kind == f.kind
  · simp only [Function.comp_apply, hg, if_true]
    exact (beq_iff_eq.1 hg).symm
  · simp only [Function.comp_apply, hg, Bool.false_eq_true, if_false]

/-- A facility which replaces one of its kind is found in its place. -/
theorem find?_replaced {fs : List Facility} {f g : Facility} {kind : FacilityKind}
    (h : fs.find? (·.kind == kind) = some g) :
    (fs.map fun e => if e.kind == f.kind then f else e).find? (·.kind == kind)
      = some (if f.kind = kind then f else g) := by
  induction fs with
  | nil => cases h
  | cons e rest ih =>
      rw [List.map_cons, List.find?_cons]
      by_cases he : e.kind = kind
      · have hg : e = g := by simpa [he] using h
        subst hg
        by_cases hf : f.kind = kind
        · simp [he, hf]
        · have hne : ¬ kind = f.kind := fun h' => hf h'.symm
          simp [he, hf, hne]
      · have hrest : rest.find? (·.kind == kind) = some g := by
          simpa [List.find?_cons, he] using h
        have hkeep : (if e.kind == f.kind then f else e).kind ≠ kind := by
          by_cases hef : e.kind = f.kind
          · simpa [hef] using fun h' => he (hef.trans h')
          · simpa [hef] using he
        rw [beq_eq_false_iff_ne.2 hkeep]
        exact ih hrest

theorem Workspace.facility?_setFacility {w : Workspace} {f g : Facility} {kind : FacilityKind}
    (h : w.facility? kind = some g) :
    (w.setFacility f).facility? kind = some (if f.kind = kind then f else g) := find?_replaced h

/-- Facilities of other kinds are left alone. -/
theorem Workspace.facility?_setFacility_of_ne {w : Workspace} {f : Facility} {kind : FacilityKind}
    (h : f.kind ≠ kind) : (w.setFacility f).facility? kind = w.facility? kind := by
  cases hg : w.facility? kind with
  | some g =>
      rw [facility?_setFacility hg, if_neg h]
  | none =>
      refine facility?_eq_none ?_
      rw [kinds_setFacility]
      intro hmem
      obtain ⟨g, hf, -⟩ := facility?_of_mem hmem
      rw [hg] at hf
      cases hf

section Facilities

variable {x : Site document} {U : Symbol → Prop} {w : Workspace}

theorem Workspace.Orderly.clock_of_mem (hw : w.Orderly x U) (hx : .clock ∈ x.kinds) :
    ∃ c, w.facility? .clock = some (.clock c) := by
  obtain ⟨f, hf, hkind⟩ := facility?_of_mem (hw.kinds ▸ hx)
  cases f with
  | clock c => exact ⟨c, hf⟩
  | pinNames _ => cases hkind
  | analogPins _ => cases hkind

/-- The registered clock is read without a change. -/
theorem clock_eq {c : Clock} (hf : w.facility? .clock = some (.clock c)) :
    Build.clock w = .ok c w := by
  unfold Build.clock
  rw [bind_ok (get_eq w), hf]
  rfl

theorem ends_clock (hx : .clock ∈ x.kinds) (hw : w.Orderly x U) :
    Ends Build.clock w (fun c w' => w.facility? .clock = some (.clock c) ∧ w' = w)
      (Reports document) := by
  obtain ⟨c, hf⟩ := hw.clock_of_mem hx
  exact ends_ok (clock_eq hf) ⟨hf, rfl⟩

theorem declares_clock (hx : .clock ∈ x.kinds) :
    Declares x [] Build.clock fun c g => { c with claims := [] } = x.clock ∧ g = ∅ := by
  intro U w hw _
  apply (ends_clock hx hw).mono
  intro c w' hgives
  obtain ⟨hc, rfl⟩ := hgives
  exact ⟨⟨∅, x, ⟨⟨hw.clock c hc, rfl⟩, rfl⟩, .refl _, hw.mono fun _ ht => Or.inl ht⟩, fun _ => rfl⟩

theorem declares_pinNames (hx : .pinNames ∈ x.kinds) :
    Declares x [] Build.pinNames fun ns g => ns = x.grammars ∧ g = ∅ := by
  intro U w hw _
  obtain ⟨f, hf, hkind⟩ := Workspace.facility?_of_mem (hw.kinds ▸ hx)
  cases f with
  | pinNames ns =>
      have hrun : Build.pinNames w = .ok ns w := by
        unfold Build.pinNames
        rw [bind_ok (get_eq w), hf]
        rfl
      refine ends_ok hrun ⟨⟨∅, x, ⟨⟨hw.grammars ns hf, rfl⟩, rfl⟩, .refl _, ?_⟩, fun _ => rfl⟩
      exact hw.mono fun _ ht => Or.inl ht
  | clock _ => cases hkind
  | analogPins _ => cases hkind

theorem ends_analogPins (hx : .analogPins ∈ x.kinds) (hw : w.Orderly x U) :
    Ends Build.analogPins w (fun ps w' => w.facility? .analogPins = some (.analogPins ps)
      ∧ w' = w) (Reports document) := by
  obtain ⟨f, hf, hkind⟩ := Workspace.facility?_of_mem (hw.kinds ▸ hx)
  cases f with
  | analogPins ps =>
      have hrun : Build.analogPins w = .ok ps w := by
        unfold Build.analogPins
        rw [bind_ok (get_eq w), hf]
        rfl
      exact ends_ok hrun ⟨hf, rfl⟩
  | clock _ => cases hkind
  | pinNames _ => cases hkind

/-- One more claim of the clock. -/
theorem Workspace.Orderly.claim (hw : w.Orderly x U) {c : Clock} (u : CompareUnit)
    (hc : w.facility? .clock = some (.clock c)) :
    (w.setFacility (.clock (c.claim u))).Orderly x U
      ∧ w.Gains ⟨[], [u], []⟩ (w.setFacility (.clock (c.claim u))) := by
  have hself : (w.setFacility (.clock (c.claim u))).facility? .clock
      = some (.clock (c.claim u)) := by
    rw [facility?_setFacility hc]
    rfl
  refine ⟨⟨hw.phase, ?_, ?_, ?_, hw.objects, hw.deferred, hw.slots, hw.symbols⟩, ?_, ?_, ?_⟩
  · exact (w.kinds_setFacility _).trans hw.kinds
  · intro c' hc'
    rw [hself] at hc'
    cases hc'
    exact hw.clock c hc
  · intro ns hns
    rw [facility?_setFacility_of_ne (by simp [Facility.kind])] at hns
    exact hw.grammars ns hns
  · exact (List.append_nil _).symm
  · simp only [units, hself, hc]
    rfl
  · unfold pins
    rw [facility?_setFacility_of_ne (by simp [Facility.kind])]
    exact (List.append_nil _).symm

/-- One more pin of the analog inputs. -/
theorem Workspace.Orderly.addPin (hw : w.Orderly x U) {ps : List String} (p : String)
    (hps : w.facility? .analogPins = some (.analogPins ps)) :
    (w.setFacility (.analogPins (ps ++ [p]))).Orderly x U
      ∧ w.Gains ⟨[], [], [p]⟩ (w.setFacility (.analogPins (ps ++ [p]))) := by
  have hself : (w.setFacility (.analogPins (ps ++ [p]))).facility? .analogPins
      = some (.analogPins (ps ++ [p])) := by
    rw [facility?_setFacility hps]
    rfl
  refine ⟨⟨hw.phase, ?_, ?_, ?_, hw.objects, hw.deferred, hw.slots, hw.symbols⟩, ?_, ?_, ?_⟩
  · exact (w.kinds_setFacility _).trans hw.kinds
  · intro c hc
    rw [facility?_setFacility_of_ne (by simp [Facility.kind])] at hc
    exact hw.clock c hc
  · intro ns hns
    rw [facility?_setFacility_of_ne (by simp [Facility.kind])] at hns
    exact hw.grammars ns hns
  · exact (List.append_nil _).symm
  · unfold units
    rw [facility?_setFacility_of_ne (by simp [Facility.kind])]
    exact (List.append_nil _).symm
  · simp only [pins, hself, hps]

theorem declares_addAnalogPin (hx : .analogPins ∈ x.kinds) (p : String) :
    Declares x [] (addAnalogPin p) fun _ g => g = ⟨[], [], [p]⟩ := by
  intro U w hw _
  unfold addAnalogPin
  apply (ends_analogPins hx hw).bind
  intro ps w' hgives
  obtain ⟨hps, rfl⟩ := hgives
  obtain ⟨hw', hg⟩ := hw.addPin p hps
  exact ends_ok rfl ⟨⟨_, x, ⟨rfl, rfl⟩, hg, hw'.mono fun _ ht => Or.inl ht⟩, fun _ => rfl⟩

end Facilities

/-! ## §4. Registered facilities and deferred work. -/

/-- The site with one more facility. -/
def Site.withFacility (x : Site document) : Facility → Site document
  | .clock c => { x with kinds := x.kinds ++ [.clock], clock := c }
  | .pinNames ns => { x with kinds := x.kinds ++ [.pinNames], grammars := ns }
  | .analogPins _ => { x with kinds := x.kinds ++ [.analogPins] }

section Registering

variable {x : Site document}

/-- The facilities of a workspace with one more of them. -/
theorem facility?_concat {w : Workspace} {f : Facility} {kind : FacilityKind}
    (hnew : w.facility? f.kind = none) :
    Workspace.facility? { w with facilities := w.facilities ++ [f] } kind
      = if f.kind = kind then some f else w.facility? kind := by
  unfold Workspace.facility? at *
  rw [List.find?_append]
  by_cases hk : f.kind = kind
  · subst hk
    rw [hnew]
    simp
  · simp [hk]

/-- **A facility of a new kind is registered behind the others**, while the document is being
read. -/
theorem registerFacility_collecting {w : Workspace} {f : Facility} (hw : w.phase = .collecting)
    (hf : w.facility? f.kind = none) :
    registerFacility f w = .ok () { w with facilities := w.facilities ++ [f] } := by
  unfold registerFacility
  rw [bind_ok (whileCollecting_ok .facility hw), bind_ok (get_eq w), hf]
  rfl

theorem registerFacility_twice {w : Workspace} {f : Facility} (hw : w.phase = .collecting)
    (hf : (w.facility? f.kind).isSome = true) :
    registerFacility f w = .error (.breach (.facilityTwice f.kind)) w := by
  unfold registerFacility
  rw [bind_ok (whileCollecting_ok .facility hw), bind_ok (get_eq w), if_pos hf]
  rfl

theorem registerFacility_finishing {w : Workspace} (hw : w.phase = .finishing) (f : Facility) :
    registerFacility f w = .error (.breach (.closed .facility)) w := by
  unfold registerFacility
  exact bind_error (whileCollecting_finishing hw _)

/-- **Work is put off behind the work which has been put off before**, while the document is
being read. -/
theorem defer_collecting {w : Workspace} (hw : w.phase = .collecting) (d : Deferred) :
    defer d w = .ok () { w with deferred := w.deferred ++ [d] } := by
  unfold defer
  rw [bind_ok (whileCollecting_ok .deferredWork hw)]
  rfl

theorem defer_finishing {w : Workspace} (hw : w.phase = .finishing) (d : Deferred) :
    defer d w = .error (.breach (.closed .deferredWork)) w := by
  unfold defer
  exact bind_error (whileCollecting_finishing hw _)

/-- A facility which is new, and not in use yet. -/
structure Facility.New (x : Site document) (f : Facility) : Prop where
  kind : f.kind ∉ x.kinds
  claims : ∀ c, f = .clock c → c.claims = []
  pins : ∀ ps, f = .analogPins ps → ps = []

/-- A new facility brings no unit of a timer into use. -/
theorem Workspace.units_addFacility {w : Workspace} {f : Facility} (hnone : w.facility? f.kind = none)
    (hclaims : ∀ c, f = .clock c → c.claims = []) :
    Workspace.units { w with facilities := w.facilities ++ [f] } = w.units := by
  unfold units
  rw [facility?_concat hnone]
  cases f with
  | clock c =>
      have hclock : w.facility? .clock = none := hnone
      rw [hclock]
      exact hclaims c rfl
  | pinNames => rfl
  | analogPins => rfl

/-- A new facility brings no pin of an analog input into use. -/
theorem Workspace.pins_addFacility {w : Workspace} {f : Facility} (hnone : w.facility? f.kind = none)
    (hpins : ∀ ps, f = .analogPins ps → ps = []) :
    Workspace.pins { w with facilities := w.facilities ++ [f] } = w.pins := by
  unfold pins
  rw [facility?_concat hnone]
  cases f with
  | analogPins ps =>
      have hanalog : w.facility? .analogPins = none := hnone
      rw [hanalog]
      exact hpins ps rfl
  | clock => rfl
  | pinNames => rfl

theorem Workspace.Orderly.addFacility {U : Symbol → Prop} {w : Workspace} {f : Facility}
    (hw : w.Orderly x U) (hf : f.New x) :
    Workspace.Orderly (x.withFacility f) U { w with facilities := w.facilities ++ [f] }
      ∧ w.Gains ∅ { w with facilities := w.facilities ++ [f] } := by
  have hnone : w.facility? f.kind = none := facility?_eq_none (hw.kinds ▸ hf.kind)
  have hkinds : (w.facilities ++ [f]).map (·.kind) = x.kinds ++ [f.kind] := by
    rw [List.map_append, hw.kinds]
    rfl
  refine ⟨?_, (List.append_nil _).symm, ?_, ?_⟩
  · -- The facility of each kind is the one of the site, which is new or was there before.
    cases f with
    | clock c =>
        refine ⟨hw.phase, hkinds, ?_, ?_, hw.objects, hw.deferred, hw.slots, hw.symbols⟩
        · intro c' hc'
          rw [facility?_concat hnone] at hc'
          cases hc'
          have := hf.claims c rfl
          cases c
          cases this
          rfl
        · intro ns hns
          rw [facility?_concat hnone] at hns
          exact hw.grammars ns hns
    | pinNames ns =>
        refine ⟨hw.phase, hkinds, ?_, ?_, hw.objects, hw.deferred, hw.slots, hw.symbols⟩
        · intro c hc
          rw [facility?_concat hnone] at hc
          exact hw.clock c hc
        · intro ns' hns
          rw [facility?_concat hnone] at hns
          cases hns
          rfl
    | analogPins ps =>
        refine ⟨hw.phase, hkinds, ?_, ?_, hw.objects, hw.deferred, hw.slots, hw.symbols⟩
        · intro c hc
          rw [facility?_concat hnone] at hc
          exact hw.clock c hc
        · intro ns hns
          rw [facility?_concat hnone] at hns
          exact hw.grammars ns hns
  · rw [units_addFacility hnone hf.claims]
    exact (List.append_nil _).symm
  · rw [pins_addFacility hnone hf.pins]
    exact (List.append_nil _).symm

/-- A facility of a new kind is registered while the document is being read. -/
theorem leads_registerFacility {f : Facility} (hx : x.phase = .collecting) (hf : f.New x) :
    Leads x [] (registerFacility f) fun _ g x' => g = ∅ ∧ x' = x.withFacility f := by
  unfold registerFacility
  refine leads_whileCollecting hx ?_
  intro U w hw _
  refine Ends.bind (Q := fun v w' => v = w ∧ w' = w) (ends_ok rfl ⟨rfl, rfl⟩) ?_
  intro v w' hgives
  obtain ⟨rfl, rfl⟩ := hgives
  rw [Workspace.facility?_eq_none (hw.kinds ▸ hf.kind)]
  obtain ⟨hw', hg⟩ := hw.addFacility hf
  exact ends_ok rfl ⟨⟨∅, _, ⟨rfl, rfl⟩, hg, hw'.mono fun _ ht => Or.inl ht⟩, fun _ => rfl⟩

/-- Work is put off while the document is being read. -/
theorem leads_defer (d : Deferred) (hx : x.phase = .collecting) :
    Leads x [] (defer d) fun _ g x' => g = ∅ ∧ x' = { x with deferred := x.deferred ++ [d] } := by
  unfold defer
  apply leads_whileCollecting hx
  intro U w hw _
  refine ends_ok rfl ⟨⟨∅, _, ⟨rfl, rfl⟩, ⟨?_, ?_, ?_⟩, ?_⟩, fun _ => rfl⟩
  · exact (List.append_nil _).symm
  · exact (List.append_nil _).symm
  · exact (List.append_nil _).symm
  · refine ⟨hw.phase, hw.kinds, hw.clock, hw.grammars, hw.objects, ?_, hw.slots, ?_⟩
    · show w.deferred ++ [d] = _
      rw [hw.deferred]
    · intro s hs
      obtain ⟨t, ht, hU, hname⟩ := hw.symbols s hs
      exact ⟨t, ht, Or.inl hU, hname⟩

end Registering

end PrinterFirmware
