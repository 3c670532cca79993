/-
  PrinterFirmware.Proofs.Pools
  ────────────────────────────
  **THE POOLS OF DECLARED OBJECTS.**

  Objects are registered in calls, each with nodes of one kind.  A call which fails keeps
  the nodes before the bad one, and later calls build on what it has left.  So the pools
  are described call by call:

      CallOutcome        what a call does to the objects: all nodes are registered, or
                         those before the first one which is refused
      register_outcome   a call does what its outcome says, and nothing else
      offered            the nodes which calls come to
      Distinct           no two objects of one kind have one name

  Main result: `pools_after`, for every sequence of calls however they end.
-/
import Mathlib.Data.List.Nodup
import PrinterFirmware.Proofs.Closing

namespace PrinterFirmware

open Document Build

variable {kind : Hardware} {w w' : Workspace}

/-! ## §1. Refused nodes. -/

/-- Why a node is refused among registered objects: it has no name, its name is no string,
or an object of its kind has its name already. -/
inductive Refused (kind : Hardware) (objects : List NamedObject) (node : Cursor) : Located → Prop
  | unnamed (h : node.value.field? objectNameKey = none) :
      Refused kind objects node ⟨node.path.key objectNameKey, .missingField⟩
  | misnamed {v : Value} (h : node.value.field? objectNameKey = some v) (hv : v.string? = none) :
      Refused kind objects node ⟨node.path.key objectNameKey, .wrongShape .string⟩
  | taken {name : String} {o : NamedObject} (h : node.string objectNameKey = .ok name)
      (ho : o ∈ objects) (hkind : o.kind = kind) (hname : o.name = name) :
      Refused kind objects node ⟨node.path, .duplicateName kind.display⟩

/-- A name which cannot be read is missing or no string. -/
theorem refused_of_string {objects : List NamedObject} {node : Cursor} {e : Located}
    (h : node.string objectNameKey = .error e) : Refused kind objects node e := by
  unfold Cursor.string Cursor.fieldAs Cursor.field at h
  cases hfield : node.value.field? objectNameKey with
  | none =>
      rw [hfield] at h
      cases h
      exact .unnamed hfield
  | some v =>
      rw [hfield] at h
      cases hstring : v.string? with
      | none =>
          simp only [bind, Except.bind, hstring] at h
          cases h
          exact .misnamed hfield hstring
      | some name =>
          simp only [bind, Except.bind, hstring] at h
          cases h

/-! ## §2. Objects under their names. -/

theorem lookUpObject_eq_none_iff {objects : List NamedObject} {name : String} :
    lookUpObject objects kind name = none ↔ ∀ o ∈ objects, o.kind = kind → o.name ≠ name := by
  unfold lookUpObject
  rw [Option.map_eq_none_iff, List.find?_eq_none]
  refine forall_congr' fun o => forall_congr' fun _ => ?_
  rw [Bool.and_eq_true, beq_iff_eq, beq_iff_eq, not_and]

/-- A refused node has no name, or a name which is taken. -/
theorem Refused.not_named {objects : List NamedObject} {node : Cursor} {e : Located}
    (h : Refused kind objects node e) {name : String}
    (hnone : lookUpObject objects kind name = none) :
    node.isNamed objectNameKey name = false := by
  cases h with
  | unnamed h =>
      rw [Cursor.isNamed, h]
      rfl
  | misnamed h hv =>
      rw [Cursor.isNamed, h, Option.bind_some, hv]
      rfl
  | @taken taken o h ho hkind hname =>
      rw [isNamed_of_string h, beq_eq_false_iff_ne]
      exact fun heq => lookUpObject_eq_none_iff.1 hnone o ho hkind (hname.trans heq)

/-- No two objects of one kind have one name. -/
def Distinct (objects : List NamedObject) : Prop :=
  (objects.map fun o => (o.kind, o.name)).Nodup

/-- With different names, the object which is found under a name is the only one. -/
theorem lookUpObject_eq_some_iff {objects : List NamedObject} (h : Distinct objects)
    {name : String} {node : Cursor} :
    lookUpObject objects kind name = some node ↔ ⟨kind, name, node⟩ ∈ objects := by
  induction objects with
  | nil => simp [lookUpObject]
  | cons o rest ih =>
      obtain ⟨hnew, hrest⟩ := List.nodup_cons.1 h
      by_cases ho : o.kind = kind ∧ o.name = name
      · obtain ⟨rfl, rfl⟩ := ho
        have hnone : (⟨o.kind, o.name, node⟩ : NamedObject) ∉ rest := fun hmem =>
          hnew (List.mem_map.2 ⟨_, hmem, rfl⟩)
        simp only [lookUpObject, List.find?_cons, beq_self_eq_true, Bool.and_self,
          Option.map_some, Option.some.injEq, List.mem_cons, hnone, or_false]
        exact ⟨fun heq => heq ▸ rfl, fun heq => heq ▸ rfl⟩
      · have hskip : (o.kind == kind && o.name == name) = false := by
          rwa [← Bool.not_eq_true, Bool.and_eq_true, beq_iff_eq, beq_iff_eq]
        have hne : (⟨kind, name, node⟩ : NamedObject) ≠ o := fun heq => ho (heq ▸ ⟨rfl, rfl⟩)
        rw [List.mem_cons, or_iff_right hne, ← ih hrest]
        unfold lookUpObject
        rw [List.find?_cons, hskip]

/-- Registered objects come after the ones before them, with the nodes of the call. -/
theorem Registered.exists_append {nodes : List Cursor} {before after : List NamedObject}
    (h : Registered kind nodes before after) :
    ∃ entries, after = before ++ entries ∧ entries.map (·.node) = nodes
      ∧ ∀ o ∈ entries, o.kind = kind := by
  induction h with
  | nil => exact ⟨[], (List.append_nil _).symm, rfl, by simp⟩
  | @cons node rest name objects after _ _ _ ih =>
      obtain ⟨entries, rfl, hnodes, hkinds⟩ := ih
      refine ⟨⟨kind, name, node⟩ :: entries, by simp, by simp [hnodes], ?_⟩
      rw [List.forall_mem_cons]
      exact ⟨rfl, hkinds⟩

theorem Registered.distinct {nodes : List Cursor} {before after : List NamedObject}
    (h : Registered kind nodes before after) (hbefore : Distinct before) : Distinct after := by
  induction h with
  | nil => exact hbefore
  | @cons node rest name objects after _ hnew _ ih =>
      refine ih ?_
      unfold Distinct at hbefore ⊢
      rw [List.map_append, List.nodup_append]
      refine ⟨hbefore, List.nodup_singleton _, ?_⟩
      intro a ha b hb heq
      obtain ⟨o, ho, rfl⟩ := List.mem_map.1 ha
      rw [List.map_singleton, List.mem_singleton] at hb
      rw [hb, Prod.mk.injEq] at heq
      exact lookUpObject_eq_none_iff.1 hnew o ho heq.1 heq.2

/-! ## §3. One call. -/

/-- What a call does: all nodes are registered, or those before the first one which is
refused. -/
inductive CallOutcome (kind : Hardware) :
    List Cursor → (before : List NamedObject) → Option Located → (after : List NamedObject) → Prop
  | accepted {nodes : List Cursor} {before after : List NamedObject}
      (h : Registered kind nodes before after) : CallOutcome kind nodes before none after
  | refused {first rest : List Cursor} {bad : Cursor} {e : Located}
      {before after : List NamedObject} (h : Registered kind first before after)
      (hbad : Refused kind after bad e) :
      CallOutcome kind (first ++ bad :: rest) before (some e) after

theorem CallOutcome.at_once {bad : Cursor} {objects : List NamedObject} {e : Located}
    (hbad : Refused kind objects bad e) (rest : List Cursor) :
    CallOutcome kind (bad :: rest) objects (some e) objects :=
  @CallOutcome.refused kind [] rest bad e objects objects .nil hbad

/-- A call has an outcome. -/
theorem exists_outcome (kind : Hardware) (nodes : List Cursor) (before : List NamedObject) :
    ∃ r after, CallOutcome kind nodes before r after := by
  induction nodes generalizing before with
  | nil => exact ⟨none, before, .accepted .nil⟩
  | cons node rest ih =>
      cases hname : node.string objectNameKey with
      | error e => exact ⟨some e, before, .at_once (refused_of_string hname) rest⟩
      | ok name =>
          cases hold : lookUpObject before kind name with
          | some old =>
              obtain ⟨o, hfound, -⟩ := Option.map_eq_some_iff.1 hold
              have hmatch := List.find?_some hfound
              rw [Bool.and_eq_true, beq_iff_eq, beq_iff_eq] at hmatch
              exact ⟨_, before, .at_once
                (.taken hname (List.mem_of_find?_eq_some hfound) hmatch.1 hmatch.2) rest⟩
          | none =>
              obtain ⟨r, after, hafter⟩ := ih (before ++ [⟨kind, name, node⟩])
              cases hafter with
              | accepted h => exact ⟨none, after, .accepted (.cons hname hold h)⟩
              | @refused first rest bad e _ _ h hbad =>
                  exact ⟨some e, after,
                    @CallOutcome.refused kind (node :: first) rest bad e before after
                      (.cons hname hold h) hbad⟩

/-- A refused node ends a registration. -/
theorem addObjects_refused {bad : Cursor} {e : Located}
    (hbad : Refused kind w.objects bad e) (rest : List Cursor) :
    addObjects kind (bad :: rest) w = .error (.document e) w := by
  cases hbad with
  | unnamed h =>
      refine addObjects_unnamed ?_ w
      rw [Cursor.string, Cursor.fieldAs, Cursor.field, h]
      rfl
  | @misnamed v h hv =>
      refine addObjects_unnamed ?_ w
      rw [Cursor.string, Cursor.fieldAs, Cursor.field, h]
      simp only [bind, Except.bind, hv]
      rfl
  | @taken name o h ho hkind hname =>
      have hold : (lookUpObject w.objects kind name).isSome = true := by
        rw [← Option.ne_none_iff_isSome]
        intro hnone
        exact lookUpObject_eq_none_iff.1 hnone o ho hkind hname
      rw [addObjects_named h, if_pos hold]

/-- Nodes are registered before the rest of a call is looked at. -/
theorem addObjects_append {first rest : List Cursor} {before after : List NamedObject}
    (h : Registered kind first before after) {w : Workspace} (hw : w.objects = before) :
    addObjects kind (first ++ rest) w = addObjects kind rest { w with objects := after } := by
  induction h generalizing w with
  | nil => rw [← hw, List.nil_append]
  | @cons node nodes name objects after hname hnew _ ih =>
      rw [List.cons_append, addObjects_named hname, hw, hnew]
      exact @ih { w with objects := objects ++ [⟨kind, name, node⟩] } rfl

/-- How a call ends which has an outcome. -/
def outcomeIn (w : Workspace) (r : Option Located) (objects : List NamedObject) :
    EStateM.Result Failure Workspace Unit :=
  match r with
  | none => .ok () { w with objects := objects }
  | some e => .error (.document e) { w with objects := objects }

/-- A call does what its outcome says, and nothing else. -/
theorem register_outcome {nodes : List Cursor} {r : Option Located} {objects : List NamedObject}
    (hw : w.phase = .collecting) (h : CallOutcome kind nodes w.objects r objects) :
    registerObjects kind nodes w = outcomeIn w r objects := by
  have hadd : registerObjects kind nodes w = addObjects kind nodes w :=
    bind_ok (whileCollecting_ok .objects hw)
  rw [hadd]
  cases h with
  | accepted h => exact addObjects_eq_ok.2 ⟨objects, h, rfl⟩
  | refused h hbad => rw [addObjects_append h rfl, addObjects_refused hbad, outcomeIn]

theorem register_eq_ok_iff {nodes : List Cursor} (hw : w.phase = .collecting) :
    registerObjects kind nodes w = .ok () w' ↔
      ∃ objects, Registered kind nodes w.objects objects
        ∧ w' = { w with objects := objects } := by
  constructor
  · intro h
    obtain ⟨r, objects, houtcome⟩ := exists_outcome kind nodes w.objects
    rw [register_outcome hw houtcome] at h
    cases houtcome with
    | accepted hall =>
        cases h
        exact ⟨objects, hall, rfl⟩
    | refused _ _ => cases h
  · rintro ⟨objects, hall, rfl⟩
    exact register_outcome hw (.accepted hall)

theorem register_eq_error_iff {nodes : List Cursor} {f : Failure} (hw : w.phase = .collecting) :
    registerObjects kind nodes w = .error f w' ↔
      ∃ first bad rest objects e, nodes = first ++ bad :: rest
        ∧ Registered kind first w.objects objects ∧ Refused kind objects bad e
        ∧ f = .document e ∧ w' = { w with objects := objects } := by
  constructor
  · intro h
    obtain ⟨r, objects, houtcome⟩ := exists_outcome kind nodes w.objects
    rw [register_outcome hw houtcome] at h
    cases houtcome with
    | accepted _ => cases h
    | refused hfirst hbad =>
        cases h
        exact ⟨_, _, _, objects, _, rfl, hfirst, hbad, rfl, rfl⟩
  · rintro ⟨first, bad, rest, objects, e, rfl, hfirst, hbad, rfl, rfl⟩
    exact register_outcome hw (.refused hfirst hbad)

/-! ## §4. One call after another. -/

/-- A call which registers objects. -/
structure ObjectCall where
  kind : Hardware
  nodes : List Cursor

/-- The state which a call leaves, however it ends. -/
def ObjectCall.after (call : ObjectCall) (w : Workspace) : Workspace :=
  Build.after (registerObjects call.kind call.nodes) w

/-- The state which calls leave, one after another. -/
def afterCalls : Workspace → List ObjectCall → Workspace
  | w, [] => w
  | w, call :: rest => afterCalls (call.after w) rest

/-- The nodes which a call comes to: those which it registers, and the next one if there is
one, at which it fails. -/
def ObjectCall.reached (call : ObjectCall) (w : Workspace) : List Cursor :=
  call.nodes.take ((call.after w).objects.length - w.objects.length + 1)

/-- The nodes of one kind which calls come to. -/
def offered (kind : Hardware) : Workspace → List ObjectCall → List Cursor
  | _, [] => []
  | w, call :: rest =>
      (if call.kind = kind then call.reached w else []) ++ offered kind (call.after w) rest

theorem ObjectCall.after_outcome {call : ObjectCall} {r : Option Located}
    {objects : List NamedObject} (hw : w.phase = .collecting)
    (h : CallOutcome call.kind call.nodes w.objects r objects) :
    call.after w = { w with objects := objects } := by
  have hrun := register_outcome hw h
  cases r with
  | none => exact after_ok hrun
  | some e => exact after_error hrun

theorem CallOutcome.lookUp_other {nodes : List Cursor} {before after : List NamedObject}
    {r : Option Located} (h : CallOutcome kind nodes before r after) {other : Hardware}
    (hne : kind ≠ other) (name : String) :
    lookUpObject after other name = lookUpObject before other name := by
  cases h with
  | accepted h => exact h.lookUp_other hne name
  | refused h _ => exact h.lookUp_other hne name

/-- The object of a name is the one which had it before the call, or else the first node of
this name which the call comes to. -/
theorem CallOutcome.lookUp {nodes : List Cursor} {before after : List NamedObject}
    {r : Option Located} (h : CallOutcome kind nodes before r after) (name : String) :
    lookUpObject after kind name = (lookUpObject before kind name).or
      ((nodes.take (after.length - before.length + 1)).find? (·.isNamed objectNameKey name)) := by
  cases h with
  | accepted h =>
      obtain ⟨entries, hentries, hnodes, -⟩ := h.exists_append
      have htake : nodes.take (after.length - before.length + 1) = nodes := by
        refine List.take_of_length_le ?_
        rw [← hnodes, hentries, List.length_map, List.length_append]
        omega
      rw [htake]
      exact h.lookUp name
  | @refused first rest bad e _ _ h hbad =>
      obtain ⟨entries, hentries, hnodes, -⟩ := h.exists_append
      have hlength : after.length - before.length = first.length := by
        rw [← hnodes, hentries, List.length_map, List.length_append]
        omega
      have htake : (first ++ bad :: rest).take (first.length + 1) = first ++ [bad] := by
        rw [List.take_length_add_append]
        rfl
      rw [hlength, htake, List.find?_append, ← Option.or_assoc, ← h.lookUp name]
      -- The refused node adds nothing: if it has the name, the name is taken.
      cases hold : lookUpObject after kind name with
      | some node => rfl
      | none => rw [List.find?_singleton, hbad.not_named hold, if_neg Bool.false_ne_true]; rfl

theorem ObjectCall.lookUp_after (call : ObjectCall) (hw : w.phase = .collecting) (name : String) :
    lookUpObject (call.after w).objects kind name
      = (lookUpObject w.objects kind name).or
          ((if call.kind = kind then call.reached w else []).find?
            (·.isNamed objectNameKey name)) := by
  obtain ⟨r, objects, houtcome⟩ := exists_outcome call.kind call.nodes w.objects
  rw [ObjectCall.reached, call.after_outcome hw houtcome]
  by_cases hkind : call.kind = kind
  · rw [if_pos hkind]
    exact hkind ▸ houtcome.lookUp name
  · rw [if_neg hkind, List.find?_nil, Option.or_none]
    exact houtcome.lookUp_other hkind name

/-! ## §5. Sequences of calls. -/

/-- The objects of one kind. -/
def pool (kind : Hardware) (objects : List NamedObject) : List NamedObject :=
  objects.filter (·.kind == kind)

theorem mem_pool {objects : List NamedObject} {o : NamedObject} :
    o ∈ pool kind objects ↔ o ∈ objects ∧ o.kind = kind := by
  rw [pool, List.mem_filter, beq_iff_eq]

/-- Names are looked up in the pool of their kind. -/
theorem lookUpObject_congr {objects objects' : List NamedObject}
    (h : pool kind objects = pool kind objects') (name : String) :
    lookUpObject objects kind name = lookUpObject objects' kind name := by
  have hpool : ∀ objects, lookUpObject objects kind name
      = ((pool kind objects).find? (·.name == name)).map (·.node) := by
    intro objects
    rw [lookUpObject, pool, List.find?_filter]
    refine congrArg (fun p => (objects.find? p).map (·.node)) (funext fun o => ?_)
    rw [Bool.decide_and, Bool.decide_eq_true, Bool.decide_eq_true]
  rw [hpool, hpool, h]

/-- What a call does to a pool depends on this pool alone. -/
theorem Registered.of_pool {nodes : List Cursor} {before after before' : List NamedObject}
    (h : Registered kind nodes before after) (hpool : pool kind before = pool kind before') :
    ∃ after', Registered kind nodes before' after' ∧ pool kind after = pool kind after' := by
  induction h generalizing before' with
  | nil => exact ⟨before', .nil, hpool⟩
  | @cons node rest name objects after hname hnew _ ih =>
      have hpool' : pool kind (objects ++ [⟨kind, name, node⟩])
          = pool kind (before' ++ [⟨kind, name, node⟩]) := by
        rw [pool, pool, List.filter_append, List.filter_append]
        exact congrArg (· ++ _) hpool
      obtain ⟨after', hrest, hafter⟩ := ih hpool'
      exact ⟨after', .cons hname (lookUpObject_congr hpool name ▸ hnew) hrest, hafter⟩

theorem Refused.of_pool {objects objects' : List NamedObject} {node : Cursor} {e : Located}
    (h : Refused kind objects node e) (hpool : pool kind objects = pool kind objects') :
    Refused kind objects' node e := by
  cases h with
  | unnamed h => exact .unnamed h
  | misnamed h hv => exact .misnamed h hv
  | @taken name o h ho hkind hname =>
      have hmem : o ∈ pool kind objects' := hpool ▸ mem_pool.2 ⟨ho, hkind⟩
      exact .taken h (mem_pool.1 hmem).1 hkind hname

theorem CallOutcome.of_pool {nodes : List Cursor} {before after before' : List NamedObject}
    {r : Option Located} (h : CallOutcome kind nodes before r after)
    (hpool : pool kind before = pool kind before') :
    ∃ after', CallOutcome kind nodes before' r after' ∧ pool kind after = pool kind after' := by
  cases h with
  | accepted h =>
      obtain ⟨after', h', hafter⟩ := h.of_pool hpool
      exact ⟨after', .accepted h', hafter⟩
  | refused h hbad =>
      obtain ⟨after', h', hafter⟩ := h.of_pool hpool
      exact ⟨after', .refused h' (hbad.of_pool hafter), hafter⟩

theorem CallOutcome.pool_other {nodes : List Cursor} {before after : List NamedObject}
    {r : Option Located} (h : CallOutcome kind nodes before r after) {other : Hardware}
    (hne : kind ≠ other) : pool other after = pool other before := by
  have hregistered : ∀ {nodes}, Registered kind nodes before after →
      pool other after = pool other before := by
    intro nodes h
    obtain ⟨entries, rfl, -, hkinds⟩ := h.exists_append
    have hnone : entries.filter (·.kind == other) = [] := by
      rw [List.filter_eq_nil_iff]
      intro o ho hother
      exact hne ((hkinds o ho).symm.trans (beq_iff_eq.1 hother))
    rw [pool, List.filter_append, hnone, List.append_nil, pool]
  cases h with
  | accepted h => exact hregistered h
  | refused h _ => exact hregistered h

theorem CallOutcome.distinct {nodes : List Cursor} {before after : List NamedObject}
    {r : Option Located} (h : CallOutcome kind nodes before r after) (hbefore : Distinct before) :
    Distinct after := by
  cases h with
  | accepted h => exact h.distinct hbefore
  | refused h _ => exact h.distinct hbefore

theorem CallOutcome.extends {nodes : List Cursor} {before after : List NamedObject}
    {r : Option Located} (h : CallOutcome kind nodes before r after) : before <+: after := by
  have hregistered : ∀ {nodes}, Registered kind nodes before after → before <+: after := by
    intro nodes h
    obtain ⟨entries, rfl, -, -⟩ := h.exists_append
    exact List.prefix_append before entries
  cases h with
  | accepted h => exact hregistered h
  | refused h _ => exact hregistered h

/-- A state in which objects can be registered, with different names in every pool. -/
structure Workspace.Collects (w : Workspace) : Prop where
  phase : w.phase = .collecting
  distinct : Distinct w.objects

theorem collects_empty : Workspace.empty.Collects := ⟨rfl, List.nodup_nil⟩

/-- A call has an outcome in the state in which it is made, and leaves such a state. -/
theorem ObjectCall.exists_after (call : ObjectCall) (hw : w.Collects) :
    ∃ r objects, CallOutcome call.kind call.nodes w.objects r objects
      ∧ call.after w = { w with objects := objects } ∧ (call.after w).Collects := by
  obtain ⟨r, objects, houtcome⟩ := exists_outcome call.kind call.nodes w.objects
  have hafter := call.after_outcome hw.phase houtcome
  refine ⟨r, objects, houtcome, hafter, ?_⟩
  rw [hafter]
  exact ⟨hw.phase, houtcome.distinct hw.distinct⟩

theorem collects_afterCalls (calls : List ObjectCall) (hw : w.Collects) :
    (afterCalls w calls).Collects := by
  induction calls generalizing w with
  | nil => exact hw
  | cons call rest ih =>
      obtain ⟨-, -, -, -, hcall⟩ := call.exists_after hw
      exact ih hcall

/-- Objects stay where they are, whatever is registered later. -/
theorem extends_afterCalls (calls : List ObjectCall) (hw : w.Collects) :
    w.objects <+: (afterCalls w calls).objects := by
  induction calls generalizing w with
  | nil => exact List.prefix_rfl
  | cons call rest ih =>
      obtain ⟨r, objects, houtcome, hafter, hcall⟩ := call.exists_after hw
      refine List.IsPrefix.trans ?_ (ih hcall)
      rw [hafter]
      exact houtcome.extends

/-- The pool of a kind is what the calls of this kind make of it. -/
theorem pool_afterCalls (calls : List ObjectCall) (hw : w.Collects) (hw' : w'.Collects)
    (hpool : pool kind w.objects = pool kind w'.objects) :
    pool kind (afterCalls w calls).objects
      = pool kind (afterCalls w' (calls.filter (·.kind == kind))).objects := by
  induction calls generalizing w w' with
  | nil => exact hpool
  | cons call rest ih =>
      obtain ⟨r, objects, houtcome, hafter, hcall⟩ := call.exists_after hw
      by_cases hkind : call.kind = kind
      · subst hkind
        obtain ⟨objects', houtcome', hpool'⟩ := houtcome.of_pool hpool
        have hafter' := call.after_outcome hw'.phase houtcome'
        obtain ⟨-, -, -, -, hcall'⟩ := call.exists_after hw'
        rw [List.filter_cons, if_pos (beq_self_eq_true _)]
        refine ih hcall hcall' ?_
        rw [hafter, hafter']
        exact hpool'
      -- A call of another kind is made in the first run only, and does not touch the pool.
      · rw [List.filter_cons, if_neg (fun h => hkind (beq_iff_eq.1 h))]
        refine ih hcall hw' ?_
        rw [hafter]
        exact (houtcome.pool_other hkind).trans hpool

/-- Looking up a name finds the first node of this name which the calls come to. -/
theorem lookUp_afterCalls (calls : List ObjectCall) (hw : w.Collects) (name : String) :
    lookUpObject (afterCalls w calls).objects kind name
      = (lookUpObject w.objects kind name).or
          ((offered kind w calls).find? (·.isNamed objectNameKey name)) := by
  induction calls generalizing w with
  | nil => exact (Option.or_none).symm
  | cons call rest ih =>
      obtain ⟨-, -, -, -, hcall⟩ := call.exists_after hw
      rw [offered, List.find?_append, ← Option.or_assoc, ← call.lookUp_after hw.phase]
      exact ih hcall

/-! ## §6. References. -/

theorem findObject_unread {c : Cursor} {key : String} {e : Located}
    (h : c.string key = .error e) : findObject kind c key w = .error (.document e) w := by
  unfold findObject
  rw [h]
  rfl

theorem findObject_read {c : Cursor} {key name : String} (h : c.string key = .ok name) :
    findObject kind c key w = match lookUpObject w.objects kind name with
      | some node => .ok node w
      | none => .error (.document ⟨c.path.key key, .unknownReference kind name⟩) w := by
  unfold findObject
  rw [h]
  show (match lookUpObject w.objects kind name with
    | some node => pure node
    | none => _ : Build Cursor) w = _
  cases lookUpObject w.objects kind name with
  | some node => rfl
  | none => rfl

/-- What holds of the pools after calls, however each of them ended. -/
structure PoolsAfter (calls : List ObjectCall) (w : Workspace) : Prop where
  /-- A call succeeds if all its nodes can be registered, and registers them. -/
  accepts : ∀ kind nodes w', registerObjects kind nodes w = .ok () w' ↔
    ∃ objects, Registered kind nodes w.objects objects ∧ w' = { w with objects := objects }
  /-- A call fails at the first node which is refused, with what is wrong with it, and
  registers the nodes before it. -/
  refuses : ∀ kind nodes f w', registerObjects kind nodes w = .error f w' ↔
    ∃ first bad rest objects e, nodes = first ++ bad :: rest
      ∧ Registered kind first w.objects objects ∧ Refused kind objects bad e
      ∧ f = .document e ∧ w' = { w with objects := objects }
  /-- What is registered stays as it is. -/
  kept : ∀ later, w.objects <+: (afterCalls w later).objects
  /-- Nothing of another kind matters to a pool. -/
  apart : ∀ kind, pool kind w.objects
    = pool kind (afterCalls .empty (calls.filter (·.kind == kind))).objects
  /-- There is one object of a name. -/
  unique : ∀ o ∈ w.objects, ∀ o' ∈ w.objects, o.kind = o'.kind → o.name = o'.name → o = o'
  /-- The object of a name is the first one which was offered under it. -/
  first : ∀ kind name node, ⟨kind, name, node⟩ ∈ w.objects ↔
    (offered kind .empty calls).find? (·.isNamed objectNameKey name) = some node
  /-- A reference leads to the object which is registered under its name. -/
  finds : ∀ kind c key name, c.string key = .ok name → ∀ node w',
    findObject kind c key w = .ok node w' ↔ ⟨kind, name, node⟩ ∈ w.objects ∧ w' = w
  /-- A reference to a name under which nothing is registered is unknown. -/
  misses : ∀ kind c key name, c.string key = .ok name → ∀ f w',
    findObject kind c key w = .error f w' ↔
      (∀ o ∈ w.objects, o.kind = kind → o.name ≠ name)
        ∧ f = .document ⟨c.path.key key, .unknownReference kind name⟩ ∧ w' = w
  /-- A reference which is no string is not looked up. -/
  unread : ∀ kind c key e, c.string key = .error e →
    findObject kind c key w = .error (.document e) w

/-- **Every pool has the first object of each name.**  Whatever calls have registered objects,
of whatever kinds and with whatever failures among them, a call registers its nodes up to the
first one which has no name or a name which is taken in its kind, and fails there; what is
registered is never replaced, removed or seen from another kind; and a reference leads to the
one object of its name, the first which was offered in its kind, or to none if there was
none. -/
theorem pools_after (calls : List ObjectCall) :
    PoolsAfter calls (afterCalls .empty calls) := by
  have hw := collects_afterCalls calls collects_empty
  have hlookUp : ∀ kind name, lookUpObject (afterCalls .empty calls).objects kind name
      = (offered kind .empty calls).find? (·.isNamed objectNameKey name) := by
    intro kind name
    exact lookUp_afterCalls calls collects_empty name
  refine { accepts := ?_, refuses := ?_, kept := ?_, apart := ?_, unique := ?_, first := ?_,
           finds := ?_, misses := ?_, unread := ?_ }
  · exact fun kind nodes w' => register_eq_ok_iff hw.phase
  · exact fun kind nodes f w' => register_eq_error_iff hw.phase
  · exact fun later => extends_afterCalls later hw
  · exact fun kind => pool_afterCalls calls collects_empty collects_empty rfl
  · intro o ho o' ho' hkind hname
    exact List.inj_on_of_nodup_map hw.distinct ho ho' (Prod.ext hkind hname)
  · intro kind name node
    rw [← lookUpObject_eq_some_iff hw.distinct, hlookUp]
  · intro kind c key name hread node w'
    rw [findObject_read hread, ← lookUpObject_eq_some_iff hw.distinct]
    cases lookUpObject (afterCalls .empty calls).objects kind name with
    | none => exact ⟨fun h => (nomatch h), fun h => nomatch h.1⟩
    | some found =>
        constructor
        · rintro ⟨⟩
          exact ⟨rfl, rfl⟩
        · rintro ⟨⟨⟩, rfl⟩
          rfl
  · intro kind c key name hread f w'
    rw [findObject_read hread, ← lookUpObject_eq_none_iff]
    cases lookUpObject (afterCalls .empty calls).objects kind name with
    | some found => exact ⟨fun h => (nomatch h), fun h => nomatch h.1⟩
    | none =>
        constructor
        · rintro ⟨⟩
          exact ⟨rfl, rfl, rfl⟩
        · rintro ⟨-, rfl, rfl⟩
          rfl
  · exact fun kind c key e hread => findObject_unread hread

end PrinterFirmware
