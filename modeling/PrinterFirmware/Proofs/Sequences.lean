/-
  PrinterFirmware.Proofs.Sequences
  ────────────────────────────────
  **A LIST AND NUMBERED FIELDS ARE WALKED ALIKE.**

  A sequence of objects can stand in a description as a list or as numbered fields.
  A list is checked as a whole before the walk over it begins, and a numbered field
  only when the walk comes to it.  A walk which looks at nothing but the values and
  the indices of the elements does not see the difference as long as all elements are
  objects: it is run on the same values in the same order, up to the first one on
  which it fails.

      Visited, Run                 such a walk over values, one after another
      Run.walkElements_eq          the walk over elements runs like this
      walkNumbered_entered         the walk over numbered fields is the one over the
                                   entered objects

  Failures are compared without their places, which are of course different.

  Main result: `mapList_mapNumbered_agree`.
-/
import PrinterFirmware.Proofs.Letters
import PrinterFirmware.Proofs.Reached

namespace PrinterFirmware.Document

variable {σ τ α β : Type}

/-! ## §1. Failures without their places. -/

/-- What was wrong: a rule which the document violates, or a broken rule of building. -/
abbrev Cause := Violation ⊕ Breach

/-- What was wrong, wherever it was. -/
def cause : Failure → Cause
  | .document e => .inl e.violation
  | .breach b => .inr b

/-- The end of a walk, without the place of a failure. -/
def unplaced : EStateM.Result Failure σ α → EStateM.Result Cause σ α
  | .ok a s => .ok a s
  | .error e s => .error (cause e) s

theorem unplaced_eq_ok {r : EStateM.Result Failure σ α} {a : α} {s : σ}
    (h : unplaced r = .ok a s) : r = .ok a s := by
  cases r <;> cases h
  rfl

theorem unplaced_eq_error {r : EStateM.Result Failure σ α} {c : Cause} {s : σ}
    (h : unplaced r = .error c s) : ∃ e, r = .error e s ∧ cause e = c := by
  cases r <;> cases h
  exact ⟨_, rfl, rfl⟩

/-- What has been read goes into the walk after it. -/
theorem readOk_bind (a : α) (f : α → Walk σ β) :
    (liftM (.ok a : Reading α) : Walk σ α) >>= f = f a := rfl

/-! ## §2. Walks over values. -/

/-- A walk over an element. -/
abbrev ElementWalk (σ : Type) := Cursor → Nat → Walk σ TypeExpr

/-- A walk over a value with an index, which knows no places. -/
abbrev ValueWalk (σ : Type) := Value → Nat → EStateM Cause σ TypeExpr

/-- The walk `f` looks only at the context, at the value of an element and at its index, and does
with them what `g` does; only in failures it can name a place. -/
def LooksAt (f : ElementWalk σ) (g : ValueWalk σ) : Prop :=
  ∀ e i s, unplaced (f e i s) = g e.value i s

/-- The walk over elements which does with their values what `g` does, and fails at their places. -/
def ValueWalk.placed (g : ValueWalk σ) : ElementWalk σ := fun e i s =>
  match g e.value i s with
  | .ok a t => .ok a t
  | .error (.inl v) t => .error (.document ⟨e.path, v⟩) t
  | .error (.inr b) t => .error (.breach b) t

theorem looksAt_placed (g : ValueWalk σ) : LooksAt g.placed g := by
  intro e i s
  unfold ValueWalk.placed
  cases g e.value i s with
  | ok a t => rfl
  | error c t => cases c <;> rfl

/-- The walk `g` succeeds on values one after another, the first of which has index `i`. -/
inductive Visited (g : ValueWalk σ) : Nat → σ → List Value → List TypeExpr → σ → Prop where
  | nil {i : Nat} {s : σ} : Visited g i s [] [] s
  | cons {i : Nat} {s s₁ t : σ} {v : Value} {values : List Value} {a : TypeExpr}
      {results : List TypeExpr} (hv : g v i s = .ok a s₁)
      (hrest : Visited g (i + 1) s₁ values results t) :
      Visited g i s (v :: values) (a :: results) t

/-- The walk `g` succeeds on values one after another until it fails on one of them, which is the
last one it visits. -/
inductive Stopped (g : ValueWalk σ) :
    Nat → σ → List Value → List Value → Cause → σ → Prop where
  | here {i : Nat} {s t : σ} {v : Value} {after : List Value} {c : Cause}
      (hv : g v i s = .error c t) : Stopped g i s (v :: after) [v] c t
  | later {i : Nat} {s s₁ t : σ} {v : Value} {values visited : List Value} {a : TypeExpr}
      {c : Cause} (hv : g v i s = .ok a s₁) (hrest : Stopped g (i + 1) s₁ values visited c t) :
      Stopped g i s (v :: values) (v :: visited) c t

/-- What a run of `g` over values, with indices from zero on, visits and how it ends. -/
inductive Run (g : ValueWalk σ) (s : σ) (values : List Value) :
    List Value → EStateM.Result Cause σ TypeExpr → Prop where
  | finished {results : List TypeExpr} {t : σ} (h : Visited g 0 s values results t) :
      Run g s values values (.ok (.list results) t)
  | stopped {visited : List Value} {c : Cause} {t : σ} (h : Stopped g 0 s values visited c t) :
      Run g s values visited (.error c t)

/-- There is one result for each value. -/
theorem Visited.length_eq {g : ValueWalk σ} {i : Nat} {s t : σ} {values : List Value}
    {results : List TypeExpr} (h : Visited g i s values results t) :
    results.length = values.length := by
  induction h with
  | nil => rfl
  | cons _ _ ih => exact congrArg (· + 1) ih

/-- A walk over values succeeds on all of them or fails on one. -/
theorem visited_or_stopped (g : ValueWalk σ) (values : List Value) : ∀ i s,
    (∃ results t, Visited g i s values results t)
      ∨ ∃ visited c t, Stopped g i s values visited c t := by
  induction values with
  | nil =>
      intro i s
      exact .inl ⟨[], s, .nil⟩
  | cons v rest ih =>
      intro i s
      cases hv : g v i s with
      | ok a s₁ =>
          rcases ih (i + 1) s₁ with ⟨results, t, hrest⟩ | ⟨visited, c, t, hrest⟩
          · exact .inl ⟨a :: results, t, .cons hv hrest⟩
          · exact .inr ⟨v :: visited, c, t, .later hv hrest⟩
      | error c t => exact .inr ⟨[v], c, t, .here hv⟩

theorem exists_run (g : ValueWalk σ) (s : σ) (values : List Value) :
    ∃ visited r, Run g s values visited r := by
  rcases visited_or_stopped g values 0 s with ⟨results, t, h⟩ | ⟨visited, c, t, h⟩
  · exact ⟨values, _, .finished h⟩
  · exact ⟨visited, _, .stopped h⟩

/-! ## §3. Walks over elements. -/

section Elements

variable {f : ElementWalk σ} {g : ValueWalk σ}

theorem LooksAt.eq_ok (hf : LooksAt f g) {e : Cursor} {i : Nat} {s t : σ} {a : TypeExpr}
    (h : g e.value i s = .ok a t) : f e i s = .ok a t :=
  unplaced_eq_ok ((hf e i s).trans h)

theorem LooksAt.eq_error (hf : LooksAt f g) {e : Cursor} {i : Nat} {s t : σ} {c : Cause}
    (h : g e.value i s = .error c t) : ∃ err, f e i s = .error err t ∧ cause err = c :=
  unplaced_eq_error ((hf e i s).trans h)

/-- The walk over elements gives the results of the walk over their values. -/
theorem Visited.walkFrom_eq (hf : LooksAt f g) {i : Nat} {s t : σ} {values : List Value}
    {results : List TypeExpr} (h : Visited g i s values results t) :
    ∀ es : List Cursor, es.map (·.value) = values → Cursor.walkFrom f i es s = .ok results t := by
  induction h with
  | nil =>
      intro es hes
      obtain rfl := List.map_eq_nil_iff.1 hes
      rfl
  | cons hv _ ih =>
      intro es hes
      obtain ⟨e, more, rfl, rfl, hmore⟩ := List.map_eq_cons_iff.1 hes
      unfold Cursor.walkFrom
      rw [bind_ok (hf.eq_ok hv), bind_ok (ih more hmore)]
      rfl

/-- The walk over elements fails where the walk over their values does. -/
theorem Stopped.walkFrom_eq (hf : LooksAt f g) {i : Nat} {s t : σ} {values visited : List Value}
    {c : Cause} (h : Stopped g i s values visited c t) :
    ∀ es : List Cursor, es.map (·.value) = values →
      ∃ err, Cursor.walkFrom f i es s = .error err t ∧ cause err = c := by
  induction h with
  | here hv =>
      intro es hes
      obtain ⟨e, more, rfl, rfl, -⟩ := List.map_eq_cons_iff.1 hes
      obtain ⟨err, herr, hcause⟩ := hf.eq_error hv
      refine ⟨err, ?_, hcause⟩
      unfold Cursor.walkFrom
      exact bind_error herr
  | later hv _ ih =>
      intro es hes
      obtain ⟨e, more, rfl, rfl, hmore⟩ := List.map_eq_cons_iff.1 hes
      obtain ⟨err, herr, hcause⟩ := ih more hmore
      refine ⟨err, ?_, hcause⟩
      unfold Cursor.walkFrom
      rw [bind_ok (hf.eq_ok hv)]
      exact bind_error herr

/-- The sequence of the results of a walk over elements. -/
def walkElements (f : ElementWalk σ) (es : List Cursor) : Walk σ TypeExpr := do
  let results ← Cursor.walkFrom f 0 es
  return .list results

/-- **A walk over elements runs like the walk over their values.** -/
theorem Run.walkElements_eq (hf : LooksAt f g) {s : σ} {values visited : List Value}
    {r : EStateM.Result Cause σ TypeExpr} (h : Run g s values visited r) {es : List Cursor}
    (hes : es.map (·.value) = values) : unplaced (walkElements f es s) = r := by
  unfold walkElements
  cases h with
  | finished h =>
      rw [bind_ok (h.walkFrom_eq hf es hes)]
      rfl
  | stopped h =>
      obtain ⟨err, herr, rfl⟩ := h.walkFrom_eq hf es hes
      rw [bind_error herr]
      rfl

end Elements

/-! ## §4. Walks which write down what they visit. -/

/-- Values which have been visited, with their indices. -/
abbrev Visits := List (Value × Nat)

/-- An end of a walk, with the visits up to it. -/
def withVisits {ε : Type} (visits : Visits) :
    EStateM.Result ε σ α → EStateM.Result ε (σ × Visits) α
  | .ok a s => .ok a (s, visits)
  | .error e s => .error e (s, visits)

/-- The walk `f`, which writes down each visit. -/
def ElementWalk.noted (f : ElementWalk σ) : ElementWalk (σ × Visits) :=
  fun e i s => withVisits (s.2 ++ [(e.value, i)]) (f e i s.1)

/-- The walk `g`, which writes down each visit. -/
def ValueWalk.noted (g : ValueWalk σ) : ValueWalk (σ × Visits) :=
  fun v i s => withVisits (s.2 ++ [(v, i)]) (g v i s.1)

section Noted

variable {f : ElementWalk σ} {g : ValueWalk σ}

theorem LooksAt.noted (hf : LooksAt f g) : LooksAt f.noted g.noted := by
  intro e i s
  unfold ElementWalk.noted ValueWalk.noted
  rw [← hf e i s.1]
  cases f e i s.1 <;> rfl

theorem Visited.noted {i : Nat} {s t : σ} {values : List Value} {results : List TypeExpr}
    (h : Visited g i s values results t) :
    ∀ visits, Visited g.noted i (s, visits) values results (t, visits ++ values.zipIdx i) := by
  induction h with
  | nil =>
      intro visits
      rw [List.zipIdx_nil, List.append_nil]
      exact .nil
  | @cons i s s₁ t v values a results hv hrest ih =>
      intro visits
      have hstep : g.noted v i (s, visits) = .ok a (s₁, visits ++ [(v, i)]) :=
        congrArg (withVisits (visits ++ [(v, i)])) hv
      rw [List.zipIdx_cons, List.append_cons]
      exact .cons hstep (ih (visits ++ [(v, i)]))

theorem Stopped.noted {i : Nat} {s t : σ} {values visited : List Value} {c : Cause}
    (h : Stopped g i s values visited c t) :
    ∀ visits, Stopped g.noted i (s, visits) values visited c (t, visits ++ visited.zipIdx i) := by
  induction h with
  | @here i s t v after c hv =>
      intro visits
      exact .here (congrArg (withVisits (visits ++ [(v, i)])) hv)
  | @later i s s₁ t v values visited a c hv hrest ih =>
      intro visits
      have hstep : g.noted v i (s, visits) = .ok a (s₁, visits ++ [(v, i)]) :=
        congrArg (withVisits (visits ++ [(v, i)])) hv
      rw [List.zipIdx_cons, List.append_cons]
      exact .later hstep (ih (visits ++ [(v, i)]))

/-- A run writes down the values which it visits, with indices from zero on. -/
theorem Run.noted {s : σ} {values visited : List Value} {r : EStateM.Result Cause σ TypeExpr}
    (h : Run g s values visited r) :
    Run g.noted (s, []) values visited (withVisits visited.zipIdx r) := by
  cases h with
  | finished h => exact .finished (h.noted [])
  | stopped h => exact .stopped (h.noted [])

end Noted

/-! ## §5. Walks over sequences. -/

/-- A walk over a sequence, for a walk over its elements which keeps any context. -/
abbrev SequenceWalk := ∀ τ : Type, ElementWalk τ → Walk τ TypeExpr

/-- From `s` the walk over a sequence visits the values `visited`, with indices from zero on, and
ends with `r`. -/
structure Gives (m : SequenceWalk) (f : ElementWalk σ) (s : σ) (visited : List Value)
    (r : EStateM.Result Cause σ TypeExpr) : Prop where
  ends : unplaced (m σ f s) = r
  visits : unplaced (m (σ × Visits) f.noted (s, [])) = withVisits visited.zipIdx r

/-- The sequence is rejected before any of its elements is visited. -/
def RejectsFirst (m : SequenceWalk) (e : Located) : Prop :=
  ∀ (τ : Type) (f : ElementWalk τ) (s : τ), m τ f s = .error (.document e) s

/-- The failure `c` in place of a result; a failure stays. -/
def thenFail (c : Cause) : EStateM.Result Cause σ α → EStateM.Result Cause σ β
  | .ok _ s => .error c s
  | .error c' s => .error c' s

section Runs

variable {m : SequenceWalk} {f : ElementWalk σ} {g : ValueWalk σ} {s : σ}
  {values visited : List Value} {r : EStateM.Result Cause σ TypeExpr} {es : List Cursor}

/-- What is a walk over elements visits their values in order up to the first failure. -/
theorem Run.gives (hf : LooksAt f g) (h : Run g s values visited r)
    (hes : es.map (·.value) = values) (hm : ∀ τ f, m τ f = walkElements f es) :
    Gives m f s visited r := by
  constructor
  · rw [hm]
    exact h.walkElements_eq hf hes
  · -- Writing down the visits is a walk over the same elements in another context.
    rw [hm]
    exact h.noted.walkElements_eq hf.noted hes

theorem unplaced_bind_throw (walk : Walk σ α) (e : Failure) (s : σ) :
    unplaced ((walk >>= fun _ => (throw e : Walk σ β)) s)
      = thenFail (cause e) (unplaced (walk s)) := by
  cases h : walk s with
  | ok a t =>
      rw [bind_ok h]
      rfl
  | error err t =>
      rw [bind_error h]
      rfl

theorem withVisits_thenFail (visits : Visits) (c : Cause) (r : EStateM.Result Cause σ α) :
    withVisits visits (thenFail c r : EStateM.Result Cause σ β)
      = thenFail c (withVisits visits r) := by
  cases r <;> rfl

/-- A walk over elements which fails at its end visits their values in order up to the first
failure, and all of them before its own. -/
theorem Run.gives_thenFail (hf : LooksAt f g) (h : Run g s values visited r)
    (hes : es.map (·.value) = values) {e : Located}
    (hm : ∀ τ f, m τ f = walkElements f es >>= fun _ => throw (.document e)) :
    Gives m f s visited (thenFail (.inl e.violation) r) := by
  constructor
  · rw [hm, unplaced_bind_throw, h.walkElements_eq hf hes]
    rfl
  · rw [hm, unplaced_bind_throw, h.noted.walkElements_eq hf.noted hes, withVisits_thenFail]
    rfl

end Runs

/-! ## §6. Numbered fields. -/

section Numbered

variable {c d node : Cursor} {key countKey elemsKey stem : String} {elems values : List Value}
  {min max : Nat}

/-- The fields of `node` hold the values, the first of them the field with number `i`. -/
def HoldsFrom (node : Cursor) (stem : String) (i : Nat) (values : List Value) : Prop :=
  ∀ j v, values[j]? = some v → node.value.field? (stem ++ Numeral.ofNat (i + j)) = some v

theorem HoldsFrom.head {i : Nat} {v : Value} {rest : List Value}
    (h : HoldsFrom node stem i (v :: rest)) :
    node.value.field? (stem ++ Numeral.ofNat i) = some v := h 0 v rfl

theorem HoldsFrom.tail {i : Nat} {v : Value} {rest : List Value}
    (h : HoldsFrom node stem i (v :: rest)) : HoldsFrom node stem (i + 1) rest := by
  intro j u hu
  rw [Nat.add_assoc, Nat.add_comm 1 j]
  exact h (j + 1) u hu

theorem HoldsFrom.left {i : Nat} {before after : List Value}
    (h : HoldsFrom node stem i (before ++ after)) : HoldsFrom node stem i before := by
  intro j v hv
  exact h j v (by rw [List.getElem?_append_left (List.getElem?_eq_some_iff.1 hv).1, hv])

theorem HoldsFrom.right {i : Nat} {before after : List Value}
    (h : HoldsFrom node stem i (before ++ after)) :
    HoldsFrom node stem (i + before.length) after := by
  intro j v hv
  rw [Nat.add_assoc]
  exact h (before.length + j) v
    (by rw [List.getElem?_append_right (Nat.le_add_right _ _), Nat.add_sub_cancel_left, hv])

/-- The elements in the fields of the node from number `i` on, each with its place. -/
def fieldsFrom (node : Cursor) (stem : String) (i : Nat) (values : List Value) : List Cursor :=
  (values.zipIdx i).map fun (v, j) => ⟨v, node.keyPath (stem ++ Numeral.ofNat j)⟩

theorem map_value_fieldsFrom (i : Nat) (values : List Value) :
    (fieldsFrom node stem i values).map (·.value) = values := by
  unfold fieldsFrom
  rw [List.map_map]
  exact List.zipIdx_map_fst i values

theorem length_fieldsFrom (i : Nat) (values : List Value) :
    (fieldsFrom node stem i values).length = values.length := by
  rw [fieldsFrom, List.length_map, List.length_zipIdx]

theorem enter_of_not_isObject {v : Value} (h : node.value.field? key = some v)
    (hv : v.isObject = false) : node.enter key = .error ⟨node.keyPath key, .notAnObject⟩ := by
  unfold Cursor.enter
  rw [h]
  exact if_neg (by simp [hv])

/-- Fields which hold objects are entered by their numbers. -/
theorem HoldsFrom.numbered {i : Nat} {values : List Value} (h : HoldsFrom node stem i values)
    (hobjects : ∀ v ∈ values, v.isObject = true) :
    Numbered node stem i (fieldsFrom node stem i values) := by
  induction values generalizing i with
  | nil => exact .nil
  | cons v rest ih =>
      refine .cons (Cursor.enter_eq_ok.2 ⟨v, h.head, hobjects v List.mem_cons_self, rfl⟩) ?_
      exact ih h.tail fun u hu => hobjects u (List.mem_cons_of_mem v hu)

/-- **The walk over numbered fields is the walk over the entered objects**, as long as there are
such. -/
theorem walkNumbered_entered {i : Nat} {es : List Cursor} (h : Numbered node stem i es)
    (f : ElementWalk σ) (more : Nat) :
    node.walkNumbered stem f i (es.length + more) = (do
      let results ← Cursor.walkFrom f i es
      let others ← node.walkNumbered stem f (i + es.length) more
      return results ++ others) := by
  induction h with
  | nil =>
      -- No object is left: both sides are the walk over the other fields.
      rw [List.length_nil, Nat.zero_add, Nat.add_zero]
      simp [Cursor.walkFrom]
  | @cons i e rest henter _ ih =>
      have hcount : (e :: rest).length + more = rest.length + more + 1 := by
        rw [List.length_cons]
        omega
      have hindex : i + (e :: rest).length = i + 1 + rest.length := by
        rw [List.length_cons]
        omega
      rw [hcount, hindex, Cursor.walkNumbered, henter, ih, Cursor.walkFrom]
      simp only [bind_assoc, pure_bind, List.cons_append]
      rfl

/-- The elements stand in a list of `c`, and `d` counts them and has them in the numbered fields of
the object `node`. -/
structure SameElements (c d node : Cursor) (key countKey elemsKey stem : String)
    (elems : List Value) : Prop where
  list : c.value.field? key = some (.list elems)
  count : d.value.field? countKey = some (.int elems.length)
  enter : d.enter elemsKey = .ok node
  fields : HoldsFrom node stem 0 elems

theorem int_of_field {n : Int} (h : c.value.field? key = some (.int n))
    (hn : -signedBound ≤ n ∧ n < signedBound) : c.int key = .ok n := by
  refine Cursor.fieldAs_eq_ok.2 ?_
  rw [h, Option.bind_some, Value.int64?, if_pos hn]

/-- A list of objects is walked element by element. -/
theorem mapList_eq_walkElements (h : c.value.field? key = some (.list elems))
    (hcount : min ≤ elems.length ∧ elems.length ≤ max) (hobjects : ∀ v ∈ elems, v.isObject = true)
    (f : ElementWalk σ) : c.mapList key min max f = walkElements f (c.elementsOf key elems) := by
  have hnodes : c.objects key min max = .ok (c.elementsOf key elems) :=
    Cursor.objects_eq_ok.2
      ⟨elems, Cursor.fieldAs_eq_ok.2 (Cursor.list?_field_iff.2 h), hcount, hobjects, rfl⟩
  unfold Cursor.mapList
  rw [hnodes]
  rfl

/-- A list with a fault is rejected before the walk begins. -/
theorem mapList_rejectsFirst {e : Located} (h : c.objects key min max = .error e) :
    RejectsFirst (fun _ => c.mapList key min max) e := by
  intro τ f s
  unfold Cursor.mapList
  rw [h]
  rfl

/-- Counted fields are walked one by one, as many as there are elements. -/
theorem mapNumbered_eq_walkNumbered (h : SameElements c d node key countKey elemsKey stem elems)
    (hmax : (max : Int) < signedBound) (hcount : min ≤ elems.length ∧ elems.length ≤ max)
    (f : ElementWalk σ) :
    d.mapNumbered countKey elemsKey stem min max f = (do
      let results ← node.walkNumbered stem f 0 elems.length
      return .list results) := by
  have hint : d.int countKey = .ok elems.length := by
    apply int_of_field h.count
    unfold signedBound at hmax ⊢
    omega
  have hrange : ¬ ((elems.length : Int) < signedOfWord min ∨ signedOfWord max < elems.length) := by
    rw [signedOfWord_of_lt hmax, signedOfWord_of_lt (by omega)]
    omega
  unfold Cursor.mapNumbered
  rw [hint, h.enter, readOk_bind, if_neg hrange, wordOfSigned_natCast, readOk_bind]

/-- Counted fields with a count which is out of range are rejected before the walk begins. -/
theorem mapNumbered_rejectsFirst {n : Int} (hmin : (min : Int) < signedBound)
    (hmax : (max : Int) < signedBound) (h : d.int countKey = .ok n) (hn : n < min ∨ max < n) :
    RejectsFirst (fun _ => d.mapNumbered countKey elemsKey stem min max)
      ⟨d.keyPath countKey, .countOutOfRange n min max⟩ := by
  intro τ f s
  have hrange : n < signedOfWord min ∨ signedOfWord max < n := by
    rwa [signedOfWord_of_lt hmin, signedOfWord_of_lt hmax]
  show d.mapNumbered countKey elemsKey stem min max f s = _
  unfold Cursor.mapNumbered
  rw [h, readOk_bind, if_pos hrange]
  rfl

/-- Numbered objects are walked element by element. -/
theorem mapNumbered_eq_walkElements (h : SameElements c d node key countKey elemsKey stem elems)
    (hmax : (max : Int) < signedBound) (hcount : min ≤ elems.length ∧ elems.length ≤ max)
    (hobjects : ∀ v ∈ elems, v.isObject = true) (f : ElementWalk σ) :
    d.mapNumbered countKey elemsKey stem min max f
      = walkElements f (fieldsFrom node stem 0 elems) := by
  have hwalk := walkNumbered_entered (h.fields.numbered hobjects) f 0
  rw [length_fieldsFrom, Nat.add_zero] at hwalk
  rw [mapNumbered_eq_walkNumbered h hmax hcount, hwalk]
  simp [walkElements, Cursor.walkNumbered]

/-- Numbered fields are walked element by element up to the first one which is no object. -/
theorem mapNumbered_eq_throw {before after : List Value} {v : Value}
    (h : SameElements c d node key countKey elemsKey stem (before ++ v :: after))
    (hmax : (max : Int) < signedBound)
    (hcount : min ≤ (before ++ v :: after).length ∧ (before ++ v :: after).length ≤ max)
    (hobjects : ∀ u ∈ before, u.isObject = true) (hv : v.isObject = false)
    (f : ElementWalk σ) :
    d.mapNumbered countKey elemsKey stem min max f
      = walkElements f (fieldsFrom node stem 0 before) >>= fun _ =>
          throw (.document ⟨node.keyPath (stem ++ Numeral.ofNat before.length), .notAnObject⟩) := by
  have hfield := h.fields.right.head
  have hwalk := walkNumbered_entered (h.fields.left.numbered hobjects) f (after.length + 1)
  rw [length_fieldsFrom, Cursor.walkNumbered, enter_of_not_isObject hfield hv] at hwalk
  have hlength : (before ++ v :: after).length = before.length + (after.length + 1) := by
    rw [List.length_append, List.length_cons]
  rw [mapNumbered_eq_walkNumbered h hmax hcount, hlength, hwalk, Nat.zero_add]
  simp only [walkElements, bind_assoc, pure_bind]
  rfl

/-- **A list and numbered fields are walked alike.**  Elements which are all objects are visited in
order up to the first failure, with the same end.  An element which is no object is found before
the first visit in the list, and in the numbered fields after the visits before it.  Too few or too
many elements are found before the first visit in both. -/
theorem mapList_mapNumbered_agree {f : ElementWalk σ} {g : ValueWalk σ} (hf : LooksAt f g)
    (hmin : (min : Int) < signedBound) (hmax : (max : Int) < signedBound) :
    (∀ elems, SameElements c d node key countKey elemsKey stem elems →
      min ≤ elems.length ∧ elems.length ≤ max → (∀ v ∈ elems, v.isObject = true) →
      ∀ s, ∃ visited r, Run g s elems visited r
        ∧ Gives (fun _ => c.mapList key min max) f s visited r
        ∧ Gives (fun _ => d.mapNumbered countKey elemsKey stem min max) f s visited r
        ∧ ∀ a t, r = .ok a t →
          visited = elems ∧ ∃ results, a = .list results ∧ results.length = elems.length)
    ∧ (∀ before v after,
      SameElements c d node key countKey elemsKey stem (before ++ v :: after) →
      min ≤ (before ++ v :: after).length ∧ (before ++ v :: after).length ≤ max →
      (∀ u ∈ before, u.isObject = true) → v.isObject = false →
      RejectsFirst (fun _ => c.mapList key min max)
          ⟨(c.keyPath key).index before.length, .notAnObject⟩
        ∧ ∀ s, ∃ visited r, Run g s before visited r
          ∧ Gives (fun _ => d.mapNumbered countKey elemsKey stem min max) f s visited
            (thenFail (.inl .notAnObject) r))
    ∧ (∀ elems, c.value.field? key = some (.list elems) →
      elems.length < min ∨ max < elems.length →
      RejectsFirst (fun _ => c.mapList key min max)
        ⟨c.keyPath key, .countOutOfRange elems.length min max⟩)
    ∧ ∀ n, d.int countKey = .ok n → n < min ∨ max < n →
      RejectsFirst (fun _ => d.mapNumbered countKey elemsKey stem min max)
        ⟨d.keyPath countKey, .countOutOfRange n min max⟩ := by
  refine ⟨?objects, ?mixed, ?length, ?count⟩
  case objects =>
    intro elems h hcount hobjects s
    obtain ⟨visited, r, hrun⟩ := exists_run g s elems
    refine ⟨visited, r, hrun, ?_, ?_, ?_⟩
    · apply hrun.gives hf (Cursor.map_value_elementsOf c key elems)
      exact fun _ f => mapList_eq_walkElements h.list hcount hobjects f
    · apply hrun.gives hf (map_value_fieldsFrom 0 elems)
      exact fun _ f => mapNumbered_eq_walkElements h hmax hcount hobjects f
    · rintro a t rfl
      cases hrun with
      | finished hall => exact ⟨rfl, _, rfl, hall.length_eq⟩
  case mixed =>
    intro before v after h hcount hobjects hv
    constructor
    · -- The list is checked as a whole, and `v` is the first bad element.
      apply mapList_rejectsFirst
      refine Cursor.objects_eq_error_iff.2 (.element h.list hcount (by simp) hv ?_)
      intro j hj u hu
      rw [List.getElem?_append_left hj] at hu
      exact hobjects u (List.mem_of_getElem? hu)
    · -- The fields before `v` are walked first, and only if this succeeds `v` is looked at.
      intro s
      obtain ⟨visited, r, hrun⟩ := exists_run g s before
      refine ⟨visited, r, hrun, ?_⟩
      exact hrun.gives_thenFail hf (map_value_fieldsFrom 0 before)
        fun _ f => mapNumbered_eq_throw h hmax hcount hobjects hv f
  case length =>
    intro elems h hcount
    exact mapList_rejectsFirst (Cursor.objects_eq_error_iff.2 (.count h hcount))
  case count =>
    intro n h hn
    exact mapNumbered_rejectsFirst hmin hmax h hn

end Numbered

/-- Three parts as numbered fields. -/
def Sample.numberedParts (a b c : Value) : Value :=
  .object [("Part0", a), ("Part1", b), ("Part2", c)]

/-- Three parts in a list. -/
def Sample.listed (a b c : Value) : Cursor := .root (.object [("Parts", .list [a, b, c])])

/-- Three parts as numbered fields, with a count. -/
def Sample.counted (a b c : Value) : Cursor :=
  .root (.object [("PartCount", .int 3), ("Parts", Sample.numberedParts a b c)])

/-- The object whose fields are the three parts. -/
def Sample.partsNode (a b c : Value) : Cursor :=
  ⟨Sample.numberedParts a b c, (Sample.counted a b c).keyPath "Parts"⟩

/-- A part of some width. -/
def Sample.part (width : Int) : Value := .object [("Width", .int width)]

/-- The sum of the widths of the parts, each of which has one. -/
def Sample.addWidth : ValueWalk Int := fun v _ sum =>
  match v.field? "Width" with
  | some (.int width) => .ok (.text "Part") (sum + width)
  | _ => .error (.inl .missingField) sum

theorem Sample.sameParts (a b c : Value) :
    SameElements (listed a b c) (counted a b c) (partsNode a b c) "Parts" "PartCount" "Parts"
      "Part" [a, b, c] where
  list := rfl
  count := rfl
  enter := rfl
  fields := by
    have hzero : "Part" ++ Numeral.ofNat (0 + 0) = "Part0" := by decide +kernel
    have hone : "Part" ++ Numeral.ofNat (0 + 1) = "Part1" := by decide +kernel
    have htwo : "Part" ++ Numeral.ofNat (0 + 2) = "Part2" := by decide +kernel
    intro j v hv
    match j, hv with
    | 0, rfl => rw [hzero]; rfl
    | 1, rfl => rw [hone]; rfl
    | 2, rfl => rw [htwo]; rfl

/-- A part without a width ends both walks; a part which is no object is told apart. -/
theorem parts_agree :
    (∃ visited r, Run Sample.addWidth 0 [Sample.part 4, .object [], Sample.part 1] visited r
      ∧ Gives (fun _ => (Sample.listed (Sample.part 4) (.object []) (Sample.part 1)).mapList
          "Parts" 1 3) Sample.addWidth.placed 0 visited r
      ∧ Gives (fun _ => (Sample.counted (Sample.part 4) (.object []) (Sample.part 1)).mapNumbered
          "PartCount" "Parts" "Part" 1 3) Sample.addWidth.placed 0 visited r)
    ∧ RejectsFirst (fun _ => (Sample.listed (Sample.part 4) .null (Sample.part 1)).mapList
        "Parts" 1 3) ⟨⟨[.key "Parts", .index 1]⟩, .notAnObject⟩
    ∧ (∃ visited r, Run Sample.addWidth 0 [Sample.part 4] visited r
      ∧ Gives (fun _ => (Sample.counted (Sample.part 4) .null (Sample.part 1)).mapNumbered
          "PartCount" "Parts" "Part" 1 3) Sample.addWidth.placed 0 visited
          (thenFail (.inl .notAnObject) r))
    ∧ RejectsFirst (fun _ => (Sample.listed .null .null .null).mapList "Parts" 1 2)
        ⟨⟨[.key "Parts"]⟩, .countOutOfRange 3 1 2⟩
    ∧ RejectsFirst (fun _ => (Sample.counted .null .null .null).mapNumbered
        "PartCount" "Parts" "Part" 1 2) ⟨⟨[.key "PartCount"]⟩, .countOutOfRange 3 1 2⟩ := by
  have hagree := fun a b c max (hmax : ((max : Nat) : Int) < signedBound) =>
    @mapList_mapNumbered_agree Int (Sample.listed a b c) (Sample.counted a b c)
      (Sample.partsNode a b c) "Parts" "PartCount" "Parts" "Part" 1 max _ _
      (looksAt_placed Sample.addWidth) (by decide) hmax
  obtain ⟨hobjects, -, -, -⟩ :=
    hagree (Sample.part 4) (.object []) (Sample.part 1) 3 (by decide)
  obtain ⟨-, hmixed, -, -⟩ := hagree (Sample.part 4) .null (Sample.part 1) 3 (by decide)
  obtain ⟨-, -, hlength, hcount⟩ := hagree .null .null .null 2 (by decide)
  obtain ⟨visited, r, hrun, hlist, hnumbered, -⟩ :=
    hobjects _ (Sample.sameParts _ _ _) (by decide) (by simp [Sample.part, Value.isObject]) 0
  obtain ⟨hrejected, hlate⟩ :=
    hmixed [Sample.part 4] .null [Sample.part 1] (Sample.sameParts _ _ _) (by decide)
      (by simp [Sample.part, Value.isObject]) rfl
  refine ⟨⟨visited, r, hrun, hlist, hnumbered⟩, hrejected, hlate 0, ?_, ?_⟩
  · exact hlength _ rfl (by decide)
  · exact hcount 3 rfl (by decide)

end PrinterFirmware.Document
