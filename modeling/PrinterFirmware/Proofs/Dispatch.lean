/-
  PrinterFirmware.Proofs.Dispatch
  ───────────────────────────────
  **A CHOICE RUNS THE HANDLER OF THE CLAUSE WHICH LISTS THE TAG.**

  The clauses of a choice can be mixed freely: single tags, several tags with one handler,
  even none, and a fallback anywhere between them.  What the choice does can be told from the
  clauses alone, whatever the indices are by which it finds its handlers:

      listed                    the tags of all clauses, in order
      fallbacks                 the handlers of the clauses without tags of their own
      Clause.Breaks             what is wrong with a clause after those before it
      ofClauses_eq_error_iff    a choice cannot be built at its first wrong clause
      Agrees                    what a built choice has in common with its clauses
      Dispatches                how a built choice runs

  To count calls, the handlers of `Clause.recorded` write down the number of their clause and
  the tag which they are told, each time they run.

  Main result: `Choice.runs_listed_handler`.
-/
import Mathlib.Data.List.Nodup
import PrinterFirmware.Proofs.Walk

namespace PrinterFirmware.Document

variable {σ α : Type}

/-! ## §1. Clauses. -/

namespace Clause

/-- The tags which a clause lists. -/
def tags : Clause σ α → List String
  | .option tag _ => [tag]
  | .options tags _ => tags
  | .otherwise _ => []

/-- The handler of a clause.  That of a single tag is not told the tag. -/
def handler : Clause σ α → Handler σ α
  | .option _ handler => fun _ => handler
  | .options _ handler => handler
  | .otherwise handler => handler

/-- The handler of a clause for all other tags. -/
def fallback? : Clause σ α → Option (Handler σ α)
  | .otherwise handler => some handler
  | _ => none

end Clause

/-- The tags which the clauses list. -/
def listed (clauses : List (Clause σ α)) : List String := clauses.flatMap Clause.tags

/-- The handlers of the clauses for all other tags. -/
def fallbacks (clauses : List (Clause σ α)) : List (Handler σ α) :=
  clauses.filterMap Clause.fallback?

/-- No tag is listed twice, and there is one fallback at most. -/
structure Sound (clauses : List (Clause σ α)) : Prop where
  tags : (listed clauses).Nodup
  fallbacks : (fallbacks clauses).length ≤ 1

/-- What is wrong with a clause which comes after those `before`. -/
inductive Clause.Breaks (before : List (Clause σ α)) : Clause σ α → Breach → Prop where
  /-- The first tag which stands before it, in this clause or in another. -/
  | tag {k : Clause σ α} {first rest : List String} {t : String} (hk : k.tags = first ++ t :: rest)
      (hfirst : (listed before ++ first).Nodup) (ht : t ∈ listed before ++ first) :
      Breaks before k (.tagTwice t)
  | fallback {handler : Handler σ α} (h : fallbacks before ≠ []) :
      Breaks before (.otherwise handler) .fallbackTwice

section Lists

variable {before after clauses clauses' : List (Clause σ α)} {k : Clause σ α}

theorem listed_append : listed (before ++ after) = listed before ++ listed after :=
  List.flatMap_append

theorem listed_singleton : listed [k] = k.tags := List.flatMap_singleton _ _

theorem fallbacks_append : fallbacks (before ++ after) = fallbacks before ++ fallbacks after :=
  List.filterMap_append

theorem fallbacks_singleton : fallbacks [k] = k.fallback?.toList := by
  cases k <;> rfl

theorem listed_perm (h : clauses.Perm clauses') : (listed clauses).Perm (listed clauses') :=
  h.flatMap_right _

theorem fallbacks_perm (h : clauses.Perm clauses') :
    (fallbacks clauses).Perm (fallbacks clauses') := h.filterMap _

theorem Sound.perm (h : Sound clauses) (hperm : clauses.Perm clauses') : Sound clauses' :=
  ⟨(listed_perm hperm).nodup_iff.1 h.tags, (fallbacks_perm hperm).length_eq ▸ h.fallbacks⟩

theorem Sound.of_append (h : Sound (before ++ after)) : Sound before := by
  obtain ⟨htags, hfallbacks⟩ := h
  rw [listed_append] at htags
  rw [fallbacks_append, List.length_append] at hfallbacks
  exact ⟨htags.of_append_left, by omega⟩

/-- Clauses one of which is wrong make no choice. -/
theorem Clause.Breaks.not_sound {b : Breach} (h : k.Breaks before b) : ¬ Sound (before ++ [k]) := by
  rintro ⟨htags, hfallbacks⟩
  cases h with
  | @tag _ first rest t hk hfirst ht =>
      rw [listed_append, listed_singleton, hk, ← List.append_assoc] at htags
      exact List.disjoint_of_nodup_append htags ht (.head _)
  | @fallback handler h =>
      rw [fallbacks_append, List.length_append] at hfallbacks
      have hsome := List.length_pos_iff.2 h
      have hself : (fallbacks [Clause.otherwise handler]).length = 1 := rfl
      omega

end Lists

namespace Choice

variable {c c' : Choice σ α} {clauses clauses' before after : List (Clause σ α)} {k : Clause σ α}
  {b : Breach}

/-! ## §2. Building. -/

/-- The first tag which stands in `seen` or before itself, with the tags before it. -/
theorem repeated?_eq_some_iff {seen tags : List String} {t : String} (hseen : seen.Nodup) :
    repeated? seen tags = some t
      ↔ ∃ first rest, tags = first ++ t :: rest ∧ (seen ++ first).Nodup ∧ t ∈ seen ++ first := by
  -- The tags which have been seen are general, because each new tag joins them.
  induction tags generalizing seen with
  | nil =>
      constructor
      · intro h
        cases h
      · rintro ⟨first, rest, h, -⟩
        exact absurd h.symm (by simp)
  | cons u tags ih =>
      rw [repeated?]
      split
      · next hu =>
          constructor
          · rintro h
            cases h
            refine ⟨[], tags, rfl, ?_, ?_⟩
            · rwa [List.append_nil]
            · rwa [List.append_nil]
          · rintro ⟨first, rest, h, hnodup, -⟩
            cases first with
            | nil =>
                obtain ⟨rfl, -⟩ := List.cons.inj h
                rfl
            | cons v first =>
                obtain ⟨rfl, -⟩ := List.cons.inj h
                exact absurd (.head _) (List.disjoint_of_nodup_append hnodup hu)
      · next hu =>
          rw [ih (List.nodup_cons.2 ⟨hu, hseen⟩)]
          constructor
          · rintro ⟨first, rest, rfl, hnodup, ht⟩
            exact ⟨u :: first, rest, rfl, List.perm_middle.nodup_iff.2 hnodup,
              List.perm_middle.mem_iff.2 ht⟩
          · rintro ⟨first, rest, h, hnodup, ht⟩
            cases first with
            | nil =>
                obtain ⟨rfl, -⟩ := List.cons.inj h
                rw [List.append_nil] at ht
                exact absurd ht hu
            | cons v first =>
                obtain ⟨rfl, rfl⟩ := List.cons.inj h
                exact ⟨first, rest, rfl, List.perm_middle.nodup_iff.1 hnodup,
                  List.perm_middle.mem_iff.1 ht⟩

/-- A choice which has been built from the clauses. -/
structure Agrees (clauses : List (Clause σ α)) (c : Choice σ α) : Prop where
  tags : c.tags = listed clauses
  fallback : fallbacks clauses = c.fallback.toList
  handlers : ∀ k ∈ clauses, ∀ tag ∈ k.tags, c.handler? tag = some k.handler

theorem agrees_empty : Agrees [] (empty : Choice σ α) := ⟨rfl, rfl, fun _ hk => nomatch hk⟩

theorem Agrees.sound (h : Agrees clauses c) : Sound clauses := by
  constructor
  · rw [← h.tags]
    exact c.unrepeated
  · rw [h.fallback]
    cases c.fallback <;> simp

theorem tags_withArm {tags : List String} {handler : Handler σ α}
    (hnew : repeated? c.tags tags = none) :
    (c.withArm tags handler hnew).tags = c.tags ++ tags := by
  rw [Choice.tags, withArm, List.map_append, map_fst_entries]
  rfl

/-- A clause is a fallback, or it adds an arm. -/
theorem add_cases (k : Clause σ α) :
    (∃ handler, k = .otherwise handler)
      ∨ k.fallback? = none ∧ ∀ c : Choice σ α, c.add k = c.addArm k.tags k.handler := by
  cases k with
  | option tag handler => exact .inr ⟨rfl, fun _ => rfl⟩
  | options tags handler => exact .inr ⟨rfl, fun _ => rfl⟩
  | otherwise handler => exact .inl ⟨handler, rfl⟩

/-- One more clause of a choice. -/
theorem Agrees.add (h : Agrees clauses c) (hadd : c.add k = .ok c') :
    Agrees (clauses ++ [k]) c' := by
  have htags : listed (clauses ++ [k]) = c.tags ++ k.tags := by
    rw [listed_append, listed_singleton, h.tags]
  have hfallbacks : fallbacks (clauses ++ [k]) = c.fallback.toList ++ k.fallback?.toList := by
    rw [fallbacks_append, fallbacks_singleton, h.fallback]
  -- A tag of an earlier clause has been listed.
  have hlisted : ∀ k' ∈ clauses, ∀ tag ∈ k'.tags, tag ∈ c.tags := by
    intro k' hk' tag ht
    rw [h.tags]
    exact List.mem_flatMap.2 ⟨k', hk', ht⟩
  obtain ⟨handler, rfl⟩ | ⟨hnone, harm⟩ := add_cases k
  · simp only [Choice.add] at hadd
    split at hadd
    · cases hadd
    · next hfree =>
        injection hadd with hadd
        subst hadd
        have hempty : c.fallback = none := by
          cases hc : c.fallback with
          | none => rfl
          | some _ => simp [hc] at hfree
        refine ⟨?_, ?_, ?_⟩
        · rw [htags]
          exact (List.append_nil _).symm
        · rw [hfallbacks, hempty]
          rfl
        · intro k' hk' tag ht
          rcases List.mem_append.1 hk' with hold | hnew
          · rw [handler?_withFallback (hlisted k' hold tag ht)]
            exact h.handlers k' hold tag ht
          · obtain rfl := List.mem_singleton.1 hnew
            cases ht
  · rw [harm] at hadd
    obtain ⟨hnew, rfl⟩ := addArm_eq_ok hadd
    refine ⟨?_, ?_, ?_⟩
    · rw [tags_withArm, htags]
    · rw [hfallbacks, hnone]
      exact List.append_nil _
    · intro k' hk' tag ht
      rcases List.mem_append.1 hk' with hold | hself
      · have hother : tag ∉ k.tags := fun hmem =>
          (nodup_of_repeated? hnew).2 tag hmem (hlisted k' hold tag ht)
        rw [handler?_withArm_other hnew hother]
        exact h.handlers k' hold tag ht
      · obtain rfl := List.mem_singleton.1 hself
        exact handler?_withArm_self hnew ht

/-- A clause cannot be added if it is wrong after those before it. -/
theorem Agrees.add_eq_error_iff (h : Agrees clauses c) :
    c.add k = .error b ↔ k.Breaks clauses b := by
  -- A fallback is refused after another one, and an arm for its first repeated tag.
  obtain ⟨handler, rfl⟩ | ⟨hnone, harm⟩ := add_cases k
  · simp only [Choice.add]
    constructor
    · intro hadd
      split at hadd
      · next hsome =>
          injection hadd with hadd
          subst hadd
          refine .fallback ?_
          rw [h.fallback]
          cases hc : c.fallback with
          | none => simp [hc] at hsome
          | some _ => exact List.cons_ne_nil _ _
      · cases hadd
    · intro hbreaks
      cases hbreaks with
      | tag hk => exact absurd hk (by simp [Clause.tags])
      | fallback hfallbacks =>
          rw [h.fallback] at hfallbacks
          cases hc : c.fallback with
          | none => simp [hc] at hfallbacks
          | some _ => rfl
  · rw [harm]
    unfold addArm
    have hseen : c.tags.Nodup := c.unrepeated
    constructor
    · intro hadd
      split at hadd
      · next t hrepeated =>
          injection hadd with hadd
          subst hadd
          obtain ⟨first, rest, hk, hfirst, ht⟩ := (repeated?_eq_some_iff hseen).1 hrepeated
          rw [h.tags] at hfirst ht
          exact .tag hk hfirst ht
      · cases hadd
    · intro hbreaks
      cases hbreaks with
      | fallback => cases hnone
      | @tag _ first rest t hk hfirst ht =>
          rw [← h.tags] at hfirst ht
          have hrepeated := (repeated?_eq_some_iff hseen).2 ⟨first, rest, hk, hfirst, ht⟩
          split
          · next u hu =>
              cases hrepeated.symm.trans hu
              rfl
          · next hu => cases hrepeated.symm.trans hu

/-- Further clauses of a choice. -/
theorem Agrees.foldlM (h : Agrees before c) (hadd : after.foldlM Choice.add c = .ok c') :
    Agrees (before ++ after) c' := by
  -- What has been added so far agrees with the choice; one more clause keeps this.
  induction after generalizing before c with
  | nil =>
      injection hadd with hadd
      subst hadd
      rwa [List.append_nil]
  | cons k after ih =>
      rw [List.foldlM_cons] at hadd
      cases hk : c.add k with
      | error b =>
          rw [hk] at hadd
          cases hadd
      | ok c₁ =>
          rw [hk] at hadd
          have hall := ih (h.add hk) hadd
          rwa [List.append_assoc] at hall

/-- Further clauses cannot be added if one of them is wrong. -/
theorem Agrees.foldlM_eq_error_iff (h : Agrees before c) :
    after.foldlM Choice.add c = .error b ↔ ∃ first k rest, after = first ++ k :: rest
      ∧ Sound (before ++ first) ∧ k.Breaks (before ++ first) b := by
  induction after generalizing before c with
  | nil =>
      constructor
      · intro hadd
        cases hadd
      · rintro ⟨first, k, rest, hafter, -⟩
        exact absurd hafter.symm (by simp)
  | cons k after ih =>
      rw [List.foldlM_cons]
      cases hk : c.add k with
      | error b' =>
          -- The first clause is wrong already, so no later one is reported.
          have hbreaks := h.add_eq_error_iff.1 hk
          constructor
          · intro hadd
            cases hadd
            refine ⟨[], k, after, rfl, ?_, ?_⟩
            · rw [List.append_nil]
              exact h.sound
            · rwa [List.append_nil]
          · rintro ⟨first, k', rest, hafter, hsound, hk'⟩
            cases first with
            | nil =>
                obtain ⟨rfl, rfl⟩ := List.cons.inj hafter
                rw [List.append_nil] at hk'
                exact hk.symm.trans (h.add_eq_error_iff.2 hk')
            | cons k'' first =>
                obtain ⟨rfl, rfl⟩ := List.cons.inj hafter
                have hfirst : Sound (before ++ [k] ++ first) := by
                  rwa [List.append_assoc]
                exact absurd hfirst.of_append hbreaks.not_sound
      | ok c₁ =>
          -- The first clause is not wrong, so the wrong one is among those behind it.
          have hstep := h.add hk
          show after.foldlM Choice.add c₁ = .error b ↔ _
          rw [ih hstep]
          constructor
          · rintro ⟨first, k', rest, rfl, hsound, hk'⟩
            rw [List.append_assoc] at hsound hk'
            exact ⟨k :: first, k', rest, rfl, hsound, hk'⟩
          · rintro ⟨first, k', rest, hafter, hsound, hk'⟩
            cases first with
            | nil =>
                obtain ⟨rfl, rfl⟩ := List.cons.inj hafter
                rw [List.append_nil] at hk'
                cases hk.symm.trans (h.add_eq_error_iff.2 hk')
            | cons k'' first =>
                obtain ⟨rfl, rfl⟩ := List.cons.inj hafter
                refine ⟨first, k', rest, rfl, ?_, ?_⟩
                · rwa [List.append_assoc]
                · rwa [List.append_assoc]

/-- The first clause which is wrong is reported. -/
theorem ofClauses_eq_error_iff : ofClauses clauses = .error b ↔ ∃ before k after,
    clauses = before ++ k :: after ∧ Sound before ∧ k.Breaks before b :=
  agrees_empty.foldlM_eq_error_iff

theorem agrees_ofClauses (h : ofClauses clauses = .ok c) : Agrees clauses c :=
  agrees_empty.foldlM h

/-- Clauses make a choice if and only if they are sound. -/
theorem exists_ofClauses_iff : (∃ c, ofClauses clauses = .ok c) ↔ Sound clauses := by
  constructor
  · rintro ⟨c, hc⟩
    exact (agrees_ofClauses hc).sound
  · intro hsound
    cases hc : ofClauses clauses with
    | ok c => exact ⟨c, rfl⟩
    | error b =>
        obtain ⟨before, k, after, rfl, -, hbreaks⟩ := ofClauses_eq_error_iff.1 hc
        rw [← List.singleton_append, ← List.append_assoc] at hsound
        exact absurd hsound.of_append hbreaks.not_sound

/-! ## §3. Running. -/

theorem run_of_some {tag : String} {handler : Handler σ α} (h : c.handler? tag = some handler)
    (node : Cursor) : c.run tag node = (handler tag node).adaptExcept .handler := by
  unfold run
  rw [h]

theorem run_of_none {tag : String} (h : c.handler? tag = none) (node : Cursor) (s : σ) :
    c.run tag node s = .error (.unknownVariant tag) s := by
  unfold run
  rw [h]
  rfl

/-- How a choice runs: the handler of the clause which lists the tag, or else the fallback,
or none at all. -/
structure Dispatches (clauses : List (Clause σ α)) (c : Choice σ α) : Prop where
  tags : c.tags = listed clauses
  known : ∀ k ∈ clauses, ∀ tag ∈ k.tags, ∀ node,
    c.run tag node = (k.handler tag node).adaptExcept .handler
  fallback : ∀ handler, .otherwise handler ∈ clauses → ∀ tag ∉ listed clauses, ∀ node,
    c.run tag node = (handler tag node).adaptExcept .handler
  unknown : fallbacks clauses = [] → ∀ tag ∉ listed clauses, ∀ node s,
    c.run tag node s = .error (.unknownVariant tag) s

theorem Agrees.handler?_of_unlisted (h : Agrees clauses c) {tag : String}
    (ht : tag ∉ listed clauses) : c.handler? tag = c.fallback := by
  rw [← h.tags] at ht
  exact handler?_of_not_mem ht

theorem Agrees.dispatches (h : Agrees clauses c) : Dispatches clauses c := by
  refine ⟨h.tags, ?_, ?_, ?_⟩
  · intro k hk tag ht
    exact run_of_some (h.handlers k hk tag ht)
  · intro handler hk tag ht
    refine run_of_some ?_
    have hmem : handler ∈ fallbacks clauses := List.mem_filterMap.2 ⟨_, hk, rfl⟩
    rw [h.fallback, Option.mem_toList] at hmem
    rw [h.handler?_of_unlisted ht]
    exact hmem
  · intro hnone tag ht
    refine run_of_none ?_
    rw [h.fallback, Option.toList_eq_nil_iff] at hnone
    rw [h.handler?_of_unlisted ht, hnone]

/-- The order of the clauses does not matter. -/
theorem Agrees.handler?_perm (h : Agrees clauses c) (h' : Agrees clauses' c')
    (hperm : clauses.Perm clauses') (tag : String) : c'.handler? tag = c.handler? tag := by
  by_cases ht : tag ∈ listed clauses
  · obtain ⟨k, hk, htag⟩ := List.mem_flatMap.1 ht
    rw [h.handlers k hk tag htag, h'.handlers k (hperm.mem_iff.1 hk) tag htag]
  · have ht' : tag ∉ listed clauses' := fun hmem => ht ((listed_perm hperm).mem_iff.2 hmem)
    rw [h.handler?_of_unlisted ht, h'.handler?_of_unlisted ht']
    have hfallbacks := fallbacks_perm hperm
    rw [h.fallback, h'.fallback] at hfallbacks
    -- There is one fallback at most, so nothing can change its place.
    cases hc : c.fallback with
    | none =>
        rw [hc] at hfallbacks
        exact Option.toList_eq_nil_iff.1 hfallbacks.nil_eq.symm
    | some handler =>
        rw [hc] at hfallbacks
        have hmem : handler ∈ c'.fallback.toList := hfallbacks.mem_iff.1 (.head _)
        exact Option.mem_toList.1 hmem

end Choice

/-! ## §4. Calls. -/

/-- Calls of handlers: the number of the clause, and the tag which its handler is told. -/
abbrev Calls := List (Nat × String)

/-- An end with the calls up to it. -/
def withCalls {ε : Type} (calls : Calls) : EStateM.Result ε σ α → EStateM.Result ε (σ × Calls) α
  | .ok a s => .ok a (s, calls)
  | .error e s => .error e (s, calls)

/-- A walk which writes down that it has been called. -/
def recorded (call : Nat × String) (m : Walk σ α) : Walk (σ × Calls) α :=
  fun s => withCalls (s.2 ++ [call]) (m s.1)

/-- The clause with number `i`, whose handler writes down its calls. -/
def Clause.recorded (i : Nat) : Clause σ α → Clause (σ × Calls) α
  | .option tag handler => .option tag fun node => Document.recorded (i, tag) (handler node)
  | .options tags handler => .options tags fun tag node =>
      Document.recorded (i, tag) (handler tag node)
  | .otherwise handler => .otherwise fun tag node => Document.recorded (i, tag) (handler tag node)

/-- The number of the clause which lists the tag, or else of the fallback. -/
def called? (clauses : List (Clause σ α)) (tag : String) : Option Nat :=
  (clauses.findIdx? (tag ∈ ·.tags)).or (clauses.findIdx? (·.fallback?.isSome))

section Recorded

variable {clauses : List (Clause σ α)} {c : Choice σ α} {r : Choice (σ × Calls) α}

theorem Clause.tags_recorded (i : Nat) (k : Clause σ α) : (k.recorded i).tags = k.tags := by
  cases k <;> rfl

theorem Clause.handler_recorded {k : Clause σ α} {tag : String} (h : tag ∈ k.tags) (i : Nat)
    (node : Cursor) :
    (k.recorded i).handler tag node = Document.recorded (i, tag) (k.handler tag node) := by
  cases k with
  | option tag' handler =>
      obtain rfl := List.mem_singleton.1 h
      rfl
  | options tags handler => rfl
  | otherwise handler => rfl

theorem Clause.length_fallback_recorded (i : Nat) (k : Clause σ α) :
    (k.recorded i).fallback?.toList.length = k.fallback?.toList.length := by
  cases k <;> rfl

theorem listed_mapIdx {τ β : Type} {f : Nat → Clause σ α → Clause τ β}
    (h : ∀ i k, (f i k).tags = k.tags) : listed (clauses.mapIdx f) = listed clauses := by
  induction clauses generalizing f with
  | nil => rfl
  | cons k rest ih =>
      rw [List.mapIdx_cons, listed, List.flatMap_cons, h, ← listed, ih fun i => h (i + 1)]
      rfl

theorem length_fallbacks_mapIdx {τ β : Type} {f : Nat → Clause σ α → Clause τ β}
    (h : ∀ i k, (f i k).fallback?.toList.length = k.fallback?.toList.length) :
    (fallbacks (clauses.mapIdx f)).length = (fallbacks clauses).length := by
  induction clauses generalizing f with
  | nil => rfl
  | cons k rest ih =>
      rw [List.mapIdx_cons, ← List.singleton_append, ← List.singleton_append (l := rest),
        fallbacks_append, fallbacks_append, List.length_append, List.length_append,
        fallbacks_singleton, fallbacks_singleton, h, ih fun i => h (i + 1)]

theorem Sound.recorded (h : Sound clauses) : Sound (clauses.mapIdx Clause.recorded) := by
  constructor
  · rw [listed_mapIdx Clause.tags_recorded]
    exact h.tags
  · rw [length_fallbacks_mapIdx Clause.length_fallback_recorded]
    exact h.fallbacks

theorem adaptExcept_recorded {ε : Type} (f : Failure → ε) (call : Nat × String) (m : Walk σ α)
    (s : σ) (calls : Calls) :
    (recorded call m).adaptExcept f (s, calls)
      = withCalls (calls ++ [call]) (m.adaptExcept f s) := by
  unfold EStateM.adaptExcept recorded
  cases m s <;> rfl

/-- A choice calls the handler of one clause, once, or none at all. -/
theorem Choice.Agrees.run_recorded (h : Agrees clauses c)
    (hr : Agrees (clauses.mapIdx Clause.recorded) r) (tag : String) (node : Cursor) (s : σ) :
    r.run tag node (s, [])
      = withCalls ((called? clauses tag).toList.map (·, tag)) (c.run tag node s) := by
  unfold called?
  cases hi : clauses.findIdx? (tag ∈ ·.tags) with
  -- The clause with number `i` lists the tag, and it is the only one which does.
  | some i =>
      obtain ⟨hlt, htag, -⟩ := List.findIdx?_eq_some_iff_getElem.1 hi
      have htag : tag ∈ clauses[i].tags := of_decide_eq_true htag
      have hrecorded : (clauses[i]).recorded i ∈ clauses.mapIdx Clause.recorded :=
        List.mem_mapIdx.2 ⟨i, hlt, rfl⟩
      have htag' : tag ∈ ((clauses[i]).recorded i).tags := by
        rwa [Clause.tags_recorded]
      rw [run_of_some (h.handlers _ (List.getElem_mem hlt) tag htag),
        run_of_some (hr.handlers _ hrecorded tag htag'), Clause.handler_recorded htag]
      exact adaptExcept_recorded _ _ _ s []
  | none =>
      have hunlisted : tag ∉ listed clauses := by
        intro hmem
        obtain ⟨k, hk, htag⟩ := List.mem_flatMap.1 hmem
        exact of_decide_eq_false (List.findIdx?_eq_none_iff.1 hi k hk) htag
      have hunlisted' : tag ∉ listed (clauses.mapIdx Clause.recorded) := by
        rwa [listed_mapIdx Clause.tags_recorded]
      cases hj : clauses.findIdx? (·.fallback?.isSome) with
      -- The clause with number `j` is the fallback.
      | some j =>
          obtain ⟨hlt, hfallback, -⟩ := List.findIdx?_eq_some_iff_getElem.1 hj
          have hmem : clauses[j] ∈ clauses := List.getElem_mem hlt
          have hrecorded : (clauses[j]).recorded j ∈ clauses.mapIdx Clause.recorded :=
            List.mem_mapIdx.2 ⟨j, hlt, rfl⟩
          cases hk : clauses[j] with
          | option => simp [hk, Clause.fallback?] at hfallback
          | options => simp [hk, Clause.fallback?] at hfallback
          | otherwise handler =>
              rw [hk] at hmem hrecorded
              rw [h.dispatches.fallback handler hmem tag hunlisted,
                hr.dispatches.fallback _ hrecorded tag hunlisted']
              exact adaptExcept_recorded _ _ _ s []
      | none =>
          have hnone : fallbacks clauses = [] := by
            refine List.filterMap_eq_nil_iff.2 fun k hk => ?_
            exact Option.not_isSome_iff_eq_none.1
              (Bool.eq_false_iff.1 (List.findIdx?_eq_none_iff.1 hj k hk))
          have hnone' : fallbacks (clauses.mapIdx Clause.recorded) = [] := by
            rw [← List.length_eq_zero_iff,
              length_fallbacks_mapIdx Clause.length_fallback_recorded, hnone]
            rfl
          rw [h.dispatches.unknown hnone tag hunlisted, hr.dispatches.unknown hnone' tag hunlisted']
          rfl

end Recorded

/-! ## §5. The law of choices. -/

namespace Choice

/-- **A choice runs exactly the handler of the clause which lists the tag.**  Clauses cannot be
built into a choice if and only if one of them lists a tag which stands before it, in another
clause or in the same one, or is a second fallback; the first such clause is reported.
Otherwise the choice lists the tags in the order of the clauses and runs, once, the handler
of the clause which lists the tag, or else the fallback, telling it the tag; it gives the
result of this handler, or its failure.  If there is neither it fails and leaves the context as
it is.  In any other order the same clauses make a choice which runs the same. -/
theorem runs_listed_handler (clauses : List (Clause σ α)) :
    ((∃ b, ofClauses clauses = .error b)
        ↔ ¬ (listed clauses).Nodup ∨ 1 < (fallbacks clauses).length)
      ∧ (∀ b, ofClauses clauses = .error b ↔ ∃ before k after,
          clauses = before ++ k :: after ∧ Sound before ∧ k.Breaks before b)
      ∧ ∀ c, ofClauses clauses = .ok c →
        Dispatches clauses c
          ∧ (∃ r, ofClauses (clauses.mapIdx Clause.recorded) = .ok r ∧ ∀ tag node s,
            r.run tag node (s, [])
              = withCalls ((called? clauses tag).toList.map (·, tag)) (c.run tag node s))
          ∧ ∀ clauses', clauses.Perm clauses' → ∃ c', ofClauses clauses' = .ok c'
            ∧ c'.tags = listed clauses' ∧ ∀ tag node, c'.run tag node = c.run tag node := by
  refine ⟨?_, fun b => ofClauses_eq_error_iff, ?_⟩
  · have hbuilt : (∃ b, ofClauses clauses = .error b) ↔ ¬ ∃ c, ofClauses clauses = .ok c := by
      cases ofClauses clauses <;> simp
    rw [hbuilt, exists_ofClauses_iff]
    constructor
    · intro h
      by_contra hor
      rw [not_or, not_not, Nat.not_lt] at hor
      exact h ⟨hor.1, hor.2⟩
    · rintro (h | h) hsound
      · exact h hsound.tags
      · exact absurd hsound.fallbacks (Nat.not_le.2 h)
  · intro c hc
    have hagrees := agrees_ofClauses hc
    have hsound := hagrees.sound
    refine ⟨hagrees.dispatches, ?_, ?_⟩
    · obtain ⟨r, hr⟩ := exists_ofClauses_iff.2 hsound.recorded
      exact ⟨r, hr, hagrees.run_recorded (agrees_ofClauses hr)⟩
    · intro clauses' hperm
      obtain ⟨c', hc'⟩ := exists_ofClauses_iff.2 (hsound.perm hperm)
      have hagrees' := agrees_ofClauses hc'
      refine ⟨c', hc', hagrees'.tags, ?_⟩
      intro tag node
      unfold run
      rw [hagrees.handler?_perm hagrees' hperm tag]

/-- Clauses of all forms, one of which lists no tag. -/
def mixed : List (Clause Nat String) :=
  [.option "X" fun _ => do
      modify (· + 1)
      pure "one",
    .options [] fun _ _ => pure "none",
    .otherwise fun tag _ => pure ("other " ++ tag),
    .options ["A", "B"] fun tag _ => pure ("both " ++ tag)]

/-- The handlers of the clauses of all forms are found in spite of the clause without tags,
and with the fallback moved to the end. -/
theorem mixed_runs_listed_handler : ∃ c, ofClauses mixed = .ok c ∧ c.tags = ["X", "A", "B"]
    ∧ (∀ node s, c.run "X" node s = .ok "one" (s + 1))
    ∧ (∀ node s, c.run "B" node s = .ok "both B" s)
    ∧ (∀ node s, c.run "Q" node s = .ok "other Q" s)
    ∧ ∃ c', ofClauses (mixed.eraseIdx 2 ++ [mixed[2]]) = .ok c'
      ∧ ∀ tag node, c'.run tag node = c.run tag node := by
  obtain ⟨herror, -, hok⟩ := runs_listed_handler mixed
  cases hc : ofClauses mixed with
  | error b =>
      have hwrong := herror.1 ⟨b, hc⟩
      exact absurd hwrong (by decide)
  | ok c =>
      obtain ⟨hdispatches, -, hperm⟩ := hok c hc
      obtain ⟨c', hc', -, hrun⟩ := hperm (mixed.eraseIdx 2 ++ [mixed[2]])
        (.cons _ (.cons _ (.swap _ _ _)))
      refine ⟨c, rfl, hdispatches.tags, ?_, ?_, ?_, c', hc', hrun⟩
      · intro node s
        rw [hdispatches.known _ (.head _) "X" (.head _)]
        rfl
      · intro node s
        rw [hdispatches.known _ (.tail _ (.tail _ (.tail _ (.head _)))) "B" (.tail _ (.head _))]
        rfl
      · intro node s
        rw [hdispatches.fallback _ (.tail _ (.tail _ (.head _))) "Q" (by decide)]
        rfl

/-- One tag in two clauses. -/
example : ofClauses (mixed ++ [.options ["Y", "X"] fun _ _ => pure "two"])
    = .error (.tagTwice "X") := rfl

end Choice

end PrinterFirmware.Document
