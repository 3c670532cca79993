/-
  PrinterFirmware.Proofs.FinishedClock
  ────────────────────────────────────
  **THE CLOCK WHEN ALL CLAIMS HAVE BEEN MADE.**

  What a clock contributes when it is closed depends on its section and on the set of the
  timers which have been claimed:

      finishedItems    the bindings of interrupts, and the expression of the clock
      TimersOf         the timers of the finished clock, each once and the primary one first
      UnconfiguredOf   those which are used with default settings, in ascending order
      clock_finished   the finished clock
-/
import PrinterFirmware.Proofs.ClockClaims
import PrinterFirmware.Proofs.Containment

namespace PrinterFirmware

open Document Naming Build Board

variable {c : Cursor} {key : String}

/-! ## §1. Closing. -/

/-- Only the clock has something to contribute. -/
theorem closeFacilities_clock {w : Workspace} {k : Clock} (hw : w.clocks = [k]) :
    closeFacilities w.facilities = emitAll k.closingItems := by
  have hitems : ∀ fs : List Facility, fs.flatMap Facility.closingItems
      = (fs.filterMap Facility.clock?).flatMap Clock.closingItems := by
    intro fs
    induction fs with
    | nil => rfl
    | cons g rest ih =>
        rw [List.flatMap_cons, ih]
        cases g with
        | clock k => rfl
        | pinNames ns => rfl
        | analogPins ps => rfl
  have hclocks : w.facilities.filterMap Facility.clock? = [k] := hw
  rw [closeFacilities_eq, hitems, hclocks, List.flatMap_singleton]

/-- Items which neither declare symbols nor fill slots are always accepted. -/
theorem emitAll_plain {items : List Item} (h : ∀ i ∈ items, i.symbol? = none ∧ i.filledSlot? = none)
    (w : Workspace) :
    emitAll items w = .ok () { w with draft := ⟨w.draft.items ++ items⟩ } := by
  induction items generalizing w with
  | nil =>
      rw [List.append_nil]
      rfl
  | cons item rest ih =>
      obtain ⟨hsymbol, hslot⟩ := h item List.mem_cons_self
      have hitem := emit_ok (Draft.add_of_plain (d := w.draft) hsymbol hslot)
      have hrest := ih (fun i hi => h i (List.mem_cons_of_mem item hi))
        { w with draft := ⟨w.draft.items ++ [item]⟩ }
      rw [emitAll]
      simp only [bind, EStateM.bind, hitem, hrest, List.append_assoc, List.singleton_append]

/-- The code which a finished clock binds interrupts with. -/
def finishedBindings (f : ClockFamily) (primary : Char) (unconfigured : List Char) : List String :=
  match f with
  | .at91Sam3x => unconfigured.map fun t =>
      "AMBRO_AT91SAM3X_CLOCK_TC" ++ String.singleton t ++ "_GLOBAL(MyClock, MyContext())"
  | .mk20 => unconfigured.map fun t =>
      "AMBRO_MK20_CLOCK_FTM_GLOBAL(" ++ String.singleton t ++ ", MyClock, MyContext())"
  | .avr => ["AMBRO_AVR_CLOCK_ISRS(" ++ String.singleton primary ++ ", MyClock, MyContext())"]

/-- What a finished clock contributes: its bindings and its expression. -/
def finishedItems (f : ClockFamily) (prescaler : String) (primary : Char)
    (timers : List (Char × TypeExpr)) (unconfigured : List Char) : List Item :=
  (finishedBindings f primary unconfigured).map .interrupt
    ++ [.fill "CLOCK" (.expr (.inst f.driver [.text "MyContext", .text "Program", .text prescaler,
        .list (timers.map (·.2))]) (.indented 0))]

/-- The timers of a clock, those of the primary one first. -/
def Clock.orderedTimers (k : Clock) : List (Char × TypeExpr) :=
  k.timers.filter (·.1 == k.primary) ++ k.timers.filter (·.1 != k.primary)

/-- The bindings of a finished clock, which differ from family to family. -/
theorem bindings_eq (f : ClockFamily) (primary : Char) (ts : List Char) :
    ts.filterMap f.defaultTimerBinding? ++ (f.clockBinding? primary).toList
      = finishedBindings f primary ts := by
  cases f with
  | at91Sam3x =>
      show ts.filterMap (fun t => some _) ++ [] = _
      rw [List.append_nil]
      exact congrFun (List.filterMap_eq_map (f := _)) ts
  | mk20 =>
      show ts.filterMap (fun t => some _) ++ [] = _
      rw [List.append_nil]
      exact congrFun (List.filterMap_eq_map (f := _)) ts
  | avr =>
      show ts.filterMap (fun _ => none) ++ [_] = [_]
      rw [List.filterMap_eq_nil_iff.2 fun _ _ => rfl]
      rfl

theorem Clock.closingItems_eq (k : Clock) : k.closingItems
    = finishedItems k.family k.prescaler k.primary k.orderedTimers k.unconfigured := by
  unfold closingItems finishedItems
  rw [← List.map_append, bindings_eq]
  rfl

/-- A finished clock is accepted by every program whose slot for it is free. -/
theorem emitAll_finishedItems {w : Workspace} (hw : "CLOCK" ∉ w.draft.filledSlots)
    (f : ClockFamily) (prescaler : String) (primary : Char) (timers : List (Char × TypeExpr))
    (unconfigured : List Char) :
    emitAll (finishedItems f prescaler primary timers unconfigured) w = .ok ()
      { w with draft := ⟨w.draft.items
        ++ finishedItems f prescaler primary timers unconfigured⟩ } := by
  obtain ⟨bindings, hbindings⟩ : ∃ items, items
      = (finishedBindings f primary unconfigured).map Item.interrupt := ⟨_, rfl⟩
  -- The bindings fill no slot, so that of the clock is still free after them.
  have hplain : ∀ i ∈ bindings, i.symbol? = none ∧ i.filledSlot? = none := by
    intro i hi
    rw [hbindings] at hi
    obtain ⟨text, -, rfl⟩ := List.mem_map.1 hi
    exact ⟨rfl, rfl⟩
  have hfree : "CLOCK" ∉ Draft.filledSlots ⟨w.draft.items ++ bindings⟩ := by
    unfold Draft.filledSlots
    rw [List.filterMap_append, List.filterMap_eq_nil_iff.2 fun i hi => (hplain i hi).2,
      List.append_nil]
    exact hw
  have hlast : ∀ content : SlotContent, emitAll [.fill "CLOCK" content]
        { w with draft := ⟨w.draft.items ++ bindings⟩ }
      = .ok () { w with draft := ⟨w.draft.items ++ bindings ++ [.fill "CLOCK" content]⟩ } := by
    intro content
    have hadd : Draft.add ⟨w.draft.items ++ bindings⟩ (.fill "CLOCK" content)
        = .ok ⟨w.draft.items ++ bindings ++ [.fill "CLOCK" content]⟩ := Draft.add_of_fill hfree
    have hfill := emit_ok (w := { w with draft := ⟨w.draft.items ++ bindings⟩ }) hadd
    simp only [emitAll, bind, EStateM.bind, hfill]
    rfl
  unfold finishedItems
  rw [← hbindings, emitAll_append, ← List.append_assoc]
  simp only [bind, EStateM.bind, emitAll_plain hplain]
  exact hlast _

/-! ## §2. The timers of a finished clock. -/

/-- The timers of a finished clock with their settings: each of the primary timer, the claimed
and the configured timers once, the primary one first and the others ascending. -/
structure TimersOf (f : ClockFamily) (primary : Char) (entries : List (Char × TypeExpr))
    (claimed : List Char) (timers : List (Char × TypeExpr)) : Prop where
  once : (timers.map (·.1)).Nodup
  members : ∀ t, t ∈ timers.map (·.1) ↔ t = primary ∨ t ∈ claimed ∨ t ∈ entries.map (·.1)
  order : ∃ settings rest, timers = (primary, settings) :: rest
    ∧ (rest.map (·.1)).Pairwise (· < ·)
  configured : ∀ e ∈ entries, e ∈ timers
  others : ∀ e ∈ timers, e.1 ∉ entries.map (·.1) → e.2 = f.defaultTimer e.1

/-- The timers which are used with default settings, in ascending order. -/
structure UnconfiguredOf (primary : Char) (entries : List (Char × TypeExpr)) (claimed : List Char)
    (ts : List Char) : Prop where
  ascending : ts.Pairwise (· < ·)
  members : ∀ t, t ∈ ts ↔ (t = primary ∨ t ∈ claimed) ∧ t ∉ entries.map (·.1)

section Finished

variable {k : Clock} {entries : List (Char × TypeExpr)}

theorem Clock.unconfiguredOf (hk : k.configured.Perm entries) :
    UnconfiguredOf k.primary entries (k.claims.map (·.timer)) k.unconfigured := by
  refine ⟨(Ascending.pairwise_setOf _).filter _, ?_⟩
  intro t
  unfold unconfigured wanted
  rw [List.mem_filter, Ascending.mem_setOf, List.mem_cons, Option.isNone_iff_eq_none,
    Ascending.lookup_eq_none_iff, (hk.map (·.1)).mem_iff]

/-- The unconfigured timers with their settings. -/
def Clock.defaults (k : Clock) : List (Char × TypeExpr) :=
  k.unconfigured.map fun t => (t, k.family.defaultTimer t)

theorem Clock.map_fst_defaults (k : Clock) : k.defaults.map (·.1) = k.unconfigured := by
  unfold defaults
  rw [List.map_map]
  exact List.map_id _

theorem Clock.timers_eq (k : Clock) :
    k.timers = k.defaults.foldl (fun m e => Ascending.put e.1 e.2 m) k.configured := by
  unfold defaults
  rw [List.foldl_map]
  rfl

/-- The timers of a clock are the unconfigured ones and the configured ones. -/
theorem Clock.timers_perm (hk : k.configured.Perm entries) (hdistinct : (entries.map (·.1)).Nodup) :
    k.timers.Perm (k.defaults ++ entries) ∧ (k.timers.map (·.1)).Nodup := by
  have hun := unconfiguredOf hk
  have hall : ((k.defaults ++ k.configured).map (·.1)).Nodup := by
    rw [List.map_append, map_fst_defaults, List.nodup_append]
    refine ⟨hun.ascending.imp fun h => Char.ne_of_lt h, (hk.map (·.1)).nodup_iff.2 hdistinct, ?_⟩
    rintro t ht t' ht' rfl
    exact ((hun.members t).1 ht).2 ((hk.map (·.1)).mem_iff.1 ht')
  have hperm := Ascending.foldl_put_perm hall
  rw [← timers_eq] at hperm
  exact ⟨hperm.trans (hk.append_left _), (hperm.map (·.1)).nodup_iff.2 hall⟩

theorem Clock.configured_perm (hk : k.configured = Ascending.mapOf entries)
    (hdistinct : (entries.map (·.1)).Nodup) : k.configured.Perm entries := by
  rw [hk]
  exact Ascending.mapOf_perm hdistinct

/-- **The timers of a clock.** -/
theorem Clock.timersOf (hk : k.configured = Ascending.mapOf entries)
    (hdistinct : (entries.map (·.1)).Nodup) :
    TimersOf k.family k.primary entries (k.claims.map (·.timer)) k.orderedTimers := by
  have hconfigured := configured_perm hk hdistinct
  obtain ⟨hperm, hnodup⟩ := timers_perm hconfigured hdistinct
  have hun := unconfiguredOf hconfigured
  have hordered : k.orderedTimers.Perm k.timers := List.filter_append_perm _ _
  have hmem : ∀ e, e ∈ k.orderedTimers ↔ e ∈ k.defaults ∨ e ∈ entries := by
    intro e
    rw [(hordered.trans hperm).mem_iff, List.mem_append]
  have hmembers : ∀ t, t ∈ k.orderedTimers.map (·.1)
      ↔ t = k.primary ∨ t ∈ k.claims.map (·.timer) ∨ t ∈ entries.map (·.1) := by
    intro t
    have hkeys := (hordered.trans hperm).map Prod.fst
    rw [hkeys.mem_iff, List.map_append, List.mem_append, map_fst_defaults, hun.members]
    tauto
  have hsorted : (k.timers.map (·.1)).Pairwise (· < ·) := by
    rw [timers_eq, hk]
    exact Ascending.pairwise_foldl_put (Ascending.pairwise_foldl_put .nil)
  refine ⟨(hordered.map (·.1)).nodup_iff.2 hnodup, hmembers, ?_, fun e he => (hmem e).2 (Or.inr he),
    ?_⟩
  -- The primary timer is there, and it is there once, so it is what the first filter leaves.
  · obtain ⟨e, he, hprimary⟩ := List.mem_map.1 ((hmembers k.primary).2 (Or.inl rfl))
    have hfirst : k.timers.filter (·.1 == k.primary) = [e] := by
      rw [← hprimary]
      exact Ascending.filter_key hnodup (hordered.mem_iff.1 he)
    refine ⟨e.2, k.timers.filter (·.1 != k.primary), ?_,
      hsorted.sublist (List.filter_sublist.map _)⟩
    unfold orderedTimers
    rw [hfirst, ← hprimary]
    rfl
  · intro e he hnew
    rcases (hmem e).1 he with he | he
    · obtain ⟨t, -, rfl⟩ := List.mem_map.1 he
      rfl
    · exact absurd (List.mem_map_of_mem he) hnew

/-- Claims of the same timers, in whatever order and how often, close a clock alike. -/
theorem Clock.closingItems_congr (k : Clock) {us us' : List CompareUnit}
    (h : ∀ t, t ∈ us.map (·.timer) ↔ t ∈ us'.map (·.timer)) :
    closingItems { k with claims := us } = closingItems { k with claims := us' } := by
  -- The claims count through the set of the wanted timers alone.
  have hwanted : wanted { k with claims := us } = wanted { k with claims := us' } := by
    apply Ascending.setOf_congr
    intro t
    rw [List.mem_cons, List.mem_cons, h t]
  simp only [closingItems, expr, timerList, timers, unconfigured, hwanted]

end Finished

/-! ## §3. From the section to the finished clock. -/

/-- Interrupt timers can be claimed at the sections which name a unit, and a claim which is
refused changes nothing. -/
structure Workspace.TakesClaims (f : ClockFamily) (w : Workspace) : Prop where
  granted : ∀ c user clearance,
    (∃ r w', claimTimer c user clearance w = .ok r w') ↔ (f.unitNamed? c).isSome
  refused : ∀ c user clearance e w', claimTimer c user clearance w = .error e w' → w' = w

/-- Closing the facilities contributes the items `items`, which the program accepts if the slot
of the clock is free. -/
structure Workspace.ClosesWith (w : Workspace) (items : List Item) : Prop where
  contributes : closeFacilities w.facilities = emitAll items
  accepted : "CLOCK" ∉ w.draft.filledSlots →
    closeFacilities w.facilities w = .ok () { w with draft := ⟨w.draft.items ++ items⟩ }

/-- **A finished clock.**  Whatever claims are made, and whenever: the clock is closed with the
timers of its section and of the successful claims, and all that counts of the claims is
the set of their timers. -/
theorem clock_finished {w₀ w w' : Workspace} {claims : List Cursor}
    (hsetUp : setUpClock c key w₀ = .ok () w) (hcalls : TimerHistory w claims w') :
    ∃ f node prescaler primary entries timers unconfigured,
      c.Chosen key (ClockFamily.driver f) node ∧ ClockSection f node prescaler primary entries
        ∧ TimersOf f primary entries (f.timersNamed claims) timers
        ∧ UnconfiguredOf primary entries (f.timersNamed claims) unconfigured
        ∧ w'.ClosesWith (finishedItems f prescaler primary timers unconfigured)
        ∧ (∀ claims' w'', TimerHistory w claims' w'' →
            (∀ t, t ∈ f.timersNamed claims' ↔ t ∈ f.timersNamed claims) →
            w''.ClosesWith (finishedItems f prescaler primary timers unconfigured))
        ∧ w'.TakesClaims f ∧ ∀ c ∈ claims, (f.unitNamed? c).isSome := by
  obtain ⟨node, entries, k, hchosen, hk, hclocks⟩ := clocks_of_setUp hsetUp
  have hdistinct := hk.accepted.distinct
  have hafter : ∀ {claims w'}, TimerHistory w claims w' →
      w'.clocks = [{ k with claims := claims.filterMap k.family.unitNamed? }]
        ∧ ∀ c ∈ claims, (k.family.unitNamed? c).isSome := by
    intro claims w' hcalls
    have hboth := hcalls.clocks hclocks
    rw [hk.claims, List.nil_append] at hboth
    exact hboth
  obtain ⟨hclocks', hnamed⟩ := hafter hcalls
  -- The clock after the claims; of it only the claims differ from the clock before.
  obtain ⟨k', hk'⟩ : ∃ k', k' = { k with claims := claims.filterMap k.family.unitNamed? } :=
    ⟨_, rfl⟩
  have hconfigured : k'.configured = Ascending.mapOf entries := by
    rw [hk', hk.configured]
  have htimers := Clock.timersOf hconfigured hdistinct
  have hun := Clock.unconfiguredOf (Clock.configured_perm hconfigured hdistinct)
  have hcloses : ∀ claims' w'', TimerHistory w claims' w'' →
      (∀ t, t ∈ k.family.timersNamed claims' ↔ t ∈ k.family.timersNamed claims) →
      w''.ClosesWith (finishedItems k.family k.prescaler k.primary k'.orderedTimers
        k'.unconfigured) := by
    intro claims' w'' hcalls' hsame
    have hitems : closeFacilities w''.facilities = emitAll (finishedItems k.family k.prescaler
        k.primary k'.orderedTimers k'.unconfigured) := by
      rw [closeFacilities_clock (hafter hcalls').1, k.closingItems_congr hsame, ← hk',
        Clock.closingItems_eq, hk']
    refine ⟨hitems, ?_⟩
    intro hfree
    rw [hitems]
    exact emitAll_finishedItems hfree _ _ _ _ _
  refine ⟨k.family, node, k.prescaler, k.primary, entries, k'.orderedTimers, k'.unconfigured,
    hchosen, hk.accepted, ?_, ?_, hcloses claims w' hcalls fun _ => Iff.rfl, hcloses, ?_, hnamed⟩
  · rw [hk'] at htimers ⊢
    exact htimers
  · rw [hk'] at hun ⊢
    exact hun
  · have hgranted := granted_iff hclocks'
    exact ⟨hgranted, fun _ _ _ _ _ => eq_of_refused hclocks'⟩

namespace Sample

/-- An AVR clock with the configured timer `TC2` and the primary timer `TC1`. -/
def clockValue : Value :=
  tagged "AvrClock" [("PrescaleDivide", .int 64), ("primary_timer", .string "TC1"),
    ("timers", .list [.object [("Timer", .string "TC2"),
      ("Mode", tagged "AvrClockTcModeClock" [])]])]

/-- A document which holds the clock. -/
def clockDocument : Cursor := .root (.object [("clock", clockValue)])

/-- The section of a timer which names an output compare unit. -/
def timerSection (name : String) : Cursor := .root (unit name)

/-- The section of the clock, at its place. -/
def clockAt : Cursor := ⟨clockValue, clockDocument.keyPath "clock"⟩

theorem clock_section {prescaler : String} {primary : Char} {entries : List (Char × TypeExpr)}
    (h : ClockSection .avr clockAt prescaler primary entries) :
    prescaler = "64" ∧ primary = '1' ∧ entries.map (·.1) = ['2'] := by
  have hprescaler : clockAt.intConstant "PrescaleDivide" = .ok "64" := by decide +kernel
  have hprimary : Clock.readTimer .avr clockAt "primary_timer" = .ok '1' := by decide +kernel
  obtain ⟨nodes, hnodes, hentries⟩ := h.configured
  obtain ⟨node, hlist, htimer⟩ : ∃ node, configuredSections .avr clockAt = .ok [node]
      ∧ Clock.readTimer .avr node "Timer" = .ok '2' := ⟨_, rfl, rfl⟩
  cases hlist.symm.trans hnodes
  cases hentries with
  | cons hentry hrest =>
      cases hrest
      refine ⟨?_, ?_, ?_⟩
      · injection hprescaler.symm.trans h.prescaler with heq
        exact heq.symm
      · injection hprimary.symm.trans h.primary with heq
        exact heq.symm
      · injection htimer.symm.trans hentry.timer with heq
        rw [List.map_cons, ← heq]
        rfl

end Sample

/-- A timer is claimed while the document is being read; later a claim of no unit is refused, and
units of the first timer and of the primary one are claimed.  Of the timers `TC0`, `TC1` and
`TC2` the last one was configured. -/
theorem sample_clock_finished : ∃ w w' timers unconfigured,
    setUpClock Sample.clockDocument "clock" .empty = .ok () w
      ∧ TimerHistory w [Sample.timerSection "TC0_A", Sample.timerSection "TC0_B",
          Sample.timerSection "TC1_A"] w'
      ∧ w'.ClosesWith (finishedItems .avr "64" '1' timers unconfigured)
      ∧ (∀ t, t ∈ timers.map (·.1) ↔ t ∈ ['0', '1', '2'])
      ∧ ∀ t, t ∈ unconfigured ↔ t ∈ ['0', '1'] := by
  obtain ⟨w, w₁, w₂, w₃, w₄, hsetUp, hfirst, hsecond, hthird, hfourth⟩ : ∃ w w₁ w₂ w₃ w₄,
      setUpClock Sample.clockDocument "clock" .empty = .ok () w
        ∧ (∃ r, claimTimer (Sample.timerSection "TC0_A") "A" none w = .ok r w₁)
        ∧ (∃ e, claimTimer (Sample.timerSection "TC0") "B" none
            { w₁ with phase := .finishing } = .error e w₂)
        ∧ (∃ r, claimTimer (Sample.timerSection "TC0_B") "C" none w₂ = .ok r w₃)
        ∧ ∃ r, claimTimer (Sample.timerSection "TC1_A") "D" none w₃ = .ok r w₄ :=
    ⟨_, _, _, _, _, rfl, ⟨_, rfl⟩, ⟨_, rfl⟩, ⟨_, rfl⟩, ⟨_, rfl⟩⟩
  obtain ⟨_, hfirst⟩ := hfirst
  obtain ⟨_, hsecond⟩ := hsecond
  obtain ⟨_, hthird⟩ := hthird
  obtain ⟨_, hfourth⟩ := hfourth
  have hcollected := TimerHistory.start.granted hfirst
  have hclocks : Workspace.clocks { w₁ with phase := .finishing } = w₁.clocks := rfl
  have hfinishing := hcollected.other hclocks
  have hcalls := ((hfinishing.refused hsecond).granted hthird).granted hfourth
  obtain ⟨f, node, prescaler, primary, entries, timers, unconfigured, hchosen, hsection, htimers,
    hun, hcloses, -⟩ := clock_finished hsetUp hcalls
  have hnode : Sample.clockDocument.enter "clock" = .ok Sample.clockAt := rfl
  cases hnode.symm.trans hchosen.entered
  have htag : Sample.clockAt.string Cursor.tagKey = .ok (ClockFamily.driver .avr) := rfl
  have hfamily : f = .avr := by
    injection htag.symm.trans hchosen.tagged with heq
    revert heq
    cases f <;> decide
  subst hfamily
  obtain ⟨rfl, rfl, hentries⟩ := Sample.clock_section hsection
  have hnamed : ClockFamily.avr.timersNamed ([] ++ [Sample.timerSection "TC0_A"]
      ++ [Sample.timerSection "TC0_B"] ++ [Sample.timerSection "TC1_A"]) = ['0', '0', '1'] := rfl
  rw [hnamed] at htimers hun
  refine ⟨w, w₄, timers, unconfigured, hsetUp, hcalls, hcloses, ?_, ?_⟩
  · intro t
    rw [htimers.members, hentries]
    simp only [List.mem_cons, List.not_mem_nil, or_false]
    tauto
  · intro t
    rw [hun.members, hentries]
    simp only [List.mem_cons, List.not_mem_nil, or_false]
    constructor
    · tauto
    · rintro (rfl | rfl)
      · decide
      · decide

end PrinterFirmware
