/-
  PrinterFirmware.Proofs.ClockClaims
  ──────────────────────────────────
  **A CLOCK AND THE CLAIMS OF ITS TIMERS.**

  A clock is set up from its section, and then interrupt timers are claimed, while the
  document is being read or by deferred work, some of them in vain.

      ClockSection      what a section says: the prescaler, the primary timer and the
                        configured timers
      clocks_of_setUp   the clock which is set up from a section is the only one
      TimerHistory      calls which claim timers, among anything else a build may do

  One claim appends one unit to the claims of the clock, or changes nothing; so a history
  appends the units of its successful claims.
-/
import PrinterFirmware.Proofs.Ascending
import PrinterFirmware.Proofs.Timers

namespace PrinterFirmware

open Document Naming Build Board

variable {σ : Type} {s : σ} {c : Cursor} {key : String} {f : ClockFamily}

/-! ## §1. The section of a clock. -/

/-- The timer which a section configures, and its settings. -/
structure TimerEntry (f : ClockFamily) (node : Cursor) (entry : Char × TypeExpr) : Prop where
  timer : Clock.readTimer f node "Timer" = .ok entry.1
  settings : SettingsGive entry.1 node entry.2

/-- The sections of configured timers; only AVR clocks have them. -/
def configuredSections (f : ClockFamily) (node : Cursor) : Reading (List Cursor) :=
  match f with
  | .avr => node.objects "timers" 0 20
  | .at91Sam3x | .mk20 => .ok []

/-- A section of a clock which is accepted: its prescaler, its primary timer, and the
configured timers with their settings, in order and none of them twice. -/
structure ClockSection (f : ClockFamily) (node : Cursor) (prescaler : String) (primary : Char)
    (entries : List (Char × TypeExpr)) : Prop where
  prescaler : node.intConstant f.prescalerKey = .ok prescaler
  primary : Clock.readTimer f node "primary_timer" = .ok primary
  configured : ∃ nodes, configuredSections f node = .ok nodes
    ∧ List.Forall₂ (TimerEntry f) nodes entries
  distinct : (entries.map (·.1)).Nodup

/-- Reading the settings of a timer changes nothing. -/
theorem ends_readSettings (timer : Char) (c : Cursor) :
    Ends (Clock.readSettings timer c) s (fun e s' => SettingsGive timer c e ∧ s' = s)
      fun _ => True := by
  unfold Clock.readSettings
  apply Ends.bind (Q := fun mode s' => ModeGives c mode ∧ s' = s)
  · refine ends_choose ⟨_, rfl⟩ (fun _ _ => trivial) (fun _ _ _ _ => trivial)
      (fun _ _ _ _ => trivial) (.option ?_ (.option ?_ (.option ?_ .nil)))
    · intro mode hnode htag
      exact ends_pure ⟨.clock ⟨hnode, htag⟩, rfl⟩
    · intro mode hnode htag
      apply ends_read_bind fun _ _ => trivial
      intro divide hdivide
      exact ends_pure ⟨.pwm8 ⟨hnode, htag⟩ hdivide, rfl⟩
    · intro mode hnode htag
      apply ends_read_bind fun _ _ => trivial
      intro divide hdivide
      apply ends_read_bind fun _ _ => trivial
      intro top htop
      exact ends_pure ⟨.pwm16 ⟨hnode, htag⟩ hdivide htop, rfl⟩
  · intro mode s' hgives
    obtain ⟨hmode, rfl⟩ := hgives
    exact ends_pure ⟨.mk hmode, rfl⟩

theorem ends_readConfigured (f : ClockFamily) (nodes : List Cursor)
    (timers : List (Char × TypeExpr)) :
    Ends (Clock.readConfigured f timers nodes) s
      (fun ts s' => Configured f timers nodes ts ∧ s' = s) fun _ => True := by
  induction nodes generalizing timers with
  | nil => exact ends_pure ⟨.nil, rfl⟩
  | cons node rest ih =>
      unfold Clock.readConfigured
      apply ends_read_bind fun _ _ => trivial
      intro timer htimer
      split
      · exact ends_error rfl trivial
      · next hnew =>
          apply (ends_readSettings timer node).bind
          intro settings s' hgives
          obtain ⟨hsettings, rfl⟩ := hgives
          apply (ih (Ascending.put timer settings timers)).mono
          intro ts s' hgives
          obtain ⟨hrest, rfl⟩ := hgives
          exact ⟨.cons htimer (Option.not_isSome_iff_eq_none.1 hnew) hsettings hrest, rfl⟩

/-- Configured timers are put into a map one after another, under different keys. -/
theorem Configured.entries {before after : List (Char × TypeExpr)} {nodes : List Cursor}
    (h : Configured f before nodes after) (hbefore : (before.map (·.1)).Nodup) :
    ∃ entries, List.Forall₂ (TimerEntry f) nodes entries
      ∧ after = entries.foldl (fun m e => Ascending.put e.1 e.2 m) before
      ∧ ((entries ++ before).map (·.1)).Nodup := by
  induction h with
  | nil => exact ⟨[], .nil, rfl, hbefore⟩
  | @cons timers after node rest timer settings htimer hnew hsettings _ ih =>
      rw [Ascending.lookup_eq_none_iff] at hnew
      have hput := Ascending.put_perm (v := settings) hnew
      have hnodup : (((timer, settings) :: timers).map (·.1)).Nodup := by
        rw [List.map_cons, List.nodup_cons]
        exact ⟨hnew, hbefore⟩
      obtain ⟨entries, hentries, rfl, hall⟩ := ih ((hput.map (·.1)).nodup_iff.2 hnodup)
      refine ⟨(timer, settings) :: entries, .cons ⟨htimer, hsettings⟩ hentries, rfl, ?_⟩
      exact ((Ascending.append_put_perm hnew entries).map (·.1)).nodup_iff.1 hall

/-- A clock as it has been read from its section, before any claim. -/
structure Clock.ReadFrom (k : Clock) (node : Cursor) (entries : List (Char × TypeExpr)) : Prop where
  accepted : ClockSection k.family node k.prescaler k.primary entries
  configured : k.configured = Ascending.mapOf entries
  claims : k.claims = []

/-- A clock is read from its section without a change. -/
theorem ends_readClock (f : ClockFamily) (node : Cursor) :
    Ends (Clock.read f node) s
      (fun k s' => (∃ entries, k.ReadFrom node entries) ∧ k.family = f ∧ s' = s) fun _ => True := by
  unfold Clock.read
  apply ends_read_bind fun _ _ => trivial
  intro prescaler hprescaler
  have hprimary : ∀ nodes timers, configuredSections f node = .ok nodes →
      Configured f [] nodes timers →
      Ends (do
        let primary ← (Clock.readTimer f node "primary_timer" : Reading Char)
        return Clock.mk f prescaler primary timers [] : Walk σ Clock) s
        (fun k s' => (∃ entries, k.ReadFrom node entries) ∧ k.family = f ∧ s' = s)
        fun _ => True := by
    intro nodes timers hnodes htimers
    obtain ⟨entries, hentries, rfl, hdistinct⟩ := htimers.entries List.nodup_nil
    rw [List.append_nil] at hdistinct
    apply ends_read_bind fun _ _ => trivial
    intro primary hprimary
    have haccepted : ClockSection f node prescaler primary entries :=
      ⟨hprescaler, hprimary, ⟨nodes, hnodes, hentries⟩, hdistinct⟩
    exact ends_pure ⟨⟨entries, haccepted, rfl, rfl⟩, rfl, rfl⟩
  -- Only the AVR family has a list of timers to read.
  cases f with
  | at91Sam3x => exact hprimary [] [] rfl .nil
  | mk20 => exact hprimary [] [] rfl .nil
  | avr =>
      apply ends_read_bind fun _ _ => trivial
      intro nodes hnodes
      apply (ends_readConfigured .avr nodes []).bind
      intro timers s' hgives
      obtain ⟨htimers, rfl⟩ := hgives
      exact hprimary nodes timers hnodes htimers

/-! ## §2. Setting up. -/

/-- The facility, if it is a clock. -/
def Facility.clock? : Facility → Option Clock
  | .clock k => some k
  | _ => none

/-- The clocks of a workspace; there is at most one. -/
def Workspace.clocks (w : Workspace) : List Clock := w.facilities.filterMap Facility.clock?

theorem Workspace.clocks_eq_nil {w : Workspace} (h : w.facility? .clock = none) :
    w.clocks = [] := by
  refine List.filterMap_eq_nil_iff.2 ?_
  intro g hg
  have hkind := List.find?_eq_none.1 h g hg
  cases g with
  | clock k => exact absurd rfl hkind
  | pinNames ns => rfl
  | analogPins ps => rfl

theorem ends_registerFacility (g : Facility) (w : Workspace) :
    Ends (registerFacility g) w (fun _ w' => w.facility? g.kind = none
      ∧ w' = { w with facilities := w.facilities ++ [g] }) fun _ => True := by
  obtain ⟨phase, hphase⟩ : ∃ phase, w.phase = phase := ⟨_, rfl⟩
  cases phase with
  | finishing => exact ends_error (registerFacility_finishing hphase g) trivial
  | collecting =>
      cases hnew : w.facility? g.kind with
      | some _ => exact ends_error (registerFacility_twice hphase (hnew ▸ rfl)) trivial
      | none => exact ends_ok (registerFacility_collecting hphase hnew) ⟨rfl, rfl⟩

/-- Setting up a clock reads its section and registers it as the only clock. -/
theorem clocks_of_setUp {w w' : Workspace} (h : setUpClock c key w = .ok () w') :
    ∃ node entries k, c.Chosen key (ClockFamily.driver k.family) node ∧ k.ReadFrom node entries
      ∧ w'.clocks = [k] := by
  have hends : Ends (setUpClock c key) w (fun _ w' => ∃ node entries k,
      c.Chosen key (ClockFamily.driver k.family) node ∧ k.ReadFrom node entries
        ∧ w'.clocks = [k]) fun _ => True := by
    unfold setUpClock
    apply Ends.bind (Q := fun k w' => w' = w ∧ ∃ node entries,
      c.Chosen key (ClockFamily.driver k.family) node ∧ k.ReadFrom node entries)
    · have hread : ∀ f node, c.enter key = .ok node →
          node.string Cursor.tagKey = .ok (ClockFamily.driver f) →
          Ends (Clock.read f node) w (fun k w' => w' = w ∧ ∃ node entries,
            c.Chosen key (ClockFamily.driver k.family) node ∧ k.ReadFrom node entries)
            fun _ => True := by
        intro f node hnode htag
        apply (ends_readClock f node).mono
        intro k w' hgives
        obtain ⟨⟨entries, hk⟩, rfl, rfl⟩ := hgives
        exact ⟨rfl, node, entries, ⟨hnode, htag⟩, hk⟩
      refine ends_choose ⟨_, rfl⟩ (fun _ _ => trivial) (fun _ _ _ _ => trivial)
        (fun _ _ _ _ => trivial) (.option ?_ (.option ?_ (.option ?_ .nil)))
      · exact hread .at91Sam3x
      · exact hread .mk20
      · exact hread .avr
    · intro k w' hgives
      obtain ⟨rfl, node, entries, hchosen, hk⟩ := hgives
      have hadd : w'.draft.add (.frameworkInclude k.family.header)
          = .ok ⟨w'.draft.items ++ [.frameworkInclude k.family.header]⟩ :=
        Draft.add_of_plain rfl rfl
      apply Ends.bind (Q := fun _ w₁ => w₁.facilities = w'.facilities) (ends_ok (emit_ok hadd) rfl)
      intro _ w₁ hfacilities
      apply (ends_registerFacility (.clock k) w₁).mono
      intro _ w₂ hgives
      obtain ⟨hnew, rfl⟩ := hgives
      -- A clock is registered only where there is none, so it is the only one afterwards.
      have hclocks : w₁.facilities.filterMap Facility.clock? = [] := Workspace.clocks_eq_nil hnew
      refine ⟨node, entries, k, hchosen, hk, ?_⟩
      show (w₁.facilities ++ [Facility.clock k]).filterMap Facility.clock? = [k]
      rw [List.filterMap_append, hclocks]
      rfl
  exact hends.result () w' h

/-! ## §3. Claims. -/

/-- The output compare unit which a timer section names. -/
def ClockFamily.unitNamed? (f : ClockFamily) (c : Cursor) : Option CompareUnit :=
  (c.string "oc_unit").toOption.bind f.names.unit?

/-- The timers of the output compare units which sections name. -/
def ClockFamily.timersNamed (f : ClockFamily) (sections : List Cursor) : List Char :=
  (sections.filterMap f.unitNamed?).map (·.timer)

/-- What happens to a workspace: interrupt timers are claimed from time to time, with
success at the sections `claims`.  Anything else leaves the clock alone. -/
inductive TimerHistory (w : Workspace) : (claims : List Cursor) → Workspace → Prop where
  | start : TimerHistory w [] w
  | granted {claims : List Cursor} {w₁ w₂ : Workspace} {c : Cursor} {user : String}
      {clearance : Option String} {r : TypeExpr × String} (h : TimerHistory w claims w₁)
      (hclaim : claimTimer c user clearance w₁ = .ok r w₂) : TimerHistory w (claims ++ [c]) w₂
  | refused {claims : List Cursor} {w₁ w₂ : Workspace} {c : Cursor} {user : String}
      {clearance : Option String} {e : Failure} (h : TimerHistory w claims w₁)
      (hclaim : claimTimer c user clearance w₁ = .error e w₂) : TimerHistory w claims w₂
  | other {claims : List Cursor} {w₁ w₂ : Workspace} (h : TimerHistory w claims w₁)
      (hclocks : w₂.clocks = w₁.clocks) : TimerHistory w claims w₂

namespace Workspace

variable {w w' : Workspace} {k : Clock}

/-- The registered clock is the first clock. -/
theorem facility?_clock (h : w.clocks = [k]) : w.facility? .clock = some (.clock k) := by
  have hfind : ∀ fs : List Facility, fs.filterMap Facility.clock? = [k] →
      fs.find? (·.kind == .clock) = some (.clock k) := by
    intro fs
    induction fs with
    | nil => exact fun h => nomatch h
    | cons g rest ih =>
        intro h
        cases g with
        | clock k' =>
            have hk : k' = k := (List.cons.inj h).1
            rw [hk]
            rfl
        | pinNames ns => exact ih h
        | analogPins ps => exact ih h
  exact hfind w.facilities h

theorem clocks_setFacility (w : Workspace) (k : Clock) :
    (w.setFacility (.clock k)).clocks = w.clocks.map fun _ => k := by
  have hmap : ∀ fs : List Facility,
      (fs.map fun g => if g.kind == (Facility.clock k).kind then .clock k else g).filterMap
          Facility.clock?
        = (fs.filterMap Facility.clock?).map fun _ => k := by
    intro fs
    induction fs with
    | nil => rfl
    | cons g rest ih =>
        cases g with
        | clock k' => exact congrArg (k :: ·) ih
        | pinNames ns => exact ih
        | analogPins ps => exact ih
  exact hmap w.facilities

end Workspace

section Claims

variable {w w' : Workspace} {k : Clock} {user : String} {clearance : Option String}

/-- Reading a unit is successful at the sections which name one. -/
theorem unitNamed?_eq (k : Clock) (c : Cursor) :
    k.family.unitNamed? c = (k.readUnit c "oc_unit").toOption := by
  unfold ClockFamily.unitNamed? Clock.readUnit
  cases c.string "oc_unit" with
  | error e => rfl
  | ok name =>
      show k.family.names.unit? name = _
      dsimp only [bind, Except.bind]
      cases k.family.names.unit? name with
      | none => rfl
      | some u => rfl

/-- A claim reads the name of a unit and appends the unit to the claims of the clock. -/
theorem claimTimer_eq (hw : w.clocks = [k]) : claimTimer c user clearance w
    = match k.readUnit c "oc_unit" with
      | .ok u => .ok (k.family.timerService u clearance, k.family.timerBinding u user)
          (w.setFacility (.clock (k.claim u)))
      | .error e => .error (.document e) w := by
  -- Claiming is admitted in every phase: nothing here asks for it.
  have hclock : Build.clock w = .ok k w := clock_eq (Workspace.facility?_clock hw)
  unfold claimTimer
  simp only [bind, EStateM.bind, hclock]
  cases k.readUnit c "oc_unit" with
  | ok u => rfl
  | error e => rfl

/-- A granted claim names a unit, which is appended to the claims of the clock. -/
theorem clocks_of_granted {r : TypeExpr × String} (hw : w.clocks = [k])
    (h : claimTimer c user clearance w = .ok r w') :
    ∃ u, k.family.unitNamed? c = some u ∧ w'.clocks = [k.claim u] := by
  rw [claimTimer_eq hw] at h
  rw [unitNamed?_eq]
  cases hu : k.readUnit c "oc_unit" with
  | error e =>
      rw [hu] at h
      cases h
  | ok u =>
      rw [hu] at h
      injection h with _ h
      refine ⟨u, rfl, ?_⟩
      rw [← h, Workspace.clocks_setFacility, hw]
      rfl

/-- A claim is granted at the sections which name a unit, and at no others. -/
theorem granted_iff (hw : w.clocks = [k]) (c : Cursor) (user : String) (clearance : Option String) :
    (∃ r w', claimTimer c user clearance w = .ok r w') ↔ (k.family.unitNamed? c).isSome := by
  rw [claimTimer_eq hw, unitNamed?_eq]
  cases k.readUnit c "oc_unit" with
  | ok u => exact ⟨fun _ => rfl, fun _ => ⟨_, _, rfl⟩⟩
  | error e => exact ⟨fun ⟨_, _, h⟩ => (nomatch h), fun h => nomatch h⟩

/-- **A claim which is refused changes nothing.** -/
theorem eq_of_refused {e : Failure} (hw : w.clocks = [k])
    (h : claimTimer c user clearance w = .error e w') : w' = w := by
  rw [claimTimer_eq hw] at h
  cases hu : k.readUnit c "oc_unit" with
  | ok u =>
      rw [hu] at h
      cases h
  | error e =>
      rw [hu] at h
      injection h with _ h
      exact h.symm

/-- The clock after a history has the units of all granted claims. -/
theorem TimerHistory.clocks {claims : List Cursor} (h : TimerHistory w claims w')
    (hw : w.clocks = [k]) :
    w'.clocks = [{ k with claims := k.claims ++ claims.filterMap k.family.unitNamed? }]
      ∧ ∀ c ∈ claims, (k.family.unitNamed? c).isSome := by
  induction h with
  | start =>
      refine ⟨?_, fun c hc => nomatch hc⟩
      rw [hw, List.filterMap_nil, List.append_nil]
  | @granted claims w₁ w₂ c user clearance r _ hclaim ih =>
      obtain ⟨hclocks, hnamed⟩ := ih
      obtain ⟨u, hu, hclocks'⟩ := clocks_of_granted hclocks hclaim
      refine ⟨?_, ?_⟩
      · rw [hclocks', List.filterMap_append]
        have hlast : [c].filterMap k.family.unitNamed? = [u] := by
          rw [List.filterMap_cons, hu]
          rfl
        rw [hlast, ← List.append_assoc]
        rfl
      · intro c' hc'
        rcases List.mem_append.1 hc' with hc' | hc'
        · exact hnamed c' hc'
        · rw [List.mem_singleton.1 hc', hu]
          rfl
  | refused _ hclaim ih =>
      rw [eq_of_refused ih.1 hclaim]
      exact ih
  | other _ hclocks ih =>
      rw [hclocks]
      exact ih

end Claims

end PrinterFirmware
