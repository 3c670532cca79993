/-
  PrinterFirmware.Proofs.Timers
  ─────────────────────────────
  **WHAT CLOCKS AND INTERRUPT TIMERS GIVE.**

  For every walk of the clock a relation says what it reads, what it gives and what
  it gains; the theorem after the relation says that the walk gives nothing else and
  reports only what is true.  The service of an interrupt timer and the code which
  binds its interrupt are stated side by side in `TimerGives`.
-/
import PrinterFirmware.Board.Timer
import PrinterFirmware.Proofs.Registration

namespace PrinterFirmware

open Document Naming Build Board

variable {document : Value} {x : Site document} {c : Cursor}

/-! ## §1. Names of timers. -/

theorem Clock.readTimer_eq_ok {f : ClockFamily} {key : String} {timer : Char} :
    Clock.readTimer f c key = .ok timer
      ↔ ∃ name, c.string key = .ok name ∧ f.names.timer? name = some timer := by
  unfold Clock.readTimer
  rw [reading_bind_eq_ok]
  refine exists_congr fun name => and_congr_right fun _ => ?_
  cases f.names.timer? name with
  | some t =>
      exact ⟨fun h => congrArg some (Except.ok.inj h), fun h => congrArg _ (Option.some.inj h)⟩
  | none => exact ⟨fun h => (nomatch h), fun h => nomatch h⟩

theorem Document.Cursor.At.honest_readTimer (h : c.At document) (f : ClockFamily) (key : String) :
    Honest document (Clock.readTimer f c key) fun _ => True := by
  unfold Clock.readTimer
  apply (h.honest_string key).bind
  intro name hname
  cases ht : f.names.timer? name with
  | some timer => exact honest_ok trivial
  | none => exact honest_error (Or.inl ⟨name, hname⟩)

/-- The name at `key` is that of the output compare unit `u` of the clock. -/
def Site.UnitAt (x : Site document) (c : Cursor) (key : String) (u : CompareUnit) : Prop :=
  ∃ name, c.string key = .ok name ∧ x.clock.family.names.unit? name = some u

theorem Document.Cursor.At.honest_readUnit (h : c.At document) {k : Clock}
    (hk : { k with claims := [] } = x.clock) (key : String) :
    Honest document (k.readUnit c key) fun u => x.UnitAt c key u := by
  have hfamily : k.family = x.clock.family := by
    rw [← hk]
  unfold Clock.readUnit
  apply (h.honest_string key).self.bind
  intro name hgives
  obtain ⟨hname, hread⟩ := hgives
  rw [hfamily]
  cases hu : x.clock.family.names.unit? name with
  | some u => exact honest_ok ⟨name, hread, hu⟩
  | none => exact honest_error (Or.inl ⟨name, hname⟩)

/-! ## §2. The clock. -/

/-- The mode of a configured timer. -/
inductive ModeGives (c : Cursor) : TypeExpr → Prop where
  | clock {mode : Cursor} (hmode : c.Chosen "Mode" "AvrClockTcModeClock" mode) :
      ModeGives c (.text "AvrClockTcModeClock")
  | pwm8 {mode : Cursor} {divide : Int} (hmode : c.Chosen "Mode" "AvrClockTcMode8BitPwm" mode)
      (hdivide : mode.int "PrescaleDivide" = .ok divide) :
      ModeGives c (.inst "AvrClockTcMode8BitPwm" [.int divide])
  | pwm16 {mode : Cursor} {divide top : Int}
      (hmode : c.Chosen "Mode" "AvrClockTcMode16BitPwm" mode)
      (hdivide : mode.int "PrescaleDivide" = .ok divide) (htop : mode.int "TopVal" = .ok top) :
      ModeGives c (.inst "AvrClockTcMode16BitPwm" [.int divide, .int top])

/-- The settings of the configured timer `timer`. -/
inductive SettingsGive (timer : Char) (c : Cursor) : TypeExpr → Prop where
  | mk {mode : TypeExpr} (hmode : ModeGives c mode) :
      SettingsGive timer c
        (.inst "AvrClockTcSpec" [.text ("AvrClockTc" ++ String.singleton timer), mode])

theorem declares_readSettings (timer : Char) (hc : c.In document) :
    Declares x [] (Clock.readSettings timer c) fun e g => SettingsGive timer c e ∧ g = ∅ := by
  unfold Clock.readSettings
  refine Declares.map (P := fun e g => ModeGives c e ∧ g = ∅) (.choose hc ⟨_, rfl⟩ ?_) ?_
  · refine .option ?_ (.option ?_ (.option ?_ .nil))
    · intro mode _ hmode
      exact declares_pure ⟨.clock hmode, rfl⟩
    · intro mode hin hmode
      apply Declares.read (hin.placed.honest_int _)
      intro divide _ hdivide
      exact declares_pure ⟨.pwm8 hmode hdivide, rfl⟩
    · intro mode hin hmode
      apply Declares.read (hin.placed.honest_int _)
      intro divide _ hdivide
      apply Declares.read (hin.placed.honest_int _)
      intro top _ htop
      exact declares_pure ⟨.pwm16 hmode hdivide htop, rfl⟩
  · intro mode g hgives
    obtain ⟨hmode, rfl⟩ := hgives
    exact ⟨.mk hmode, rfl⟩

/-- Reading the configured timers of `nodes` leads from the timers `before` to the
timers `after`; no timer is configured twice. -/
inductive Configured (f : ClockFamily) :
    (before : List (Char × TypeExpr)) → List Cursor → (after : List (Char × TypeExpr)) → Prop where
  | nil {timers : List (Char × TypeExpr)} : Configured f timers [] timers
  | cons {timers after : List (Char × TypeExpr)} {node : Cursor} {rest : List Cursor}
      {timer : Char} {settings : TypeExpr} (htimer : Clock.readTimer f node "Timer" = .ok timer)
      (hnew : timers.lookup timer = none) (hsettings : SettingsGive timer node settings)
      (hrest : Configured f (Ascending.put timer settings timers) rest after) :
      Configured f timers (node :: rest) after

theorem declares_readConfigured (f : ClockFamily) {nodes : List Cursor}
    (hnodes : ∀ n ∈ nodes, n.In document) (timers : List (Char × TypeExpr)) :
    Declares x [] (Clock.readConfigured f timers nodes) fun ts g =>
      Configured f timers nodes ts ∧ g = ∅ := by
  induction nodes generalizing timers with
  | nil => exact declares_pure ⟨.nil, rfl⟩
  | cons node rest ih =>
      have hnode := hnodes node List.mem_cons_self
      unfold Clock.readConfigured
      apply Declares.read (hnode.placed.honest_readTimer f _)
      intro timer _ htimer
      refine declares_ite ?_ ?_
      · intro _
        have htrue : Violation.TrueAt document node.path (.duplicateName "timer") :=
          ⟨node.value, hnode.placed, hnode.object⟩
        exact declares_reject htrue
      · intro hnew
        apply (declares_readSettings timer hnode).andThen
        intro settings _ hgives
        obtain ⟨hsettings, rfl⟩ := hgives
        refine (ih (fun n hn => hnodes n (List.mem_cons_of_mem node hn)) _).mono ?_
        intro ts _ hgives
        obtain ⟨hts, rfl⟩ := hgives
        exact ⟨.cons htimer (Option.not_isSome_iff_eq_none.1 hnew) hsettings hts, rfl⟩

/-- The clock which the section `c` describes. -/
structure ClockGives (f : ClockFamily) (c : Cursor) (k : Clock) : Prop where
  family : k.family = f
  prescaler : c.intConstant f.prescalerKey = .ok k.prescaler
  configured : ∃ nodes, Configured f [] nodes k.configured
  primary : Clock.readTimer f c "primary_timer" = .ok k.primary
  claims : k.claims = []

theorem declares_readClock (f : ClockFamily) (hc : c.In document) :
    Declares x [] (Clock.read f c) fun k g => ClockGives f c k ∧ g = ∅ := by
  unfold Clock.read
  apply Declares.read (hc.placed.honest_intConstant _)
  intro prescaler _ hprescaler
  have hprimary : ∀ timers, (∃ nodes, Configured f [] nodes timers) →
      Declares x [] (do
        let primary ← (Clock.readTimer f c "primary_timer" : Reading Char)
        return Clock.mk f prescaler primary timers [] : Build Clock)
        fun k g => ClockGives f c k ∧ g = ∅ := by
    intro timers htimers
    apply Declares.read (hc.placed.honest_readTimer f _)
    intro primary _ hprimary
    exact declares_pure ⟨⟨rfl, hprescaler, htimers, hprimary, rfl⟩, rfl⟩
  by_cases hf : f.hasConfiguredTimers = true
  · rw [if_pos hf]
    apply Declares.read (hc.placed.honest_objects _ _ _)
    rintro nodes ⟨-, hnodes⟩ -
    apply (declares_readConfigured f hnodes []).andThen
    intro timers _ hgives
    obtain ⟨htimers, rfl⟩ := hgives
    exact hprimary timers ⟨nodes, htimers⟩
  · rw [if_neg hf]
    exact hprimary [] ⟨[], .nil⟩

/-- The clock chosen at `key`; the tag is the template of its driver. -/
inductive ClockChosen (c : Cursor) (key : String) : Clock → Prop where
  | mk {f : ClockFamily} {node : Cursor} {k : Clock} (hnode : c.Chosen key f.driver node)
      (hk : ClockGives f node k) : ClockChosen c key k

theorem ClockChosen.claims_nil {key : String} {k : Clock} (h : ClockChosen c key k) :
    k.claims = [] := by
  cases h with
  | mk _ hk => exact hk.claims

theorem leads_setUpClock (hc : c.In document) (key : String) (hx : x.phase = .collecting)
    (hnew : .clock ∉ x.kinds) :
    Leads x [] (setUpClock c key) fun _ g x' => ∃ k, ClockChosen c key k
      ∧ g = .ofItems [.frameworkInclude k.family.header] ∧ x' = x.withFacility (.clock k) := by
  unfold setUpClock
  have hclock : Declares x [] (c.choose key [
      .option "At91Sam3xClock" (Clock.read .at91Sam3x), .option "Mk20Clock" (Clock.read .mk20),
      .option "AvrClock" (Clock.read .avr)]) fun k g => ClockChosen c key k ∧ g = ∅ := by
    have hread : ∀ f node, node.In document → c.Chosen key (ClockFamily.driver f) node →
        Declares x [] (Clock.read f node) fun k g => ClockChosen c key k ∧ g = ∅ := by
      intro f node hin hnode
      apply (declares_readClock f hin).mono
      intro k g hgives
      obtain ⟨hk, rfl⟩ := hgives
      exact ⟨.mk hnode hk, rfl⟩
    refine .choose hc ⟨_, rfl⟩ (.option ?_ (.option ?_ (.option ?_ .nil)))
    · exact hread .at91Sam3x
    · exact hread .mk20
    · exact hread .avr
  apply Declares.leads (M := []) hclock
  intro k _ hgives
  obtain ⟨hk, rfl⟩ := hgives
  apply Declares.leads (M := []) (declares_emit_plain rfl rfl)
  intro _ _ hgives
  subst hgives
  have hfacility : (Facility.clock k).New x := by
    refine ⟨hnew, ?_, ?_⟩
    · rintro c' h
      cases h
      exact hk.claims_nil
    · rintro ps h
      cases h
  apply (leads_registerFacility hx hfacility).mono
  intro _ _ _ hgives
  obtain ⟨rfl, rfl⟩ := hgives
  exact ⟨k, hk, rfl, rfl⟩

/-! ## §3. Interrupt timers. -/

theorem declares_compareUnit (hx : .clock ∈ x.kinds) (hc : c.In document) (key : String) :
    Declares x [] (compareUnit c key) fun u g => x.UnitAt c key u ∧ g = ∅ := by
  unfold compareUnit
  apply (declares_clock hx).andThen
  intro k _ hgives
  obtain ⟨hk, rfl⟩ := hgives
  apply declares_read (hc.placed.honest_readUnit hk key)
  intro u hu _
  exact ⟨hu, rfl⟩

theorem declares_claimTimer (hx : .clock ∈ x.kinds) (hc : c.In document) (user : String)
    (clearance : Option String) :
    Declares x [] (claimTimer c user clearance) fun r g => ∃ u, x.UnitAt c "oc_unit" u
      ∧ r = (x.clock.family.timerService u clearance, x.clock.family.timerBinding u user)
      ∧ g = ⟨[], [u], []⟩ := by
  intro U w hw _
  unfold claimTimer
  refine (ends_clock hx hw).bind ?_
  intro k w' hgives
  obtain ⟨hk, rfl⟩ := hgives
  have hbase := hw.clock k hk
  have hfamily : k.family = x.clock.family := by
    rw [← hbase]
  refine ends_read_bind (hc.placed.honest_readUnit hbase _).violation ?_
  intro u hu
  obtain ⟨hw', hg⟩ := hw.claim u hk
  refine Ends.bind (Q := fun _ v => v = w'.setFacility (.clock (k.claim u))) (ends_ok rfl rfl) ?_
  intro _ _ hgives
  subst hgives
  refine ends_pure ⟨⟨_, x, ⟨⟨u, (hc.placed.honest_readUnit hbase _).value u hu, ?_, rfl⟩, rfl⟩, hg,
    hw'.mono fun _ ht => Or.inl ht⟩, fun _ => rfl⟩
  rw [hfamily]

/-- The interrupt timer at `key`: its service, its claim, and the binding of its
interrupt to `user`. -/
inductive TimerGives (x : Site document) (c : Cursor) (key user : String)
    (clearance : Option String) : TypeExpr → Gain → Prop where
  | mk {node : Cursor} {u : CompareUnit} (hnode : c.enter key = .ok node)
      (hu : x.UnitAt node "oc_unit" u) :
      TimerGives x c key user clearance (x.clock.family.timerService u clearance)
        ⟨[.interrupt (x.clock.family.timerBinding u user)], [u], []⟩

theorem declares_useTimer (hx : .clock ∈ x.kinds) (hc : c.In document) (key user : String)
    (clearance : Option String) :
    Declares x [] (useTimer c key user clearance) (TimerGives x c key user clearance) := by
  unfold useTimer
  apply Declares.read (hc.placed.honest_enter key)
  intro node hin hnode
  apply (declares_claimTimer hx hin user clearance).andThen
  intro r _ hgives
  obtain ⟨u, hu, rfl, rfl⟩ := hgives
  apply Declares.afterPlain rfl rfl
  exact declares_pure (.mk hnode hu)

end PrinterFirmware
