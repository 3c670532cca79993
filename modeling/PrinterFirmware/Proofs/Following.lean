/-
  PrinterFirmware.Proofs.Following
  ────────────────────────────────
  **A RUN WHICH FOLLOWS ANOTHER ONE.**

  When the elements of a list come in another order, a walk over them can be refused
  elsewhere and for another reason than before.  But if it had been accepted it is accepted
  still, and nothing that is looked up later tells the two orders apart.

      Follows                  whatever one walk gives, another one gives, too
      follows_registerList     objects registered in another order
      follows_readConfigured   timers configured in another order

  Objects are told apart by their names and timers by their digits.  None of them occurs
  twice in a list which has been accepted, so their order does not matter.
-/
import Mathlib.Data.List.Find
import Mathlib.Data.List.Perm.Basic
import PrinterFirmware.Proofs.ClockClaims
import PrinterFirmware.Proofs.ParallelBoard
import PrinterFirmware.Proofs.Reordered
import PrinterFirmware.Proofs.Registration
import PrinterFirmware.Proofs.Runs

namespace PrinterFirmware

open Document Naming Build Board

variable {α β γ δ : Type}

/-! ## §1. Following. -/

section Rules

variable [Correspondence] {R : α → β → Prop} {S : γ → δ → Prop} {m : Build α} {n : Build β}

/-- Whatever `m` gives, `n` gives something related, from every alike state. -/
def Follows (R : α → β → Prop) (m : Build α) (n : Build β) : Prop :=
  ∀ w v a w', w.Alike v → m w = .ok a w' → ∃ b v', n v = .ok b v' ∧ R a b ∧ w'.Alike v'

/-- Of two walks which end alike the second one follows the first one. -/
theorem RunAlike.follows (h : RunAlike R m n) : Follows R m n := by
  intro w v a w' hw hm
  have hends := h w v hw
  rw [hm] at hends
  generalize n v = r at hends
  cases hends with
  | ok hab hw' => exact ⟨_, _, rfl, hab, hw'⟩

theorem Parallel.follows (h : Parallel R m n) : Follows R m n := h.runs.follows

theorem Follows.bind {f : α → Build γ} {g : β → Build δ} (h : Follows R m n)
    (k : ∀ a b, R a b → Follows S (f a) (g b)) : Follows S (m >>= f) (n >>= g) := by
  intro w v r w' hw hrun
  obtain ⟨a, w₁, hm, hf⟩ := bind_eq_ok hrun
  obtain ⟨b, v₁, hn, hab, hw₁⟩ := h w v a w₁ hw hm
  obtain ⟨s, v', hg, hrs, hw'⟩ := k a b hab w₁ v₁ r w' hw₁ hf
  exact ⟨s, v', (bind_ok hn).trans hg, hrs, hw'⟩

/-- A walk with the same result, and what is made of it. -/
theorem Follows.andThen {n : Build α} {f : α → Build γ} {g : α → Build δ} (h : Follows Eq m n)
    (k : ∀ a, Follows S (f a) (g a)) : Follows S (m >>= f) (n >>= g) := by
  apply h.bind
  rintro a _ rfl
  exact k a

/-- A look which finds something related whenever the other one finds anything. -/
theorem Follows.look {r : Reading α} {s : Reading β} (h : ∀ a, r = .ok a → ∃ b, s = .ok b ∧ R a b) :
    Follows R (liftM r : Build α) (liftM s : Build β) := by
  intro w v a w' hw hm
  cases hr : r with
  | error e =>
      rw [hr] at hm
      cases hm
  | ok a' =>
      rw [hr] at hm
      cases hm
      obtain ⟨b, hs, hab⟩ := h a hr
      rw [hs]
      exact ⟨b, v, rfl, hab, hw⟩

/-- A look at both documents before walks. -/
theorem Follows.read {r : Reading α} {s : Reading β} {f : α → Build γ} {g : β → Build δ}
    (h : ∀ a, r = .ok a → ∃ b, s = .ok b ∧ R a b) (k : ∀ a b, R a b → Follows S (f a) (g b)) :
    Follows S ((liftM r : Build α) >>= f) ((liftM s : Build β) >>= g) :=
  (Follows.look h).bind k

/-- A choice whose tag is as it was follows if its handlers do. -/
theorem follows_choose {places : List (List String)} {c d : Cursor} {key : String}
    {clauses : List (Clause Workspace α)} {clauses' : List (Clause Workspace β)}
    (h : c.Reordered places d)
    (htag : placesBelow Cursor.tagKey (placesBelow key places) = [])
    (hclauses : ∃ C, Choice.ofClauses clauses = .ok C)
    (hrelated : List.Forall₂
      (ClauseRelated (Cursor.Reordered (placesBelow key places)) (Follows R)) clauses clauses') :
    Follows R (c.choose key clauses) (d.choose key clauses') := by
  obtain ⟨C, hC⟩ := hclauses
  obtain ⟨D, hD, hCD⟩ := ChoicesRelated.ofClauses hrelated hC
  unfold Cursor.choose
  rw [hC, hD]
  apply Follows.bind (R := ChoicesRelated (Cursor.Reordered (placesBelow key places)) (Follows R))
    (Parallel.pure hCD).follows
  intro C' D' hCD'
  apply Follows.read fun _ => h.enter key
  intro node node' hnode
  refine Follows.read (R := Eq) ?_ ?_
  · intro tag hread
    exact ⟨tag, (hnode.sameAt htag).string_eq.trans hread, rfl⟩
  rintro tag _ rfl
  -- One tag leads to handlers in both choices, or to none in either.
  have hhandler := hCD'.handler? tag
  revert hhandler
  cases hf : C'.handler? tag <;> cases hg : D'.handler? tag <;> intro hhandler <;>
    cases hhandler
  · rw [Cursor.chooseOn_none node hf]
    intro w v a w' _ hrun
    cases hrun
  · next hfg =>
      rw [Cursor.chooseOn_some node hf, Cursor.chooseOn_some node' hg]
      exact hfg tag node node' hnode

end Rules

/-! ## §2. Objects in another order. -/

/-- The name of an object. -/
def Document.Value.objectName? (v : Value) : Option String :=
  (v.field? objectNameKey).bind Value.string?

/-- Nodes can be registered if all have names, which are different and new among their kind. -/
theorem registered_iff {kind : Hardware} {nodes : List Cursor} {before : List NamedObject} :
    (∃ after, Registered kind nodes before after) ↔
      ((nodes.map (·.value)).map Value.objectName?).Nodup ∧ ∀ v ∈ nodes.map (·.value),
        ∃ name, v.objectName? = some name ∧ lookUpObject before kind name = none := by
  induction nodes generalizing before with
  | nil => exact ⟨fun _ => ⟨.nil, fun _ hv => nomatch hv⟩, fun _ => ⟨before, .nil⟩⟩
  | cons node rest ih =>
      rw [List.map_cons, List.map_cons, List.nodup_cons, List.forall_mem_cons]
      constructor
      · rintro ⟨after, h⟩
        cases h with
        | @cons _ _ name _ _ hname hnew hrest =>
            have hnode : node.value.objectName? = some name := Cursor.fieldAs_eq_ok.1 hname
            obtain ⟨hdistinct, hnames⟩ := ih.1 ⟨after, hrest⟩
            refine ⟨⟨?_, hdistinct⟩, ⟨name, hnode, hnew⟩, ?_⟩
            -- The first name is taken when the others are registered, so it is none of theirs.
            · intro hmem
              obtain ⟨v, hv, hsame⟩ := List.mem_map.1 hmem
              obtain ⟨name', hv', hnew'⟩ := hnames v hv
              cases hv'.symm.trans (hsame.trans hnode)
              exact (lookUpObject_concat_eq_none.1 hnew').2 rfl
            · intro v hv
              obtain ⟨name', hv', hnew'⟩ := hnames v hv
              exact ⟨name', hv', (lookUpObject_concat_eq_none.1 hnew').1⟩
      · rintro ⟨⟨hfresh, hdistinct⟩, ⟨name, hnode, hnew⟩, hnames⟩
        have hrest : ∀ v ∈ rest.map (·.value), ∃ name', v.objectName? = some name'
            ∧ lookUpObject (before ++ [⟨kind, name, node⟩]) kind name' = none := by
          intro v hv
          obtain ⟨name', hv', hnew'⟩ := hnames v hv
          refine ⟨name', hv', lookUpObject_concat_eq_none.2 ⟨hnew', ?_⟩⟩
          intro hsame
          exact hfresh (List.mem_map.2 ⟨v, hv, hv'.trans (hsame ▸ hnode.symm)⟩)
        obtain ⟨after, h⟩ := ih.2 ⟨hdistinct, hrest⟩
        exact ⟨after, .cons (Cursor.fieldAs_eq_ok.2 hnode) hnew h⟩

attribute [local instance] Correspondence.everywhere

/-- With all places alike, cursors at one value are alike. -/
theorem rel_alike_of_map_value {o o' : Option Cursor} (h : o.map (·.value) = o'.map (·.value)) :
    Option.Rel Cursor.Alike o o' := by
  cases o with
  | none =>
      cases o' with
      | none => exact .none
      | some d => cases h
  | some c =>
      cases o' with
      | none => cases h
      | some d => exact .some ⟨Option.some.inj h, trivial⟩

/-- Objects in another order are found under the same names. -/
theorem Registered.find?_rearranged {kind : Hardware} {cs ds : List Cursor}
    {before after : List NamedObject} (h : Registered kind cs before after)
    (hcs : Rearranged cs ds) (name : String) :
    Option.Rel Cursor.Alike (cs.find? (·.isNamed objectNameKey name))
      (ds.find? (·.isNamed objectNameKey name)) := by
  have hdistinct := (registered_iff.1 ⟨after, h⟩).1
  have hvalues : ∀ es : List Cursor, (es.find? (·.isNamed objectNameKey name)).map (·.value)
      = (es.map (·.value)).find? fun v => v.objectName? == some name := by
    intro es
    rw [List.find?_map]
    rfl
  apply rel_alike_of_map_value
  rw [hvalues, hvalues]
  -- At most one of the objects has this name.
  refine List.find?_eq_find?_of_perm hcs ?_
  rintro v ⟨hv, hvname⟩ v' ⟨hv', hvname'⟩
  exact List.inj_on_of_nodup_map hdistinct hv hv'
    ((beq_iff_eq.1 hvname).trans (beq_iff_eq.1 hvname').symm)

/-- Objects which have been registered in one order are registered in any other order, and
then names lead to alike objects. -/
theorem follows_addObjects (kind : Hardware) {cs ds : List Cursor} (hcs : Rearranged cs ds) :
    Follows Eq (addObjects kind cs) (addObjects kind ds) := by
  intro w v _ w' hw hrun
  obtain ⟨after, hafter, rfl⟩ := addObjects_eq_ok.1 hrun
  -- Names which are free in the one build are free in the other.
  have hbefore : ∀ name, lookUpObject w.objects kind name = none →
      lookUpObject v.objects kind name = none := by
    intro name hnone
    have hobject : Option.Rel Cursor.Alike (lookUpObject w.objects kind name)
        (lookUpObject v.objects kind name) := hw.objects kind name
    rw [hnone] at hobject
    generalize lookUpObject v.objects kind name = o at hobject ⊢
    cases hobject
    rfl
  obtain ⟨after', hafter'⟩ : ∃ after', Registered kind ds v.objects after' := by
    obtain ⟨hdistinct, hnames⟩ := registered_iff.1 ⟨after, hafter⟩
    refine registered_iff.2 ⟨(hcs.map _).nodup_iff.1 hdistinct, ?_⟩
    intro u hu
    obtain ⟨name, hname, hnew⟩ := hnames u (hcs.mem_iff.2 hu)
    exact ⟨name, hname, hbefore name hnew⟩
  refine ⟨(), _, addObjects_eq_ok.2 ⟨after', hafter', rfl⟩, rfl, ?_, ?_, hw.scriptless⟩
  · intro other name
    show Option.Rel Cursor.Alike (lookUpObject after other name) (lookUpObject after' other name)
    by_cases hother : kind = other
    · subst hother
      rw [hafter.lookUp, hafter'.lookUp]
      exact rel_or (hw.objects kind name) (hafter.find?_rearranged hcs name)
    · rw [hafter.lookUp_other hother, hafter'.lookUp_other hother]
      exact hw.objects other name
  · rw [← hw.rest]

/-- A list is registered in any order. -/
theorem follows_registerList {places : List (List String)} {c d : Cursor} (kind : Hardware)
    (h : c.Reordered places d) (key : String) :
    Follows Eq (registerList kind c key) (registerList kind d key) := by
  unfold registerList
  apply Follows.read fun _ => h.objects key 0 maxObjects
  intro cs ds hcs
  unfold registerObjects
  apply (RunAlike.whileCollecting _).follows.andThen
  intro _
  exact follows_addObjects kind hcs

/-! ## §3. Timers in another order. -/

section Timers

variable {f : ClockFamily} {c d : Cursor} {key tag : String} {timer : Char} {e : TypeExpr}

theorem Document.Cursor.Chosen.alike {node : Cursor} (h : c.Chosen key tag node)
    (hcd : c.Alike d) : ∃ node', d.Chosen key tag node' ∧ node.Alike node' := by
  obtain ⟨node', hnode', halike⟩ := (hcd.enter key).of_ok h.entered
  exact ⟨node', ⟨hnode', (halike.string _).eq_ok h.tagged⟩, halike⟩

theorem ModeGives.alike (h : ModeGives c e) (hcd : c.Alike d) : ModeGives d e := by
  cases h with
  | clock hmode =>
      obtain ⟨mode', hmode', -⟩ := hmode.alike hcd
      exact .clock hmode'
  | pwm8 hmode hdivide =>
      obtain ⟨mode', hmode', h⟩ := hmode.alike hcd
      exact .pwm8 hmode' ((h.int _).eq_ok hdivide)
  | pwm16 hmode hdivide htop =>
      obtain ⟨mode', hmode', h⟩ := hmode.alike hcd
      exact .pwm16 hmode' ((h.int _).eq_ok hdivide) ((h.int _).eq_ok htop)

theorem SettingsGive.alike (h : SettingsGive timer c e) (hcd : c.Alike d) :
    SettingsGive timer d e := by
  cases h with
  | mk hmode => exact .mk (hmode.alike hcd)

/-- The section of a configured timer says the same at any place. -/
theorem TimerEntry.alike {entry : Char × TypeExpr} (h : TimerEntry f c entry) (hcd : c.Alike d) :
    TimerEntry f d entry :=
  ⟨(hcd.readTimer f _).eq_ok h.timer, h.settings.alike hcd⟩

/-- Sections in another order configure the same timers, in that order. -/
theorem Document.Rearranged.entries {cs ds : List Cursor} {entries : List (Char × TypeExpr)}
    (hcs : Rearranged cs ds) (h : List.Forall₂ (TimerEntry f) cs entries) :
    ∃ entries', List.Forall₂ (TimerEntry f) ds entries' ∧ entries'.Perm entries := by
  have hplaces : ∀ c entry, TimerEntry f c entry → ∀ p, TimerEntry f ⟨c.value, p⟩ entry :=
    fun _ _ h _ => h.alike ⟨rfl, trivial⟩
  have hvalues : List.Forall₂ (fun v entry => ∀ p, TimerEntry f ⟨v, p⟩ entry) (cs.map (·.value))
      entries := List.forall₂_map_left_iff.2 (h.imp hplaces)
  obtain ⟨entries', hentries', hperm⟩ := List.perm_comp_forall₂ hcs.symm hvalues
  exact ⟨entries', (List.forall₂_map_left_iff.1 hentries').imp fun d _ h => h d.path, hperm⟩

theorem readSettings_eq {σ : Type} (h : SettingsGive timer c e) :
    (Clock.readSettings timer c : Walk σ TypeExpr) = pure e := by
  unfold Clock.readSettings
  cases h with
  | mk hmode =>
      cases hmode with
      | clock hmode =>
          rw [hmode.choose rfl rfl]
          rfl
      | pwm8 hmode hdivide =>
          rw [hmode.choose rfl rfl]
          simp only [hdivide]
          rfl
      | pwm16 hmode hdivide htop =>
          rw [hmode.choose rfl rfl]
          simp only [hdivide, htop]
          rfl

/-- Timers which are configured once each are put into the map one after another. -/
theorem readConfigured_eq {σ : Type} {nodes : List Cursor} {entries before : List (Char × TypeExpr)}
    (h : List.Forall₂ (TimerEntry f) nodes entries)
    (hdistinct : ((entries ++ before).map (·.1)).Nodup) :
    (Clock.readConfigured f before nodes : Walk σ (List (Char × TypeExpr)))
      = pure (entries.foldl (fun m e => Ascending.put e.1 e.2 m) before) := by
  induction h generalizing before with
  | nil => rfl
  | @cons node entry rest entries hentry _ ih =>
      have hnew : entry.1 ∉ before.map (·.1) := by
        intro hmem
        rw [List.cons_append, List.map_cons, List.nodup_cons, List.map_append] at hdistinct
        exact hdistinct.1 (List.mem_append_right _ hmem)
      -- The timers which follow are different from those in the map with this one in it.
      have hput := (Ascending.append_put_perm (v := entry.2) hnew entries).map (·.1)
      have hlookup : ¬ (before.lookup entry.1).isSome = true := by
        rw [Ascending.lookup_eq_none_iff.2 hnew]
        exact Bool.false_ne_true
      unfold Clock.readConfigured
      rw [hentry.timer]
      show (if (before.lookup entry.1).isSome then _ else _ : Walk σ (List (Char × TypeExpr))) = _
      rw [if_neg hlookup, readSettings_eq hentry.settings]
      exact ih (hput.nodup_iff.2 hdistinct)

/-- Timers are configured in any order. -/
theorem follows_readConfigured (f : ClockFamily) {cs ds : List Cursor} (hcs : Rearranged cs ds) :
    Follows Eq (Clock.readConfigured f [] cs) (Clock.readConfigured f [] ds) := by
  intro w v timers w' hw hrun
  obtain ⟨htimers, rfl⟩ := (ends_readConfigured f cs []).result timers w' hrun
  obtain ⟨entries, hentries, rfl, hdistinct⟩ := htimers.entries List.nodup_nil
  obtain ⟨entries', hentries', hperm⟩ := hcs.entries hentries
  have hdistinct' := ((hperm.append_right []).map (·.1)).nodup_iff.2 hdistinct
  have hrun' : Clock.readConfigured f [] ds v = .ok (Ascending.mapOf entries') v := by
    rw [readConfigured_eq hentries' hdistinct']
    rfl
  rw [List.append_nil] at hdistinct
  exact ⟨_, v, hrun', Ascending.mapOf_congr hperm.symm hdistinct, hw⟩

end Timers

end PrinterFirmware
