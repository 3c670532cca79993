/-
  PrinterFirmware.Proofs.Discipline
  ─────────────────────────────────
  **BUILDING WITHIN THE RULES.**

  A walk of a build is described by three things: the symbols it may declare, the
  results it can give, each with the gain which it contributes on the way, and that
  all it reports is true of the document.  `Declares` states them at once, for every
  orderly workspace in which none of the symbols is used; so a walk which declares
  something never breaks a rule of building.

      Declares.bind     two walks one after the other declare the two lists put
                        together, and their gains add up
      Declares.read     a look at the document declares nothing and gains nothing
      Declares.choose   a choice declares what its clauses declare

  So it is enough to list the symbols of a section once: that no symbol is declared
  twice follows from the list being free of repetitions.
-/
import PrinterFirmware.Proofs.Place
import PrinterFirmware.Proofs.Symbol
import PrinterFirmware.Proofs.Walk

namespace PrinterFirmware

open Document Naming Build

variable {α β : Type}

/-! ## §1. Gains. -/

/-- What a walk contributes: items of the program, claims of output compare units
and pins of analog inputs, each in order. -/
structure Gain where
  items : List Item
  units : List CompareUnit
  pins : List String

namespace Gain

instance : EmptyCollection Gain := ⟨⟨[], [], []⟩⟩

instance : Append Gain := ⟨fun g h => ⟨g.items ++ h.items, g.units ++ h.units, g.pins ++ h.pins⟩⟩

/-- Items alone. -/
def ofItems (items : List Item) : Gain := ⟨items, [], []⟩

@[simp] theorem items_empty : (∅ : Gain).items = [] := rfl
@[simp] theorem units_empty : (∅ : Gain).units = [] := rfl
@[simp] theorem pins_empty : (∅ : Gain).pins = [] := rfl

@[simp] theorem items_append (g h : Gain) : (g ++ h).items = g.items ++ h.items := rfl
@[simp] theorem units_append (g h : Gain) : (g ++ h).units = g.units ++ h.units := rfl
@[simp] theorem pins_append (g h : Gain) : (g ++ h).pins = g.pins ++ h.pins := rfl

@[simp] theorem items_ofItems (items : List Item) : (ofItems items).items = items := rfl
@[simp] theorem units_ofItems (items : List Item) : (ofItems items).units = [] := rfl
@[simp] theorem pins_ofItems (items : List Item) : (ofItems items).pins = [] := rfl

@[ext] theorem ext {g h : Gain} (hi : g.items = h.items) (hu : g.units = h.units)
    (hp : g.pins = h.pins) : g = h := by
  cases g
  cases h
  simp_all

@[simp] theorem append_empty (g : Gain) : g ++ ∅ = g := by ext1 <;> simp

@[simp] theorem empty_append (g : Gain) : ∅ ++ g = g := by ext1 <;> simp

theorem append_assoc (g₁ g₂ g₃ : Gain) : g₁ ++ g₂ ++ g₃ = g₁ ++ (g₂ ++ g₃) := by
  ext1 <;> simp

/-- Items after items, before a gain. -/
theorem ofItems_append_assoc (a b : List Item) (g : Gain) :
    ofItems a ++ (ofItems b ++ g) = ofItems (a ++ b) ++ g := (append_assoc _ _ _).symm

end Gain

/-! ## §2. Orderly workspaces. -/

/-- What has been set up in a build of the document when a walk begins. -/
structure Site (document : Value) where
  phase : Phase
  /-- The kinds of the registered facilities. -/
  kinds : List FacilityKind
  /-- The clock without its claims, if one is registered. -/
  clock : Clock
  /-- The grammars of pin names, if they are registered. -/
  grammars : List PinNames
  objects : List NamedObject
  deferred : List Deferred
  /-- The slots which have been filled directly. -/
  slots : List String
  /-- Objects stand in the document. -/
  inside : ∀ o ∈ objects, o.node.In document

namespace Workspace

/-- The claims of output compare units, in order. -/
def units (w : Workspace) : List CompareUnit :=
  match w.facility? .clock with
  | some (.clock c) => c.claims
  | _ => []

/-- The pins of the analog inputs in use. -/
def pins (w : Workspace) : List String :=
  match w.facility? .analogPins with
  | some (.analogPins ps) => ps
  | _ => []

/-- The letters of the things of a scope. -/
def lettersIn (w : Workspace) (scope : LetterScope) : List Char :=
  (lettersOf scope w.letters).map (·.2)

/-- A workspace on a site, whose symbols are among `used`. -/
structure Orderly {document : Value} (x : Site document) (used : Symbol → Prop)
    (w : Workspace) : Prop where
  phase : w.phase = x.phase
  kinds : w.facilities.map (·.kind) = x.kinds
  clock : ∀ c, w.facility? .clock = some (.clock c) → { c with claims := [] } = x.clock
  grammars : ∀ ns, w.facility? .pinNames = some (.pinNames ns) → ns = x.grammars
  objects : w.objects = x.objects
  deferred : w.deferred = x.deferred
  slots : w.draft.filledSlots = x.slots
  symbols : ∀ s ∈ w.draft.symbols, ∃ t : Symbol, t.Valid ∧ used t ∧ t.name = s

/-- `w'` is `w` with a gain. -/
structure Gains (w : Workspace) (g : Gain) (w' : Workspace) : Prop where
  items : w'.draft.items = w.draft.items ++ g.items
  units : w'.units = w.units ++ g.units
  pins : w'.pins = w.pins ++ g.pins

theorem Orderly.mono {document : Value} {x : Site document} {U V : Symbol → Prop} {w : Workspace}
    (h : w.Orderly x U) (hUV : ∀ t, U t → V t) : w.Orderly x V := by
  refine ⟨h.phase, h.kinds, h.clock, h.grammars, h.objects, h.deferred, h.slots, ?_⟩
  intro s hs
  obtain ⟨t, ht, hU, hname⟩ := h.symbols s hs
  exact ⟨t, ht, hUV t hU, hname⟩

theorem Gains.refl (w : Workspace) : w.Gains ∅ w := ⟨by simp, by simp, by simp⟩

theorem Gains.trans {w₁ w₂ w₃ : Workspace} {g h : Gain} (hg : w₁.Gains g w₂)
    (hh : w₂.Gains h w₃) : w₁.Gains (g ++ h) w₃ := by
  refine ⟨?_, ?_, ?_⟩
  · rw [hh.items, hg.items, Gain.items_append, List.append_assoc]
  · rw [hh.units, hg.units, Gain.units_append, List.append_assoc]
  · rw [hh.pins, hg.pins, Gain.pins_append, List.append_assoc]

end Workspace

/-- A failure is a report which is true of the document. -/
def Reports (document : Value) : Failure → Prop
  | .document e => e.TrueOf document
  | .breach _ => False

/-- Symbols which can be declared one after another. -/
structure Fresh (used : Symbol → Prop) (symbols : List Symbol) : Prop where
  nodup : symbols.Nodup
  valid : ∀ t ∈ symbols, t.Valid
  unused : ∀ t ∈ symbols, ¬ used t

/-- The used symbols after `symbols` have been declared. -/
def Using (used : Symbol → Prop) (symbols : List Symbol) : Symbol → Prop :=
  fun t => used t ∨ t ∈ symbols

theorem Fresh.sublist {U : Symbol → Prop} {L L' : List Symbol} (h : Fresh U L')
    (hsub : L.Sublist L') : Fresh U L :=
  ⟨h.nodup.sublist hsub, fun t ht => h.valid t (hsub.subset ht),
    fun t ht => h.unused t (hsub.subset ht)⟩

/-- The second part of a list is fresh after the first one. -/
theorem Fresh.after {U : Symbol → Prop} {K M : List Symbol} (h : Fresh U (K ++ M)) :
    Fresh (Using U K) M := by
  obtain ⟨-, h₂, hdisj⟩ := List.nodup_append.1 h.nodup
  refine ⟨h₂, fun t ht => h.valid t (List.mem_append_right K ht), ?_⟩
  intro t ht hcase
  rcases hcase with hU | h₁
  · exact h.unused t (List.mem_append_right K ht) hU
  · exact hdisj t h₁ t ht rfl

/-! ## §3. Walks which lead from site to site. -/

variable {document : Value}

/-- How a walk ends after which at most `used` are the used symbols: with a result, a
gain and a site which satisfy `P`, and with the letters of before. -/
structure Led (used : Symbol → Prop) (P : α → Gain → Site document → Prop) (w : Workspace)
    (a : α) (w' : Workspace) : Prop where
  gain : ∃ g x', P a g x' ∧ w.Gains g w' ∧ w'.Orderly x' used
  letters : ∀ scope, w'.lettersIn scope = w.lettersIn scope

/-- On the site `x` the walk `m` declares at most `symbols`, ends with `P` and reports
only what is true of the document. -/
def Leads (x : Site document) (symbols : List Symbol) (m : Build α)
    (P : α → Gain → Site document → Prop) : Prop :=
  ∀ U w, w.Orderly x U → Fresh U symbols → Ends m w (Led (Using U symbols) P w) (Reports document)

/-- The walk `m` declares at most `symbols`, gives results and gains with `P`, reports
only what is true of the document and leaves the site as it is. -/
def Declares (x : Site document) (symbols : List Symbol) (m : Build α) (P : α → Gain → Prop) :
    Prop :=
  Leads x symbols m fun a g x' => P a g ∧ x' = x

section Leads

variable {x : Site document} {L L' K M : List Symbol} {m : Build α} {f : α → Build β}
  {P P' : α → Gain → Site document → Prop} {Q : β → Gain → Site document → Prop}

theorem leads_pure {a : α} (h : P a ∅ x) : Leads x L (pure a) P := by
  intro U w hw _
  exact ends_pure ⟨⟨∅, x, h, .refl w, hw.mono fun _ ht => Or.inl ht⟩, fun _ => rfl⟩

theorem Leads.mono (h : Leads x L m P) (hP : ∀ a g x', P a g x' → P' a g x') :
    Leads x L m P' := by
  intro U w hw hL
  apply (h U w hw hL).mono
  intro a w' hled
  obtain ⟨⟨g, x', ha, hg, hw'⟩, hl⟩ := hled
  exact ⟨⟨g, x', hP a g x' ha, hg, hw'⟩, hl⟩

/-- A walk which declares less also declares at most more. -/
theorem Leads.sublist (h : Leads x L m P) (hsub : L.Sublist L') : Leads x L' m P := by
  intro U w hw hL
  apply (h U w hw (hL.sublist hsub)).mono
  intro a w' hled
  obtain ⟨⟨g, x', ha, hg, hw'⟩, hl⟩ := hled
  exact ⟨⟨g, x', ha, hg, hw'.mono fun t => Or.imp_right fun ht => hsub.subset ht⟩, hl⟩

/-- One walk after another: the symbols are put together and the gains add up. -/
theorem Leads.bind (h : Leads x K m P)
    (k : ∀ a g x', P a g x' → Leads x' M (f a) fun b g' x'' => Q b (g ++ g') x'') :
    Leads x (K ++ M) (m >>= f) Q := by
  intro U w hw hL
  apply (h U w hw (hL.sublist (List.sublist_append_left K M))).bind
  intro a w₁ hled
  obtain ⟨⟨g, x₁, ha, hg, hw₁⟩, hl₁⟩ := hled
  apply (k a g x₁ ha _ w₁ hw₁ hL.after).mono
  intro b w₂ hled
  obtain ⟨⟨g', x₂, hb, hg', hw₂⟩, hl₂⟩ := hled
  refine ⟨⟨g ++ g', x₂, hb, hg.trans hg', hw₂.mono ?_⟩, fun scope => (hl₂ scope).trans (hl₁ scope)⟩
  intro t hcase
  rcases hcase with (hU | ht) | ht
  · exact Or.inl hU
  · exact Or.inr (List.mem_append_left M ht)
  · exact Or.inr (List.mem_append_right K ht)

/-- A look at the document before a walk. -/
theorem Leads.read {r : Reading α} {R : α → Prop} (h : Honest document r R)
    (k : ∀ a, R a → r = .ok a → Leads x L (f a) Q) :
    Leads x L ((liftM r : Build α) >>= f) Q := by
  intro U w hw hL
  apply ends_read_bind h.violation
  intro a ha
  exact k a (h.value a ha) ha U w hw hL

theorem leads_ite {p : Prop} [Decidable p] {m m' : Build α} (h : p → Leads x L m P)
    (h' : ¬ p → Leads x L m' P) : Leads x L (if p then m else m') P := by
  split
  · exact h ‹_›
  · exact h' ‹_›

/-- A report before a walk. -/
theorem leads_reject {e : Located} (h : e.TrueOf document) :
    Leads x L ((liftM (.error e : Reading α) : Build α) >>= f) Q :=
  Leads.read (R := fun _ => True) (honest_error h) fun _ _ ha => nomatch ha

end Leads

section Rules

variable {x : Site document} {L L' K M : List Symbol} {m : Build α} {f : α → Build β}
  {P P' : α → Gain → Prop} {Q : β → Gain → Prop}

theorem declares_pure {a : α} (h : P a ∅) : Declares x L (pure a) P := leads_pure ⟨h, rfl⟩

theorem Declares.mono (h : Declares x L m P) (hP : ∀ a g, P a g → P' a g) :
    Declares x L m P' := Leads.mono h fun a g _ ha => ⟨hP a g ha.1, ha.2⟩

theorem Declares.sublist (h : Declares x L m P) (hsub : L.Sublist L') : Declares x L' m P :=
  Leads.sublist h hsub

/-- A walk on one site before one which leads to another. -/
theorem Declares.leads {Q : β → Gain → Site document → Prop} (h : Declares x K m P)
    (k : ∀ a g, P a g → Leads x M (f a) fun b g' x' => Q b (g ++ g') x') :
    Leads x (K ++ M) (m >>= f) Q := by
  apply Leads.bind h
  intro a g _ hled
  obtain ⟨ha, rfl⟩ := hled
  exact k a g ha

theorem Declares.bind (h : Declares x K m P)
    (k : ∀ a g, P a g → Declares x M (f a) fun b g' => Q b (g ++ g')) :
    Declares x (K ++ M) (m >>= f) Q := h.leads k

/-- A walk without declarations before another one. -/
theorem Declares.andThen (h : Declares x [] m P)
    (k : ∀ a g, P a g → Declares x L (f a) fun b g' => Q b (g ++ g')) :
    Declares x L (m >>= f) Q := h.bind k

/-- A walk with one declaration before another one. -/
theorem Declares.cons {t : Symbol} (h : Declares x [t] m P)
    (k : ∀ a g, P a g → Declares x L (f a) fun b g' => Q b (g ++ g')) :
    Declares x (t :: L) (m >>= f) Q := h.bind k

/-- A walk whose result is only rewritten afterwards. -/
theorem Declares.map {h : α → β} (hm : Declares x L m P) (k : ∀ a g, P a g → Q (h a) g) :
    Declares x L (m >>= fun a => pure (h a)) Q := by
  rw [← List.append_nil L]
  apply hm.bind
  intro a g ha
  apply declares_pure
  rw [Gain.append_empty]
  exact k a g ha

/-- A look at the document. -/
theorem declares_read {r : Reading α} {R : α → Prop} (h : Honest document r R)
    (k : ∀ a, R a → r = .ok a → P a ∅) : Declares x L (liftM r : Build α) P := by
  intro U w hw _
  refine ends_read ?_ h.violation
  intro a ha
  exact ⟨⟨∅, x, ⟨k a (h.value a ha) ha, rfl⟩, .refl w, hw.mono fun _ ht => Or.inl ht⟩, fun _ => rfl⟩

/-- A look at the document before a walk. -/
theorem Declares.read {r : Reading α} {R : α → Prop} (h : Honest document r R)
    (k : ∀ a, R a → r = .ok a → Declares x L (f a) Q) :
    Declares x L ((liftM r : Build α) >>= f) Q := Leads.read h k

theorem declares_ite {p : Prop} [Decidable p] {m m' : Build α} (h : p → Declares x L m P)
    (h' : ¬ p → Declares x L m' P) : Declares x L (if p then m else m') P := leads_ite h h'

/-- A report before a walk. -/
theorem declares_reject {e : Located} (h : e.TrueOf document) :
    Declares x L ((liftM (.error e : Reading α) : Build α) >>= f) Q := leads_reject h

end Rules

/-! ## §4. Choices. -/

/-- The node at `key` is an object with the tag `tag`. -/
structure Document.Cursor.Chosen (c : Cursor) (key tag : String) (node : Cursor) : Prop where
  entered : c.enter key = .ok node
  tagged : node.string Cursor.tagKey = .ok tag

/-- A choice runs the handler of the tag. -/
theorem Document.Cursor.Chosen.choose {σ : Type} {c node : Cursor} {key tag : String}
    {clauses : List (Clause σ α)} {choice : Choice σ α} {handler : Handler σ α}
    (h : c.Chosen key tag node) (hchoice : Choice.ofClauses clauses = .ok choice)
    (hhandler : choice.handler? tag = some handler) : c.choose key clauses = handler tag node := by
  unfold Cursor.choose
  rw [hchoice, h.entered]
  show (liftM (node.string Cursor.tagKey) >>= fun tag => node.chooseOn tag choice) = _
  rw [h.tagged]
  exact Cursor.chooseOn_some node hhandler

/-- The clauses of a choice at `key` declare at most `symbols`. -/
def ClausesDeclare (x : Site document) (c : Cursor) (key : String) (symbols : List Symbol)
    (clauses : List (Clause Workspace α)) (P : α → Gain → Prop) : Prop :=
  Clauses (fun tag node m => node.In document → c.Chosen key tag node →
    Declares x symbols m P) clauses

/-- An object whose tag is not listed reports that truly. -/
theorem unknownChoice_true {node : Cursor} {tag : String}
    (hn : node.In document) (ht : node.string Cursor.tagKey = .ok tag) :
    (⟨node.path, .unknownChoice tag⟩ : Located).TrueOf document := by
  refine ⟨node.value, hn.placed, hn.object, ?_⟩
  have hs := (hn.placed.honest_string Cursor.tagKey).value tag ht
  rwa [hn.placed.atKey] at hs

/-- A choice at a place of the document ends as the handlers of its clauses do on an object of
the document, and what it reports itself is true. -/
theorem ends_choose_in {c : Cursor} {key : String} {clauses : List (Clause Workspace α)}
    {w : Workspace} {Q : α → Workspace → Prop} (hc : c.In document)
    (hclauses : ∃ choice, Choice.ofClauses clauses = .ok choice)
    (h : Clauses (fun tag node m => node.In document → c.Chosen key tag node →
      Ends m w Q (Reports document)) clauses) :
    Ends (c.choose key clauses) w Q (Reports document) := by
  have hin := (hc.placed.honest_enter key).value
  refine ends_choose hclauses (hc.placed.honest_enter key).violation ?_ ?_ ?_
  · intro node e hnode
    exact ((hin node hnode).placed.honest_string Cursor.tagKey).violation e
  · intro node tag hnode ht
    exact unknownChoice_true (hin node hnode) ht
  · apply h.mono
    intro tag node m hm hnode ht
    exact hm (hin node hnode) ⟨hnode, ht⟩

section Choices

variable {x : Site document} {L : List Symbol} {c : Cursor} {P : α → Gain → Prop}
  {clauses : List (Clause Workspace α)}

theorem Declares.choose {key : String} (hc : c.In document)
    (hclauses : ∃ choice, Choice.ofClauses clauses = .ok choice)
    (h : ClausesDeclare x c key L clauses P) : Declares x L (c.choose key clauses) P := by
  intro U w hw hL
  apply ends_choose_in hc hclauses
  apply h.mono
  intro tag node m hm hin hchosen
  exact hm hin hchosen U w hw hL

/-- A choice on the tag of an object which has been entered before. -/
theorem Declares.chooseOn {choice : Choice Workspace α} {tag : String} (hc : c.In document)
    (htag : c.string Cursor.tagKey = .ok tag) (hclauses : Choice.ofClauses clauses = .ok choice)
    (h : Clauses (fun t node m => t = tag → node = c → Declares x L m P) clauses) :
    Declares x L (c.chooseOn tag choice) P := by
  intro U w hw hL
  apply ends_chooseOn hclauses (unknownChoice_true hc htag)
  apply h.mono
  intro t node m hm ht hnode
  exact hm ht hnode U w hw hL

end Choices

/-! ## §5. Items. -/

theorem Draft.add_of_symbol {d : Draft} {item : Item} {s : String} (hs : item.symbol? = some s)
    (hnew : s ∉ d.symbols) : d.add item = .ok ⟨d.items ++ [item]⟩ := by
  unfold add breach?
  rw [hs]
  simp [hnew]

theorem Draft.add_of_plain {d : Draft} {item : Item} (hs : item.symbol? = none)
    (hf : item.filledSlot? = none) : d.add item = .ok ⟨d.items ++ [item]⟩ := by
  unfold add breach?
  rw [hs, hf]

theorem Draft.add_of_fill {d : Draft} {slot : String} {content : SlotContent}
    (hnew : slot ∉ d.filledSlots) :
    d.add (.fill slot content) = .ok ⟨d.items ++ [.fill slot content]⟩ := by
  unfold add breach?
  simp [Item.symbol?, Item.filledSlot?, hnew]

/-- An item which is added comes last, and its symbol and its slot are new. -/
theorem Draft.add_eq_ok {d d' : Draft} {item : Item} (h : d.add item = .ok d') :
    d' = ⟨d.items ++ [item]⟩ ∧ (∀ s, item.symbol? = some s → s ∉ d.symbols)
      ∧ ∀ slot, item.filledSlot? = some slot → slot ∉ d.filledSlots := by
  unfold add at h
  cases hbreach : d.breach? item with
  | some b =>
      rw [hbreach] at h
      cases h
  | none =>
      rw [hbreach] at h
      cases h
      unfold breach? at hbreach
      refine ⟨rfl, ?_, ?_⟩
      · intro s hs hold
        rw [hs] at hbreach
        simp [hold] at hbreach
      · intro slot hslot hold
        have hplain : item.symbol? = none := by
          cases item with
          | fill => rfl
          | _ => cases hslot
        rw [hplain, hslot] at hbreach
        simp [hold] at hbreach

theorem Item.filledSlot?_of_symbol {item : Item} {s : String} (h : item.symbol? = some s) :
    item.filledSlot? = none := by
  cases item <;> simp_all [symbol?, filledSlot?]

theorem emit_ok {w : Workspace} {item : Item} {d : Draft} (h : w.draft.add item = .ok d) :
    emit item w = .ok () { w with draft := d } := by
  unfold emit
  rw [h]

/-- The gain of one item. -/
theorem gains_item (w : Workspace) (item : Item) :
    w.Gains (.ofItems [item]) { w with draft := ⟨w.draft.items ++ [item]⟩ } := by
  refine ⟨rfl, ?_, ?_⟩
  · exact (List.append_nil _).symm
  · exact (List.append_nil _).symm

section Items

variable {x : Site document} {item : Item}

/-- An item which declares a symbol. -/
theorem declares_emit {t : Symbol} (hs : item.symbol? = some t.name) :
    Declares x [t] (emit item) fun _ g => g = .ofItems [item] := by
  intro U w hw hL
  have hvalid := hL.valid t (List.mem_singleton_self t)
  have hnew : t.name ∉ w.draft.symbols := by
    intro hmem
    obtain ⟨t', ht', hU, hname⟩ := hw.symbols _ hmem
    have : t' = t := Symbol.name_injective ht' hvalid hname
    subst this
    exact hL.unused t' (List.mem_singleton_self t') hU
  refine ends_ok (emit_ok (Draft.add_of_symbol hs hnew))
    ⟨⟨_, x, ⟨rfl, rfl⟩, gains_item w item, ?_⟩, fun _ => rfl⟩
  refine ⟨hw.phase, hw.kinds, hw.clock, hw.grammars, hw.objects, hw.deferred, ?_, ?_⟩
  · rw [← hw.slots]
    simp [Draft.filledSlots, Item.filledSlot?_of_symbol hs]
  · intro s hmem
    simp only [Draft.symbols, List.filterMap_append, List.mem_append] at hmem
    rcases hmem with hold | hnew
    · obtain ⟨t', ht', hU, hname⟩ := hw.symbols s hold
      exact ⟨t', ht', Or.inl hU, hname⟩
    · simp [hs] at hnew
      exact ⟨t, hvalid, Or.inr (List.mem_singleton_self t), hnew.symm⟩

/-- The symbols with one more item which declares none. -/
theorem Draft.symbols_concat {d : Draft} (hs : item.symbol? = none) :
    (Draft.mk (d.items ++ [item])).symbols = d.symbols := by
  simp [Draft.symbols, hs]

/-- An item which neither declares a symbol nor fills a slot. -/
theorem declares_emit_plain (hs : item.symbol? = none) (hf : item.filledSlot? = none) :
    Declares x [] (emit item) fun _ g => g = .ofItems [item] := by
  intro U w hw _
  refine ends_ok (emit_ok (Draft.add_of_plain hs hf))
    ⟨⟨_, x, ⟨rfl, rfl⟩, gains_item w item, ?_⟩, fun _ => rfl⟩
  refine ⟨hw.phase, hw.kinds, hw.clock, hw.grammars, hw.objects, hw.deferred, ?_, ?_⟩
  · rw [← hw.slots]
    simp [Draft.filledSlots, hf]
  · intro s hmem
    rw [Draft.symbols_concat hs] at hmem
    obtain ⟨t, ht, hU, hname⟩ := hw.symbols s hmem
    exact ⟨t, ht, Or.inl hU, hname⟩

/-- The content of a slot which has not been filled. -/
theorem leads_fill {slot : String} {content : SlotContent} (hnew : slot ∉ x.slots) :
    Leads x [] (emit (.fill slot content)) fun _ g x' =>
      g = .ofItems [.fill slot content] ∧ x' = { x with slots := x.slots ++ [slot] } := by
  intro U w hw _
  refine ends_ok (emit_ok (Draft.add_of_fill (hw.slots ▸ hnew)))
    ⟨⟨_, _, ⟨rfl, rfl⟩, gains_item w _, ?_⟩, fun _ => rfl⟩
  refine ⟨hw.phase, hw.kinds, hw.clock, hw.grammars, hw.objects, hw.deferred, ?_, ?_⟩
  · show _ = x.slots ++ [slot]
    rw [← hw.slots]
    simp [Draft.filledSlots, Item.filledSlot?]
  · intro s hmem
    rw [Draft.symbols_concat rfl] at hmem
    obtain ⟨t, ht, hU, hname⟩ := hw.symbols s hmem
    exact ⟨t, ht, Or.inl hU, hname⟩

theorem declares_declareNumber {t : Symbol} {name : String} (v : Binary64) (h : name = t.name) :
    Declares x [t] (declareNumber name v) fun e g =>
      e = .text name ∧ g = .ofItems [.numberConstant name v] := by
  have hs : (Item.numberConstant name v).symbol? = some t.name := congrArg some h
  unfold declareNumber
  apply (declares_emit hs).map
  intro _ _ hgives
  subst hgives
  exact ⟨rfl, rfl⟩

theorem declares_declareOption {t : Symbol} {name : String} (v : Binary64) (h : name = t.name) :
    Declares x [t] (declareOption name v) fun e g =>
      e = .text name ∧ g = .ofItems [.numberOption name v] := by
  have hs : (Item.numberOption name v).symbol? = some t.name := congrArg some h
  unfold declareOption
  apply (declares_emit hs).map
  intro _ _ hgives
  subst hgives
  exact ⟨rfl, rfl⟩

end Items

section AfterItems

variable {x : Site document} {L : List Symbol} {item : Item} {k : Unit → Build β}

/-- An item before a walk; the item neither declares a symbol nor fills a slot. -/
theorem Declares.afterPlain {Q : β → Gain → Prop} (hs : item.symbol? = none)
    (hf : item.filledSlot? = none)
    (hk : Declares x L (k ()) fun b g => Q b (.ofItems [item] ++ g)) :
    Declares x L (emit item >>= k) Q := by
  apply (declares_emit_plain hs hf).andThen
  intro _ _ hgives
  subst hgives
  exact hk

/-- An item before a walk; the item declares the symbol `t`. -/
theorem Declares.afterSymbol {Q : β → Gain → Prop} {t : Symbol} (hs : item.symbol? = some t.name)
    (hk : Declares x L (k ()) fun b g => Q b (.ofItems [item] ++ g)) :
    Declares x (t :: L) (emit item >>= k) Q := by
  apply (declares_emit hs).cons
  intro _ _ hgives
  subst hgives
  exact hk

end AfterItems

end PrinterFirmware
