/-
  PrinterFirmware.Proofs.Acceptance
  ─────────────────────────────────
  **COMPILING GIVES A PROGRAM OR A TRUE REPORT.**

  The walks over a board and over a printer are followed by the finish of a build,
  which writes the resource of the analog inputs, closes the clock and renders the
  program.  Put together they say how compiling ends, whatever the document is:

      compile_accepts_or_reports   with a program or with a report on the document,
                                   and never with a broken rule of building
      compile_report_true          what a report says is true of the document
      compile_gives                a program consists of what the sections contribute

  Every later result about compiled programs starts from `CompileGives`.
-/
import PrinterFirmware.Firmware
import PrinterFirmware.Proofs.Machine
import PrinterFirmware.Proofs.Setup

namespace PrinterFirmware

open Document Naming Build Board Machine

variable {document : Value}

/-! ## §1. Finishing. -/

section Finishing

variable {x : Site document}

/-- Items which neither declare symbols nor fill slots. -/
theorem declares_emitAll {items : List Item}
    (h : ∀ i ∈ items, i.symbol? = none ∧ i.filledSlot? = none) :
    Declares x [] (emitAll items) fun _ g => g = .ofItems items := by
  induction items with
  | nil => exact declares_pure rfl
  | cons item rest ih =>
      obtain ⟨hs, hf⟩ := h item List.mem_cons_self
      apply Declares.afterPlain hs hf
      apply (ih fun i hi => h i (List.mem_cons_of_mem item hi)).mono
      intro _ _ hgives
      subst hgives
      rfl

/-- A finished clock binds interrupts and fills its slot. -/
theorem Clock.mem_closingItems {k : Clock} {i : Item} (h : i ∈ k.closingItems) :
    (∃ text, i = .interrupt text) ∨ ∃ content, i = .fill "CLOCK" content := by
  unfold closingItems at h
  rw [List.mem_append, List.mem_append] at h
  rcases h with (h | h) | h
  · obtain ⟨text, -, rfl⟩ := List.mem_map.1 h
    exact Or.inl ⟨text, rfl⟩
  · obtain ⟨text, -, rfl⟩ := List.mem_map.1 h
    exact Or.inl ⟨text, rfl⟩
  · exact Or.inr ⟨_, List.mem_singleton.1 h⟩

/-- The finished clock fills its slot. -/
theorem leads_closeClock (k : Clock) (hx : "CLOCK" ∉ x.slots) :
    Leads x [] (emitAll k.closingItems) fun _ g x' => g = .ofItems k.closingItems
      ∧ x' = { x with slots := x.slots ++ ["CLOCK"] } := by
  unfold Clock.closingItems
  rw [emitAll_append]
  refine Declares.leads (K := []) (M := []) (declares_emitAll ?_) ?_
  · intro i hi
    rcases List.mem_append.1 hi with hi | hi
    · obtain ⟨text, -, rfl⟩ := List.mem_map.1 hi
      exact ⟨rfl, rfl⟩
    · obtain ⟨text, -, rfl⟩ := List.mem_map.1 hi
      exact ⟨rfl, rfl⟩
  · intro _ _ hgives
    subst hgives
    apply Leads.bind (K := []) (M := []) (leads_fill hx)
    intro _ _ _ hgives
    obtain ⟨rfl, rfl⟩ := hgives
    exact leads_pure ⟨rfl, rfl⟩

/-- The facilities of a workspace on a site with all of them. -/
theorem Workspace.Orderly.facilities {U : Symbol → Prop} {w : Workspace} (hw : w.Orderly x U)
    (hx : x.kinds = [.clock, .pinNames, .analogPins]) :
    ∃ ns ps, w.facilities = [.clock { x.clock with claims := w.units }, .pinNames ns,
      .analogPins ps] ∧ w.pins = ps := by
  have hkinds := hw.kinds.trans hx
  match hf : w.facilities, hkinds with
  | [.clock c, .pinNames ns, .analogPins ps], _ =>
      have hclock : w.facility? .clock = some (.clock c) := by
        unfold facility?
        rw [hf]
        rfl
      have hpins : w.facility? .analogPins = some (.analogPins ps) := by
        unfold facility?
        rw [hf]
        rfl
      have hunits : w.units = c.claims := by
        unfold units
        rw [hclock]
      refine ⟨ns, ps, ?_, ?_⟩
      · rw [hunits, ← hw.clock c hclock]
      · unfold pins
        rw [hpins]

theorem leads_closeFacilities {ns : List PinNames} {ps : List String} {k : Clock}
    (hx : "CLOCK" ∉ x.slots) :
    Leads x [] (closeFacilities [.clock k, .pinNames ns, .analogPins ps]) fun _ g x' =>
      g = .ofItems k.closingItems ∧ x' = { x with slots := x.slots ++ ["CLOCK"] } := by
  apply Leads.bind (K := []) (M := []) (leads_closeClock k hx)
  intro _ _ _ hgives
  obtain ⟨rfl, rfl⟩ := hgives
  apply leads_pure
  rw [Gain.append_empty]
  exact ⟨rfl, rfl⟩

/-- The slots which the program fills itself are not among those filled directly. -/
theorem render_ok {d : Draft} (h : ∀ slot ∈ d.ownSlots.map (·.1), slot ∉ d.filledSlots) :
    d.render = .ok (.ofEntries (d.directSlots ++ d.ownSlots)) := by
  have hnone : d.ownSlots.find? (fun e => e.1 ∈ d.filledSlots) = none := by
    refine List.find?_eq_none.2 ?_
    intro e he hmem
    exact h e.1 (List.mem_map_of_mem he) (of_decide_eq_true hmem)
  unfold Draft.render
  rw [hnone]

/-- The slots which are filled directly, the clock last. -/
def directSlotNames : List String :=
  ["BoardForBuild", "FastEventRoot", "EmergencyProvider"]

/-- A draft with all the slots which are filled directly is rendered. -/
theorem render_finished {d : Draft} (h : d.filledSlots = directSlotNames ++ ["CLOCK"]) :
    d.render = .ok (.ofEntries (d.directSlots ++ d.ownSlots)) := by
  refine render_ok ?_
  rw [h]
  show ∀ slot ∈ ["GENERATED_WARNING", "EXTRA_CONSTANTS", "ConfigOptions", "PLATFORM_INCLUDES",
    "AprinterIncludes", "GlobalCode", "InitCalls", "GlobalResourceExprs",
    "GlobalResourceContextAliases", "GlobalResourceProgramChildren", "GlobalResourceInit"], _
  decide

/-- What the finish of a build contributes. -/
def closingItems (x : Site document) (a : AnalogDriver) (g : Gain) : List Item :=
  a.resource g.pins :: { x.clock with claims := g.units }.closingItems

/-- The deferred work of a build is to write the resource of the analog inputs. -/
theorem ends_performWorks {U : Symbol → Prop} {w : Workspace} {a : AnalogDriver}
    (hw : w.Orderly x U) (hx : .analogPins ∈ x.kinds) (hU : ¬ U (.plain "MyAdc")) :
    Ends (performWorks [.analogDriver a]) w
      (Led (Using U [.plain "MyAdc"]) (fun _ g x' => g = .ofItems [a.resource w.pins] ∧ x' = x) w)
      (Reports document) := by
  have hresource : (a.resource w.pins).symbol? = some (Symbol.plain "MyAdc").name := rfl
  have hfresh : Fresh U [Symbol.plain "MyAdc"] := by
    refine ⟨by decide, by decide, ?_⟩
    intro t ht
    rw [List.mem_singleton.1 ht]
    exact hU
  have hemit := declares_emit hresource U w hw hfresh
  have hfinish : Ends (finishAnalog a) w (Led (Using U [.plain "MyAdc"])
      (fun _ g x' => g = .ofItems [a.resource w.pins] ∧ x' = x) w) (Reports document) := by
    unfold finishAnalog
    apply (ends_analogPins hx hw).bind
    intro pins w' hgives
    obtain ⟨hread, rfl⟩ := hgives
    have hpins : w'.pins = pins := by
      unfold Workspace.pins
      rw [hread]
    rw [← hpins]
    exact hemit
  apply hfinish.bind
  intro _ w' hw'
  exact ends_pure hw'

/-- The closing of the facilities, and the rendering of all that has been contributed. -/
theorem ends_closing {U : Symbol → Prop} {w : Workspace} (hw : w.Orderly x U)
    (hkinds : x.kinds = [.clock, .pinNames, .analogPins]) (hslots : x.slots = directSlotNames) :
    Ends (do
        let w ← get
        closeFacilities w.facilities
        let w ← get
        w.draft.render) w
      (fun slots w' => ∃ d, d = Draft.mk (w.draft.items
          ++ { x.clock with claims := w.units }.closingItems)
        ∧ slots = .ofEntries (d.directSlots ++ d.ownSlots)
        ∧ d.filledSlots = directSlotNames ++ ["CLOCK"] ∧ w'.units = w.units ∧ w'.draft = d)
      (Reports document) := by
  refine Ends.bind (Q := fun v w' => v = w ∧ w' = w) (ends_ok rfl ⟨rfl, rfl⟩) ?_
  intro _ w hgives
  obtain ⟨rfl, rfl⟩ := hgives
  obtain ⟨ns, ps, hfacilities, -⟩ := hw.facilities hkinds
  rw [hfacilities]
  have hfree : "CLOCK" ∉ x.slots := by
    rw [hslots]
    decide
  -- Of the facilities only the clock contributes when it is closed.
  have hclosed : Leads x [] (closeFacilities [.clock { x.clock with claims := w.units },
      .pinNames ns, .analogPins ps]) fun _ g x' =>
        g = .ofItems { x.clock with claims := w.units }.closingItems
          ∧ x' = { x with slots := x.slots ++ ["CLOCK"] } :=
    leads_closeFacilities hfree
  refine (hclosed U w hw ⟨List.nodup_nil, by simp, by simp⟩).bind ?_
  intro _ w₁ hgives
  obtain ⟨⟨_, z, ⟨rfl, hz⟩, hg, hw₁⟩, -⟩ := hgives
  refine Ends.bind (Q := fun v w' => v = w₁ ∧ w' = w₁) (ends_ok rfl ⟨rfl, rfl⟩) ?_
  intro _ w₁ hgives
  obtain ⟨rfl, rfl⟩ := hgives
  have hdirect : w₁.draft.filledSlots = directSlotNames ++ ["CLOCK"] := by
    rw [hw₁.slots, hz, ← hslots]
  rw [render_finished hdirect]
  refine ends_ok rfl ⟨w₁.draft, congrArg Draft.mk hg.items, rfl, hdirect, ?_, rfl⟩
  exact hg.units.trans (List.append_nil _)

/-- The finish of a build renders the contributed items and the closing ones. -/
theorem ends_finish {U : Symbol → Prop} {w : Workspace} {a : AnalogDriver} {g : Gain}
    (hw : w.Orderly x U) (hg : Workspace.empty.Gains g w)
    (hkinds : x.kinds = [.clock, .pinNames, .analogPins])
    (hdeferred : x.deferred = [.analogDriver a]) (hslots : x.slots = directSlotNames)
    (hU : ¬ U (.plain "MyAdc")) :
    Ends finish w (fun slots w' => ∃ d, d = Draft.mk (g.items ++ closingItems x a g)
        ∧ slots = .ofEntries (d.directSlots ++ d.ownSlots)
        ∧ d.filledSlots = directSlotNames ++ ["CLOCK"] ∧ w'.units = g.units ∧ w'.draft = d)
      (Reports document) := by
  have hpins : w.pins = g.pins := hg.pins
  unfold finish
  refine Ends.bind (Q := fun v w' => v = w ∧ w' = w) (ends_ok rfl ⟨rfl, rfl⟩) ?_
  intro _ w hgives
  obtain ⟨rfl, rfl⟩ := hgives
  refine Ends.bind (Q := fun _ w' => w' = { w with phase := .finishing, deferred := [] })
    (ends_ok rfl rfl) ?_
  intro _ _ hgives
  subst hgives
  -- From here on the build is on the site of the finish.
  have hfinishing : Workspace.Orderly { x with phase := .finishing, deferred := [] } U
      { w with phase := .finishing, deferred := [] } :=
    ⟨rfl, hw.kinds, hw.clock, hw.grammars, hw.objects, rfl, hw.slots, hw.symbols⟩
  rw [hw.deferred, hdeferred]
  refine (ends_performWorks hfinishing (by simp [hkinds]) hU).bind ?_
  intro _ w₁ hgives
  obtain ⟨⟨_, z, ⟨rfl, hz⟩, hg₁, hw₁⟩, -⟩ := hgives
  rw [hz] at hw₁
  refine (ends_closing hw₁ hkinds hslots).mono ?_
  intro slots w' hgives
  obtain ⟨d, hd, hrendered, hfilled, hkept, hdraft⟩ := hgives
  have hitems : w₁.draft.items = g.items ++ [a.resource g.pins] := by
    rw [hg₁.items, ← hpins]
    exact congrArg (· ++ [a.resource w.pins]) hg.items
  have hunits : w₁.units = g.units := by
    rw [hg₁.units, ← List.append_nil g.units]
    exact congrArg (· ++ []) hg.units
  refine ⟨d, ?_, hrendered, hfilled, hkept.trans hunits, hdraft⟩
  rw [hd, hitems, hunits, List.append_assoc]
  rfl

end Finishing

/-! ## §2. Compiling. -/

/-- What stands for the clock until one is set up. -/
def noClock : Clock where
  family := .avr
  prescaler := ""
  primary := '0'
  configured := []
  claims := []

/-- The site on which a build begins. -/
def Site.start (document : Value) : Site document where
  phase := .collecting
  kinds := []
  clock := noClock
  grammars := []
  objects := []
  deferred := []
  slots := []
  inside := by simp

theorem orderly_empty (document : Value) :
    Workspace.empty.Orderly (Site.start document) fun _ => False := by
  refine ⟨rfl, rfl, ?_, ?_, rfl, rfl, rfl, ?_⟩
  · intro c hgives
    obtain ⟨⟩ := hgives
  · intro ns hgives
    obtain ⟨⟩ := hgives
  · intro s hgives
    obtain ⟨⟩ := hgives

/-- The configuration to compile and its board are objects of the document. -/
theorem honest_selectSections (document : Value) (name? : Option String) :
    Honest document (selectSections (.root document) name?) fun r =>
      r.1.In document ∧ r.2.In document := by
  have hroot := Cursor.at_root document
  have hname : Honest document (configurationName (.root document) name?) fun _ => True := by
    cases name? with
    | none => exact (hroot.honest_string _).mono fun _ _ => trivial
    | some name => exact honest_ok trivial
  unfold selectSections
  apply hname.bind
  intro name _
  apply (hroot.honest_find _ _ _).bind
  intro config hconfig
  apply (hconfig.placed.honest_string _).bind
  intro boardName _
  apply (hroot.honest_find _ _ _).bind
  intro board hboard
  exact honest_ok ⟨hconfig, hboard⟩

/-- A compiled program: what the sections of the board and of the printer contribute,
and what the finish of the build adds to it.  The clock has the units which the sections
have claimed when the build ends. -/
inductive CompileGives (document : Value) (name? : Option String) : Compiled → Prop where
  | mk {config board : Cursor} {x : Site document} {parts : BoardParts} {a : AnalogDriver}
      {boardGain printerGain : Gain} {d : Draft}
      (hsections : selectSections (.root document) name? = .ok (config, board))
      (hboard : BoardGives (.start document) board x parts boardGain)
      (hprinter : PrinterGives x config parts printerGain)
      (hdeferred : x.deferred = [.analogDriver a])
      (hd : d = ⟨(boardGain ++ printerGain).items ++ closingItems x a (boardGain ++ printerGain)⟩)
      {w : Workspace} (hfilled : d.filledSlots = directSlotNames ++ ["CLOCK"])
      (hunits : w.units = (boardGain ++ printerGain).units)
      (hrun : build document name? .empty
        = .ok { slots := .ofEntries (d.directSlots ++ d.ownSlots), buildName := parts.buildName,
                imageFormat := parts.imageFormat } w)
      (hdraft : w.draft = d) :
      CompileGives document name?
        { slots := .ofEntries (d.directSlots ++ d.ownSlots), buildName := parts.buildName,
          imageFormat := parts.imageFormat }

/-- What is known of the site which a board leads to. -/
theorem BoardGives.site {board : Cursor} {x : Site document} {parts : BoardParts} {g : Gain}
    (h : BoardGives (.start document) board x parts g) (hboard : board.In document) :
    x.kinds = [.clock, .pinNames, .analogPins] ∧ x.slots = ["BoardForBuild"]
      ∧ (∃ a, x.deferred = [.analogDriver a]) ∧ parts.performance.In document := by
  cases h with
  | mk _ _ _ _ _ _ _ _ _ hy _ _ hperformance _ _ _ _ _ _ _ _ =>
      have hin := (hboard.placed.honest_enter _).value _ hperformance
      subst hy
      exact ⟨rfl, rfl, ⟨_, rfl⟩, hin⟩

/-- The printer declares no symbol of a board. -/
theorem PrinterSymbol.not_board {t : Symbol} (h : PrinterSymbol t) : t ∉ boardPlain := by
  have hlists : ∀ t ∈ advancedPlain ++ probePlain ++ transformPlain
      ++ (paramsPlain ++ [.plain "MyPrinter"]), t ∉ boardPlain := by decide
  have hscope : ∀ t ∈ boardPlain, t.scope? = none := by decide
  intro hmem
  rcases h with ht | (ht | ht | ht) | ht
  · exact hlists t (by simp [ht]) hmem
  · exact hlists t (by simp [ht]) hmem
  · exact hlists t (by simp [ht]) hmem
  · rw [hscope t hmem] at ht
    cases ht
  · exact hlists t (List.mem_append_right _ ht) hmem

/-- The resource of the analog inputs is declared by the finish alone. -/
theorem not_printerSymbol_adc : ¬ PrinterSymbol (.plain "MyAdc") := by
  intro hcase
  rcases hcase with h | (h | h | h) | h
  · revert h
    decide
  · revert h
    decide
  · revert h
    decide
  · cases h
  · revert h
    decide

/-- **How the build of a program ends.** -/
theorem ends_build (document : Value) (name? : Option String) :
    Ends (build document name?) .empty
      (fun c w => build document name? .empty = .ok c w → CompileGives document name? c)
      (Reports document) := by
  unfold build
  apply ends_read_bind (honest_selectSections document name?).violation
  rintro ⟨config, board⟩ hsections
  obtain ⟨hconfigIn, hboardIn⟩ := (honest_selectSections document name?).value _ hsections
  -- The board works on an empty workspace.
  have hsetUp := (leads_setUp (x := .start document) hboardIn rfl rfl (by simp [Site.start])).reaches
    (by decide) (by decide)
  apply (hsetUp _ _ (orderly_empty document) fun _ _ hf => hf).bind
  intro parts w₁ hgives
  obtain ⟨⟨boardGain, x, hboard, hg₁, hw₁⟩, -⟩ := hgives
  -- The printer works on the site of the board, where its slots and symbols are new.
  obtain ⟨hkinds, hslots, ⟨a, hdeferred⟩, hperformance⟩ := hboard.site hboardIn
  have hequipped : x.Equipped := by
    constructor <;> simp [hkinds]
  have hprinterSlots : ∀ slot ∈ printerSlots, slot ∉ x.slots := by
    rw [hslots]
    decide
  have hprinter := reaches_printer hequipped hconfigIn hperformance hprinterSlots
  refine (hprinter _ w₁ hw₁ ?_).bind ?_
  · intro t ht hcase
    rcases hcase with hf | hmem
    · exact hf
    · exact ht.not_board hmem
  intro _ w₂ hgives
  obtain ⟨⟨printerGain, y, ⟨hprinter, hy⟩, hg₂, hw₂⟩, -⟩ := hgives
  -- The finish starts with what the board and the printer have gained.
  have hfinish := ends_finish (a := a) hw₂ (hg₁.trans hg₂) (by rw [hy]; exact hkinds)
    (by rw [hy]; exact hdeferred) (by rw [hy, hslots]; rfl) ?_
  · apply hfinish.bind
    intro _ w₃ hgives
    obtain ⟨d, hd, rfl, hfilled, hunits, hdraft⟩ := hgives
    have hclosing : closingItems y a (boardGain ++ printerGain)
        = closingItems x a (boardGain ++ printerGain) := by
      rw [hy]
      rfl
    rw [hclosing] at hd
    exact ends_pure fun hrun =>
      .mk hsections hboard hprinter hdeferred hd hfilled hunits hrun hdraft
  · intro hcase
    rcases hcase with (hf | hmem) | hsymbol
    · exact hf
    · revert hmem
      decide
    · exact not_printerSymbol_adc hsymbol

/-- What a compiled program consists of. -/
theorem compile_gives {name? : Option String} {c : Compiled}
    (h : compile document name? = .ok c) : CompileGives document name? c := by
  unfold compile at h
  cases hb : build document name? .empty with
  | ok compiled w =>
      rw [hb] at h
      injection h with h
      subst h
      exact (ends_build document name?).result compiled w hb hb
  | error e w =>
      rw [hb] at h
      cases h

/-- A failure of compiling is a report which is true of the document. -/
theorem compile_reports {name? : Option String} {e : Failure}
    (h : compile document name? = .error e) : Reports document e := by
  unfold compile at h
  cases hb : build document name? .empty with
  | ok compiled w =>
      rw [hb] at h
      cases h
  | error e' w =>
      rw [hb] at h
      injection h with h
      subst h
      exact (ends_build document name?).failure e' w hb

/-- **Compiling accepts a document or reports what is wrong with it.**  No run declares
a symbol twice, fills a slot twice, registers a facility twice or uses one which is not
registered, registers anything after the document has been read, or builds a choice
with a repeated tag: these are the broken rules, and none of them is ever the outcome. -/
theorem compile_accepts_or_reports (document : Value) (name? : Option String) :
    (∃ c, compile document name? = .ok c)
      ∨ ∃ e, compile document name? = .error (.document e) := by
  cases h : compile document name? with
  | ok c => exact Or.inl ⟨c, rfl⟩
  | error e =>
      cases e with
      | document e => exact Or.inr ⟨e, rfl⟩
      | breach b => exact (compile_reports h).elim

/-- **Every report points at its place of the document and is true there.** -/
theorem compile_report_true {name? : Option String} {e : Located}
    (h : compile document name? = .error (.document e)) : e.TrueOf document :=
  compile_reports h

/-- A description whose board has a name which is no word. -/
def misnamed : Value :=
  .object [("selected_config", .string "C"),
    ("configurations", .list [.object [("name", .string "C"), ("board", .string "B")]]),
    ("boards", .list [.object [("name", .string "B"),
      ("platform_config", .object [("board_for_build", .string "a b")])]])]

/-- The report on the name of a board. -/
def misnamedReport : Located where
  path := ⟨[.key "boards", .index 0, .key "platform_config", .key "board_for_build"]⟩
  violation := .badFormat "expected a word"

/-- The name which is no word is reported where it stands. -/
theorem misnamed_report_true : compile misnamed none = .error (.document misnamedReport)
    ∧ misnamedReport.TrueOf misnamed := by
  have h : compile misnamed none = .error (.document misnamedReport) := by decide +kernel
  exact ⟨h, compile_report_true h⟩

end PrinterFirmware
