/-
  PrinterFirmware.Proofs.Generation
  ─────────────────────────────────
  **THE MAIN TEMPLATE CAN ALWAYS BE FILLED.**

  A compiled program has the slots which it fills itself and four which are filled while
  it is built, on every path of every document: the board, the clock, the root of the
  fast events and the provider of the emergency stop.  The main template names no other
  slot.  So generating a firmware from it fails only where compiling fails.

      Parts.Tidy                a template with dollar signs in its openings only
      Parts.Tidy.fills          it can be filled, and no dollar sign is left
      placeholders_bundled      the main template is one
      compile_slots             the slots of a compiled program

  Main result: `generate_bundled`.
-/
import PrinterFirmware.Program.MainTemplate
import PrinterFirmware.Proofs.Containment
import PrinterFirmware.Proofs.Filling
import PrinterFirmware.Proofs.Rendering

namespace PrinterFirmware

open Document Naming Build Board Machine

/-! ## §1. Templates with placeholders only. -/

namespace Template

/-- The slots which the placeholders of a text name, if the text has dollar signs only
where it opens a placeholder and all placeholders are closed. -/
def placeholders : Nat → List Char → Option (List String)
  | 0, _ => none
  | _ + 1, [] => some []
  | n + 1, '$' :: '$' :: '\x7b' :: inner =>
      match splitAtClose inner with
      | none => none
      | some (name, after) => (placeholders n after).map (String.ofList name :: ·)
  | n + 1, c :: rest => if c = '$' then none else placeholders n rest

/-- All placeholders are closed, they name the given slots, and there are no other dollar
signs. -/
structure Parts.Tidy (parts : Parts) (names : List String) : Prop where
  closed : parts.opened = none
  slots : parts.holes.map Hole.slot = names
  before : ∀ hole ∈ parts.holes, '$' ∉ hole.before
  last : '$' ∉ parts.last

theorem noOpening_of_not_mem {text : List Char} (h : '$' ∉ text) : NoOpening text := by
  intro hin
  exact h (hin.subset (by decide))

theorem splitAtClose_eq_some {cs name after : List Char}
    (h : splitAtClose cs = some (name, after)) :
    cs = name ++ '\x7d' :: after ∧ '\x7d' ∉ name := by
  by_cases hcs : '\x7d' ∈ cs
  · obtain ⟨name', after', rfl, hname⟩ := List.eq_append_cons_of_mem hcs
    rw [splitAtClose_closed hname] at h
    cases h
    exact ⟨rfl, hname⟩
  · rw [splitAtClose_open hcs] at h
    cases h

/-- A character which is no dollar sign comes to the text before the first placeholder. -/
theorem Parts.Tidy.push {parts : Parts} {names : List String} (h : parts.Tidy names) {c : Char}
    (hc : c ≠ '$') : ∃ more : Parts, more.text = c :: parts.text ∧ more.Tidy names := by
  have hpush : ∀ {text : List Char}, '$' ∉ text → '$' ∉ c :: text := by
    intro text htext hmem
    cases List.mem_cons.1 hmem with
    | inl heq => exact hc heq.symm
    | inr hmem => exact htext hmem
  cases parts using Parts.induction with
  | done last plain =>
    have hlast := hpush h.last
    refine ⟨.done (c :: last) (noOpening_of_not_mem hlast), ?_, ?_⟩
    · rw [Parts.text_done, Parts.text_done]
    · exact ⟨rfl, h.slots, by simp [Parts.done], hlast⟩
  | opened last tail plain unclosed => cases h.closed
  | cons hole parts _ =>
    have hbefore := hpush (h.before hole List.mem_cons_self)
    let first : Hole :=
      ⟨c :: hole.before, hole.name, noOpening_of_not_mem hbefore, hole.closed⟩
    refine ⟨parts.cons first, ?_, ?_⟩
    · rw [Parts.text_cons, Parts.text_cons]
      rfl
    · refine ⟨h.closed, h.slots, ?_, h.last⟩
      intro other hother
      cases List.mem_cons.1 hother with
      | inl heq => exact heq ▸ hbefore
      | inr hmem => exact h.before other (List.mem_cons_of_mem _ hmem)

/-- The parts of a text whose placeholders have been read. -/
theorem exists_tidy {n : Nat} {cs : List Char} {names : List String}
    (h : placeholders n cs = some names) : ∃ parts : Parts, parts.text = cs ∧ parts.Tidy names := by
  -- Fuel runs out, the text ends, a placeholder is left open or closed, a dollar sign stands alone,
  -- or any other character is read.
  induction n, cs using placeholders.induct generalizing names with
  | case1 cs => cases h
  | case2 n =>
    cases h
    exact ⟨.done [] noOpening_nil, Parts.text_done .., rfl, rfl, by simp [Parts.done],
      by simp [Parts.done]⟩
  | case3 n inner hnone =>
    rw [placeholders, hnone] at h
    cases h
  | case4 n inner name after hsome ih =>
    rw [placeholders, hsome] at h
    obtain ⟨more, hmore, rfl⟩ := Option.map_eq_some_iff.1 h
    obtain ⟨parts, rfl, htidy⟩ := ih hmore
    obtain ⟨rfl, hname⟩ := splitAtClose_eq_some hsome
    refine ⟨parts.cons ⟨[], name, noOpening_nil, hname⟩, ?_, ?_⟩
    · rw [Parts.text_cons]
      rfl
    · refine ⟨htidy.closed, by simp [Parts.cons, Hole.slot, htidy.slots], ?_, htidy.last⟩
      intro hole hhole
      cases List.mem_cons.1 hhole with
      | inl heq => simp [heq]
      | inr hmem => exact htidy.before hole hmem
  | case5 n rest hno =>
    rw [placeholders, if_pos rfl] at h
    · cases h
    · exact hno
  | case6 n c rest hno hc ih =>
    rw [placeholders, if_neg hc] at h
    · obtain ⟨parts, rfl, htidy⟩ := ih h
      exact htidy.push hc
    · exact hno

/-- The names of the placeholders of a tidy template are slots which are there. -/
theorem Parts.Tidy.filledBy {parts : Parts} {names : List String} (h : parts.Tidy names)
    {slots : SlotMap} (hnames : ∀ name ∈ names, name ∈ slots.slots) :
    ∃ texts, List.Forall₂ (Hole.FilledBy slots) parts.holes texts := by
  cases filled_or_unknown slots parts.holes with
  | inl hall => exact hall
  | inr hunknown =>
    obtain ⟨before, bad, after, hholes, -, hbad⟩ := hunknown
    have hslot : bad.slot ∈ names := by
      rw [← h.slots, hholes]
      simp
    exact absurd (hnames bad.slot hslot) (Ascending.lookup_eq_none_iff.1 hbad)

/-- What has been filled has no characters but those of the template and of the slots. -/
theorem not_mem_fillHoles {slots : SlotMap} {c : Char} {holes : List Hole} {texts : List String}
    (h : List.Forall₂ (Hole.FilledBy slots) holes texts) (hbefore : ∀ hole ∈ holes, c ∉ hole.before)
    (hslots : ∀ e ∈ slots.entries, c ∉ e.2.toList) : c ∉ fillHoles holes texts := by
  induction h with
  | nil => simp [fillHoles]
  | @cons hole text holes texts hfirst _ ih =>
    obtain ⟨front, back, hentries, -⟩ := List.lookup_eq_some_iff.1 hfirst
    have htext : c ∉ text.toList := hslots (hole.slot, text) (by simp [hentries])
    have hrest := ih fun hole hmem => hbefore hole (List.mem_cons_of_mem _ hmem)
    have hhole := hbefore hole List.mem_cons_self
    simp only [fillHoles] at hrest
    simp [fillHoles, Hole.filled, hhole, htext, hrest]

/-- A tidy template is filled if its slots are there, and where the texts of the slots have
no dollar signs, what has been filled has none. -/
theorem Parts.Tidy.fills {template : String} {parts : Parts} {names : List String}
    (h : parts.Tidy names) (htext : parts.text = template.toList) {slots : SlotMap}
    (hnames : ∀ name ∈ names, name ∈ slots.slots)
    (hslots : ∀ e ∈ slots.entries, '$' ∉ e.2.toList) :
    ∃ filled, fill template slots = .ok filled ∧ '$' ∉ filled.toList := by
  obtain ⟨texts, htexts⟩ := h.filledBy hnames
  have hfills : parts.FillsTo slots (String.ofList (fillHoles parts.holes texts ++ parts.last)) :=
    ⟨h.closed, texts, htexts, String.toList_ofList⟩
  refine ⟨_, hfills.fill htext, ?_⟩
  rw [String.toList_ofList, List.mem_append, not_or]
  exact ⟨not_mem_fillHoles htexts h.before hslots, h.last⟩

/-! ## §2. The main template. -/

/-- The slots which the main template names. -/
def bundledNames : List String :=
  ["GENERATED_WARNING", "BoardForBuild", "PLATFORM_INCLUDES", "AprinterIncludes",
   "EXTRA_CONSTANTS", "ConfigOptions", "CLOCK", "GlobalResourceExprs",
   "GlobalResourceContextAliases", "GlobalResourceProgramChildren", "GlobalCode",
   "EmergencyProvider", "InitCalls", "GlobalResourceInit"]

/-- The characters of the main template, and what its placeholders are. -/
theorem exists_bundled_lines : ∃ lines : List (List Char),
    mainLines = lines.map String.ofList
      ∧ placeholders 5000 (lines.flatMap (· ++ ['\n'])) = some bundledNames := by
  have hcons : ∀ {line : String} {chars : List Char} {rest : List String}
      {lines : List (List Char)}, line = String.ofList chars → rest = lines.map String.ofList →
        line :: rest = (chars :: lines).map String.ofList := by
    intro line chars rest lines hline hrest
    rw [hline, hrest, List.map_cons]
  apply Exists.intro
  apply And.intro
  -- A literal is the text of its characters by definition, whereas reading the characters
  -- back from its encoding is slow.
  · simp only [mainLines]
    repeat apply hcons rfl
    exact List.map_nil.symm
  · decide +kernel

theorem placeholders_bundled : placeholders 5000 bundled.toList = some bundledNames := by
  obtain ⟨lines, hlines, hread⟩ := exists_bundled_lines
  have hchars : bundled.toList = lines.flatMap (· ++ ['\n']) := by
    rw [bundled, String.toList_join, hlines, List.map_map, List.flatMap_map]
    simp
  rw [hchars, hread]

end Template

/-! ## §3. Compiled programs. -/

variable {document : Value} {name? : Option String} {c : Compiled}

/-- The slots of every program: those which it fills itself, and those which are filled
while it is built. -/
def programSlots : List String :=
  Draft.ownNames ++ ["BoardForBuild", "CLOCK", "FastEventRoot", "EmergencyProvider"]

/-- A program has the slots which are filled directly and those which it fills itself. -/
theorem Draft.slots_perm {d : Draft} (h : d.filledSlots = directSlotNames ++ ["CLOCK"]) :
    (SlotMap.ofEntries (d.directSlots ++ d.ownSlots)).slots.Perm programSlots := by
  have hnames : (d.directSlots ++ d.ownSlots).map (·.1)
      = directSlotNames ++ ["CLOCK"] ++ Draft.ownNames := by
    rw [List.map_append, Draft.directSlots_names, Draft.ownSlots_names, h]
  have hnodup : ((d.directSlots ++ d.ownSlots).map (·.1)).Nodup := by
    rw [hnames]
    decide
  have hslots := (Ascending.mapOf_perm hnodup).map (·.1)
  rw [hnames] at hslots
  exact hslots.trans (by decide)

theorem compile_slots (h : compile document name? = .ok c) : c.slots.slots.Perm programSlots := by
  cases compile_gives h with
  | mk _ _ _ _ _ hfilled => exact Draft.slots_perm hfilled

/-- The slots of a compiled program consist of characters of source. -/
theorem isSource_compiled (h : compile document name? = .ok c) :
    ∀ e ∈ c.slots.entries, ∀ ch ∈ e.2.toList, isSource ch = true := by
  cases compile_gives h with
  | mk _ hboard hprinter hdeferred hd =>
    subst hd
    exact fun e he => (Draft.sourceText_slots (tame_compiled hboard hprinter hdeferred) e he).chars

/-- No slot of a compiled program has a dollar sign. -/
theorem compile_no_dollar (h : compile document name? = .ok c) :
    ∀ e ∈ c.slots.entries, '$' ∉ e.2.toList := by
  have hdollar : isSource '$' = false := by decide
  intro e he hmem
  rw [isSource_compiled h e he '$' hmem] at hdollar
  cases hdollar

/-- The slots of a compiled program are put into the main template. -/
theorem fill_bundled (h : compile document name? = .ok c) :
    ∃ filled, Template.fill Template.bundled c.slots = .ok filled
      ∧ Template.NoOpening filled.toList := by
  obtain ⟨parts, htext, htidy⟩ := Template.exists_tidy Template.placeholders_bundled
  have hnames : ∀ name ∈ Template.bundledNames, name ∈ c.slots.slots := by
    have hknown : ∀ name ∈ Template.bundledNames, name ∈ programSlots := by decide
    intro name hname
    exact (compile_slots h).mem_iff.2 (hknown name hname)
  obtain ⟨filled, hfill, hdollar⟩ := htidy.fills htext hnames (compile_no_dollar h)
  exact ⟨filled, hfill, Template.noOpening_of_not_mem hdollar⟩

theorem generate_of_error {e : Failure} (h : compile document name? = .error e)
    (template : String) : generate document name? template = .error (.compilation e) := by
  rw [generate, h]
  rfl

theorem generate_of_fill (h : compile document name? = .ok c) {template filled : String}
    (hfill : Template.fill template c.slots = .ok filled) :
    generate document name? template = .ok ⟨filled, c.buildName, c.imageFormat⟩ := by
  have hcompiled : c.fill template = .ok ⟨filled, c.buildName, c.imageFormat⟩ := by
    rw [Compiled.fill, hfill]
    rfl
  rw [generate, h]
  exact congrArg (Except.mapError GenerateError.template) hcompiled

/-- **The main template can always be filled.**  A document which is compiled has the same
fifteen slots whatever it describes, a firmware is generated from it with the main template,
and no placeholder is opened in its main source.  A document which is not compiled fails
with the failure of compiling, so that there is no fault of the template on any document. -/
theorem generate_bundled (document : Value) (name? : Option String) :
    (∀ c, compile document name? = .ok c →
      c.slots.slots.Perm programSlots ∧ c.slots.size = 15
        ∧ ∃ g, generate document name? Template.bundled = .ok g)
      ∧ (∀ e, generate document name? Template.bundled ≠ .error (.template e))
      ∧ ∀ g, generate document name? Template.bundled = .ok g →
        Template.NoOpening g.mainSource.toList := by
  cases hcompile : compile document name? with
  | error e =>
    rw [generate_of_error hcompile]
    refine ⟨?_, ?_, ?_⟩
    · intro c hc
      cases hc
    · intro e' he'
      cases he'
    · intro g hg
      cases hg
  | ok c =>
    obtain ⟨filled, hfill, hplain⟩ := fill_bundled hcompile
    rw [generate_of_fill hcompile hfill]
    refine ⟨?_, ?_, ?_⟩
    · intro c' hc'
      cases hc'
      have hslots := compile_slots hcompile
      refine ⟨hslots, ?_, _, rfl⟩
      exact (List.length_map _).symm.trans (hslots.length_eq.trans rfl)
    · intro e he
      cases he
    · intro g hg
      cases hg
      exact hplain

/-- The firmware of the small description. -/
theorem sample_generated : ∃ c g, compile Sample.description none = .ok c
    ∧ c.slots.slots.Perm programSlots
    ∧ generate Sample.description none Template.bundled = .ok g
    ∧ Template.NoOpening g.mainSource.toList := by
  obtain ⟨hcompiled, -, hgenerated⟩ := generate_bundled Sample.description none
  obtain ⟨c, hc⟩ := Sample.compiles
  obtain ⟨hslots, -, g, hg⟩ := hcompiled c hc
  exact ⟨c, g, hc, hslots, hg, hgenerated g hg⟩

end PrinterFirmware
