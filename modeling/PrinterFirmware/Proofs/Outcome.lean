/-
  PrinterFirmware.Proofs.Outcome
  ──────────────────────────────
  **A COMMAND LINE IS CARRIED OUT AS ITS FIRMWARE IS GENERATED.**

  A run reads its files first and then goes through the stages of generating one by one,
  with a dump of the slots between two of them.  `Outcome` says what a run does in
  terms of generating as a whole: its exit code and the files after it, one case for each
  way to end.  The cases exclude one another, and every run ends in one of them:

      exit   the first of these to apply
      1      the description cannot be read
      3      the template cannot be read
      2      generating fails on the description
      4      the slots cannot be dumped
      3      generating fails on the template
      4, 0   the output, which generating alone decides, cannot be written or is written

  The files are those of any file system (`FileSystem`).

  Main result: `run_outcome`.
-/
import PrinterFirmware.CommandLine.Folder
import PrinterFirmware.Proofs.Ascending
import PrinterFirmware.Proofs.Generation

namespace PrinterFirmware

namespace CommandLine

open Document

variable {σ κ α β : Type}

/-! ## §1. File systems. -/

/-- A file system: its states are `σ`, and `κ` is what can stand where a path leads to. -/
structure FileSystem (σ κ : Type) where
  content : σ → String → κ
  /-- The text of a content, if it can be read. -/
  text? : κ → Option String
  /-- Writes a text to a path: whether that succeeds, and the state after it.  A text which
  could not be written may have been written in part. -/
  write : σ → String → String → Bool × σ
  /-- Two paths which lead to different files. -/
  Apart : String → String → Prop
  write_apart : ∀ s path text other, Apart path other →
    content (write s path text).2 other = content s other

namespace FileSystem

variable (fs : FileSystem σ κ) (o : Options) (s : σ)

/-- The text which can be read at a path. -/
def read? (path : String) : Option String := fs.text? (fs.content s path)

/-- Access to the files of the system; reading leaves its state. -/
def access : FileAccess (StateM σ) where
  read path := fun s => (fs.read? s path, s)
  write path text := fun s => fs.write s path text

/-- The description which a command line names. -/
def document : Except ReadError Value := Format.readAt o.input (fs.read? s o.input)

/-- The template which a command line names, or the bundled one. -/
def template? : Option String :=
  match o.template with
  | none => some Template.bundled
  | some path => fs.read? s path

/-- Dumps slots if a command line asks for that: whether all went well, and the state after
it. -/
def dump (slots : SlotMap) : Bool × σ :=
  match o.slotDump with
  | none => (true, s)
  | some path => fs.write s path (SlotDump.render slots)

/-- Carries a command line out in a state: the result and the state after it. -/
def run : Except Problem Unit × σ := ((CommandLine.run fs.access o).run.run s).run

/-- A dump leaves what stands in other files. -/
theorem content_dump {path : String} (slots : SlotMap)
    (h : ∀ dumpPath, o.slotDump = some dumpPath → fs.Apart dumpPath path) :
    fs.content (fs.dump o s slots).2 path = fs.content s path := by
  unfold dump
  cases hpath : o.slotDump with
  | none => rfl
  | some dumpPath => exact fs.write_apart s dumpPath _ path (h dumpPath hpath)

variable {fs : FileSystem σ κ} {o : Options} {s : σ}

/-- The bundled template is always there. -/
theorem template_of_template? (h : fs.template? o s = none) : ∃ path, o.template = some path := by
  unfold template? at h
  cases hpath : o.template with
  | none =>
    rw [hpath] at h
    cases h
  | some path => exact ⟨path, rfl⟩

/-- A dump which is not asked for cannot fail. -/
theorem slotDump_of_dump {slots : SlotMap} (h : (fs.dump o s slots).1 = false) :
    ∃ path, o.slotDump = some path := by
  unfold dump at h
  cases hpath : o.slotDump with
  | none =>
    rw [hpath] at h
    cases h
  | some path => exact ⟨path, rfl⟩

end FileSystem

/-- The exit code of a run. -/
def exitCode : Except Problem Unit → Nat
  | .ok () => 0
  | .error p => p.exitCode

/-! ## §2. The stages of a run. -/

/-- What a stage of a run does in a state. -/
def stage (m : ExceptT Problem (StateM σ) α) (s : σ) : Except Problem α × σ := (m.run.run s).run

section Stages

variable {m : ExceptT Problem (StateM σ) α} {f : α → ExceptT Problem (StateM σ) β} {s s' : σ}

theorem stage_bind_ok {a : α} (h : stage m s = (.ok a, s')) : stage (m >>= f) s = stage (f a) s' := by
  have h : m s = (.ok a, s') := h
  show (StateT.bind m (ExceptT.bindCont f) s : Id (Except Problem β × σ)) = _
  unfold StateT.bind
  rw [h]
  rfl

theorem stage_bind_error {p : Problem} (h : stage m s = (.error p, s')) :
    stage (m >>= f) s = (.error p, s') := by
  have h : m s = (.error p, s') := h
  show (StateT.bind m (ExceptT.bindCont f) s : Id (Except Problem β × σ)) = _
  unfold StateT.bind
  rw [h]
  rfl

end Stages

section Files

variable {fs : FileSystem σ κ} {o : Options} {s : σ}

/-- To read a file changes nothing. -/
theorem stage_read (fs : FileSystem σ κ) (path : String) (s : σ) :
    stage (liftM (fs.access.read path)) s = (.ok (fs.read? s path), s) := rfl

/-- A description which can be read is read. -/
theorem stage_readInput_ok {document : Value} (h : fs.document o s = .ok document) :
    stage (readInput fs.access o) s = (.ok document, s) := by
  unfold readInput
  rw [stage_bind_ok (stage_read fs o.input s)]
  rw [show Format.readAt o.input (fs.read? s o.input) = .ok document from h]
  rfl

theorem stage_readInput_error {e : ReadError} (h : fs.document o s = .error e) :
    stage (readInput fs.access o) s = (.error (.input o.input e), s) := by
  unfold readInput
  rw [stage_bind_ok (stage_read fs o.input s)]
  rw [show Format.readAt o.input (fs.read? s o.input) = .error e from h]
  rfl

/-- A template which can be read is read, and the bundled one is there without reading. -/
theorem stage_readTemplate_some {template : String} (h : fs.template? o s = some template) :
    stage (readTemplate fs.access o) s = (.ok template, s) := by
  unfold FileSystem.template? at h
  unfold readTemplate
  cases hpath : o.template with
  | none =>
    rw [hpath] at h
    obtain rfl : Template.bundled = template := Option.some.inj h
    rfl
  | some path =>
    rw [hpath] at h
    rw [stage_bind_ok (stage_read fs path s)]
    rw [show fs.read? s path = some template from h]
    rfl

theorem stage_readTemplate_none {path : String} (h : fs.template? o s = none)
    (hpath : o.template = some path) :
    stage (readTemplate fs.access o) s = (.error (.templateFile path), s) := by
  unfold FileSystem.template? at h
  unfold readTemplate
  rw [hpath] at h ⊢
  rw [stage_bind_ok (stage_read fs path s)]
  rw [show fs.read? s path = none from h]
  rfl

/-- The stage which writes a text. -/
theorem stage_write (path text : String) (p : Problem) :
    stage (do if !(← fs.access.write path text) then throw p : ExceptT Problem (StateM σ) Unit) s
      = (if (fs.write s path text).1 then .ok () else .error p, (fs.write s path text).2) := by
  show stage (if !(fs.write s path text).1 then throw p else pure ()) (fs.write s path text).2 = _
  cases (fs.write s path text).1 <;> rfl

theorem stage_dumpSlots_ok {slots : SlotMap} (h : (fs.dump o s slots).1 = true) :
    stage (dumpSlots fs.access o slots) s = (.ok (), (fs.dump o s slots).2) := by
  unfold FileSystem.dump at h ⊢
  unfold dumpSlots
  cases hpath : o.slotDump with
  | none => rfl
  | some path =>
    rw [hpath] at h
    exact (stage_write path _ _).trans (by rw [if_pos h])

theorem stage_dumpSlots_error {slots : SlotMap} {path : String}
    (h : (fs.dump o s slots).1 = false) (hpath : o.slotDump = some path) :
    stage (dumpSlots fs.access o slots) s = (.error (.slotDump path), (fs.dump o s slots).2) := by
  unfold FileSystem.dump at h ⊢
  unfold dumpSlots
  rw [hpath] at h ⊢
  exact (stage_write path _ _).trans (by simp [h])

end Files

/-! ## §3. Generating in one piece and in stages. -/

section Stages

variable {document : Value} {name? : Option String} {template : String} {c : Compiled}

/-- Generating from what has been compiled is filling the template. -/
theorem generate_of_compiled (h : compile document name? = .ok c) :
    generate document name? template = (c.fill template).mapError .template := by
  unfold generate
  rw [h]
  rfl

/-- Generating fails on a description if compiling does. -/
theorem compile_of_generate {e : Failure}
    (h : generate document name? template = .error (.compilation e)) :
    compile document name? = .error e := by
  cases hcompile : compile document name? with
  | error e' =>
    rw [generate_of_error hcompile] at h
    injection h with h
    injection h with h
    rw [h]
  | ok c =>
    rw [generate_of_compiled hcompile] at h
    cases hfill : c.fill template with
    | ok g => rw [hfill] at h; cases h
    | error e' => rw [hfill] at h; cases h

/-- Generating fails on the template if that cannot be filled. -/
theorem fill_of_generate_error (hcompile : compile document name? = .ok c) {e : TemplateError}
    (h : generate document name? template = .error (.template e)) :
    c.fill template = .error e := by
  rw [generate_of_compiled hcompile] at h
  cases hfill : c.fill template with
  | ok g => rw [hfill] at h; cases h
  | error e' => rw [hfill] at h; cases h; rfl

theorem fill_of_generate_ok (hcompile : compile document name? = .ok c) {g : Generated}
    (h : generate document name? template = .ok g) : c.fill template = .ok g := by
  rw [generate_of_compiled hcompile] at h
  cases hfill : c.fill template with
  | ok g' => rw [hfill] at h; cases h; rfl
  | error e => rw [hfill] at h; cases h

end Stages

/-- What a run does with a compiled configuration. -/
def complete {m : Type → Type} [Monad m] (files : FileAccess m) (o : Options) (template : String)
    (c : Compiled) : ExceptT Problem m Unit := do
  dumpSlots files o c.slots
  let generated ←
    match c.fill template with
    | .ok generated => pure generated
    | .error e => throw (.template e)
  if !(← files.write o.output (outputText o generated)) then throw (.output o.output)

section Completion

variable {fs : FileSystem σ κ} {o : Options} {s : σ} {document : Value} {template : String}
  {c : Compiled}

/-- A run with a description and a template compiles a configuration and completes it. -/
theorem run_of_compiled (hdocument : fs.document o s = .ok document)
    (htemplate : fs.template? o s = some template)
    (hcompile : compile document o.configuration = .ok c) :
    fs.run o s = stage (complete fs.access o template c) s := by
  refine (stage_bind_ok (stage_readInput_ok hdocument)).trans ?_
  refine (stage_bind_ok (stage_readTemplate_some htemplate)).trans ?_
  rw [hcompile]
  exact stage_bind_ok rfl

theorem run_of_refused (hdocument : fs.document o s = .ok document)
    (htemplate : fs.template? o s = some template) {e : Failure}
    (hcompile : compile document o.configuration = .error e) :
    fs.run o s = (.error (.compilation e), s) := by
  refine (stage_bind_ok (stage_readInput_ok hdocument)).trans ?_
  refine (stage_bind_ok (stage_readTemplate_some htemplate)).trans ?_
  rw [hcompile]
  exact stage_bind_error rfl

/-- A dump which fails ends the run. -/
theorem complete_undumped {path : String} (hdump : (fs.dump o s c.slots).1 = false)
    (hpath : o.slotDump = some path) :
    stage (complete fs.access o template c) s
      = (.error (.slotDump path), (fs.dump o s c.slots).2) :=
  stage_bind_error (stage_dumpSlots_error hdump hpath)

theorem complete_unfilled (hdump : (fs.dump o s c.slots).1 = true) {e : TemplateError}
    (hfill : c.fill template = .error e) :
    stage (complete fs.access o template c) s
      = (.error (.template e), (fs.dump o s c.slots).2) := by
  refine (stage_bind_ok (stage_dumpSlots_ok hdump)).trans ?_
  rw [hfill]
  exact stage_bind_error rfl

/-- A filled template is written out. -/
theorem complete_filled (hdump : (fs.dump o s c.slots).1 = true) {g : Generated}
    (hfill : c.fill template = .ok g) {written : Bool × σ}
    (hwritten : fs.write (fs.dump o s c.slots).2 o.output (outputText o g) = written) :
    stage (complete fs.access o template c) s
      = (if written.1 then .ok () else .error (.output o.output), written.2) := by
  refine (stage_bind_ok (stage_dumpSlots_ok hdump)).trans ?_
  rw [hfill]
  refine (stage_bind_ok rfl).trans ?_
  rw [← hwritten]
  exact stage_write _ _ _

end Completion

/-! ## §4. How a run ends. -/

/-- The text which a command line asks for: the main source, or the build expression of the
whole firmware. -/
def wantedText (o : Options) (g : Generated) : String :=
  o.nixDir.elim g.mainSource fun nixDir => g.buildExpression nixDir

theorem outputText_eq (o : Options) (g : Generated) : outputText o g = wantedText o g := by
  unfold outputText wantedText
  cases o.nixDir <;> rfl

/-- **The ways to end a run**: its result and the state after it. -/
inductive Outcome (fs : FileSystem σ κ) (o : Options) (s : σ) : Except Problem Unit → σ → Prop where
  /-- The description cannot be read. -/
  | unread {e : ReadError} (hdocument : fs.document o s = .error e) :
      Outcome fs o s (.error (.input o.input e)) s
  /-- The template cannot be read. -/
  | untemplated {document : Value} {path : String} (hdocument : fs.document o s = .ok document)
      (htemplate : fs.template? o s = none) (hpath : o.template = some path) :
      Outcome fs o s (.error (.templateFile path)) s
  /-- Generating fails on the description. -/
  | refused {document : Value} {template : String} {e : Located}
      (hdocument : fs.document o s = .ok document) (htemplate : fs.template? o s = some template)
      (hgenerate : generate document o.configuration template = .error (.compilation (.document e))) :
      Outcome fs o s (.error (.compilation (.document e))) s
  /-- The slots cannot be dumped. -/
  | undumped {document : Value} {template path : String} {c : Compiled}
      (hdocument : fs.document o s = .ok document) (htemplate : fs.template? o s = some template)
      (hcompile : compile document o.configuration = .ok c) (hpath : o.slotDump = some path)
      (hdump : (fs.dump o s c.slots).1 = false) :
      Outcome fs o s (.error (.slotDump path)) (fs.dump o s c.slots).2
  /-- Generating fails on the template. -/
  | unfilled {document : Value} {template : String} {c : Compiled} {e : TemplateError}
      (hdocument : fs.document o s = .ok document) (htemplate : fs.template? o s = some template)
      (hcompile : compile document o.configuration = .ok c)
      (hdump : (fs.dump o s c.slots).1 = true)
      (hgenerate : generate document o.configuration template = .error (.template e)) :
      Outcome fs o s (.error (.template e)) (fs.dump o s c.slots).2
  /-- The output cannot be written. -/
  | unwritten {document : Value} {template : String} {c : Compiled} {g : Generated} {after : σ}
      (hdocument : fs.document o s = .ok document) (htemplate : fs.template? o s = some template)
      (hcompile : compile document o.configuration = .ok c)
      (hdump : (fs.dump o s c.slots).1 = true)
      (hgenerate : generate document o.configuration template = .ok g)
      (hwrite : fs.write (fs.dump o s c.slots).2 o.output (wantedText o g) = (false, after)) :
      Outcome fs o s (.error (.output o.output)) after
  /-- The output is written. -/
  | written {document : Value} {template : String} {c : Compiled} {g : Generated} {after : σ}
      (hdocument : fs.document o s = .ok document) (htemplate : fs.template? o s = some template)
      (hcompile : compile document o.configuration = .ok c)
      (hdump : (fs.dump o s c.slots).1 = true)
      (hgenerate : generate document o.configuration template = .ok g)
      (hwrite : fs.write (fs.dump o s c.slots).2 o.output (wantedText o g) = (true, after)) :
      Outcome fs o s (.ok ()) after

section Outcomes

variable {fs : FileSystem σ κ} {o : Options} {s : σ}

/-- A run ends in the way which applies to it. -/
theorem Outcome.run {result : Except Problem Unit} {after : σ} (h : Outcome fs o s result after) :
    fs.run o s = (result, after) := by
  cases h with
  | unread hdocument => exact stage_bind_error (stage_readInput_error hdocument)
  | untemplated hdocument htemplate hpath =>
    exact (stage_bind_ok (stage_readInput_ok hdocument)).trans
      (stage_bind_error (stage_readTemplate_none htemplate hpath))
  | refused hdocument htemplate hgenerate =>
    exact run_of_refused hdocument htemplate (compile_of_generate hgenerate)
  | undumped hdocument htemplate hcompile hpath hdump =>
    rw [run_of_compiled hdocument htemplate hcompile, complete_undumped hdump hpath]
  | unfilled hdocument htemplate hcompile hdump hgenerate =>
    have hfill := fill_of_generate_error hcompile hgenerate
    rw [run_of_compiled hdocument htemplate hcompile, complete_unfilled hdump hfill]
  | unwritten hdocument htemplate hcompile hdump hgenerate hwrite =>
    have hfill := fill_of_generate_ok hcompile hgenerate
    rw [← outputText_eq] at hwrite
    rw [run_of_compiled hdocument htemplate hcompile, complete_filled hdump hfill hwrite]
    simp
  | written hdocument htemplate hcompile hdump hgenerate hwrite =>
    have hfill := fill_of_generate_ok hcompile hgenerate
    rw [← outputText_eq] at hwrite
    rw [run_of_compiled hdocument htemplate hcompile, complete_filled hdump hfill hwrite]
    simp

/-- Every run ends in one of the ways. -/
theorem exists_runOutcome (fs : FileSystem σ κ) (o : Options) (s : σ) :
    ∃ result after, Outcome fs o s result after := by
  cases hdocument : fs.document o s with
  | error e => exact ⟨_, _, .unread hdocument⟩
  | ok document =>
  cases htemplate : fs.template? o s with
  | none =>
    obtain ⟨path, hpath⟩ := FileSystem.template_of_template? htemplate
    exact ⟨_, _, .untemplated hdocument htemplate hpath⟩
  | some template =>
  cases hcompile : compile document o.configuration with
  | error e =>
    cases e with
    | document e => exact ⟨_, _, .refused hdocument htemplate (generate_of_error hcompile _)⟩
    | breach b => exact (compile_reports hcompile).elim
  | ok c =>
  cases hdump : (fs.dump o s c.slots).1 with
  | false =>
    obtain ⟨path, hpath⟩ := FileSystem.slotDump_of_dump hdump
    exact ⟨_, _, .undumped hdocument htemplate hcompile hpath hdump⟩
  | true =>
  have hgenerate : generate document o.configuration template = (c.fill template).mapError .template :=
    generate_of_compiled hcompile
  cases hfill : c.fill template with
  | error e =>
    rw [hfill] at hgenerate
    exact ⟨_, _, .unfilled hdocument htemplate hcompile hdump hgenerate⟩
  | ok g =>
    rw [hfill] at hgenerate
    cases hwrite : fs.write (fs.dump o s c.slots).2 o.output (wantedText o g) with
    | mk done after =>
      cases done with
      | false => exact ⟨_, _, .unwritten hdocument htemplate hcompile hdump hgenerate hwrite⟩
      | true => exact ⟨_, _, .written hdocument htemplate hcompile hdump hgenerate hwrite⟩

/-- A run is described by its way to end. -/
theorem outcome_run (fs : FileSystem σ κ) (o : Options) (s : σ) :
    Outcome fs o s (fs.run o s).1 (fs.run o s).2 := by
  obtain ⟨result, after, h⟩ := exists_runOutcome fs o s
  rw [h.run]
  exact h

end Outcomes

/-! ## §5. The exit codes. -/

section Codes

variable {fs : FileSystem σ κ} {o : Options} {s : σ} {document : Value} {template : String}
  {c : Compiled}

theorem exitCode_eq_one_iff :
    exitCode (fs.run o s).1 = 1 ↔ ∃ e, fs.document o s = .error e := by
  have h := outcome_run fs o s
  generalize (fs.run o s).1 = result at h ⊢
  generalize (fs.run o s).2 = after at h
  cases h with
  | unread hdocument => simp [exitCode, Problem.exitCode, hdocument]
  | _ => simp [exitCode, Problem.exitCode, *]

theorem exitCode_of_untemplated (hdocument : fs.document o s = .ok document)
    (htemplate : fs.template? o s = none) : exitCode (fs.run o s).1 = 3 := by
  obtain ⟨path, hpath⟩ := FileSystem.template_of_template? htemplate
  rw [(Outcome.untemplated hdocument htemplate hpath).run]
  rfl

/-- A run which has read its files fails on the description as generating does. -/
theorem exitCode_eq_two_iff (hdocument : fs.document o s = .ok document)
    (htemplate : fs.template? o s = some template) :
    exitCode (fs.run o s).1 = 2
      ↔ ∃ e, generate document o.configuration template = .error (.compilation e) := by
  cases hcompile : compile document o.configuration with
  | error e =>
    rw [run_of_refused hdocument htemplate hcompile, generate_of_error hcompile]
    simp [exitCode, Problem.exitCode]
  | ok c =>
    have hnot : ¬ ∃ e, generate document o.configuration template = .error (.compilation e) := by
      rintro ⟨e, he⟩
      rw [compile_of_generate he] at hcompile
      cases hcompile
    refine ⟨fun hcode => ?_, fun h => absurd h hnot⟩
    have h := outcome_run fs o s
    generalize (fs.run o s).1 = result at h hcode
    generalize (fs.run o s).2 = after at h
    cases h with
    | refused hdocument' htemplate' hgenerate =>
      obtain rfl := Except.ok.inj (hdocument.symm.trans hdocument')
      obtain rfl := Option.some.inj (htemplate.symm.trans htemplate')
      exact ⟨_, hgenerate⟩
    | _ => simp [exitCode, Problem.exitCode] at hcode

theorem exitCode_of_undumped (hdocument : fs.document o s = .ok document)
    (htemplate : fs.template? o s = some template)
    (hcompile : compile document o.configuration = .ok c)
    (hdump : (fs.dump o s c.slots).1 = false) : exitCode (fs.run o s).1 = 4 := by
  obtain ⟨path, hpath⟩ := FileSystem.slotDump_of_dump hdump
  rw [(Outcome.undumped hdocument htemplate hcompile hpath hdump).run]
  rfl

/-- A run which has compiled a configuration fails on the template as generating does. -/
theorem exitCode_eq_three_iff (hdocument : fs.document o s = .ok document)
    (htemplate : fs.template? o s = some template)
    (hcompile : compile document o.configuration = .ok c) (hdump : (fs.dump o s c.slots).1 = true) :
    exitCode (fs.run o s).1 = 3
      ↔ ∃ e, generate document o.configuration template = .error (.template e) := by
  rw [run_of_compiled hdocument htemplate hcompile, generate_of_compiled hcompile]
  cases hfill : c.fill template with
  | error e =>
    rw [complete_unfilled hdump hfill]
    simp [exitCode, Problem.exitCode, Except.mapError]
  | ok g =>
    rw [complete_filled hdump hfill rfl]
    split <;> simp [exitCode, Problem.exitCode, Except.mapError]

/-- A run which generates a firmware ends with writing it. -/
theorem run_of_generated (hdocument : fs.document o s = .ok document)
    (htemplate : fs.template? o s = some template)
    (hcompile : compile document o.configuration = .ok c) (hdump : (fs.dump o s c.slots).1 = true)
    {g : Generated} (hgenerate : generate document o.configuration template = .ok g) :
    fs.run o s =
      let written := fs.write (fs.dump o s c.slots).2 o.output (wantedText o g)
      (if written.1 then .ok () else .error (.output o.output), written.2) := by
  have hfill := fill_of_generate_ok hcompile hgenerate
  rw [run_of_compiled hdocument htemplate hcompile, complete_filled hdump hfill rfl, outputText_eq]

/-- Before a configuration has been compiled nothing is written. -/
theorem run_untouched (h : exitCode (fs.run o s).1 = 1 ∨ exitCode (fs.run o s).1 = 2
    ∨ fs.template? o s = none) : (fs.run o s).2 = s := by
  have hrun := outcome_run fs o s
  generalize (fs.run o s).1 = result at h hrun
  generalize (fs.run o s).2 = after at hrun ⊢
  cases hrun with
  | unread | untemplated | refused => rfl
  | _ => simp_all [exitCode, Problem.exitCode]

/-- Before its last write a run leaves the file of the output, unless that is the one of the
dump. -/
theorem run_leaves_output {p : Problem} (hproblem : (fs.run o s).1 = .error p)
    (hearly : p ≠ .output o.output)
    (hapart : ∀ dumpPath, o.slotDump = some dumpPath → fs.Apart dumpPath o.output) :
    fs.content (fs.run o s).2 o.output = fs.content s o.output := by
  have hrun := outcome_run fs o s
  generalize (fs.run o s).1 = result at hproblem hrun
  generalize (fs.run o s).2 = after at hrun ⊢
  cases hrun with
  | unread | untemplated | refused => rfl
  | undumped | unfilled => exact fs.content_dump o s _ hapart
  | unwritten => exact absurd (Except.error.inj hproblem).symm hearly
  | written => cases hproblem

end Codes

/-! ## §6. Folders. -/

namespace Folder

/-- Writing to a path leaves what is read at one which leads elsewhere. -/
theorem read?_of_write? {f f' : Folder} {path text other : String} (h : f.write? path text = some f')
    (hapart : Destination.ofPath? path ≠ Destination.ofPath? other) :
    f'.read? other = f.read? other := by
  cases hpath : Destination.ofPath? path with
  | none => simp [write?, hpath] at h
  | some destination =>
    cases destination with
    | elsewhere => simp_all [write?]
    | device d => simp_all [write?]
    | file name =>
      obtain rfl : ⟨Ascending.put name text f.files⟩ = f' := by simpa [write?, hpath] using h
      unfold read?
      cases hother : Destination.ofPath? other with
      | none => rfl
      | some destination =>
        cases destination with
        | elsewhere | device d => rfl
        | file otherName =>
          have hne : otherName ≠ name := by
            rintro rfl
            exact hapart (hpath.trans hother.symm)
          show (Ascending.put name text f.files).lookup otherName = f.files.lookup otherName
          rw [Ascending.lookup_put, List.lookup_cons, beq_false_of_ne hne]

/-- A folder is a file system. -/
def system : FileSystem Folder (Option String) where
  content f path := f.read? path
  text? text := text
  write f path text := ((f.write? path text).isSome, (f.write? path text).getD f)
  Apart path other := Destination.ofPath? path ≠ Destination.ofPath? other
  write_apart f path text other hapart := by
    cases hwrite : f.write? path text with
    | none => rfl
    | some f' => exact read?_of_write? hwrite hapart

/-- The files of a folder are accessed as those of the file system which it is. -/
theorem system_access : system.access = access := by
  have hwrite : system.access.write = access.write := by
    funext path text f
    show ((f.write? path text).isSome, (f.write? path text).getD f) = access.write path text f
    unfold access
    dsimp only [bind, StateT.bind, get, getThe, MonadStateOf.get, StateT.get, pure]
    cases f.write? path text <;> rfl
  show FileAccess.mk access.read system.access.write = access
  rw [hwrite]

end Folder

/-! ## §7. The law. -/

/-- **A command line is carried out as its firmware is generated.**  The description is read
first and the template next.  From then on generating decides: a run fails on the
description, or on the template, exactly when generating does, and otherwise it writes
exactly the text which is wanted of the generated firmware.  Only the dump stands between:
if it fails the run ends with it, after the description has been found good and before the
template is filled.  Nothing is written before the description has been found good, and the
file of the output is left until the last write. -/
theorem run_outcome (fs : FileSystem σ κ) (o : Options) (s : σ) :
    (exitCode (fs.run o s).1 = 1 ↔ ∃ e, fs.document o s = .error e)
    ∧ (∀ document, fs.document o s = .ok document →
      (fs.template? o s = none → exitCode (fs.run o s).1 = 3)
      ∧ ∀ template, fs.template? o s = some template →
        (exitCode (fs.run o s).1 = 2
          ↔ ∃ e, generate document o.configuration template = .error (.compilation e))
        ∧ ∀ c, compile document o.configuration = .ok c →
          ((fs.dump o s c.slots).1 = false → exitCode (fs.run o s).1 = 4)
          ∧ ((fs.dump o s c.slots).1 = true →
            (exitCode (fs.run o s).1 = 3
              ↔ ∃ e, generate document o.configuration template = .error (.template e))
            ∧ ∀ g, generate document o.configuration template = .ok g →
              fs.run o s =
                let written := fs.write (fs.dump o s c.slots).2 o.output (wantedText o g)
                (if written.1 then .ok () else .error (.output o.output), written.2)))
    ∧ (exitCode (fs.run o s).1 = 1 ∨ exitCode (fs.run o s).1 = 2 ∨ fs.template? o s = none →
      (fs.run o s).2 = s)
    ∧ ∀ p, (fs.run o s).1 = .error p → p ≠ .output o.output →
      (∀ dumpPath, o.slotDump = some dumpPath → fs.Apart dumpPath o.output) →
      fs.content (fs.run o s).2 o.output = fs.content s o.output := by
  refine ⟨exitCode_eq_one_iff, ?_, run_untouched, fun p => run_leaves_output⟩
  intro document hdocument
  refine ⟨exitCode_of_untemplated hdocument, ?_⟩
  intro template htemplate
  refine ⟨exitCode_eq_two_iff hdocument htemplate, ?_⟩
  intro c hcompile
  refine ⟨exitCode_of_undumped hdocument htemplate hcompile, ?_⟩
  intro hdump
  exact ⟨exitCode_eq_three_iff hdocument htemplate hcompile hdump,
    fun g => run_of_generated hdocument htemplate hcompile hdump⟩

namespace Sample

open PrinterFirmware.Sample

mutual

/-- The characters of a description in JSON, if it has no doubles. -/
def text : Value → List Char
  | .null | .number _ => "null".toList
  | .bool b => (if b then "true" else "false").toList
  | .int n => (Numeral.ofInt n).toList
  | .string s => '"' :: s.toList ++ ['"']
  | .list elems => '[' :: elementTexts elems ++ [']']
  | .object fields => '\x7b' :: fieldTexts fields ++ ['\x7d']

def elementTexts : List Value → List Char
  | [] => []
  | [v] => text v
  | v :: rest => text v ++ ',' :: elementTexts rest

def fieldTexts : List (String × Value) → List Char
  | [] => []
  | [(name, v)] => '"' :: name.toList ++ '"' :: ':' :: text v
  | (name, v) :: rest => '"' :: name.toList ++ '"' :: ':' :: text v ++ ',' :: fieldTexts rest

end

/-- A folder with a description and a template whose placeholder has no end. -/
def folder : Folder :=
  ⟨[("d.json", String.ofList (text description)), ("t.cpp", "$$\x7b")]⟩

/-- A command line which dumps the slots. -/
def options : Options where
  input := "d.json"
  output := "m.cpp"
  configuration := none
  template := some "t.cpp"
  nixDir := none
  slotDump := some "s.yaml"
  logLevel := none

theorem read?_ofList (cs : List Char) : Json.read? (String.ofList cs)
    = (Json.takeValue? (2 * cs.length + 2) Json.maxDepth cs).bind
      fun read => if (Json.skipBlanks read.2).isEmpty then some read.1 else none := by
  unfold Json.read?
  rw [String.toList_ofList]
  dsimp only
  cases Json.takeValue? (2 * cs.length + 2) Json.maxDepth cs <;> rfl

/-- The description in the folder is read and compiled. -/
theorem description_compiles : ∃ document c,
    Json.read? (String.ofList (text description)) = some document
      ∧ compile document none = .ok c := by
  have hcompiles : (((Json.takeValue? (2 * (text description).length + 2) Json.maxDepth
      (text description)).bind
        fun read => if (Json.skipBlanks read.2).isEmpty then some read.1 else none).bind
          fun document => (compile document none).toOption).isSome = true := by
    decide +kernel
  rw [← read?_ofList] at hcompiles
  obtain ⟨c, hc⟩ := Option.isSome_iff_exists.1 hcompiles
  obtain ⟨document, hdocument, hcompile⟩ := Option.bind_eq_some_iff.1 hc
  refine ⟨document, c, hdocument, ?_⟩
  cases hresult : compile document none with
  | ok c' =>
    rw [hresult] at hcompile
    exact congrArg Except.ok (Option.some.inj hcompile)
  | error e =>
    rw [hresult] at hcompile
    cases hcompile

/-- A path without slashes leads to a file in the folder. -/
theorem ofPath?_name {name : String} (hsplit : name.splitOn "/" = [name])
    (hname : name ≠ "" ∧ name.utf8ByteSize ≤ Destination.maxPathSize
      ∧ name.toList.contains '\x00' = false ∧ Destination.isFileName name = true
      ∧ Place.home.enter? name = none) :
    Destination.ofPath? name = some (.file name) := by
  obtain ⟨hne, hsize, hzero, hfile, hfolder⟩ := hname
  have hfollow : Destination.follow? .home [name] = some (.file name) := by
    show (if Destination.isFileName name then Destination.inPlace? .home name else none) = _
    rw [if_pos hfile]
    unfold Destination.inPlace?
    rw [hfolder]
    rfl
  unfold Destination.ofPath?
  rw [hsplit, hzero, if_pos (by simp [hsize])]
  split
  · next heq => exact absurd (List.cons.inj heq).1 hne
  · exact hfollow

theorem splitOn_input : "d.json".splitOn "/" = ["d.json"] := by
  unfold String.splitOn
  simp +decide [String.splitOnAux]

theorem input_leads : Destination.ofPath? "d.json" = some (.file "d.json") :=
  ofPath?_name splitOn_input (by decide +kernel)

theorem input_format : Format.ofPath? "d.json" = some .json := by
  have hname : Format.fileName? "d.json" = some "d.json" := by
    unfold Format.fileName?
    rw [splitOn_input]
    decide +kernel
  unfold Format.ofPath? Format.extension?
  rw [hname]
  decide +kernel

theorem template_leads : Destination.ofPath? "t.cpp" = some (.file "t.cpp") :=
  ofPath?_name (by unfold String.splitOn; simp +decide [String.splitOnAux]) (by decide +kernel)

theorem output_leads : Destination.ofPath? "m.cpp" = some (.file "m.cpp") :=
  ofPath?_name (by unfold String.splitOn; simp +decide [String.splitOnAux]) (by decide +kernel)

theorem dump_leads : Destination.ofPath? "s.yaml" = some (.file "s.yaml") :=
  ofPath?_name (by unfold String.splitOn; simp +decide [String.splitOnAux]) (by decide +kernel)

/-- The template fails on every slot map. -/
theorem template_fails (slots : SlotMap) :
    Template.fill "$$\x7b" slots = .error (.unterminated 0) := by
  have hpieces : Template.pieces "$$\x7b" = [.openHole 0] := by
    show Template.piecesFrom 0 ['$', '$', '\x7b'] = _
    simp [Template.piecesFrom, Template.splitAtClose]
  unfold Template.fill
  rw [hpieces]
  rfl

end Sample

/-- The run in the folder dumps the slots and fails on the template: there is no output. -/
theorem sample_outcome : ∃ document c e,
    Folder.system.document Sample.options Sample.folder = .ok document
    ∧ compile document none = .ok c
    ∧ generate document none "$$\x7b" = .error (.template e)
    ∧ exitCode (Folder.system.run Sample.options Sample.folder).1 = 3
    ∧ (Folder.system.run Sample.options Sample.folder).2.read? "m.cpp" = none := by
  obtain ⟨document, c, hread, hcompile⟩ := Sample.description_compiles
  have hinput : Sample.folder.read? "d.json"
      = some (String.ofList (Sample.text PrinterFirmware.Sample.description)) := by
    unfold Folder.read?
    rw [Sample.input_leads]
    rfl
  have htemplate : Folder.system.template? Sample.options Sample.folder = some "$$\x7b" := by
    show Sample.folder.read? "t.cpp" = _
    unfold Folder.read?
    rw [Sample.template_leads]
    rfl
  have houtput : Sample.folder.read? "m.cpp" = none := by
    unfold Folder.read?
    rw [Sample.output_leads]
    rfl
  have hdocument : Folder.system.document Sample.options Sample.folder = .ok document := by
    show Format.readAt "d.json" (Sample.folder.read? "d.json") = _
    unfold Format.readAt
    rw [Sample.input_format, hinput]
    show (Json.read? _).elim _ _ = _
    rw [hread]
    rfl
  have hgenerate : generate document none "$$\x7b" = .error (.template (.unterminated 0)) := by
    rw [generate_of_compiled hcompile]
    unfold Compiled.fill
    rw [Sample.template_fails]
    rfl
  have hdump : (Folder.system.dump Sample.options Sample.folder c.slots).1 = true := by
    show (Sample.folder.write? "s.yaml" _).isSome = true
    unfold Folder.write?
    rw [Sample.dump_leads]
    rfl
  obtain ⟨-, hstages, -, hleft⟩ := run_outcome Folder.system Sample.options Sample.folder
  obtain ⟨-, hdumped⟩ := ((hstages document hdocument).2 _ htemplate).2 c hcompile
  have hcode := (hdumped hdump).1.2 ⟨_, hgenerate⟩
  refine ⟨document, c, _, hdocument, hcompile, hgenerate, hcode, ?_⟩
  cases hresult : (Folder.system.run Sample.options Sample.folder).1 with
  | ok u =>
    rw [hresult] at hcode
    cases hcode
  | error p =>
    rw [hresult] at hcode
    have hearly : p ≠ .output "m.cpp" := by
      rintro rfl
      cases hcode
    refine (hleft p hresult hearly ?_).trans houtput
    intro dumpPath hdumpPath
    obtain rfl : "s.yaml" = dumpPath := Option.some.inj hdumpPath
    show Destination.ofPath? "s.yaml" ≠ Destination.ofPath? "m.cpp"
    rw [Sample.dump_leads, Sample.output_leads]
    decide

end CommandLine

end PrinterFirmware
