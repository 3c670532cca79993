/-
  PrinterFirmware.Proofs.Independence
  ───────────────────────────────────
  **A PROGRAM DEPENDS ON ITS CONFIGURATION AND ITS BOARD.**

  Compiling a configuration by its name reads the first configuration of this name and the
  first board which it names, and nothing else: two documents which agree on these two are
  compiled alike, whatever else stands in them.

      Value.firstNamed?           the first element of a name in a list of a document
      parallel_build              builds of two such documents go side by side
      compile_reads_selection     so they have the same outcome

  The two sections may stand at different places of their lists.  A report names the place
  of what it rejects, so reports agree up to these indices.
-/
import PrinterFirmware.Proofs.Containment
import PrinterFirmware.Proofs.ParallelMachine
import PrinterFirmware.Proofs.Runs

namespace PrinterFirmware

open Document Naming Build

/-! ## §1. Finishing. -/

section Finishing

variable [Correspondence]

/-- The work which a build of a document puts off. -/
theorem parallel_performWorks {works : List Deferred}
    (h : ∀ d ∈ works, ∃ a, d = .analogDriver a) :
    Parallel Eq (performWorks works) (performWorks works) := by
  induction works with
  | nil => exact .pure rfl
  | cons work rest ih =>
      obtain ⟨a, rfl⟩ := h work List.mem_cons_self
      unfold performWorks
      apply Parallel.andThen (α := Unit)
      · show Parallel Eq (Board.finishAnalog a) (Board.finishAnalog a)
        unfold Board.finishAnalog
        apply parallel_analogPins.andThen
        intro pins
        exact .item _
      · intro _
        exact ih fun d hd => h d (List.mem_cons_of_mem _ hd)

/-- Alike states are finished to the same program. -/
theorem runAlike_finish : RunAlike Eq finish finish := by
  unfold finish
  apply RunAlike.get.bind
  intro w v hw
  apply (RunAlike.set hw.finishing).andThen
  intro _
  rw [← hw.deferred]
  have hworks : ∀ d ∈ w.deferred.reverse, ∃ a, d = .analogDriver a :=
    fun d hd => hw.scriptless d (List.mem_reverse.1 hd)
  apply (parallel_performWorks hworks).runs.andThen
  intro _
  apply RunAlike.get.bind
  intro w₁ v₁ hw₁
  rw [hw₁.facilities, closeFacilities_eq]
  apply (parallel_emitAll _).runs.andThen
  intro _
  apply RunAlike.get.bind
  intro w₂ v₂ hw₂
  rw [hw₂.draft]
  cases v₂.draft.render with
  | ok slots => exact fun _ _ hw => .ok rfl hw
  | error b => exact fun _ _ _ => .breach

end Finishing

/-! ## §2. Selected sections. -/

/-- The first element of the list at `key` with the name `name`. -/
def Document.Value.firstNamed? (document : Value) (key name : String) : Option Value :=
  ((document.field? key).bind Value.list?).bind fun elems =>
    elems.find? fun e => (e.field? "name").bind Value.string? == some name

/-- The first element of a name is found at some place of its list. -/
theorem find_of_firstNamed {document v : Value} {key name : String}
    (h : document.firstNamed? key name = some v) :
    ∃ i, (Cursor.root document).find key "name" name
      = .ok ⟨v, (Path.root.key key).index i⟩ := by
  have hnamed : ∀ u : Value, ((u.field? "name").bind Value.string? == some name) = true
      ↔ u.field? "name" = some (.string name) :=
    fun u => Cursor.isNamed_iff (c := .root u)
  obtain ⟨elems, helems, hfirst⟩ := Option.bind_eq_some_iff.1 h
  obtain ⟨hv, before, after, rfl, hbefore⟩ := List.find?_eq_some_iff_append.1 hfirst
  refine ⟨before.length, Cursor.find_eq_ok.2 ⟨before, v, after, helems, rfl, (hnamed v).1 hv, ?_⟩⟩
  intro u hu hname
  have hno := hbefore u hu
  rw [(hnamed u).2 hname] at hno
  cases hno

section Compiling

attribute [local instance] Correspondence.beside

/-- The first elements of a name in the lists at `key` are one value, at whatever places. -/
theorem alike_of_firstNamed {document document' v : Value} {key name : String}
    (hkey : key ∈ ["configurations", "boards"]) (h : document.firstNamed? key name = some v)
    (h' : document'.firstNamed? key name = some v) :
    Matches Cursor.Alike ((Cursor.root document).find key "name" name)
      ((Cursor.root document').find key "name" name) := by
  obtain ⟨i, hi⟩ := find_of_firstNamed h
  obtain ⟨j, hj⟩ := find_of_firstNamed h'
  rw [hi, hj]
  exact .ok ⟨rfl, Or.inr ⟨key, hkey, i, j, [], rfl, rfl⟩⟩

/-- Two documents agree on the configuration of a name and on its board: the first
configuration of this name is the same value in both, and so is the first board of the
name which stands there. -/
def AgreeOn (name : String) (document document' : Value) : Prop :=
  ∃ config, document.firstNamed? "configurations" name = some config
    ∧ document'.firstNamed? "configurations" name = some config
    ∧ ∀ boardName, (config.field? "board").bind Value.string? = some boardName →
      ∃ board, document.firstNamed? "boards" boardName = some board
        ∧ document'.firstNamed? "boards" boardName = some board

variable {document document' : Value} {name : String}

theorem AgreeOn.sections (h : AgreeOn name document document') :
    Matches (fun p q => p.1.Alike q.1 ∧ p.2.Alike q.2)
      (selectSections (.root document) (some name))
      (selectSections (.root document') (some name)) := by
  obtain ⟨config, hconfig, hconfig', hboard⟩ := h
  obtain ⟨i, hi⟩ := find_of_firstNamed hconfig
  obtain ⟨j, hj⟩ := find_of_firstNamed hconfig'
  have halike : Cursor.Alike ⟨config, (Path.root.key "configurations").index i⟩
      ⟨config, (Path.root.key "configurations").index j⟩ :=
    ⟨rfl, Or.inr ⟨_, List.mem_cons_self, i, j, [], rfl, rfl⟩⟩
  have hrest : ∀ document c, (Cursor.root document).find "configurations" "name" name = .ok c →
      selectSections (.root document) (some name) = (do
        let boardName ← c.string "board"
        let board ← (Cursor.root document).find "boards" "name" boardName
        return (c, board)) := by
    intro document c hc
    unfold selectSections configurationName
    show ((Cursor.root document).find "configurations" "name" name >>= _) = _
    rw [hc]
    rfl
  rw [hrest document _ hi, hrest document' _ hj]
  -- Only if the name of the board has been read there is a board to agree on.
  apply (halike.string "board").andThenFound
  intro boardName hname
  obtain ⟨board, hfirst, hfirst'⟩ := hboard boardName (Cursor.fieldAs_eq_ok.1 hname)
  apply (alike_of_firstNamed (by decide) hfirst hfirst').bind
  intro b b' hb
  exact .ok ⟨halike, hb⟩

/-- **Builds of documents which agree on the selection go side by side.** -/
theorem AgreeOn.parallel_build (h : AgreeOn name document document') :
    RunAlike Eq (build document (some name)) (build document' (some name)) := by
  unfold build
  apply (RunAlike.look h.sections).bind
  rintro ⟨config, board⟩ ⟨config', board'⟩ ⟨hconfig, hboard⟩
  apply (parallel_setUp hboard).runs.bind
  intro parts parts' hparts
  apply (parallel_printer hparts hconfig).runs.andThen
  intro _
  apply runAlike_finish.andThen
  intro slots
  apply RunAlike.pure
  rw [← hparts.rest]

/-- **A program depends on its configuration and its board alone.**  If two documents agree on
these two, either both are compiled, and to the same, or both are rejected for the same
reason, at places which differ at most in the index of the configuration or of the board. -/
theorem compile_reads_selection (h : AgreeOn name document document') :
    (∃ c, compile document (some name) = .ok c ∧ compile document' (some name) = .ok c)
      ∨ ∃ e e', compile document (some name) = .error (.document e)
        ∧ compile document' (some name) = .error (.document e')
        ∧ e.violation = e'.violation ∧ e.path.Beside e'.path := by
  have houtcome := h.parallel_build .empty .empty alike_empty
  -- Builds could also end alike with a broken rule, which compiling never does.
  have hnone : ∀ b, compile document (some name) ≠ .error (.breach b) :=
    fun b hb => compile_reports hb
  revert hnone
  unfold compile
  revert houtcome
  cases build document (some name) .empty <;> cases build document' (some name) .empty <;>
    intro houtcome <;> cases houtcome <;> intro hnone
  · next hcompiled _ =>
      subst hcompiled
      exact Or.inl ⟨_, rfl, rfl⟩
  · next he => exact Or.inr ⟨_, _, rfl, rfl, he.violation, he.path⟩
  · exact absurd rfl (hnone _)

end Compiling

/-! ## §3. The small description in company. -/

namespace Sample

/-- The small description among other configurations and boards; some of them share its
names but come later, and some are no objects. -/
def crowdedDescription : Value :=
  .object [("configurations", .list [.null, .object [("name", .string "D")], config,
      .object [("name", .string "C")]]),
    ("boards", .list [.object [("name", .string "E")], board, .object [("name", .string "B")]]),
    ("selected_config", .int 5)]

/-- The two descriptions agree on the configuration `C`. -/
theorem crowded_agrees : AgreeOn "C" description crowdedDescription := by
  refine ⟨config, rfl, rfl, ?_⟩
  intro boardName hname
  have hboard : (config.field? "board").bind Value.string? = some "B" := rfl
  cases hboard.symm.trans hname
  exact ⟨board, rfl, rfl⟩

end Sample

/-- The small description is compiled to the same program among others as on its own. -/
theorem sample_reads_selection : ∃ c, compile Sample.description (some "C") = .ok c
    ∧ compile Sample.crowdedDescription (some "C") = .ok c := by
  have hok : (compile Sample.description (some "C")).isOk = true := by decide +kernel
  obtain ⟨c, hc⟩ := compiled_of_isOk hok
  rcases compile_reads_selection Sample.crowded_agrees with hboth | ⟨e, e', he, -⟩
  · exact hboth
  · cases hc.symm.trans he

end PrinterFirmware
