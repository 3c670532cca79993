/-
  PrinterFirmware.Proofs.Rearrangement
  ────────────────────────────────────
  **THE ORDER OF DECLARATIONS DOES NOT MATTER.**

  A board declares its inputs, stepper ports and outputs in lists, and an AVR clock its
  configured timers.  Everything else refers to them by name, so a program stays the same
  if they are declared in another order.

      unordered              the lists of a board whose order does not matter
      follows_setUp          setting up a board follows setting it up in another order
      BoardReordered         documents whose selected boards differ in nothing but this order
      compile_unordered      such documents are compiled to one program

  Setting up a board is followed section by section.  Only what leads to the changed list
  has to be looked at again; all other fields are as they were.
-/
import Mathlib.Logic.Relation
import PrinterFirmware.Proofs.Following
import PrinterFirmware.Proofs.Independence

namespace PrinterFirmware

open Document Naming Build Board

attribute [local instance] Correspondence.everywhere

/-! ## §1. The platform. -/

/-- The lists of a board whose order does not matter: its declared objects, and the
configured timers of its clock. -/
def unordered : List (List String) :=
  [["digital_inputs"], ["stepper_ports"], ["analog_inputs"], ["pwm_outputs"],
    ["platform_config", "platform", "clock", "timers"]]

section Platform

variable {places : List (List String)} {c d : Cursor} {key : String}

theorem alike_refl (c : Cursor) : c.Alike c := ⟨rfl, trivial⟩

theorem follows_readClock {f : ClockFamily} (h : c.Reordered [["timers"]] d) :
    Follows Eq (Clock.read f c) (Clock.read f d) := by
  have hprescaler : c.SameAt f.prescalerKey d := h.sameAt (by cases f <;> rfl)
  have hprimary : Clock.readTimer f d "primary_timer" = Clock.readTimer f c "primary_timer" := by
    have hsame : c.SameAt "primary_timer" d := h.sameAt rfl
    unfold Clock.readTimer
    rw [hsame.string_eq]
    simp only [hsame.rejectAt_eq]
  unfold Clock.read
  rw [hprescaler.intConstant_eq, hprimary]
  apply (Parallel.look ((alike_refl c).intConstant _)).follows.andThen
  intro prescaler
  have hrest : ∀ timers, Follows Eq
      (do
        let primary ← (Clock.readTimer f c "primary_timer" : Reading Char)
        return Clock.mk f prescaler primary timers [] : Build Clock)
      (do
        let primary ← (Clock.readTimer f c "primary_timer" : Reading Char)
        return Clock.mk f prescaler primary timers []) :=
    fun timers => (Parallel.read ((alike_refl c).readTimer f _) fun _ => .pure rfl).follows
  -- Only some families have configured timers; the others do not look at the list.
  cases f.hasConfiguredTimers with
  | false => exact hrest []
  | true =>
      apply Follows.read fun _ => h.objects "timers" 0 Clock.maxConfigured
      intro cs ds hcs
      exact (follows_readConfigured f hcs).andThen hrest

theorem follows_setUpClock (h : c.Reordered [["clock", "timers"]] d) :
    Follows Eq (setUpClock c "clock") (setUpClock d "clock") := by
  unfold setUpClock
  apply Follows.andThen (α := Clock)
  · refine follows_choose h rfl ⟨_, rfl⟩
      (.cons (.option ?_) (.cons (.option ?_) (.cons (.option ?_) .nil)))
    · exact fun _ _ h => follows_readClock h
    · exact fun _ _ h => follows_readClock h
    · exact fun _ _ h => follows_readClock h
  · intro k
    exact (Parallel.emit _ (.registerFacility _)).follows

theorem follows_setUpDrivers (h : c.Reordered [["clock", "timers"]] d) :
    Follows Eq (setUpDrivers c) (setUpDrivers d) := by
  -- Only the clock reads the list of timers; the other drivers read the same sections.
  have hpins : setUpPins d "pins" = setUpPins c "pins" := by
    unfold setUpPins
    rw [(h.sameAt rfl).choose_eq]
  have hwatchdog : ∀ user, watchdog d "watchdog" user = watchdog c "watchdog" user := by
    intro user
    unfold watchdog
    rw [(h.sameAt rfl).choose_eq]
  have hadc : setUpAnalog d "adc" = setUpAnalog c "adc" := by
    unfold setUpAnalog
    rw [(h.sameAt rfl).choose_eq]
  have hpwm : setUpPwm d "pwm" = setUpPwm c "pwm" := by
    unfold setUpPwm
    rw [(h.sameAt rfl).choose_eq]
  unfold setUpDrivers
  rw [hpins, hwatchdog, hadc, hpwm, (h.sameAt rfl).has_eq]
  apply (follows_setUpClock h).andThen
  intro _
  apply (parallel_setUpPins (alike_refl c) _).follows.andThen
  intro _
  apply (parallel_watchdog (alike_refl c) _ _).follows.andThen
  intro watchdog
  apply (parallel_setUpAnalog (alike_refl c) _).follows.andThen
  intro _
  have hrest : Follows Eq (pure watchdog : Build TypeExpr) (pure watchdog) :=
    (Parallel.pure rfl).follows
  split
  · exact (parallel_setUpPwm (alike_refl c) _).follows.andThen fun _ => hrest
  · exact hrest

theorem follows_setUpPlatform (h : c.Reordered [["platform", "clock", "timers"]] d) :
    Follows Eq (setUpPlatform c "platform") (setUpPlatform d "platform") := by
  unfold setUpPlatform
  refine follows_choose h rfl ⟨_, rfl⟩
    (.cons (.option ?_) (.cons (.option ?_) (.cons (.options ?_) .nil)))
  · exact fun _ _ _ => (Parallel.emit _ (.item _)).follows
  · exact fun _ _ _ => (Parallel.item _).follows
  · exact fun _ _ _ _ => (Parallel.emit _ (.emit _ (.item _))).follows

end Platform

/-! ## §2. The board. -/

section Boards

variable {board board' : Cursor}

theorem follows_registerHardware (h : board.Reordered unordered board') :
    Follows Eq (registerHardware board) (registerHardware board') := by
  unfold registerHardware
  apply (follows_registerList _ h _).andThen
  intro _
  apply (follows_registerList _ h _).andThen
  intro _
  apply (follows_registerList _ h _).andThen
  intro _
  exact follows_registerList _ h _

/-- The services of a board do not look at its lists. -/
theorem setUpServices_eq (h : board.Reordered unordered board') (buildName : String)
    (imageFormat : ImageFormat) (watchdog : TypeExpr) :
    setUpServices board' buildName imageFormat watchdog
      = setUpServices board buildName imageFormat watchdog := by
  have henter : ∀ key, placesBelow key unordered = [] → board'.enter key = board.enter key :=
    fun _ hkey => (h.sameAt hkey).enter_eq
  have hpin : pin board' "LedPin" = pin board "LedPin" := by
    have hsame : board.SameAt "LedPin" board' := h.sameAt rfl
    unfold pin
    rw [hsame.string_eq]
    simp only [hsame.rejectAt_eq]
  have htimer : ∀ user clearance, useTimer board' "EventChannelTimer" user clearance
      = useTimer board "EventChannelTimer" user clearance := by
    intro user clearance
    unfold useTimer
    rw [henter _ rfl]
  unfold setUpServices
  rw [hpin, htimer, henter "performance" rfl, henter "serial" rfl, henter "sdcard_config" rfl,
    henter "runtime_config" rfl]

/-- What is read of the platform section apart from the platform is as it was. -/
theorem includeHelpers_eq {config config' : Cursor} (hpath : config'.path = config.path)
    (helpers : List String) : includeHelpers config' helpers = includeHelpers config helpers := by
  induction helpers with
  | nil => rfl
  | cons helper rest ih =>
      unfold includeHelpers Cursor.rejectAt Cursor.keyPath
      rw [ih, hpath]

/-- **Setting up a board follows setting it up in another order.** -/
theorem follows_setUp (h : board.Reordered unordered board') :
    Follows BoardParts.Alike (Board.setUp board) (Board.setUp board') := by
  rw [Board.setUp_eq, Board.setUp_eq]
  apply Follows.read fun _ => h.enter "platform_config"
  intro config config' hconfig
  have hsame : ∀ key, placesBelow key (placesBelow "platform_config" unordered) = [] →
      config.SameAt key config' := fun _ hkey => hconfig.sameAt hkey
  have hname : buildName config' = buildName config := by
    unfold buildName
    rw [(hsame _ rfl).string_eq]
    simp only [(hsame "board_for_build" rfl).rejectAt_eq]
  have hformat : imageFormat config' = imageFormat config := by
    unfold imageFormat
    rw [(hsame _ rfl).string_eq]
    simp only [(hsame "output_type" rfl).rejectAt_eq]
  rw [hname, hformat, (hsame _ rfl).strings_eq]
  -- The platform leads to the configured timers, everything else is as it was.
  apply (parallel_buildName (alike_refl config)).follows.andThen
  intro buildName
  apply (Parallel.look (alike_refl config).imageFormat).follows.andThen
  intro imageFormat
  apply (follows_setUpPlatform hconfig).andThen
  intro _
  apply Follows.read fun _ => hconfig.enter "platform"
  intro platform platform' hplatform
  apply (follows_setUpDrivers hplatform).andThen
  intro watchdog
  apply (Parallel.look ((alike_refl config).strings _ _ _)).follows.andThen
  intro helpers
  rw [includeHelpers_eq hconfig.path, setUpServices_eq h]
  apply (parallel_includeHelpers (alike_refl config) helpers).follows.andThen
  intro _
  apply (follows_registerHardware h).andThen
  intro _
  exact (parallel_setUpServices (alike_refl board) _ _ _).follows

end Boards

/-! ## §3. The selected board. -/

section Selection

variable {document document' : Value} {name? : Option String} {config board : Cursor}
  {keys : List String}

/-- A list has been changed below one of its elements. -/
theorem Document.Value.PermutedAt.at_index {v v' : Value} {i : Nat} {steps : List Step}
    (h : v.PermutedAt (.index i :: steps) v') :
    ∃ before u u' after, i = before.length ∧ v = .list (before ++ u :: after)
      ∧ v' = .list (before ++ u' :: after) ∧ u.PermutedAt steps u' := by
  cases h with
  | element h => exact ⟨_, _, _, _, rfl, rfl, rfl, h⟩

/-- What is selected stands in a list of the document. -/
theorem select_eq_ok : selectSections (.root document) name? = .ok (config, board) ↔
    ∃ name boardName, configurationName (.root document) name? = .ok name
      ∧ (Cursor.root document).find "configurations" "name" name = .ok config
      ∧ config.string "board" = .ok boardName
      ∧ (Cursor.root document).find "boards" "name" boardName = .ok board := by
  unfold selectSections
  simp only [reading_bind_eq_ok]
  constructor
  · rintro ⟨name, hname, _, hconfig, boardName, hboardName, _, hboard, ⟨⟩⟩
    exact ⟨name, boardName, hname, hconfig, hboardName, hboard⟩
  · rintro ⟨name, boardName, hname, hconfig, hboardName, hboard⟩
    exact ⟨name, hname, config, hconfig, boardName, hboardName, board, hboard, rfl⟩

/-- The same configuration is selected, and its board with a list in another order. -/
theorem select_reordered (hkeys : keys ∈ unordered)
    (hselected : selectSections (.root document) name? = .ok (config, board))
    (h : document.PermutedAt (board.path.steps ++ keys.map .key) document') :
    ∃ board', selectSections (.root document') name? = .ok (config, board')
      ∧ board.Reordered unordered board' := by
  obtain ⟨name, boardName, hname, hconfig, hboardName, hboard⟩ := select_eq_ok.1 hselected
  obtain ⟨before, v, after, helems, rfl, hv, hfirst⟩ := Cursor.find_eq_ok.1 hboard
  replace h : document.PermutedAt (.key "boards" :: .index before.length :: keys.map .key)
      document' := h
  obtain ⟨list, list', hlist, hlist', hchanged⟩ := h.field?_self
  obtain ⟨before', u, u', after', hlength, rfl, rfl, hu⟩ := hchanged.at_index
  -- The board stands where the document has been changed.
  have hsplit : before ++ v :: after = before' ++ u :: after' := by
    rw [show (Cursor.root document).value = document from rfl, hlist] at helems
    exact (Option.some.inj helems).symm
  obtain ⟨rfl, hrest⟩ := List.append_inj hsplit hlength
  cases hrest
  have hreordered : v.Reordered unordered u' := Or.inr ⟨keys, hkeys, hu⟩
  have hother : ∀ key, key ≠ "boards" → (Cursor.root document).SameAt key (.root document') :=
    fun _ hkey => ⟨h.field?_other hkey, rfl⟩
  have hname' : configurationName (.root document') name?
      = configurationName (.root document) name? := by
    cases name? with
    | some name => rfl
    | none => exact (hother "selected_config" (by decide)).string_eq
  refine ⟨⟨u', (Path.root.key "boards").index before.length⟩, select_eq_ok.2 ?_, hreordered, rfl⟩
  refine ⟨name, boardName, hname'.trans hname, ?_, hboardName, ?_⟩
  · exact ((hother "configurations" (by decide)).find_eq _ _).trans hconfig
  · refine Cursor.find_eq_ok.2 ⟨before, u', after, ?_, rfl, ?_, hfirst⟩
    · show (document'.field? "boards").bind Value.list? = _
      rw [hlist']
      rfl
    · exact (hreordered.field?_eq rfl).trans hv

/-- A document is compiled to the same if its build follows another one. -/
theorem compile_of_follows {c : Compiled}
    (h : Follows Eq (build document name?) (build document' name?))
    (hcompile : compile document name? = .ok c) : compile document' name? = .ok c := by
  unfold compile at hcompile ⊢
  cases hbuild : build document name? .empty with
  | error e w =>
      rw [hbuild] at hcompile
      cases hcompile
  | ok c' w =>
      rw [hbuild] at hcompile
      cases hcompile
      obtain ⟨_, v, hbuild', rfl, -⟩ := h .empty .empty c w alike_empty hbuild
      rw [hbuild']

/-- A document is built as it would be with one of the lists in another order. -/
theorem follows_build (hkeys : keys ∈ unordered)
    (hselected : selectSections (.root document) name? = .ok (config, board))
    (h : document.PermutedAt (board.path.steps ++ keys.map .key) document') :
    Follows Eq (build document name?) (build document' name?) := by
  obtain ⟨board', hselected', hboard⟩ := select_reordered hkeys hselected h
  unfold build
  rw [hselected, hselected']
  show Follows Eq (Board.setUp board >>= _) (Board.setUp board' >>= _)
  apply (follows_setUp hboard).bind
  intro parts parts' hparts
  apply (parallel_printer hparts (alike_refl config)).follows.andThen
  intro _
  apply runAlike_finish.follows.andThen
  intro slots
  rw [← hparts.rest]
  exact (Parallel.pure rfl).follows

end Selection

/-! ## §4. Compiling. -/

/-- Some of the unordered lists of the board at `p` have been permuted, one after another. -/
def BoardReordered (p : Path) : Value → Value → Prop :=
  Relation.ReflTransGen fun document document' =>
    ∃ keys ∈ unordered, document.PermutedAt (p.steps ++ keys.map .key) document'

/-- **The order of declarations does not matter.**  A document which is compiled selects a
board; whenever declared objects of this board or configured timers of its clock are put into
another order, the document is compiled to the same slots and the same parameters of the build. -/
theorem compile_unordered {document : Value} {name? : Option String} {c : Compiled}
    (hcompile : compile document name? = .ok c) :
    ∃ config board, selectSections (.root document) name? = .ok (config, board)
      ∧ ∀ document', BoardReordered board.path document document' →
        compile document' name? = .ok c := by
  have hselected : ∃ config board, selectSections (.root document) name? = .ok (config, board) := by
    cases compile_gives hcompile with
    | mk hsections => exact ⟨_, _, hsections⟩
  obtain ⟨config, board, hselected⟩ := hselected
  refine ⟨config, board, hselected, ?_⟩
  intro document' hreordered
  -- The board is selected at its place all along.
  have hkept : compile document' name? = .ok c ∧ ∃ board',
      selectSections (.root document') name? = .ok (config, board') ∧ board'.path = board.path := by
    induction hreordered with
    | refl => exact ⟨hcompile, board, hselected, rfl⟩
    | tail _ hstep ih =>
        obtain ⟨hcompile₁, board₁, hselected₁, hpath₁⟩ := ih
        obtain ⟨keys, hkeys, hperm⟩ := hstep
        rw [← hpath₁] at hperm
        obtain ⟨board₂, hselected₂, hboard₂⟩ := select_reordered hkeys hselected₁ hperm
        refine ⟨?_, board₂, hselected₂, hboard₂.path.trans hpath₁⟩
        exact compile_of_follows (follows_build hkeys hselected₁ hperm) hcompile₁
  exact hkept.1

namespace Sample

/-- The fields of an object. -/
def fields : Value → List (String × Value)
  | .object fs => fs
  | _ => []

/-- The small description with other PWM outputs. -/
def descriptionWith (outputs : List Value) : Value :=
  .object ([("selected_config", .string "C"), ("configurations", .list [config])]
    ++ ("boards", .list ([] ++
      .object ((fields board).take 5 ++ ("pwm_outputs", .list outputs) :: (fields board).drop 6)
        :: [])) :: [])

/-- The PWM outputs are in any order. -/
theorem outputs_permuted {outputs outputs' : List Value} (h : outputs.Perm outputs') :
    BoardReordered ((Path.root.key "boards").index 0) (descriptionWith outputs)
      (descriptionWith outputs') := by
  have hboard : Value.PermutedAt [.key "pwm_outputs"] _ _ :=
    @Value.PermutedAt.field _ _ ((fields board).take 5) ((fields board).drop 6) _ _ (by decide)
      (.here h)
  have hlist : Value.PermutedAt [.index 0, .key "pwm_outputs"] _ _ :=
    @Value.PermutedAt.element _ [] [] _ _ hboard
  exact .single ⟨["pwm_outputs"], by decide, .field (by decide) hlist⟩

end Sample

/-- The small description is compiled to the same if its two PWM outputs change places. -/
theorem sample_unordered : ∃ c, compile Sample.description none = .ok c
    ∧ compile (Sample.descriptionWith
        [Sample.softPwm "V" "G" "FTM1_0", Sample.softPwm "W" "H" "FTM0_1"]) none = .ok c := by
  obtain ⟨c, hc⟩ := Sample.compiles
  obtain ⟨config, board, hselected, hunordered⟩ := compile_unordered hc
  have hboard : selectSections (.root Sample.description) none
      = .ok (⟨Sample.config, (Path.root.key "configurations").index 0⟩,
        ⟨Sample.board, (Path.root.key "boards").index 0⟩) := rfl
  cases hboard.symm.trans hselected
  exact ⟨c, hc, hunordered _ (Sample.outputs_permuted (.swap _ _ _))⟩

end PrinterFirmware
