/-
  PrinterFirmware.Proofs.Locations
  ────────────────────────────────
  **A PLACE IS KNOWN BY ITS DISPLAYED FORM.**

  A displayed place is read from the left.  A key is over where a dot or a bracket
  follows, and an index where its bracket is closed; what begins the next step tells
  whether it is a key or an index.  Only the first key has no dot before it, but it
  does not begin with a bracket, so an index is not taken for it.

  This works if no key is empty or has a dot or an opening bracket in it.  Digits,
  closing brackets and blanks in a key are harmless.  The root has a text of its own,
  which is that of no other place unless it is the name of a key.

      laterStep_append_inj       one step after another one
      laterSteps_injective       all steps after another one
      displayChars_injective     whole places

  Main result: `display_eq_iff`.
-/
import PrinterFirmware.Document.Path
import PrinterFirmware.Proofs.Readable

namespace PrinterFirmware.Document

/-! ## §1. Keys which can be told from what is around them. -/

/-- A character which can stand in a key: it neither ends the key nor begins the next step. -/
def isKeyChar (ch : Char) : Bool := ch != '.' && ch != '['

/-- A step which can be told from what is around it. -/
def Step.Plain : Step → Prop
  | .key name => name ≠ "" ∧ '.' ∉ name.toList ∧ '[' ∉ name.toList ∧ name ≠ "<root>"
  | .index _ => True

instance : DecidablePred Step.Plain := fun s =>
  match s with
  | .key name =>
      inferInstanceAs
        (Decidable (name ≠ "" ∧ '.' ∉ name.toList ∧ '[' ∉ name.toList ∧ name ≠ "<root>"))
  | .index _ => isTrue trivial

theorem Step.Plain.keyChars {name : String} (h : (key name).Plain) :
    ∀ ch ∈ name.toList, isKeyChar ch = true := by
  obtain ⟨-, hdot, hbracket, -⟩ := h
  intro ch hch
  have hdot' : ch ≠ '.' := fun heq => hdot (heq ▸ hch)
  have hbracket' : ch ≠ '[' := fun heq => hbracket (heq ▸ hch)
  simp [isKeyChar, hdot', hbracket']

/-! ## §2. Steps after another one. -/

namespace Path

/-- What stands where a step is over. -/
def EndsStep (rest : List Char) : Prop := ∀ ch ∈ rest.head?, isKeyChar ch = false

theorem head?_laterStepChars (s : Step) :
    ∃ ch, (laterStepChars s).head? = some ch ∧ isKeyChar ch = false := by
  cases s with
  | key name => exact ⟨'.', rfl, rfl⟩
  | index i => exact ⟨'[', rfl, rfl⟩

/-- Further steps begin with a dot or a bracket, if there are any. -/
theorem endsStep_laterSteps (steps : List Step) : EndsStep (steps.flatMap laterStepChars) := by
  intro ch hch
  cases steps with
  | nil => cases hch
  | cons s rest =>
      obtain ⟨first, hfirst, hkey⟩ := head?_laterStepChars s
      rw [List.flatMap_cons, List.head?_append, hfirst] at hch
      obtain rfl : first = ch := Option.some.inj hch
      exact hkey

variable {s s' : Step} {rest rest' : List Char}

/-- **A step and the text after it are known by the whole text.** -/
theorem laterStep_append_inj (hs : s.Plain) (hs' : s'.Plain) (hrest : EndsStep rest)
    (hrest' : EndsStep rest') (h : laterStepChars s ++ rest = laterStepChars s' ++ rest') :
    s = s' ∧ rest = rest' := by
  cases s with
  | key name =>
      cases s' with
      | key name' =>
          -- Both keys are over at the first character which cannot stand in a key.
          obtain ⟨hname, hr⟩ := run_append_inj hs.keyChars hs'.keyChars hrest hrest'
            (List.tail_eq_of_cons_eq h)
          exact ⟨congrArg Step.key (String.toList_injective hname), hr⟩
      | index => cases congrArg List.head? h
  | index i =>
      cases s' with
      | key => cases congrArg List.head? h
      | index i' =>
          have hdigits : Numeral.digits i ++ ']' :: rest = Numeral.digits i' ++ ']' :: rest' := by
            simpa [laterStepChars] using h
          obtain ⟨hi, hr⟩ :=
            digits_append_inj (endsWord_cons rfl rest) (endsWord_cons rfl rest') hdigits
          exact ⟨congrArg Step.index hi, List.tail_eq_of_cons_eq hr⟩

/-- Steps which follow another one are known by their text. -/
theorem laterSteps_injective {steps steps' : List Step} (hsteps : ∀ s ∈ steps, s.Plain)
    (hsteps' : ∀ s ∈ steps', s.Plain)
    (h : steps.flatMap laterStepChars = steps'.flatMap laterStepChars) : steps = steps' := by
  have hnil : ∀ (s : Step) (more : List Step), (s :: more).flatMap laterStepChars ≠ [] := by
    intro s more
    cases s <;> exact List.cons_ne_nil _ _
  induction steps generalizing steps' with
  | nil =>
      cases steps' with
      | nil => rfl
      | cons s' more' => exact absurd h.symm (hnil s' more')
  | cons s more ih =>
      cases steps' with
      | nil => exact absurd h (hnil s more)
      | cons s' more' =>
          obtain ⟨hs, hmore⟩ := List.forall_mem_cons.1 hsteps
          obtain ⟨hs', hmore'⟩ := List.forall_mem_cons.1 hsteps'
          rw [List.flatMap_cons, List.flatMap_cons] at h
          obtain ⟨rfl, hr⟩ := laterStep_append_inj hs hs' (endsStep_laterSteps more)
            (endsStep_laterSteps more') h
          rw [ih hmore hmore' hr]

/-! ## §3. Whole places. -/

/-- A place which begins with an index is not displayed like one which begins with a key. -/
theorem displayChars_index_ne_key {i : Nat} {name : String} (hname : (Step.key name).Plain)
    (more more' : List Step) :
    displayChars (.index i :: more) ≠ displayChars (.key name :: more') := by
  intro h
  have hhead := congrArg List.head? h
  cases hchars : name.toList with
  | nil => exact hname.1 (String.toList_injective hchars)
  | cons ch chars =>
      have hkey := hname.keyChars ch (by rw [hchars]; exact List.mem_cons_self)
      have hfirst : displayChars (.key name :: more')
          = ch :: (chars ++ more'.flatMap laterStepChars) := by
        show name.toList ++ _ = _
        rw [hchars]
        rfl
      rw [hfirst] at hhead
      obtain rfl : '[' = ch := Option.some.inj hhead
      cases hkey

/-- No other place is displayed like the root. -/
theorem displayChars_ne_root {s : Step} (hs : s.Plain) (more : List Step) :
    displayChars (s :: more) ≠ displayChars [] := by
  intro h
  cases s with
  | index => cases congrArg List.head? h
  | key name =>
      -- The text of the root could be a key, so a first key like it would be all of the place.
      have hroot : ∀ ch ∈ displayChars [], isKeyChar ch = true :=
        List.all_eq_true.1 (by decide)
      have htext : name.toList ++ more.flatMap laterStepChars = displayChars [] ++ [] := by
        rw [List.append_nil]
        exact h
      have hnil : EndsStep [] := fun ch hch => by cases hch
      obtain ⟨hname, -⟩ :=
        run_append_inj hs.keyChars hroot (endsStep_laterSteps more) hnil htext
      exact hs.2.2.2 (String.toList_injective hname)

theorem displayChars_injective {steps steps' : List Step} (hsteps : ∀ s ∈ steps, s.Plain)
    (hsteps' : ∀ s ∈ steps', s.Plain) (h : displayChars steps = displayChars steps') :
    steps = steps' := by
  cases steps with
  | nil =>
      cases steps' with
      | nil => rfl
      | cons s' more' =>
          exact absurd h.symm (displayChars_ne_root (hsteps' s' List.mem_cons_self) more')
  | cons s more =>
      cases steps' with
      | nil => exact absurd h (displayChars_ne_root (hsteps s List.mem_cons_self) more)
      | cons s' more' =>
          -- Two first keys are compared with their dots, which are not displayed.
          cases s with
          | key name =>
              cases s' with
              | key name' => exact laterSteps_injective hsteps hsteps' (congrArg ('.' :: ·) h)
              | index =>
                  have hname := hsteps _ List.mem_cons_self
                  exact absurd h.symm (displayChars_index_ne_key hname more' more)
          | index i =>
              cases s' with
              | key =>
                  have hname := hsteps' _ List.mem_cons_self
                  exact absurd h (displayChars_index_ne_key hname more more')
              | index => exact laterSteps_injective hsteps hsteps' h

/-- **Places with proper keys are displayed alike only if they are equal.** -/
theorem display_eq_iff {p p' : Path} (h : ∀ s ∈ p.steps, s.Plain) (h' : ∀ s ∈ p'.steps, s.Plain) :
    p.display = p'.display ↔ p = p' := by
  constructor
  · intro heq
    have hsteps := displayChars_injective h h' (String.ofList_injective heq)
    cases p
    cases p'
    exact congrArg Path.mk hsteps
  · intro heq
    rw [heq]

/-- Keys which are made of digits and closing brackets are told apart from indices. -/
theorem bracketed_display_eq_iff :
    let p : Path := ⟨[.index 1, .index 23, .key "4]", .key "<root"]⟩
    let p' : Path := ⟨[.index 1, .index 2, .key "3]", .key "4]", .key "<root"]⟩
    (∀ s ∈ p.steps, s.Plain) ∧ (∀ s ∈ p'.steps, s.Plain) ∧ (p.display = p'.display ↔ p = p') := by
  intro p p'
  have hp : ∀ s ∈ p.steps, s.Plain := by decide
  have hp' : ∀ s ∈ p'.steps, s.Plain := by decide
  exact ⟨hp, hp', display_eq_iff hp hp'⟩

/-- A key with a dot would be displayed like two keys. -/
example : display ⟨[.key "a.b"]⟩ = display ⟨[.key "a", .key "b"]⟩ := by decide

end Path

end PrinterFirmware.Document
