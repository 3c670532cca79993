/-
  PrinterFirmware.Proofs.Letters
  ──────────────────────────────
  **THINGS WHICH ARE NAMED BY LETTERS.**

  Axes, heaters and fans claim letters, and their symbols begin with the claimed
  letter.  A letter which is claimed has not been in use in its scope, so the symbols
  of the new thing are new as long as every used symbol of the scope has a letter in
  use (`Claimed`).  `Claims` carries this from claim to claim:

      Claims.thing        one thing: its letter and its symbols
      Claims.walkFrom     things one after another (`Things`)
      Claims.fresh        a walk which begins with no letter in use

  Afterwards all that is known of the symbols of a scope is that they are used, which
  is what `Reaches` and `Occupies` state.
-/
import PrinterFirmware.Proofs.Registration

namespace PrinterFirmware

open Document Naming Build

variable {α β : Type} {document : Value}

/-! ## §1. Letters in use. -/

namespace Workspace

/-- The workspace with one more letter in use. -/
def withLetter (w : Workspace) (scope : LetterScope) (l : Char) : Workspace :=
  { w with letters := w.letters ++ [(scope, l)] }

/-- The workspace with no letter of a scope in use. -/
def withoutLetters (w : Workspace) (scope : LetterScope) : Workspace :=
  { w with letters := lettersBut scope w.letters }

/-- The workspace `v` with the letters which `w` has in a scope. -/
def restoreLetters (v : Workspace) (scope : LetterScope) (w : Workspace) : Workspace :=
  { v with letters := lettersBut scope v.letters ++ lettersOf scope w.letters }

variable {w v : Workspace} {scope s : LetterScope} {l : Char}

theorem mem_lettersIn : l ∈ w.lettersIn scope ↔ (scope, l) ∈ w.letters := by
  simp [lettersIn, lettersOf]

theorem lettersOf_but_self (letters : List (LetterScope × Char)) :
    lettersOf scope (lettersBut scope letters) = [] := by
  simp [lettersOf, lettersBut]

theorem lettersOf_but (letters : List (LetterScope × Char)) (h : s ≠ scope) :
    lettersOf s (lettersBut scope letters) = lettersOf s letters := by
  unfold lettersOf lettersBut
  rw [List.filter_filter]
  apply List.filter_congr
  rintro ⟨t, l⟩ _
  by_cases ht : t = s
  · subst ht
    simp [h]
  · simp [ht]

theorem lettersOf_of (letters : List (LetterScope × Char)) (h : s ≠ scope) :
    lettersOf s (lettersOf scope letters) = [] := by
  unfold lettersOf
  rw [List.filter_filter]
  apply List.filter_eq_nil_iff.2
  rintro ⟨t, l⟩ _
  by_cases ht : t = s
  · subst ht
    simp [h]
  · simp [ht]

theorem lettersIn_withLetter_self : (w.withLetter scope l).lettersIn scope
    = w.lettersIn scope ++ [l] := by
  simp [lettersIn, withLetter, lettersOf]

theorem lettersIn_withLetter (h : s ≠ scope) :
    (w.withLetter scope l).lettersIn s = w.lettersIn s := by
  simp [lettersIn, withLetter, lettersOf, h.symm]

theorem lettersIn_withoutLetters_self : (w.withoutLetters scope).lettersIn scope = [] := by
  simp [lettersIn, withoutLetters, lettersOf_but_self]

theorem lettersIn_withoutLetters (h : s ≠ scope) :
    (w.withoutLetters scope).lettersIn s = w.lettersIn s := by
  simp [lettersIn, withoutLetters, lettersOf_but _ h]

theorem lettersIn_restoreLetters_self :
    (v.restoreLetters scope w).lettersIn scope = w.lettersIn scope := by
  have hsplit : lettersOf scope (lettersBut scope v.letters ++ lettersOf scope w.letters)
      = lettersOf scope w.letters := by
    have hboth : lettersOf scope (lettersBut scope v.letters ++ lettersOf scope w.letters)
        = lettersOf scope (lettersBut scope v.letters)
          ++ lettersOf scope (lettersOf scope w.letters) := List.filter_append _ _
    rw [hboth, lettersOf_but_self]
    simp [lettersOf]
  simp [lettersIn, restoreLetters, hsplit]

theorem lettersIn_restoreLetters (h : s ≠ scope) :
    (v.restoreLetters scope w).lettersIn s = v.lettersIn s := by
  have hsplit : lettersOf s (lettersBut scope v.letters ++ lettersOf scope w.letters)
      = lettersOf s v.letters := by
    have hboth : lettersOf s (lettersBut scope v.letters ++ lettersOf scope w.letters)
        = lettersOf s (lettersBut scope v.letters) ++ lettersOf s (lettersOf scope w.letters) :=
      List.filter_append _ _
    rw [hboth, lettersOf_but _ h, lettersOf_of _ h, List.append_nil]
  simp [lettersIn, restoreLetters, hsplit]

/-- Letters are no part of what is orderly. -/
theorem Orderly.withLetters {x : Site document} {U : Symbol → Prop} (hw : w.Orderly x U)
    (letters : List (LetterScope × Char)) : Orderly x U { w with letters := letters } :=
  ⟨hw.phase, hw.kinds, hw.clock, hw.grammars, hw.objects, hw.deferred, hw.slots, hw.symbols⟩

end Workspace

/-! ## §2. Walks which occupy symbols. -/

/-- On the site `x` the walk `m` uses at most the symbols `S`, none of which has been used
before, ends with `P` and reports only what is true of the document. -/
def Reaches (x : Site document) (S : Symbol → Prop) (m : Build α)
    (P : α → Gain → Site document → Prop) : Prop :=
  ∀ U w, w.Orderly x U → (∀ t, S t → ¬ U t) →
    Ends m w (Led (fun t => U t ∨ S t) P w) (Reports document)

/-- The walk `m` uses at most the symbols `S`, gives results and gains with `P` and leaves
the site as it is. -/
def Occupies (x : Site document) (S : Symbol → Prop) (m : Build α) (P : α → Gain → Prop) : Prop :=
  Reaches x S m fun a g x' => P a g ∧ x' = x

section Occupying

variable {x : Site document} {S S₁ T : Symbol → Prop} {m : Build α} {f : α → Build β}

/-- A walk which declares a list of symbols uses them. -/
theorem Leads.reaches {L : List Symbol} {P : α → Gain → Site document → Prop}
    (h : Leads x L m P) (hnodup : L.Nodup) (hvalid : ∀ t ∈ L, t.Valid) :
    Reaches x (· ∈ L) m P :=
  fun U w hw hU => h U w hw ⟨hnodup, hvalid, hU⟩

theorem Declares.occupies {L : List Symbol} {P : α → Gain → Prop} (h : Declares x L m P)
    (hnodup : L.Nodup) (hvalid : ∀ t ∈ L, t.Valid) : Occupies x (· ∈ L) m P :=
  Leads.reaches h hnodup hvalid

theorem Reaches.mono {P P' : α → Gain → Site document → Prop} (h : Reaches x S m P)
    (hP : ∀ a g x', P a g x' → P' a g x') : Reaches x S m P' := by
  intro U w hw hU
  apply (h U w hw hU).mono
  intro a w' hled
  obtain ⟨⟨g, x', ha, hg, hw'⟩, hl⟩ := hled
  exact ⟨⟨g, x', hP a g x' ha, hg, hw'⟩, hl⟩

/-- A walk which uses less also uses at most more. -/
theorem Reaches.widen {S' : Symbol → Prop} {P : α → Gain → Site document → Prop}
    (h : Reaches x S m P) (hS : ∀ t, S t → S' t) : Reaches x S' m P := by
  intro U w hw hU
  apply (h U w hw fun t ht => hU t (hS t ht)).mono
  intro a w' hled
  obtain ⟨⟨g, x', ha, hg, hw'⟩, hl⟩ := hled
  exact ⟨⟨g, x', ha, hg, hw'.mono fun t => Or.imp_right (hS t)⟩, hl⟩

theorem Occupies.mono {P P' : α → Gain → Prop} (h : Occupies x S m P)
    (hP : ∀ a g, P a g → P' a g) : Occupies x S m P' :=
  Reaches.mono h fun a g _ ha => ⟨hP a g ha.1, ha.2⟩

/-- One walk after another, on disjoint sets of symbols. -/
theorem Reaches.bind {P : α → Gain → Site document → Prop} {Q : β → Gain → Site document → Prop}
    (h : Reaches x S₁ m P) (hdisj : ∀ t, T t → ¬ S₁ t)
    (k : ∀ a g x', P a g x' → Reaches x' T (f a) fun b g' x'' => Q b (g ++ g') x'') :
    Reaches x (fun t => S₁ t ∨ T t) (m >>= f) Q := by
  intro U w hw hU
  apply (h U w hw fun t ht => hU t (Or.inl ht)).bind
  intro a w₁ hled
  obtain ⟨⟨g, x₁, ha, hg, hw₁⟩, hl₁⟩ := hled
  have hfresh : ∀ t, T t → ¬ (U t ∨ S₁ t) := by
    intro t ht hcase
    rcases hcase with hUt | h₁
    · exact hU t (Or.inr ht) hUt
    · exact hdisj t ht h₁
  apply (k a g x₁ ha _ w₁ hw₁ hfresh).mono
  intro b w₂ hled
  obtain ⟨⟨g', x₂, hb, hg', hw₂⟩, hl₂⟩ := hled
  refine ⟨⟨g ++ g', x₂, hb, hg.trans hg', hw₂.mono ?_⟩,
    fun scope => (hl₂ scope).trans (hl₁ scope)⟩
  exact fun t => or_assoc.1

theorem Occupies.bind {P : α → Gain → Prop} {Q : β → Gain → Prop} (h : Occupies x S₁ m P)
    (hdisj : ∀ t, T t → ¬ S₁ t)
    (k : ∀ a g, P a g → Occupies x T (f a) fun b g' => Q b (g ++ g')) :
    Occupies x (fun t => S₁ t ∨ T t) (m >>= f) Q := by
  apply Reaches.bind h hdisj
  intro a g _ hled
  obtain ⟨ha, rfl⟩ := hled
  exact k a g ha

/-- A walk whose result is only rewritten afterwards. -/
theorem Occupies.map {P : α → Gain → Prop} {Q : β → Gain → Prop} {h : α → β}
    (hm : Occupies x S m P) (k : ∀ a g, P a g → Q (h a) g) :
    Occupies x S (m >>= fun a => pure (h a)) Q := by
  intro U w hw hU
  apply (hm U w hw hU).bind
  intro a w' hled
  obtain ⟨⟨g, x', ⟨ha, hx⟩, hg, hw'⟩, hl⟩ := hled
  exact ends_pure ⟨⟨g, x', ⟨k a g ha, hx⟩, hg, hw'⟩, hl⟩

end Occupying

/-! ## §3. Claims. -/

/-- The symbols of the things of a scope whose letters are in use. -/
def Claimed (scope : LetterScope) (letters : List Char) : Symbol → Prop :=
  fun t => ∃ l ∈ letters, ∃ field, t = .lettered scope l field

theorem Claimed.scope {scope : LetterScope} {ls : List Char} {t : Symbol}
    (h : Claimed scope ls t) : t.scope? = some scope := by
  obtain ⟨l, -, field, rfl⟩ := h
  rfl

/-- How a walk ends which claims letters of a scope and uses the symbols `S` besides:
`P` relates the letters of before, the result, the gain and the letters of after. -/
structure HasClaimed (x : Site document) (scope : LetterScope) (used : Symbol → Prop)
    (P : List Char → α → Gain → List Char → Prop) (w : Workspace) (a : α) (w' : Workspace) :
    Prop where
  gain : ∃ g, P (w.lettersIn scope) a g (w'.lettersIn scope) ∧ w.Gains g w'
  orderly : w'.Orderly x fun t => used t ∨ Claimed scope (w'.lettersIn scope) t
  letters : ∀ s, s ≠ scope → w'.lettersIn s = w.lettersIn s

/-- The walk `m` uses, besides symbols of things whose letters it claims, at most the
symbols `S`, none of which has been used before. -/
def Claims (x : Site document) (scope : LetterScope) (S : Symbol → Prop) (m : Build α)
    (P : List Char → α → Gain → List Char → Prop) : Prop :=
  ∀ (U : Symbol → Prop) (w : Workspace),
    (w.Orderly x fun t => U t ∨ Claimed scope (w.lettersIn scope) t) →
    (∀ t, U t → t.scope? ≠ some scope ∧ ¬ S t) →
    Ends m w (HasClaimed x scope (fun t => U t ∨ S t) P w) (Reports document)

section Claiming

variable {x : Site document} {scope : LetterScope} {S S₁ T : Symbol → Prop} {m : Build α}
  {f : α → Build β} {P P' : List Char → α → Gain → List Char → Prop}
  {Q : List Char → β → Gain → List Char → Prop}

theorem Claims.mono (h : Claims x scope S m P)
    (hP : ∀ ls a g ls', P ls a g ls' → P' ls a g ls') : Claims x scope S m P' := by
  intro U w hw hU
  apply (h U w hw hU).mono
  intro a w' hled
  obtain ⟨⟨g, ha, hg⟩, hw', hl⟩ := hled
  exact ⟨⟨g, hP _ a g _ ha, hg⟩, hw', hl⟩

/-- A walk which occupies symbols of other scopes, or of none, claims no letter. -/
theorem Occupies.claims {P : α → Gain → Prop} (h : Occupies x S m P)
    (hscope : ∀ t, S t → t.scope? ≠ some scope) :
    Claims x scope S m fun ls a g ls' => P a g ∧ ls' = ls := by
  intro U w hw hU
  have hfresh : ∀ t, S t → ¬ (U t ∨ Claimed scope (w.lettersIn scope) t) := by
    intro t ht hcase
    rcases hcase with hUt | hc
    · exact (hU t hUt).2 ht
    · exact hscope t ht hc.scope
  apply (h _ w hw hfresh).mono
  intro a w' hled
  obtain ⟨⟨g, _, ⟨ha, rfl⟩, hg, hw'⟩, hl⟩ := hled
  refine ⟨⟨g, ⟨ha, hl scope⟩, hg⟩, hw'.mono ?_, fun s _ => hl s⟩
  intro t hcase
  rcases hcase with (hUt | hc) | ht
  · exact Or.inl (Or.inl hUt)
  · rw [hl scope]
    exact Or.inr hc
  · exact Or.inl (Or.inr ht)

/-- One walk after another. -/
theorem Claims.bind (h : Claims x scope S₁ m P) (hdisj : ∀ t, S₁ t → ¬ T t)
    (hscope : ∀ t, S₁ t → t.scope? ≠ some scope)
    (k : ∀ ls a g ls', P ls a g ls' →
      Claims x scope T (f a) fun ls₁ b g' ls'' => ls₁ = ls' → Q ls b (g ++ g') ls'') :
    Claims x scope (fun t => S₁ t ∨ T t) (m >>= f) Q := by
  intro U w hw hU
  apply (h U w hw fun t ht => ⟨(hU t ht).1, fun h₁ => (hU t ht).2 (Or.inl h₁)⟩).bind
  intro a w₁ hled
  obtain ⟨⟨g, ha, hg⟩, hw₁, hl₁⟩ := hled
  have hfresh : ∀ t, U t ∨ S₁ t → t.scope? ≠ some scope ∧ ¬ T t := by
    intro t hcase
    rcases hcase with hUt | h₁
    · exact ⟨(hU t hUt).1, fun h₂ => (hU t hUt).2 (Or.inr h₂)⟩
    · exact ⟨hscope t h₁, hdisj t h₁⟩
  apply (k _ a g _ ha _ w₁ hw₁ hfresh).mono
  intro b w₂ hled
  obtain ⟨⟨g', hb, hg'⟩, hw₂, hl₂⟩ := hled
  refine ⟨⟨g ++ g', hb rfl, hg.trans hg'⟩, hw₂.mono ?_, fun s hs => (hl₂ s hs).trans (hl₁ s hs)⟩
  exact fun t => Or.imp_left or_assoc.1

/-- A walk which claims before one which declares, or the other way round, and which
needs nothing but the letters. -/
theorem Claims.map {h : α → β} (hm : Claims x scope S m P)
    (k : ∀ ls a g ls', P ls a g ls' → Q ls (h a) g ls') :
    Claims x scope S (m >>= fun a => pure (h a)) Q := by
  intro U w hw hU
  apply (hm U w hw hU).bind
  intro a w' hled
  obtain ⟨⟨g, ha, hg⟩, hw', hl⟩ := hled
  exact ends_pure ⟨⟨g, k _ a g _ ha, hg⟩, hw', hl⟩

/-- A look at the document before a walk. -/
theorem Claims.read {r : Reading α} {R : α → Prop} (h : Honest document r R)
    (k : ∀ a, R a → r = .ok a → Claims x scope S (f a) Q) :
    Claims x scope S ((liftM r : Build α) >>= f) Q := by
  intro U w hw hU
  apply ends_read_bind h.violation
  intro a ha
  exact k a (h.value a ha) ha U w hw hU

/-! ## §4. One thing. -/

/-- The field which holds the letter of a thing. -/
def letterKey : String := "Name"

/-- Claiming a letter: it is new in its scope. -/
theorem ends_claimLetter {c : Cursor} (hc : c.In document) (w : Workspace) :
    Ends (claimLetter scope c letterKey) w (fun l w' => c.letter letterKey = .ok l
      ∧ isUpper l = true ∧ l ∉ w.lettersIn scope ∧ w' = w.withLetter scope l)
      (Reports document) := by
  unfold claimLetter
  refine ends_read_bind (hc.placed.honest_letter letterKey).violation ?_
  intro l hl
  obtain ⟨hupper, hplace⟩ := (hc.placed.honest_letter letterKey).value l hl
  refine Ends.bind (Q := fun v w' => v = w ∧ w' = w) (ends_ok rfl ⟨rfl, rfl⟩) ?_
  intro _ v hgives
  obtain ⟨rfl, rfl⟩ := hgives
  by_cases hold : (scope, l) ∈ v.letters
  · rw [if_pos hold]
    have htrue : Violation.TrueAt document (c.keyPath letterKey)
        (.duplicateName scope.display) := by
      have hscope : scope.display ∈ letteredThings := by cases scope <;> decide
      show if _ then _ else _
      rw [if_pos hscope]
      exact ⟨l, hupper, hplace⟩
    exact ends_error rfl htrue
  · rw [if_neg hold]
    refine Ends.bind (Q := fun _ w' => w' = v.withLetter scope l) (ends_ok rfl rfl) ?_
    intro _ _ hgives
    subst hgives
    exact ends_pure ⟨hl, hupper, fun h => hold (Workspace.mem_lettersIn.1 h), rfl⟩

/-- The symbols of a thing. -/
def thingSymbols (scope : LetterScope) (l : Char) (fields : List String) : List Symbol :=
  fields.map (.lettered scope l)

/-- The symbols of a thing with a new letter are fresh. -/
theorem fresh_thingSymbols {U : Symbol → Prop} {ls : List Char} {l : Char} {fields : List String}
    (hU : ∀ t, U t → t.scope? ≠ some scope) (hupper : isUpper l = true) (hnew : l ∉ ls)
    (hnodup : fields.Nodup) (hfields : ∀ f ∈ fields, f ∈ scope.fields) :
    Fresh (fun t => U t ∨ Claimed scope ls t) (thingSymbols scope l fields) := by
  refine ⟨?_, ?_, ?_⟩
  · refine List.Pairwise.map _ ?_ hnodup
    intro a b hab heq
    injection heq with _ _ hf
    exact hab hf
  · intro t ht
    obtain ⟨f, hf, rfl⟩ := List.mem_map.1 ht
    exact ⟨hupper, hfields f hf⟩
  · intro t ht
    obtain ⟨f, hf, rfl⟩ := List.mem_map.1 ht
    intro hcase
    rcases hcase with hUt | ⟨l', hl', f', heq⟩
    · exact hU _ hUt rfl
    · injection heq with _ hll _
      subst hll
      exact hnew hl'

/-- A thing with a letter: the claim, and the walk which declares its symbols. -/
theorem Claims.thing {c : Cursor} {body : Char → Build α} {fields : List String}
    {R : Char → α → Gain → Prop} (hc : c.In document) (hnodup : fields.Nodup)
    (hfields : ∀ f ∈ fields, f ∈ scope.fields)
    (h : ∀ l, Declares x (thingSymbols scope l fields) (body l) (R l)) :
    Claims x scope (fun _ => False) (claimLetter scope c letterKey >>= body) fun ls a g ls' =>
      ∃ l, l ∉ ls ∧ c.letter letterKey = .ok l ∧ R l a g ∧ ls' = ls ++ [l] := by
  intro U w hw hU
  apply (ends_claimLetter hc w).bind
  intro l _ hled
  obtain ⟨hl, hupper, hnew, rfl⟩ := hled
  -- A new letter makes all the symbols of the thing new.
  have hfresh := fresh_thingSymbols (fun t ht => (hU t ht).1) hupper hnew hnodup hfields
  apply (h l _ _ (hw.withLetters _) hfresh).mono
  intro a w' hled
  obtain ⟨⟨g, _, ⟨ha, rfl⟩, hg, hw'⟩, hletters⟩ := hled
  have hself : w'.lettersIn scope = w.lettersIn scope ++ [l] := by
    rw [hletters]
    exact Workspace.lettersIn_withLetter_self
  refine ⟨⟨g, ⟨l, hnew, hl, ha, hself⟩, hg.items, hg.units, hg.pins⟩, hw'.mono ?_, ?_⟩
  · intro t hcase
    rcases hcase with (hUt | ⟨l', hl', hf⟩) | ht
    · exact Or.inl (Or.inl hUt)
    · refine Or.inr ⟨l', ?_, hf⟩
      rw [hself]
      exact List.mem_append_left _ hl'
    · obtain ⟨f, -, rfl⟩ := List.mem_map.1 ht
      refine Or.inr ⟨l, ?_, f, rfl⟩
      rw [hself]
      exact List.mem_append_right _ (List.mem_singleton_self l)
  · intro s hs
    rw [hletters]
    exact Workspace.lettersIn_withLetter hs

end Claiming

/-! ## §5. Things one after another. -/

/-- Things one after another, the first of which has index `i`: every one claims a letter
which is not in use, and `R` relates its cursor, index and letter to its expression and
gain. -/
inductive Things (R : Cursor → Nat → Char → TypeExpr → Gain → Prop) :
    List Char → Nat → List Cursor → List TypeExpr → Gain → List Char → Prop where
  | nil {letters : List Char} {i : Nat} : Things R letters i [] [] ∅ letters
  | cons {letters after : List Char} {i : Nat} {c : Cursor} {rest : List Cursor} {l : Char}
      {e : TypeExpr} {es : List TypeExpr} {g g' : Gain} (hnew : l ∉ letters)
      (hletter : c.letter letterKey = .ok l) (h : R c i l e g)
      (hrest : Things R (letters ++ [l]) (i + 1) rest es g' after) :
      Things R letters i (c :: rest) (e :: es) (g ++ g') after

/-- The objects of numbered fields, the first of which has number `i`. -/
inductive Numbered (elems : Cursor) (stem : String) : Nat → List Cursor → Prop where
  | nil {i : Nat} : Numbered elems stem i []
  | cons {i : Nat} {c : Cursor} {rest : List Cursor}
      (hc : elems.enter (stem ++ Numeral.ofNat i) = .ok c)
      (hrest : Numbered elems stem (i + 1) rest) : Numbered elems stem i (c :: rest)

/-- The things of the list at `key`, as a sequence of types. -/
inductive ListedThings (R : Cursor → Nat → Char → TypeExpr → Gain → Prop) (c : Cursor)
    (key : String) (min max : Nat) (letters : List Char) :
    TypeExpr → Gain → List Char → Prop where
  | mk {elems : List Cursor} {es : List TypeExpr} {g : Gain} {after : List Char}
      (helems : c.objects key min max = .ok elems) (hes : Things R letters 0 elems es g after) :
      ListedThings R c key min max letters (.list es) g after

/-- The objects of the numbered fields at `elemsKey`, whose number stands at `countKey`. -/
structure Fields (c : Cursor) (countKey elemsKey stem : String) (min max : Nat)
    (nodes : List Cursor) : Prop where
  count : ∃ n, c.int countKey = .ok n ∧ min ≤ n ∧ n ≤ max ∧ nodes.length = n.toNat
  numbered : ∃ elems, c.enter elemsKey = .ok elems ∧ Numbered elems stem 0 nodes

section Sequences

variable {x : Site document} {scope : LetterScope} {f : Cursor → Nat → Build TypeExpr}
  {R : Cursor → Nat → Char → TypeExpr → Gain → Prop}

/-- The walk over one thing of a scope. -/
def ClaimsThing (x : Site document) (scope : LetterScope) (f : Cursor → Nat → Build TypeExpr)
    (R : Cursor → Nat → Char → TypeExpr → Gain → Prop) : Prop :=
  ∀ c i, c.In document → Claims x scope (fun _ => False) (f c i) fun ls e g ls' =>
    ∃ l, l ∉ ls ∧ c.letter letterKey = .ok l ∧ R c i l e g ∧ ls' = ls ++ [l]

theorem claims_pure {a : α} {P : List Char → α → Gain → List Char → Prop}
    (h : ∀ ls, P ls a ∅ ls) : Claims x scope (fun _ => False) (pure a) P := by
  intro U w hw _
  refine ends_pure ⟨⟨∅, h _, .refl w⟩, hw.mono ?_, fun _ _ => rfl⟩
  intro t hcase
  rcases hcase with hUt | hc
  · exact Or.inl (Or.inl hUt)
  · exact Or.inr hc

/-- Claims which use no other symbols. -/
theorem Claims.bindOnly {m : Build α} {k : α → Build β} {S : Symbol → Prop}
    {P : List Char → α → Gain → List Char → Prop} {Q : List Char → β → Gain → List Char → Prop}
    (h : Claims x scope (fun _ => False) m P)
    (hk : ∀ ls a g ls', P ls a g ls' →
      Claims x scope S (k a) fun ls₁ b g' ls'' => ls₁ = ls' → Q ls b (g ++ g') ls'') :
    Claims x scope S (m >>= k) Q := by
  have hall := h.bind (fun _ hf => hf.elim) (fun _ hf => hf.elim) hk
  have hS : (fun t => False ∨ S t) = S := funext fun t => propext (by rw [false_or])
  rwa [hS] at hall

theorem Claims.walkFrom (hf : ClaimsThing x scope f R) {elems : List Cursor}
    (helems : ∀ e ∈ elems, e.In document) (i : Nat) :
    Claims x scope (fun _ => False) (Cursor.walkFrom f i elems) fun ls es g ls' =>
      Things R ls i elems es g ls' := by
  induction elems generalizing i with
  | nil => exact claims_pure fun ls => .nil
  | cons c rest ih =>
      apply (hf c i (helems c List.mem_cons_self)).bindOnly
      intro ls e g _ hgives
      obtain ⟨l, hnew, hl, he, rfl⟩ := hgives
      refine (ih (fun e' h' => helems e' (List.mem_cons_of_mem c h')) (i + 1)).map ?_
      intro ls₁ es g' ls'' hes hgives
      subst hgives
      exact .cons hnew hl he hes

theorem Claims.walkNumbered (hf : ClaimsThing x scope f R) {elems : Cursor}
    (helems : elems.In document) (stem : String) (count : Nat) (i : Nat) :
    Claims x scope (fun _ => False) (Cursor.walkNumbered elems stem f i count)
      fun ls es g ls' => ∃ cs, cs.length = count ∧ Numbered elems stem i cs
        ∧ Things R ls i cs es g ls' := by
  induction count generalizing i with
  | zero => exact claims_pure fun ls => ⟨[], rfl, .nil, .nil⟩
  | succ count ih =>
      apply Claims.read (helems.placed.honest_enter _)
      intro c hcin hc
      apply (hf c i hcin).bindOnly
      intro ls e g _ hgives
      obtain ⟨l, hnew, hl, he, rfl⟩ := hgives
      apply (ih (i + 1)).map
      rintro ls₁ es g' ls'' ⟨cs, hlen, hcs, hes⟩ rfl
      exact ⟨c :: cs, by rw [List.length_cons, hlen], .cons hc hcs, .cons hnew hl he hes⟩

/-- Things in a list. -/
theorem Claims.mapList (hf : ClaimsThing x scope f R) {c : Cursor} (hc : c.In document)
    (key : String) (min max : Nat) :
    Claims x scope (fun _ => False) (c.mapList key min max f)
      (ListedThings R c key min max) := by
  unfold Cursor.mapList
  apply Claims.read (hc.placed.honest_objects key min max)
  rintro elems ⟨-, hin⟩ helems
  apply (Claims.walkFrom hf hin 0).map
  intro ls es g ls' hes
  exact .mk helems hes

/-- A walk over numbered fields, which ends as the walk over the fields does. -/
theorem ends_fields {c : Cursor} (hc : c.In document) {countKey elemsKey stem : String}
    {min max : Nat} (hmin : (min : Int) < signedBound) (hmax : (max : Int) < signedBound)
    {w : Workspace} {Q : TypeExpr → Workspace → Prop}
    (h : ∀ n elems, elems.In document → (∀ nodes, nodes.length = n → Numbered elems stem 0 nodes →
        Fields c countKey elemsKey stem min max nodes) →
      Ends (Cursor.walkNumbered elems stem f 0 n) w (fun es w' => Q (.list es) w')
        (Reports document)) :
    Ends (c.mapNumbered countKey elemsKey stem min max f) w Q (Reports document) := by
  refine ends_mapNumbered (hc.placed.honest_int _).violation ?_
    (hc.placed.honest_enter _).violation ?_
  · intro n hn hr
    rw [signedOfWord_of_lt hmin, signedOfWord_of_lt hmax] at hr
    exact ⟨Or.inr ((hc.placed.honest_int countKey).value n hn), hr⟩
  · intro n elems hn hr helems
    have hin := (hc.placed.honest_enter _).value elems helems
    rw [signedOfWord_of_lt hmin, signedOfWord_of_lt hmax] at hr
    have hword : wordOfSigned n = n.toNat := by
      have hneg : ¬ n < 0 := by omega
      simp [wordOfSigned, hneg]
    rw [hword]
    refine h n.toNat elems hin ?_
    intro nodes hlen hnodes
    exact ⟨⟨n, hn, by omega, by omega, hlen⟩, elems, helems, hnodes⟩

/-- Things in numbered fields. -/
theorem Claims.mapNumbered (hf : ClaimsThing x scope f R) {c : Cursor} (hc : c.In document)
    {countKey elemsKey stem : String} {min max : Nat} (hmin : (min : Int) < signedBound)
    (hmax : (max : Int) < signedBound) :
    Claims x scope (fun _ => False) (c.mapNumbered countKey elemsKey stem min max f)
      fun ls e g ls' => ∃ nodes es, Fields c countKey elemsKey stem min max nodes
        ∧ Things R ls 0 nodes es g ls' ∧ e = .list es := by
  intro U w hw hU
  apply ends_fields hc hmin hmax
  intro n elems hin hfields
  apply (Claims.walkNumbered hf hin stem n 0 U w hw hU).mono
  intro es w' hled
  obtain ⟨⟨g, ⟨nodes, hlen, hnodes, hes⟩, hg⟩, hw', hl⟩ := hled
  exact ⟨⟨g, ⟨nodes, es, hfields nodes hlen hnodes, hes, rfl⟩, hg⟩, hw', hl⟩

end Sequences

/-- A choice between walks which claim. -/
theorem Claims.choose {x : Site document} {scope : LetterScope} {S : Symbol → Prop} {c : Cursor}
    {key : String} {clauses : List (Clause Workspace α)}
    {P : List Char → α → Gain → List Char → Prop} (hc : c.In document)
    (hclauses : ∃ choice, Choice.ofClauses clauses = .ok choice)
    (h : Clauses (fun tag node m => node.In document → c.Chosen key tag node →
      Claims x scope S m P) clauses) :
    Claims x scope S (c.choose key clauses) P := by
  intro U w hw hU
  apply ends_choose_in hc hclauses
  apply h.mono
  intro tag node m hm hin hchosen
  exact hm hin hchosen U w hw hU

/-! ## §6. Walks with fresh letters. -/

/-- A walk which begins with no letter of a scope in use occupies the symbols of the
scope. -/
theorem Claims.fresh {x : Site document} {scope : LetterScope} {S : Symbol → Prop} {m : Build α}
    {P : List Char → α → Gain → List Char → Prop} (h : Claims x scope S m P) :
    Occupies x (fun t => S t ∨ t.scope? = some scope) (withFreshLetters scope m) fun a g =>
      ∃ ls', P [] a g ls' := by
  intro U w hw hU
  have hstart : (w.withoutLetters scope).Orderly x
      fun t => U t ∨ Claimed scope ((w.withoutLetters scope).lettersIn scope) t :=
    (hw.withLetters _).mono fun t ht => Or.inl ht
  -- No letter of the scope is in use, so all its symbols are free.
  have hbody := h U _ hstart fun t ht =>
    ⟨fun hs => hU t (Or.inr hs) ht, fun hs => hU t (Or.inl hs) ht⟩
  cases hm : m (w.withoutLetters scope) with
  | error e v =>
      have hrun : withFreshLetters scope m w = .error e (v.restoreLetters scope w) := by
        unfold withFreshLetters
        rw [show m { w with letters := lettersBut scope w.letters } = .error e v from hm]
        rfl
      exact ends_error hrun (hbody.failure e v hm)
  | ok a v =>
      have hrun : withFreshLetters scope m w = .ok a (v.restoreLetters scope w) := by
        unfold withFreshLetters
        rw [show m { w with letters := lettersBut scope w.letters } = .ok a v from hm]
        rfl
      obtain ⟨⟨g, ha, hg⟩, hv, hl⟩ := hbody.result a v hm
      rw [Workspace.lettersIn_withoutLetters_self] at ha
      refine ends_ok hrun ⟨⟨g, x, ⟨⟨_, ha⟩, rfl⟩, ⟨hg.items, hg.units, hg.pins⟩, ?_⟩, ?_⟩
      · refine (hv.mono ?_).withLetters _
        intro t hcase
        rcases hcase with (hUt | hS) | hc
        · exact Or.inl hUt
        · exact Or.inr (Or.inl hS)
        · exact Or.inr (Or.inr hc.scope)
      · intro s
        by_cases hs : s = scope
        · subst hs
          exact Workspace.lettersIn_restoreLetters_self
        · rw [Workspace.lettersIn_restoreLetters hs, hl s hs]
          exact Workspace.lettersIn_withoutLetters hs

end PrinterFirmware
