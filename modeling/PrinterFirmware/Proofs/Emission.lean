/-
  PrinterFirmware.Proofs.Emission
  ───────────────────────────────
  **AN EMITTER MAKES THE PROGRAM OF ITS DRAFT.**

  An emitter and a draft take the same calls, but an emitter takes them apart: into a set of
  symbols, lists which one counter numbers, sets and maps.  A draft only records them.  The
  emitter holds the draft after every call, and both refuse the same calls:

      Counted           pieces are numbered upwards, and no number is above the counter
      Holds             an emitter holds what is recorded in a draft
      Holds.add         a call keeps that, or is refused by both for the same reason
      Holds.render      both are rendered to the same slots, or refused alike
      program_eq        so calls make the same program either way
      compile_emits     and a compiled program is what an emitter makes of its items

  The counter is the reason why sorting by priority and number is a stable sort by priority,
  whatever calls of other accumulators come in between (`Counted.sorted_eq`).
-/
import PrinterFirmware.Program.Emitter
import PrinterFirmware.Proofs.Distinct
import PrinterFirmware.Proofs.Interrupts

namespace PrinterFirmware

namespace Emitter

/-! ## §1. Numbered pieces. -/

section Pieces

variable {α : Type} {n : Nat} {pieces : List (Prioritized α)} {things : List (Int × α)}

/-- Things which have been numbered by a counter: each later one has a higher number, and no
number is above the counter. -/
structure Counted (n : Nat) (pieces : List (Prioritized α)) (things : List (Int × α)) : Prop where
  things : pieces.map (fun p => (p.priority, p.item)) = things
  ascending : pieces.Pairwise fun p q => p.seq < q.seq
  bounded : ∀ p ∈ pieces, p.seq ≤ n

theorem counted_nil : Counted n ([] : List (Prioritized α)) [] := ⟨rfl, .nil, by simp⟩

/-- The counter may count things of other lists. -/
theorem Counted.mono (h : Counted n pieces things) {m : Nat} (hm : n ≤ m) :
    Counted m pieces things :=
  ⟨h.things, h.ascending, fun p hp => Nat.le_trans (h.bounded p hp) hm⟩

/-- One more thing gets the next number. -/
theorem Counted.concat (h : Counted n pieces things) (priority : Int) (a : α) :
    Counted (n + 1) (pieces ++ [⟨priority, n + 1, a⟩]) (things ++ [(priority, a)]) := by
  refine ⟨?_, ?_, ?_⟩
  · rw [List.map_append, h.things]
    rfl
  · refine List.pairwise_append.2 ⟨h.ascending, List.pairwise_singleton _ _, ?_⟩
    intro p hp q hq
    rw [List.mem_singleton.1 hq]
    exact Nat.lt_succ_of_le (h.bounded p hp)
  · intro p hp
    rcases List.mem_append.1 hp with hp | hp
    · exact Nat.le_succ_of_le (h.bounded p hp)
    · rw [List.mem_singleton.1 hp]

theorem comesFirst_iff {p q : Prioritized α} : comesFirst p q = true ↔
    p.priority < q.priority ∨ p.priority = q.priority ∧ p.seq ≤ q.seq := by
  simp [comesFirst]

theorem comesFirst_trans (p q r : Prioritized α) (hpq : comesFirst p q = true)
    (hqr : comesFirst q r = true) : comesFirst p r = true := by
  rw [comesFirst_iff] at *
  omega

theorem comesFirst_total (p q : Prioritized α) : (comesFirst p q || comesFirst q p) = true := by
  rw [Bool.or_eq_true, comesFirst_iff, comesFirst_iff]
  omega

/-- Pieces beside their priorities are the pieces. -/
theorem map_keyed (pieces : List (Prioritized α)) :
    (pieces.map fun p => (p.priority, p)).map (·.2) = pieces := by
  rw [List.map_map]
  exact List.map_id' pieces

/-- A stable sort by priority keeps the numbers of equal priorities ascending. -/
theorem pairwise_byPriority (h : pieces.Pairwise fun p q => p.seq < q.seq) :
    (Draft.byPriority (pieces.map fun p => (p.priority, p))).Pairwise
      fun p q => comesFirst p q = true := by
  have hkeys : ∀ e ∈ (pieces.map fun p => (p.priority, p)).mergeSort (fun a b => a.1 ≤ b.1),
      e.1 = e.2.priority := by
    intro e he
    obtain ⟨p, -, rfl⟩ := List.mem_map.1 (List.mem_mergeSort.1 he)
    rfl
  have hpriorities := List.pairwise_mergeSort Draft.priority_trans Draft.priority_total
    (pieces.map fun p => (p.priority, p))
  unfold Draft.byPriority
  rw [List.pairwise_map, List.pairwise_iff_forall_sublist]
  intro a b hab
  have ha := hkeys a (hab.subset List.mem_cons_self)
  have hb := hkeys b (hab.subset (List.mem_cons_of_mem a List.mem_cons_self))
  have hle : a.1 ≤ b.1 :=
    of_decide_eq_true (List.pairwise_iff_forall_sublist.1 hpriorities hab)
  rw [comesFirst_iff, ← ha, ← hb]
  rcases Int.lt_or_eq_of_le hle with hlt | heq
  · exact Or.inl hlt
  · -- Both have one priority, and the things of one priority stand as they did before.
    have hkept := hab.filter (·.1 == a.1)
    rw [Draft.filter_sorted fun _ _ he => beq_iff_eq.1 he, List.filter_cons_of_pos (by simp),
      List.filter_cons_of_pos (by simp [heq]), List.filter_nil] at hkept
    have hpieces : [a.2, b.2].Sublist pieces := by
      rw [← map_keyed pieces]
      exact (hkept.trans List.filter_sublist).map (·.2)
    exact Or.inr ⟨heq, Nat.le_of_lt (List.pairwise_iff_forall_sublist.1 h hpieces)⟩

/-- **Sorting by priority and number is a stable sort by priority.** -/
theorem Counted.sorted_eq (h : Counted n pieces things) :
    sorted pieces = Draft.byPriority things := by
  have hperm : (Draft.byPriority (pieces.map fun p => (p.priority, p))).Perm pieces :=
    (Draft.byPriority_perm _).trans (.of_eq (map_keyed pieces))
  have hdistinct : (pieces.map (·.seq)).Nodup :=
    List.pairwise_map.2 (h.ascending.imp Nat.ne_of_lt)
  -- As no number is given twice, the pieces have one order only.
  have hsorted : pieces.mergeSort comesFirst
      = Draft.byPriority (pieces.map fun p => (p.priority, p)) := by
    refine List.Perm.eq_of_pairwise ?_
      (List.pairwise_mergeSort comesFirst_trans comesFirst_total pieces)
      (pairwise_byPriority h.ascending) ((List.mergeSort_perm pieces _).trans hperm.symm)
    intro p q hp hq hpq hqp
    rw [comesFirst_iff] at hpq hqp
    have hseq : p.seq = q.seq := by omega
    exact List.inj_on_of_nodup_map hdistinct (List.mem_mergeSort.1 hp) (hperm.mem_iff.1 hq) hseq
  unfold sorted
  rw [hsorted, ← Draft.byPriority_map, List.map_map, ← h.things]
  rfl

end Pieces

end Emitter

/-! ## §2. Items. -/

namespace Item

/-- What an item adds to the constants. -/
def constant? : Item → Option Emitter.Constant
  | .constant declarator name value => some ⟨declarator, name, value⟩
  | _ => none

/-- What an item adds to the options. -/
def option? : Item → Option Emitter.ConfigOption
  | .option name dtype value => some ⟨name, dtype, value⟩
  | _ => none

/-- What an item adds to the platform includes. -/
def platformPath? : Item → Option String
  | .platformInclude path => some path
  | _ => none

/-- What an item adds to the init calls. -/
def initCall? : Item → Option (Int × String)
  | .initCall priority text => some (priority, text)
  | _ => none

/-- What an item adds to the slots which are filled directly. -/
def fill? : Item → Option (String × SlotContent)
  | .fill slot content => some (slot, content)
  | _ => none

end Item

namespace Emitter

/-- What is picked from items can be picked in another form. -/
theorem map_picked {α β : Type} {pick : Item → Option α} {pick' : Item → Option β} {f : α → β}
    (h : ∀ item, (pick item).map f = pick' item) (items : List Item) :
    (items.filterMap pick).map f = items.filterMap pick' := by
  rw [List.map_filterMap]
  exact List.filterMap_congr fun item _ => h item

/-- Adds an item to its accumulator. -/
def add : Item → Emission Unit
  | .constant declarator name value => do
      let _ ← addConstant declarator name value
  | .option name dtype value => do
      let _ ← addOption name dtype value
  | .platformInclude path => addPlatformInclude path
  | .frameworkInclude path => addFrameworkInclude path
  | .code priority text => addCode priority text
  | .initCall priority text => addInitCall priority text
  | .resource priority name expr contextName => addResource priority name expr contextName
  | .fill slot content => addFill slot content

/-- The broken rule, if an item cannot be added. -/
def breach? (e : Emitter) (item : Item) : Option Breach :=
  match item.symbol?, item.filledSlot? with
  | some name, _ => if name ∈ e.symbols then some (.symbolTwice name) else none
  | none, some slot => if slot ∈ e.fills.map (·.1) then some (.substitutionTwice slot) else none
  | none, none => none

/-- The emitter after an item has been added. -/
def put (e : Emitter) : Item → Emitter
  | .constant declarator name value =>
      { e with
        symbols := Ascending.add name e.symbols
        constants := e.constants ++ [⟨declarator, name, value⟩] }
  | .option name dtype value =>
      { e with
        symbols := Ascending.add name e.symbols
        options := e.options ++ [⟨name, dtype, value⟩] }
  | .platformInclude path => { e with platformIncludes := e.platformIncludes ++ [path] }
  | .frameworkInclude path =>
      { e with frameworkIncludes := Ascending.add path e.frameworkIncludes }
  | .code priority text =>
      { e with seq := e.seq + 1, code := e.code ++ [⟨priority, e.seq + 1, text⟩] }
  | .initCall priority text =>
      { e with seq := e.seq + 1, initCalls := e.initCalls ++ [⟨priority, e.seq + 1, text⟩] }
  | .resource priority name expr contextName =>
      { e with
        seq := e.seq + 1
        symbols := Ascending.add name e.symbols
        resources := e.resources ++ [⟨priority, e.seq + 1, ⟨name, expr, contextName⟩⟩] }
  | .fill slot content => { e with fills := Ascending.put slot content e.fills }

/-- The symbol of an item is claimed before anything else is done, and nothing else is done if
it is refused. -/
theorem claimSymbol_bind {e e' : Emitter} {item : Item} {name : String} {f : Unit → Emission Unit}
    (h : item.symbol? = some name)
    (hf : f () { e with symbols := Ascending.add name e.symbols } = .ok () e') :
    (claimSymbol name >>= f) e = match e.breach? item with
      | some b => .error b e
      | none => .ok () e' := by
  unfold breach? claimSymbol
  rw [h, bind_assoc, bind_ok (get_eq e)]
  by_cases hname : name ∈ e.symbols
  · simp only [if_pos hname]
    rfl
  · simp only [if_neg hname]
    exact hf

/-- **An item is added, unless it breaks a rule.** -/
theorem add_eq (e : Emitter) (item : Item) :
    add item e = match e.breach? item with
      | some b => .error b e
      | none => .ok () (e.put item) := by
  cases item with
  | constant declarator name value =>
      dsimp only [add, addConstant]
      rw [bind_assoc]
      exact claimSymbol_bind rfl rfl
  | option name dtype value =>
      dsimp only [add, addOption]
      rw [bind_assoc]
      exact claimSymbol_bind rfl rfl
  | resource priority name expr contextName => exact claimSymbol_bind rfl rfl
  | fill slot content =>
      dsimp only [add, addFill]
      rw [bind_ok (get_eq e)]
      by_cases hslot : slot ∈ e.fills.map (·.1)
      · simp only [breach?, Item.symbol?, Item.filledSlot?, if_pos hslot]
        rfl
      · simp only [breach?, Item.symbol?, Item.filledSlot?, if_neg hslot]
        rfl
  | platformInclude | frameworkInclude | code | initCall => rfl

/-! ## §3. What an emitter holds. -/

/-- The emitter holds what is recorded in the draft. -/
structure Holds (e : Emitter) (d : Draft) : Prop where
  symbols : ∀ name, name ∈ e.symbols ↔ name ∈ d.symbols
  constants : e.constants = d.items.filterMap Item.constant?
  options : e.options = d.items.filterMap Item.option?
  platformIncludes : e.platformIncludes = d.items.filterMap Item.platformPath?
  frameworkIncludes :
    e.frameworkIncludes = Ascending.setOf (d.items.filterMap Draft.frameworkPath?)
  code : Counted e.seq e.code (d.items.filterMap Item.code?)
  initCalls : Counted e.seq e.initCalls (d.items.filterMap Item.initCall?)
  resources : Counted e.seq e.resources (d.items.filterMap Draft.resource?)
  fills : e.fills = Ascending.mapOf (d.items.filterMap Item.fill?)

theorem holds_empty : empty.Holds .empty where
  symbols _ := Iff.rfl
  constants := rfl
  options := rfl
  platformIncludes := rfl
  frameworkIncludes := rfl
  code := counted_nil
  initCalls := counted_nil
  resources := counted_nil
  fills := rfl

section Holds

variable {e : Emitter} {d : Draft}

/-- Both refuse the same items. -/
theorem Holds.breach? (h : e.Holds d) (item : Item) : e.breach? item = d.breach? item := by
  have hslots : ∀ slot, slot ∈ e.fills.map (·.1) ↔ slot ∈ d.filledSlots := by
    intro slot
    have hkeys : (d.items.filterMap Item.fill?).map (·.1) = d.filledSlots :=
      map_picked (fun item => by cases item <;> rfl) d.items
    rw [h.fills, ← hkeys, Ascending.mem_keys_mapOf]
  unfold Emitter.breach? Draft.breach?
  cases item.symbol? with
  | some name => exact if_congr (h.symbols name) rfl rfl
  | none =>
      cases item.filledSlot? with
      | some slot => exact if_congr (hslots slot) rfl rfl
      | none => rfl

/-- **An emitter holds the draft with one more item.**  The item goes to one accumulator, and
changes nothing in the others but the counter. -/
theorem Holds.put (h : e.Holds d) (item : Item) : (e.put item).Holds ⟨d.items ++ [item]⟩ where
  symbols name := by
    have hold : name ∈ e.symbols ↔ name ∈ d.items.filterMap Item.symbol? := h.symbols name
    unfold Draft.symbols
    rw [List.filterMap_append, List.mem_append, ← hold]
    cases item with
    | constant _ s _ | option s _ _ | resource _ s _ _ =>
        refine Ascending.mem_add.trans (or_comm.trans (or_congr_right ?_))
        exact List.mem_singleton.symm
    | _ => exact (or_iff_left List.not_mem_nil).symm
  constants := by
    rw [List.filterMap_append, ← h.constants]
    cases item with
    | constant => rfl
    | _ => exact (List.append_nil _).symm
  options := by
    rw [List.filterMap_append, ← h.options]
    cases item with
    | option => rfl
    | _ => exact (List.append_nil _).symm
  platformIncludes := by
    rw [List.filterMap_append, ← h.platformIncludes]
    cases item with
    | platformInclude => rfl
    | _ => exact (List.append_nil _).symm
  frameworkIncludes := by
    unfold Ascending.setOf
    rw [List.filterMap_append, List.foldl_append, ← Ascending.setOf, ← h.frameworkIncludes]
    cases item <;> rfl
  code := by
    rw [List.filterMap_append]
    cases item with
    | code priority text => exact h.code.concat priority text
    | initCall | resource => exact (List.append_nil _).symm ▸ h.code.mono (Nat.le_succ _)
    | _ => exact (List.append_nil _).symm ▸ h.code
  initCalls := by
    rw [List.filterMap_append]
    cases item with
    | initCall priority text => exact h.initCalls.concat priority text
    | code | resource => exact (List.append_nil _).symm ▸ h.initCalls.mono (Nat.le_succ _)
    | _ => exact (List.append_nil _).symm ▸ h.initCalls
  resources := by
    rw [List.filterMap_append]
    cases item with
    | resource priority => exact h.resources.concat priority _
    | code | initCall => exact (List.append_nil _).symm ▸ h.resources.mono (Nat.le_succ _)
    | _ => exact (List.append_nil _).symm ▸ h.resources
  fills := by
    unfold Ascending.mapOf
    rw [List.filterMap_append, List.foldl_append, ← Ascending.mapOf, ← h.fills]
    cases item <;> rfl

end Holds

/-- What a call of an emitter ends in, beside what the same call makes of a draft. -/
inductive Simulates : EStateM.Result Breach Emitter Unit → Except Breach Draft → Prop where
  | ok {e : Emitter} {d : Draft} (h : e.Holds d) : Simulates (.ok () e) (.ok d)
  | error (b : Breach) (e : Emitter) : Simulates (.error b e) (.error b)

theorem Simulates.elim {r : EStateM.Result Breach Emitter Unit} {x : Except Breach Draft}
    (h : Simulates r x) : (∃ e d, r = .ok () e ∧ x = .ok d ∧ e.Holds d)
      ∨ ∃ b e, r = .error b e ∧ x = .error b := by
  cases h with
  | ok h => exact Or.inl ⟨_, _, rfl, rfl, h⟩
  | error b e => exact Or.inr ⟨b, e, rfl, rfl⟩

/-- **One item**: it is added on both sides, or refused on both for the same reason. -/
theorem Holds.add {e : Emitter} {d : Draft} (h : e.Holds d) (item : Item) :
    Simulates (add item e) (d.add item) := by
  rw [add_eq, h.breach? item]
  unfold Draft.add
  cases d.breach? item with
  | none => exact .ok (h.put item)
  | some b => exact .error b e

/-- Adds items in order. -/
def addAll : List Item → Emission Unit
  | [] => pure ()
  | item :: rest => do
      add item
      addAll rest

/-- **Items in order**, up to the first one which is refused. -/
theorem Holds.addAll {e : Emitter} {d : Draft} (h : e.Holds d) (items : List Item) :
    Simulates (addAll items e) (items.foldlM Draft.add d) := by
  induction items generalizing e d with
  | nil => exact .ok h
  | cons item rest ih =>
      rw [List.foldlM_cons]
      unfold Emitter.addAll
      obtain ⟨e₁, d₁, he, hd, h₁⟩ | ⟨b, e₁, he, hd⟩ := (h.add item).elim
      · rw [bind_ok he, hd]
        exact ih h₁
      · rw [bind_error he, hd]
        exact .error b e₁

/-! ## §4. Slots. -/

section Slots

variable {e : Emitter} {d : Draft}

/-- The slots which an emitter makes are those of its draft. -/
theorem Holds.ownSlots (h : e.Holds d) : e.ownSlots = d.ownSlots := by
  have hresources : sorted e.resources = d.resources := h.resources.sorted_eq
  have hconstants : e.constants.map Constant.line = d.items.filterMap Draft.constantLine? := by
    rw [h.constants]
    exact map_picked (fun item => by cases item <;> rfl) d.items
  have hoptions : e.options.map ConfigOption.line = d.items.filterMap Draft.optionLine? := by
    rw [h.options]
    exact map_picked (fun item => by cases item <;> rfl) d.items
  have hincludes : e.platformIncludes.map (fun path => "#include <" ++ path ++ ">\n")
      = d.items.filterMap Draft.platformLine? := by
    rw [h.platformIncludes]
    exact map_picked (fun item => by cases item <;> rfl) d.items
  -- Sorting comes before the lines are made, here, and after it in a draft.
  have hcode : (sorted e.code).map (· ++ "\n")
      = Draft.byPriority (d.items.filterMap Draft.codeLine?) := by
    rw [h.code.sorted_eq, ← Draft.byPriority_map]
    exact congrArg _ (map_picked (fun item => by cases item <;> rfl) d.items)
  have hinit : (sorted e.initCalls).map ("    " ++ · ++ "\n")
      = Draft.byPriority (d.items.filterMap Draft.initLine?) := by
    rw [h.initCalls.sorted_eq, ← Draft.byPriority_map]
    exact congrArg _ (map_picked (fun item => by cases item <;> rfl) d.items)
  unfold Emitter.ownSlots Draft.ownSlots
  rw [hresources, hconstants, hoptions, hincludes, hcode, hinit, h.frameworkIncludes]

/-- Slots of different names are put beside each other, unless one of them is there already;
the first such slot is reported. -/
theorem foldlM_insertSlot {entries : List (String × String)} (hentries : (entries.map (·.1)).Nodup)
    (m : SlotMap) :
    entries.foldlM insertSlot m = match entries.find? (fun s => m.contains s.1) with
      | some s => .error (.slotTwice s.1)
      | none => .ok ⟨entries.foldl (fun m s => Ascending.put s.1 s.2 m) m.entries⟩ := by
  induction entries generalizing m with
  | nil => rfl
  | cons s rest ih =>
      rw [List.map_cons, List.nodup_cons] at hentries
      rw [List.foldlM_cons, List.find?_cons, insertSlot]
      cases hcontains : m.contains s.1 with
      | true => rfl
      | false =>
          -- The slots which follow have other names, so the new one hides none of them.
          have hothers :
              rest.find? (fun t => SlotMap.contains ⟨Ascending.put s.1 s.2 m.entries⟩ t.1)
                = rest.find? fun t => m.contains t.1 := by
            rw [← List.head?_filter, ← List.head?_filter]
            refine congrArg List.head? (List.filter_congr fun t ht => ?_)
            have hne : t.1 ≠ s.1 := fun heq => hentries.1 (List.mem_map.2 ⟨t, ht, heq⟩)
            unfold SlotMap.contains SlotMap.get?
            rw [Ascending.lookup_put, List.lookup_cons, beq_false_of_ne hne]
          have hrest := ih hentries.2 ⟨Ascending.put s.1 s.2 m.entries⟩
          rw [hothers] at hrest
          exact hrest

theorem contains_ofEntries (entries : List (String × String)) (slot : String) :
    (SlotMap.ofEntries entries).contains slot = decide (slot ∈ entries.map (·.1)) := by
  unfold SlotMap.contains SlotMap.get? SlotMap.ofEntries
  rw [Bool.eq_iff_iff, decide_eq_true_eq, ← Ascending.mem_keys_mapOf, Option.isSome_iff_ne_none]
  exact not_iff_comm.1 Ascending.lookup_eq_none_iff.symm

/-- The slots which have been filled directly, in whatever order they are kept. -/
theorem Holds.filled (h : e.Holds d) (hd : d.filledSlots.Nodup) :
    (e.fills.map fun s => (s.1, s.2.render)).foldlM insertSlot ⟨[]⟩
      = .ok (.ofEntries d.directSlots) := by
  have hdirect : (d.items.filterMap Item.fill?).map (fun s => (s.1, s.2.render))
      = d.directSlots := map_picked (fun item => by cases item <;> rfl) d.items
  rw [← d.directSlots_names] at hd
  have hkeys : ((d.items.filterMap Item.fill?).map (·.1)).Nodup := by
    rw [← hdirect, List.map_map] at hd
    exact hd
  have hperm : (e.fills.map fun s => (s.1, s.2.render)).Perm d.directSlots := by
    rw [h.fills, ← hdirect]
    exact (Ascending.mapOf_perm hkeys).map _
  have hnodup := (hperm.map (·.1)).nodup_iff.2 hd
  have hnone : (e.fills.map fun s => (s.1, s.2.render)).find?
      (fun s => SlotMap.contains ⟨[]⟩ s.1) = none :=
    List.find?_eq_none.2 fun s _ hcontains => nomatch hcontains
  rw [foldlM_insertSlot hnodup, hnone]
  exact congrArg (fun entries => Except.ok (SlotMap.mk entries))
    (Ascending.mapOf_congr hperm hnodup)

/-- **An emitter is rendered as its draft is**, if no slot has been filled directly twice. -/
theorem Holds.render (h : e.Holds d) (hd : d.filledSlots.Nodup) : e.render = d.render := by
  have hnames : (d.ownSlots.map (·.1)).Nodup := by
    rw [Draft.ownSlots_names]
    decide
  have hcontains : (fun s : String × String => (SlotMap.ofEntries d.directSlots).contains s.1)
      = fun s => decide (s.1 ∈ d.filledSlots) := by
    funext s
    rw [contains_ofEntries, Draft.directSlots_names]
  unfold Emitter.render
  rw [h.filled hd, h.ownSlots]
  show d.ownSlots.foldlM insertSlot (.ofEntries d.directSlots) = _
  rw [foldlM_insertSlot hnames, hcontains]
  unfold Draft.render SlotMap.ofEntries Ascending.mapOf
  rw [List.foldl_append]
  cases d.ownSlots.find? fun s => s.1 ∈ d.filledSlots with
  | none => rfl
  | some s => rfl

end Slots

/-! ## §5. Calls. -/

/-- A call which contributes to a program. -/
def call : Contribution → Emission Unit
  | .option name dtype value => do
      let _ ← addOption name dtype value
  | .numberOption name v => do
      let _ ← addNumberOption name v
  | .boolOption name b => do
      let _ ← addBoolOption name b
  | .numberConstant name v => do
      let _ ← addNumberConstant name v
  | .typeName name type => do
      let _ ← addTypeName name type
  | .intConstant type name value => do
      let _ ← addIntConstant type name value
  | .platformInclude path => addPlatformInclude path
  | .frameworkInclude path => addFrameworkInclude path
  | .code priority text => addCode priority text
  | .interrupt text => addInterrupt text
  | .initCall priority text => addInitCall priority text
  | .resource priority name expr contextName => addResource priority name expr contextName
  | .fill slot content => addFill slot content

/-- Makes calls in order. -/
def collect : List Contribution → Emission Unit
  | [] => pure ()
  | c :: rest => do
      call c
      collect rest

/-- The program which calls make: what an emitter is rendered to after them. -/
def program (calls : List Contribution) : Except Breach SlotMap :=
  match collect calls .empty with
  | .ok _ e => e.render
  | .error b _ => .error b

/-- Each call adds its item. -/
theorem call_eq (c : Contribution) : call c = add c.item := by
  cases c <;> rfl

theorem collect_eq (calls : List Contribution) :
    collect calls = addAll (calls.map Contribution.item) := by
  induction calls with
  | nil => rfl
  | cons c rest ih => rw [List.map_cons, collect, addAll, call_eq, ih]

/-- **Calls go alike for an emitter and for a draft.** -/
theorem simulates_collect (calls : List Contribution) :
    Simulates (collect calls .empty) (Draft.collect calls) := by
  have hdraft : Draft.collect calls = (calls.map Contribution.item).foldlM Draft.add .empty := by
    rw [List.foldlM_map]
    rfl
  rw [collect_eq, hdraft]
  exact holds_empty.addAll _

theorem collect_of_draft {calls : List Contribution} {d : Draft}
    (h : Draft.collect calls = .ok d) : ∃ e, collect calls .empty = .ok () e ∧ e.Holds d := by
  obtain ⟨e, _, he, hd, hholds⟩ | ⟨b, _, _, hd⟩ := (simulates_collect calls).elim
  · cases hd.symm.trans h
    exact ⟨e, he, hholds⟩
  · cases hd.symm.trans h

theorem draft_of_collect {calls : List Contribution} {e : Emitter}
    (h : collect calls .empty = .ok () e) : ∃ d, Draft.collect calls = .ok d ∧ e.Holds d := by
  obtain ⟨_, d, he, hd, hholds⟩ | ⟨b, _, he, _⟩ := (simulates_collect calls).elim
  · cases he.symm.trans h
    exact ⟨d, hd, hholds⟩
  · cases he.symm.trans h

/-- Accepted calls fill no slot directly twice. -/
theorem render_of_collect {calls : List Contribution} {e : Emitter} {d : Draft}
    (hd : Draft.collect calls = .ok d) (h : e.Holds d) : e.render = d.render := by
  obtain ⟨rfl, hun⟩ := Draft.collect_eq_ok_iff.1 hd
  exact h.render (Draft.filledSlots_ofCalls calls ▸ hun.slots)

/-- **Calls make the program of their draft.** -/
theorem program_eq (calls : List Contribution) : program calls = Draft.program calls := by
  unfold program Draft.program
  obtain ⟨e, d, he, hd, h⟩ | ⟨b, e, he, hd⟩ := (simulates_collect calls).elim
  · rw [he, hd]
    exact render_of_collect hd h
  · rw [he, hd]
    rfl

/-- A call is refused by an emitter exactly if it is refused by the draft. -/
theorem Holds.call_error_iff {e : Emitter} {d : Draft} (h : e.Holds d) {c : Contribution}
    {b : Breach} : (∃ e', call c e = .error b e') ↔ d.contribute c = .error b := by
  unfold Draft.contribute
  rw [call_eq]
  obtain ⟨e', d', he, hd, -⟩ | ⟨b', e', he, hd⟩ := (h.add c.item).elim
  · rw [he, hd]
    exact ⟨fun ⟨_, h⟩ => (nomatch h), nofun⟩
  · rw [he, hd]
    constructor
    · rintro ⟨_, ⟨⟩⟩
      rfl
    · rintro ⟨⟩
      exact ⟨e', rfl⟩

/-! ## §6. What makes no program, and what a program declares. -/

/-- The call at which others stop is refused by the emitter which those before it have left. -/
theorem stops_iff {calls : List Contribution} {b : Breach} :
    (∃ before c after e e', calls = before ++ c :: after ∧ collect before .empty = .ok () e ∧
        call c e = .error b e' ∧ Draft.Refuses before c b) ↔
      ∃ before c after d, calls = before ++ c :: after ∧ Draft.collect before = .ok d ∧
        d.contribute c = .error b ∧ Draft.Refuses before c b := by
  constructor
  · rintro ⟨before, c, after, e, e', hcalls, he, hc, href⟩
    obtain ⟨d, hd, h⟩ := draft_of_collect he
    exact ⟨before, c, after, d, hcalls, hd, h.call_error_iff.1 ⟨e', hc⟩, href⟩
  · rintro ⟨before, c, after, d, hcalls, hd, hc, href⟩
    obtain ⟨e, he, h⟩ := collect_of_draft hd
    obtain ⟨e', hc⟩ := h.call_error_iff.2 hc
    exact ⟨before, c, after, e, e', hcalls, he, hc, href⟩

/-- A slot which is filled both ways shows when the emitter is rendered. -/
theorem collides_iff {calls : List Contribution} {b : Breach} :
    (∃ e slot, collect calls .empty = .ok () e ∧ e.render = .error b ∧ b = .slotTwice slot ∧
        Draft.ownNames.find? (· ∈ filledSlots calls) = some slot) ↔
      ∃ d slot, Draft.collect calls = .ok d ∧ d.render = .error b ∧ b = .slotTwice slot ∧
        Draft.ownNames.find? (· ∈ filledSlots calls) = some slot := by
  constructor
  · rintro ⟨e, slot, he, hb, hslot⟩
    obtain ⟨d, hd, h⟩ := draft_of_collect he
    exact ⟨d, slot, hd, (render_of_collect hd h).symm.trans hb, hslot⟩
  · rintro ⟨d, slot, hd, hb, hslot⟩
    obtain ⟨e, he, h⟩ := collect_of_draft hd
    exact ⟨e, slot, he, (render_of_collect hd h).trans hb, hslot⟩

/-- **Calls of an emitter make no program exactly if they repeat something**: a name is declared
twice, a slot is filled directly twice, or a slot of the program itself is filled directly.  The
first call which repeats something is refused, after all calls before it have been accepted; the
last error shows when the emitter is rendered.  Otherwise the declarations in the text of the
program are those of the calls, each once, and their names are different. -/
theorem program_declares_once (calls : List Contribution) :
    ((∃ b, program calls = .error b) ↔
      ¬(declaredNames calls).Nodup ∨ ¬(filledSlots calls).Nodup ∨
        ∃ slot ∈ Draft.ownNames, slot ∈ filledSlots calls) ∧
    (∀ b, program calls = .error b ↔
      (∃ before c after e e', calls = before ++ c :: after ∧ collect before .empty = .ok () e ∧
        call c e = .error b e' ∧ Draft.Refuses before c b) ∨
      (∃ e slot, collect calls .empty = .ok () e ∧ e.render = .error b ∧ b = .slotTwice slot ∧
        Draft.ownNames.find? (· ∈ filledSlots calls) = some slot)) ∧
    ∀ slots, program calls = .ok slots →
      slots.get? "EXTRA_CONSTANTS"
        = some (Draft.lines ((declarationsIn .constants calls).map Declaration.line)) ∧
      slots.get? "ConfigOptions"
        = some (Draft.lines ((declarationsIn .options calls).map Declaration.line)) ∧
      ∃ resources : List Declaration,
        slots.get? "GlobalResourceExprs" = some (Draft.lines (resources.map Declaration.line)) ∧
        (declarationsIn .constants calls ++ declarationsIn .options calls ++ resources).Perm
          (calls.filterMap Contribution.declaration?) ∧
        ((declarationsIn .constants calls ++ declarationsIn .options calls ++ resources).map
          (·.name)).Nodup := by
  simp only [program_eq, stops_iff, collides_iff]
  exact Draft.program_declares calls

end Emitter

/-! ## §7. Compiled programs. -/

/-- The items of a grown draft can be added to an empty one. -/
theorem Draft.Grown.foldlM_add {d : Draft} (h : d.Grown) :
    d.items.foldlM Draft.add .empty = .ok d := by
  induction h with
  | empty => rfl
  | @add d _ item _ hadd ih =>
      obtain ⟨rfl, -⟩ := add_eq_ok hadd
      rw [List.foldlM_append, ih]
      show [item].foldlM Draft.add d = _
      rw [List.foldlM_cons, hadd]
      rfl

/-- A grown draft is held by the emitter which has taken its items. -/
theorem Emitter.holds_of_grown {d : Draft} (h : d.Grown) :
    ∃ e, addAll d.items .empty = .ok () e ∧ e.Holds d := by
  obtain ⟨e, _, he, hd, hholds⟩ | ⟨b, _, _, hd⟩ := (holds_empty.addAll d.items).elim
  · cases hd.symm.trans h.foldlM_add
    exact ⟨e, he, hholds⟩
  · cases hd.symm.trans h.foldlM_add

/-- **A compiled program is what an emitter makes** of the items which its build contributes. -/
theorem compile_emits {document : Document.Value} {name? : Option String} {c : Compiled}
    (h : compile document name? = .ok c) :
    ∃ w e, build document name? .empty = .ok c w
      ∧ Emitter.addAll w.draft.items .empty = .ok () e ∧ e.Holds w.draft
      ∧ e.render = .ok c.slots := by
  unfold compile at h
  cases hrun : build document name? .empty with
  | error e w =>
      rw [hrun] at h
      cases h
  | ok c' w =>
      rw [hrun] at h
      cases h
      obtain ⟨hgrown, hrendered⟩ := rendered_build hrun
      obtain ⟨e, he, hholds⟩ := Emitter.holds_of_grown hgrown
      exact ⟨w, e, rfl, he, hholds, (hholds.render hgrown.nodup_filledSlots).trans hrendered⟩

end PrinterFirmware
