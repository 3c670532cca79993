/-
  PrinterFirmware.Proofs.Slots
  ────────────────────────────
  **THE SLOTS WHICH A PROGRAM FILLS ITSELF, LINE BY LINE.**

  Pieces of code and resources are ordered by their priorities, and pieces of equal
  priority keep the order in which they were contributed.  So the pieces of one kind,
  all of one priority, stand in a slot in the order of the build, and a piece which
  comes after all others in priority stands last.

      filter_byPriority    the things of one priority keep their order
      byPriority_last      the thing of the highest priority is the last one
      get?_ownSlot         what is looked up in the finished slots
      exprLine_of_mem      a resource stands in the text of its slot
      linesOf_lines        the lines of a slot which was put together from lines
-/
import PrinterFirmware.Program.Draft
import PrinterFirmware.Proofs.Ascending

namespace PrinterFirmware.Draft

variable {α β : Type}

/-! ## §1. Order by priority. -/

theorem priority_trans (a b c : Int × α) (hab : decide (a.1 ≤ b.1) = true)
    (hbc : decide (b.1 ≤ c.1) = true) : decide (a.1 ≤ c.1) = true := by
  rw [decide_eq_true_eq] at hab hbc ⊢
  exact Int.le_trans hab hbc

theorem priority_total (a b : Int × α) : (decide (a.1 ≤ b.1) || decide (b.1 ≤ a.1)) = true := by
  rw [Bool.or_eq_true, decide_eq_true_eq, decide_eq_true_eq]
  exact Int.le_total a.1 b.1

/-- Things of one priority keep their order. -/
theorem filter_sorted {things : List (Int × α)} {keep : Int × α → Bool} {priority : Int}
    (h : ∀ a ∈ things, keep a = true → a.1 = priority) :
    (things.mergeSort fun a b => a.1 ≤ b.1).filter keep = things.filter keep := by
  have hpairs : (things.filter keep).Pairwise fun a b => decide (a.1 ≤ b.1) = true := by
    rw [List.pairwise_iff_forall_sublist]
    intro a b hab
    obtain ⟨ha, hkeep⟩ := List.mem_filter.1 (hab.subset List.mem_cons_self)
    obtain ⟨hb, hkeep'⟩ := List.mem_filter.1
      (hab.subset (List.mem_cons_of_mem a List.mem_cons_self))
    have heq : a.1 = b.1 := (h a ha hkeep).trans (h b hb hkeep').symm
    exact decide_eq_true (Int.le_of_eq heq)
  -- Sorting is stable, so what is kept stands in the sorted list in the same order.
  have hsub := List.sublist_mergeSort priority_trans priority_total hpairs List.filter_sublist
  have hkept : (things.filter keep).Sublist
      ((things.mergeSort fun a b => a.1 ≤ b.1).filter keep) := by
    have := hsub.filter keep
    rwa [List.filter_filter, List.filter_congr fun a _ => Bool.and_self (keep a)] at this
  have hlength := ((List.mergeSort_perm things fun a b => a.1 ≤ b.1).filter keep).length_eq
  exact (hkept.eq_of_length hlength.symm).symm

@[inherit_doc filter_sorted]
theorem filter_byPriority {things : List (Int × α)} {keep : α → Bool} {priority : Int}
    (h : ∀ a ∈ things, keep a.2 = true → a.1 = priority) :
    (byPriority things).filter keep = (things.filter fun a => keep a.2).map (·.2) := by
  unfold byPriority
  rw [List.filter_map]
  exact congrArg (List.map (·.2)) (filter_sorted h)

/-- Ordering by priority does not look at the things themselves. -/
theorem byPriority_map (f : α → β) (things : List (Int × α)) :
    byPriority (things.map fun a => (a.1, f a.2)) = (byPriority things).map f := by
  have hsorted := List.map_mergeSort (r := fun a b : Int × α => decide (a.1 ≤ b.1))
    (s := fun a b : Int × β => decide (a.1 ≤ b.1)) (f := fun a => (a.1, f a.2)) (l := things)
    fun _ _ _ _ => rfl
  unfold byPriority
  rw [← hsorted, List.map_map, List.map_map]
  rfl

/-- A thing of a higher priority than all others comes last. -/
theorem byPriority_last (front back : List (Int × α)) {priority : Int} (a : α)
    (h : ∀ b ∈ front ++ back, b.1 < priority) :
    ∃ before, byPriority (front ++ (priority, a) :: back) = before ++ [a] := by
  have hlow : ∀ things : List (Int × α), (∀ b ∈ things, b.1 < priority) →
      things.filter (fun b => priority ≤ b.1) = [] := by
    intro things hthings
    rw [List.filter_eq_nil_iff]
    intro b hb hle
    have := hthings b hb
    rw [decide_eq_true_eq] at hle
    omega
  obtain ⟨hfront, hback⟩ := List.forall_mem_append.1 h
  have hself : decide (priority ≤ priority) = true := by simp
  -- Exactly one thing reaches the priority, and it still does so after the sorting.
  have hfilter : (front ++ (priority, a) :: back).filter (fun b => priority ≤ b.1)
      = [(priority, a)] := by
    rw [List.filter_append, List.filter_cons, hlow front hfront, hlow back hback]
    simp
  have hreach : ∀ b ∈ front ++ (priority, a) :: back, decide (priority ≤ b.1) = true →
      b.1 = priority := by
    intro b hb hle
    have hmem : b ∈ [(priority, a)] := hfilter ▸ List.mem_filter.2 ⟨hb, hle⟩
    rw [List.mem_singleton.1 hmem]
  have hsorted : (((front ++ (priority, a) :: back).mergeSort fun a b => a.1 ≤ b.1).filter
      fun b => priority ≤ b.1) = [(priority, a)] := by
    rw [filter_sorted hreach, hfilter]
  have hpairs := List.pairwise_mergeSort priority_trans priority_total
    (front ++ (priority, a) :: back)
  unfold byPriority
  generalize (front ++ (priority, a) :: back).mergeSort (fun a b => a.1 ≤ b.1) = sorted
    at hsorted hpairs
  have hmem : (priority, a) ∈ sorted := by
    have : (priority, a) ∈ sorted.filter fun b => priority ≤ b.1 := by
      rw [hsorted]
      exact List.mem_cons_self
    exact (List.mem_filter.1 this).1
  obtain ⟨before, after, rfl⟩ := List.append_of_mem hmem
  -- Whatever comes after it reaches the priority too, so nothing does.
  have hnone : after = [] := by
    have hlater : ∀ b ∈ after, priority ≤ b.1 := by
      intro b hb
      have := List.rel_of_pairwise_cons (List.pairwise_append.1 hpairs).2.1 hb
      rwa [decide_eq_true_eq] at this
    rw [List.filter_append, List.filter_cons] at hsorted
    have hall : after.filter (fun b => priority ≤ b.1) = after := by
      rw [List.filter_eq_self]
      intro b hb
      rw [decide_eq_true_eq]
      exact hlater b hb
    rw [if_pos hself, hall] at hsorted
    have hlength := congrArg List.length hsorted
    simp only [List.length_append, List.length_cons, List.length_nil] at hlength
    exact List.eq_nil_of_length_eq_zero (by omega)
  refine ⟨before.map (·.2), ?_⟩
  rw [hnone, List.map_append]
  rfl

/-! ## §2. Slots of a program. -/

/-- The names of the slots which a program fills itself. -/
def ownNames : List String :=
  ["GENERATED_WARNING", "EXTRA_CONSTANTS", "ConfigOptions", "PLATFORM_INCLUDES",
   "AprinterIncludes", "GlobalCode", "InitCalls", "GlobalResourceExprs",
   "GlobalResourceContextAliases", "GlobalResourceProgramChildren", "GlobalResourceInit"]

theorem ownSlots_names (d : Draft) : d.ownSlots.map (·.1) = ownNames := rfl

theorem directSlots_names (d : Draft) : d.directSlots.map (·.1) = d.filledSlots := by
  unfold directSlots filledSlots
  rw [List.map_filterMap]
  refine List.filterMap_congr fun item _ => ?_
  cases item <;> rfl

/-- A slot which the program fills itself holds the text of the program, whatever has
been filled directly. -/
theorem get?_ownSlot (d : Draft) {slot text : String} (h : (slot, text) ∈ d.ownSlots) :
    (SlotMap.ofEntries (d.directSlots ++ d.ownSlots)).get? slot = some text := by
  unfold SlotMap.get? SlotMap.ofEntries
  rw [Ascending.lookup_mapOf, List.reverse_append, List.lookup_append]
  have hnames : (d.ownSlots.reverse.map (·.1)).Nodup := by
    rw [List.map_reverse, ownSlots_names]
    decide
  have hlookup := Ascending.lookup_of_mem hnames (List.mem_reverse.2 h)
  rw [hlookup]
  rfl

/-- A line stands in the text of the lines. -/
theorem lines_of_mem {ls : List String} {l : String} (h : l ∈ ls) :
    ∃ before after, lines ls = before ++ l ++ after := by
  obtain ⟨front, back, rfl⟩ := List.append_of_mem h
  refine ⟨lines front, lines back, ?_⟩
  unfold lines
  rw [String.join_append, String.join_cons, String.append_assoc]

/-- A resource stands in the text of its slot. -/
theorem exprLine_of_mem {d : Draft} {r : Resource} (h : r ∈ d.resources) : ∃ before after,
    (SlotMap.ofEntries (d.directSlots ++ d.ownSlots)).get? "GlobalResourceExprs"
      = some (before ++ r.exprLine ++ after) := by
  have hslot : ("GlobalResourceExprs", lines (d.resources.map Resource.exprLine))
      ∈ d.ownSlots := by
    simp [ownSlots]
  obtain ⟨before, after, hlines⟩ := lines_of_mem (List.mem_map_of_mem (f := Resource.exprLine) h)
  exact ⟨before, after, (get?_ownSlot d hslot).trans (congrArg some hlines)⟩

/-! ## §3. Lines of a slot. -/

/-- The lines of a text; what follows the last line break is a line, too. -/
def linesOf (text : String) : List String := (text.toList.splitOn '\n').map String.ofList

/-- A slot which was put together from lines has these lines, and an empty one at its
end. -/
theorem linesOf_lines {texts : List String} (h : ∀ t ∈ texts, '\n' ∉ t.toList) :
    linesOf (lines (texts.map (· ++ "\n"))) = texts ++ [""] := by
  unfold linesOf lines
  induction texts with
  | nil => rfl
  | cons text rest ih =>
      have hbreak : (text ++ "\n" ++ String.join (rest.map (· ++ "\n"))).toList
          = text.toList ++ '\n' :: (String.join (rest.map (· ++ "\n"))).toList := by
        rw [String.toList_append, String.toList_append, List.append_assoc]
        rfl
      rw [List.map_cons, String.join_cons, hbreak,
        List.splitOn_append_cons_self_of_not_mem (h text List.mem_cons_self), List.map_cons,
        ih fun t ht => h t (List.mem_cons_of_mem text ht), String.ofList_toList]
      rfl

end PrinterFirmware.Draft
