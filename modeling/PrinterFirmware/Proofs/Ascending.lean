/-
  PrinterFirmware.Proofs.Ascending
  ────────────────────────────────
  **WHAT ASCENDING LISTS HOLD.**

  A set holds the elements which were put into it, and looking up a key in a map finds
  what was put there last.  Neither depends on where the elements end up in the list.

  Under a linear order the lists are ascending indeed, so a set is determined by its
  elements; and a map made of entries with different keys is a permutation of them.
-/
import Mathlib.Data.List.Sort
import PrinterFirmware.Program.SlotMap

namespace PrinterFirmware.Ascending

variable {κ ν : Type} [DecidableEq κ]

/-! ## §1. Entries. -/

theorem lookup_eq_none_iff {k : κ} {m : List (κ × ν)} : m.lookup k = none ↔ k ∉ m.map (·.1) := by
  rw [List.lookup_eq_none_iff, List.mem_map, not_exists]
  refine forall_congr' fun e => ?_
  rw [not_and, bne_iff_ne, ne_comm]

/-- With different keys, looking up a key finds its entry. -/
theorem lookup_of_mem {m : List (κ × ν)} (hm : (m.map (·.1)).Nodup) {k : κ} {v : ν}
    (h : (k, v) ∈ m) : m.lookup k = some v := by
  obtain ⟨before, after, hsplit⟩ := List.append_of_mem h
  refine List.lookup_eq_some_iff.2 ⟨before, after, hsplit, ?_⟩
  intro e he
  rw [hsplit, List.map_append] at hm
  have hne := (List.nodup_append.1 hm).2.2 e.1 (List.mem_map_of_mem he) k List.mem_cons_self
  rw [bne_iff_ne]
  exact Ne.symm hne

/-- With different keys there is one entry of a key. -/
theorem filter_key {m : List (κ × ν)} (hm : (m.map (·.1)).Nodup) {e : κ × ν} (he : e ∈ m) :
    m.filter (·.1 == e.1) = [e] := by
  induction m with
  | nil => cases he
  | cons x rest ih =>
      rw [List.map_cons, List.nodup_cons] at hm
      rcases List.mem_cons.1 he with rfl | he
      · have hnone : rest.filter (·.1 == e.1) = [] := by
          rw [List.filter_eq_nil_iff]
          intro y hy heq
          exact hm.1 (List.mem_map.2 ⟨y, hy, beq_iff_eq.1 heq⟩)
        rw [List.filter_cons, beq_self_eq_true, hnone]
        rfl
      · have hne : x.1 ≠ e.1 := fun heq => hm.1 (List.mem_map.2 ⟨e, he, heq.symm⟩)
        rw [List.filter_cons, beq_false_of_ne hne]
        exact ih hm.2 he

variable [LT κ] [DecidableLT κ]

/-! ## §2. Sets. -/

theorem mem_add {k k' : κ} {s : List κ} : k' ∈ add k s ↔ k' = k ∨ k' ∈ s := by
  induction s with
  | nil => simp [add]
  | cons x rest ih =>
      unfold add
      split
      · simp
      · split
        · next heq => simp [heq]
        · rw [List.mem_cons, ih, List.mem_cons]
          exact or_left_comm

/-- A set holds the elements which were put into it. -/
theorem mem_setOf {k : κ} {ks : List κ} : k ∈ setOf ks ↔ k ∈ ks := by
  have hfold : ∀ s : List κ, k ∈ ks.foldl (fun s k => add k s) s ↔ k ∈ s ∨ k ∈ ks := by
    induction ks with
    | nil => simp
    | cons x rest ih =>
        intro s
        rw [List.foldl_cons, ih, mem_add, List.mem_cons, or_assoc]
        exact or_left_comm
  exact (hfold []).trans (by simp)

/-! ## §3. Maps. -/

/-- The entries of a map with one more key are the new one and old ones. -/
theorem mem_put {k : κ} {v : ν} {m : List (κ × ν)} {e : κ × ν} (h : e ∈ put k v m) :
    e = (k, v) ∨ e ∈ m := by
  induction m with
  | nil => exact Or.inl (List.mem_singleton.1 h)
  | cons x rest ih =>
      unfold put at h
      split at h
      · exact List.mem_cons.1 h
      · split at h
        · rcases List.mem_cons.1 h with h | h
          · exact Or.inl h
          · exact Or.inr (List.mem_cons_of_mem x h)
        · rcases List.mem_cons.1 h with rfl | h
          · exact Or.inr List.mem_cons_self
          · exact (ih h).imp_right (List.mem_cons_of_mem x)

/-- A map has no entries but those which it is made of. -/
theorem mem_of_mem_mapOf {entries : List (κ × ν)} {e : κ × ν} (h : e ∈ mapOf entries) :
    e ∈ entries := by
  have hfold : ∀ m : List (κ × ν), e ∈ entries.foldl (fun m e => put e.1 e.2 m) m →
      e ∈ m ∨ e ∈ entries := by
    clear h
    induction entries with
    | nil => exact fun m h => Or.inl h
    | cons x rest ih =>
        intro m h
        rcases ih _ h with h | h
        · rcases mem_put h with rfl | h
          · exact Or.inr List.mem_cons_self
          · exact Or.inl h
        · exact Or.inr (List.mem_cons_of_mem x h)
  exact (hfold [] h).resolve_left List.not_mem_nil

theorem lookup_put {k k' : κ} {v : ν} {m : List (κ × ν)} :
    (put k v m).lookup k' = ((k, v) :: m).lookup k' := by
  induction m with
  | nil => rfl
  | cons x rest ih =>
      obtain ⟨kx, vx⟩ := x
      unfold put
      split
      · rfl
      · split
        · next heq =>
            have heq : k = kx := heq
            subst heq
            simp only [List.lookup_cons]
            split <;> rfl
        · next hne =>
            have hne : k ≠ kx := hne
            simp only [List.lookup_cons, ih]
            -- The two keys differ, so at most one of them is the one which is looked up.
            by_cases hx : k' = kx
            · subst hx
              rw [beq_self_eq_true, beq_false_of_ne (Ne.symm hne)]
            · rw [beq_false_of_ne hx]

/-- Looking up a key finds what was put there last. -/
theorem lookup_mapOf {k : κ} {entries : List (κ × ν)} :
    (mapOf entries).lookup k = entries.reverse.lookup k := by
  have hfold : ∀ m : List (κ × ν), (entries.foldl (fun m e => put e.1 e.2 m) m).lookup k
      = (entries.reverse ++ m).lookup k := by
    induction entries with
    | nil => exact fun m => rfl
    | cons x rest ih =>
        intro m
        rw [List.foldl_cons, ih, List.reverse_cons, List.append_assoc]
        simp only [List.lookup_append, lookup_put, List.singleton_append]
  rw [← List.append_nil entries.reverse]
  exact hfold []

/-! ## §4. Keys. -/

/-- The keys of a map are those which were put there. -/
theorem mem_keys_mapOf {k : κ} {entries : List (κ × ν)} :
    k ∈ (mapOf entries).map (·.1) ↔ k ∈ entries.map (·.1) := by
  rw [← not_iff_not, ← lookup_eq_none_iff, lookup_mapOf, lookup_eq_none_iff, List.map_reverse,
    List.mem_reverse]

/-- Looking up a key finds its entry, if the keys which were put there are different. -/
theorem lookup_mapOf_of_mem {entries : List (κ × ν)} (h : (entries.map (·.1)).Nodup) {k : κ} {v : ν}
    (he : (k, v) ∈ entries) : (mapOf entries).lookup k = some v := by
  rw [lookup_mapOf]
  refine lookup_of_mem ?_ (List.mem_reverse.2 he)
  rwa [List.map_reverse, List.nodup_reverse]

theorem map_fst_put {k : κ} {v : ν} {m : List (κ × ν)} :
    (put k v m).map (·.1) = add k (m.map (·.1)) := by
  induction m with
  | nil => rfl
  | cons x rest ih =>
      rw [List.map_cons]
      unfold put add
      split
      · rfl
      · split
        · next heq =>
            rw [List.map_cons]
            exact congrArg (· :: _) heq
        · rw [List.map_cons, ih]

/-- A new key is put beside the entries of a map. -/
theorem put_perm {k : κ} {v : ν} {m : List (κ × ν)} (hk : k ∉ m.map (·.1)) :
    (put k v m).Perm ((k, v) :: m) := by
  induction m with
  | nil => exact List.Perm.refl _
  | cons x rest ih =>
      rw [List.map_cons, List.mem_cons, not_or] at hk
      unfold put
      rw [if_neg hk.1]
      split
      · exact List.Perm.refl _
      · exact ((ih hk.2).cons x).trans (List.Perm.swap (k, v) x rest)

/-- A new key comes beside more entries, too. -/
theorem append_put_perm {k : κ} {v : ν} {m : List (κ × ν)} (hk : k ∉ m.map (·.1))
    (entries : List (κ × ν)) : (entries ++ put k v m).Perm ((k, v) :: entries ++ m) :=
  ((put_perm hk).append_left entries).trans List.perm_middle

/-- New and different keys are put beside the entries of a map. -/
theorem foldl_put_perm {entries m : List (κ × ν)} (h : ((entries ++ m).map (·.1)).Nodup) :
    (entries.foldl (fun m e => put e.1 e.2 m) m).Perm (entries ++ m) := by
  induction entries generalizing m with
  | nil => exact List.Perm.refl _
  | cons x rest ih =>
      have hx : x.1 ∉ m.map (·.1) := by
        intro hmem
        rw [List.cons_append, List.map_cons, List.nodup_cons, List.map_append] at h
        exact h.1 (List.mem_append_right _ hmem)
      have hput := append_put_perm (v := x.2) hx rest
      rw [List.foldl_cons]
      exact (ih ((hput.map (·.1)).nodup_iff.2 h)).trans hput

/-- A map made of entries with different keys is a permutation of them. -/
theorem mapOf_perm {entries : List (κ × ν)} (h : (entries.map (·.1)).Nodup) :
    (mapOf entries).Perm entries := by
  have hfold := foldl_put_perm (m := []) ((List.append_nil entries).symm ▸ h)
  rwa [List.append_nil] at hfold

/-! ## §5. Order. -/

section Order

variable [IsTrans κ fun a b => a < b] [Std.Trichotomous fun a b : κ => a < b]

theorem pairwise_add {k : κ} {s : List κ} (h : s.Pairwise (· < ·)) :
    (add k s).Pairwise (· < ·) := by
  induction h with
  | nil => exact List.pairwise_singleton _ k
  | @cons x rest hx hrest ih =>
      unfold add
      by_cases hlt : k < x
      · rw [if_pos hlt]
        refine List.pairwise_cons.2 ⟨?_, List.pairwise_cons.2 ⟨hx, hrest⟩⟩
        intro y hy
        rcases List.mem_cons.1 hy with rfl | hy
        · exact hlt
        · exact Trans.trans hlt (hx y hy)
      · rw [if_neg hlt]
        by_cases heq : k = x
        · rw [if_pos heq]
          exact List.pairwise_cons.2 ⟨hx, hrest⟩
        · rw [if_neg heq]
          refine List.pairwise_cons.2 ⟨?_, ih⟩
          intro y hy
          rcases mem_add.1 hy with rfl | hy
          · by_contra hle
            exact heq (Std.Trichotomous.trichotomous y x hlt hle)
          · exact hx y hy

/-- A set is ascending. -/
theorem pairwise_setOf (ks : List κ) : (setOf ks).Pairwise (· < ·) := by
  have hfold : ∀ s : List κ, s.Pairwise (· < ·) →
      (ks.foldl (fun s k => add k s) s).Pairwise (· < ·) := by
    induction ks with
    | nil => exact fun s hs => hs
    | cons k rest ih => exact fun s hs => ih _ (pairwise_add hs)
  exact hfold [] .nil

/-- Entries put into a map leave its keys ascending. -/
theorem pairwise_foldl_put {entries m : List (κ × ν)} (h : (m.map (·.1)).Pairwise (· < ·)) :
    ((entries.foldl (fun m e => put e.1 e.2 m) m).map (·.1)).Pairwise (· < ·) := by
  induction entries generalizing m with
  | nil => exact h
  | cons e rest ih =>
      apply ih
      rw [map_fst_put]
      exact pairwise_add h

/-- A set is determined by its elements. -/
theorem setOf_congr [Std.Asymm fun a b : κ => a < b] {ks ks' : List κ}
    (h : ∀ k, k ∈ ks ↔ k ∈ ks') : setOf ks = setOf ks' := by
  apply (pairwise_setOf ks).eq_of_mem_iff (pairwise_setOf ks')
  intro k
  rw [mem_setOf, mem_setOf, h k]

/-- A map is ascending. -/
theorem pairwise_mapOf (entries : List (κ × ν)) :
    (mapOf entries).Pairwise fun a b => a.1 < b.1 :=
  List.pairwise_map.1 (pairwise_foldl_put .nil)

/-- A map made of entries with different keys does not depend on their order. -/
theorem mapOf_congr [Std.Asymm fun a b : κ => a < b] {entries entries' : List (κ × ν)}
    (hperm : entries.Perm entries') (h : (entries.map (·.1)).Nodup) :
    mapOf entries = mapOf entries' := by
  have hnodup' := (hperm.map (·.1)).nodup_iff.1 h
  have hperms := (mapOf_perm h).trans (hperm.trans (mapOf_perm hnodup').symm)
  exact hperms.eq_of_pairwise (fun a b _ _ hab hba => absurd hba (Std.Asymm.asymm a.1 b.1 hab))
    (pairwise_mapOf _) (pairwise_mapOf _)

/-- Ascending entries are the map which is made of them. -/
theorem mapOf_of_ascending [Std.Asymm fun a b : κ => a < b] {entries : List (κ × ν)}
    (h : entries.Pairwise fun a b => a.1 < b.1) : mapOf entries = entries := by
  have hnodup : (entries.map (·.1)).Nodup := by
    refine List.pairwise_map.2 (h.imp ?_)
    intro a b hlt heq
    exact Std.Asymm.asymm a.1 b.1 hlt (heq ▸ hlt)
  exact (mapOf_perm hnodup).eq_of_pairwise
    (fun a b _ _ hab hba => absurd hba (Std.Asymm.asymm a.1 b.1 hab)) (pairwise_mapOf entries) h

end Order

end PrinterFirmware.Ascending
