import AddressMask.Proofs.MaskOrder
import Mathlib.Data.List.Basic

/-!
# The table of last positions

A table in the order of masks that tells where each mask of a list stands last can be made in two
ways.  One goes through the list once and enters every mask with its position, so that a later entry
takes the place of an earlier one (`tableOf`).  The other one sorts the distinct masks and looks up
the positions of each (`lastPositions`).

Both are settled by what one more mask at the end of a list does: it has the last position from then
on, and the other masks keep theirs (`isLastPosition_concat`).  By induction from the end of the
list either way comes to the last positions and to nothing else.  A table is determined by what it
tells (`IsTable.unique`), so the two ways give the same one.
-/

namespace AddressMask.Mask

/-- The mask stands at a position of the list, and at no later one. -/
def IsLastPosition (m : Mask) (masks : List Mask) (i : Nat) : Prop :=
  masks[i]? = some m ∧ ∀ j, i < j → masks[j]? ≠ some m

theorem not_isLastPosition_nil (m : Mask) (i : Nat) : ¬ IsLastPosition m [] i :=
  fun h => nomatch h.1

/-- **One more mask stands last at the end**, and the others where they stood last before. -/
theorem isLastPosition_concat {m x : Mask} {masks : List Mask} {i : Nat} :
    IsLastPosition m (masks ++ [x]) i ↔
      if x = m then i = masks.length else IsLastPosition m masks i := by
  have hend : (masks ++ [x])[masks.length]? = some x := List.getElem?_concat_length
  have hother {j : Nat} (hj : j ≠ masks.length) : (masks ++ [x])[j]? = masks[j]? := by
    rcases Nat.lt_or_gt_of_ne hj with hlt | hgt
    · exact List.getElem?_append_left hlt
    · rw [List.getElem?_eq_none (Nat.le_of_lt hgt), List.getElem?_eq_none]
      rw [List.length_append, List.length_singleton]
      omega
  split
  · rename_i hx
    subst hx
    constructor
    · rintro ⟨hi, hlater⟩
      have hle : masks.length ≤ i := Nat.le_of_not_lt fun hlt => hlater _ hlt hend
      have hlt := (List.getElem?_eq_some_iff.mp hi).1
      rw [List.length_append, List.length_singleton] at hlt
      omega
    · rintro rfl
      refine ⟨hend, fun j hj => ?_⟩
      rw [hother (Nat.ne_of_gt hj), List.getElem?_eq_none (Nat.le_of_lt hj)]
      nofun
  · rename_i hx
    have hsame (j : Nat) : (masks ++ [x])[j]? = some m ↔ masks[j]? = some m := by
      by_cases hj : j = masks.length
      · subst hj
        rw [hend, List.getElem?_eq_none (Nat.le_refl _)]
        exact iff_of_false (fun he => hx (Option.some.inj he)) nofun
      · rw [hother hj]
    simp only [IsLastPosition, ne_eq, hsame]

theorem exists_isLastPosition_iff {m : Mask} {masks : List Mask} :
    (∃ i, IsLastPosition m masks i) ↔ m ∈ masks := by
  induction masks using List.reverseRecOn with
  | nil => exact iff_of_false (fun ⟨i, hi⟩ => not_isLastPosition_nil m i hi) List.not_mem_nil
  | append_singleton masks x ih =>
    simp only [isLastPosition_concat, List.mem_append, List.mem_singleton, ← ih]
    by_cases hx : x = m
    · simp [hx]
    · simp [hx, Ne.symm hx]

/-! ## Tables -/

/-- Ascending entries that tell the last positions of the masks in a list. -/
structure IsTable (masks : List Mask) (entries : List (Mask × Nat)) : Prop where
  ascending : entries.Pairwise fun a b => compare a.1 b.1 = .lt
  mem_iff : ∀ m i, (m, i) ∈ entries ↔ IsLastPosition m masks i

namespace IsTable

variable {masks : List Mask} {entries entries' : List (Mask × Nat)}

theorem pairwise_ne (h : IsTable masks entries) : entries.Pairwise fun a b => a.1 ≠ b.1 := by
  refine h.ascending.imp fun {a b} hlt he => ?_
  rw [he, Std.compare_self] at hlt
  cases hlt

theorem nodup (h : IsTable masks entries) : entries.Nodup :=
  h.pairwise_ne.imp fun hne he => hne (congrArg Prod.fst he)

/-- **There is one table of the last positions.** -/
theorem unique (h : IsTable masks entries) (h' : IsTable masks entries') : entries = entries' := by
  have hperm : entries.Perm entries' := by
    rw [List.perm_ext_iff_of_nodup h.nodup h'.nodup]
    rintro ⟨m, i⟩
    rw [h.mem_iff, h'.mem_iff]
  refine hperm.eq_of_pairwise (fun a b _ _ hab hba => ?_) h.ascending h'.ascending
  -- no entry is above and below another one
  have hswap : compare b.1 a.1 = (compare a.1 b.1).swap := Std.OrientedCmp.eq_swap
  rw [hab, hba] at hswap
  cases hswap

end IsTable

/-! ## Entering one mask after the other -/

/-- The table into which the masks of a list are entered with their positions, one after the
other. -/
def tableOf (masks : List Mask) : Std.TreeMap Mask Nat :=
  masks.zipIdx.foldl (fun table entry => table.insert entry.1 entry.2) ∅

theorem tableOf_concat (masks : List Mask) (x : Mask) :
    tableOf (masks ++ [x]) = (tableOf masks).insert x masks.length := by
  rw [tableOf, List.zipIdx_append, List.foldl_append, Nat.zero_add]
  rfl

theorem getElem?_tableOf {m : Mask} {masks : List Mask} {i : Nat} :
    (tableOf masks)[m]? = some i ↔ IsLastPosition m masks i := by
  induction masks using List.reverseRecOn with
  | nil =>
    refine iff_of_false ?_ (not_isLastPosition_nil m i)
    rw [tableOf, List.zipIdx_nil, List.foldl_nil, Std.TreeMap.getElem?_emptyc]
    nofun
  | append_singleton masks x ih =>
    rw [tableOf_concat, Std.TreeMap.getElem?_insert, isLastPosition_concat, ← ih]
    simp only [Std.compare_eq_iff_eq]
    split
    · rw [Option.some.injEq, eq_comm]
    · rfl

theorem isTable_tableOf (masks : List Mask) : IsTable masks (tableOf masks).toList where
  ascending := Std.TreeMap.ordered_keys_toList
  mem_iff m i := by rw [Std.TreeMap.mem_toList_iff_getElem?_eq_some, getElem?_tableOf]

/-! ## Looking up the positions of each mask -/

theorem positions_concat (m : Mask) (masks : List Mask) (x : Mask) :
    positions m (masks ++ [x]) = positions m masks ++ if x = m then [masks.length] else [] := by
  rw [positions, List.zipIdx_append, List.filter_append, List.map_append, Nat.zero_add]
  by_cases h : x = m
  · simp [h, positions]
  · simp [h, positions]

theorem getLast?_positions {m : Mask} {masks : List Mask} {i : Nat} :
    (positions m masks).getLast? = some i ↔ IsLastPosition m masks i := by
  induction masks using List.reverseRecOn with
  | nil => exact iff_of_false nofun (not_isLastPosition_nil m i)
  | append_singleton masks x ih =>
    rw [positions_concat, isLastPosition_concat, ← ih]
    split
    · rw [List.getLast?_concat, Option.some.injEq, eq_comm]
    · rw [List.append_nil]

/-- Distinct items are left, each of them once. -/
theorem nodup_eraseDups (masks : List Mask) : masks.eraseDups.Nodup := by
  match masks with
  | [] => exact List.nodup_nil
  | m :: masks =>
    rw [List.eraseDups_cons]
    refine List.nodup_cons.mpr ⟨fun hm => ?_, nodup_eraseDups _⟩
    simpa using List.mem_eraseDups.mp hm
  termination_by masks.length
  decreasing_by exact Nat.lt_succ_of_le (List.length_filter_le _ _)

theorem isTable_lastPositions (masks : List Mask) : IsTable masks (lastPositions masks) where
  ascending := List.pairwise_map.mpr (pairwise_sort_of_nodup (nodup_eraseDups masks))
  mem_iff m i := by
    have hlast {a : Mask} {j : Nat} (h : (positions a masks).getLast? = some j) :
        (positions a masks).getLastD 0 = j := by
      rw [List.getLastD_eq_getLast?, h, Option.getD_some]
    rw [lastPositions, List.mem_map, ← getLast?_positions]
    constructor
    · rintro ⟨a, ha, he⟩
      cases he
      rw [mem_sort, List.mem_eraseDups, ← exists_isLastPosition_iff] at ha
      obtain ⟨j, hj⟩ := ha
      have hj := getLast?_positions.mpr hj
      rw [hlast hj, hj]
    · intro h
      have hm := exists_isLastPosition_iff.mp ⟨i, getLast?_positions.mp h⟩
      exact ⟨m, mem_sort.mpr (List.mem_eraseDups.mpr hm), by rw [hlast h]⟩

/-- **Both ways give the same table.** -/
theorem lastPositions_eq (masks : List Mask) : lastPositions masks = (tableOf masks).toList :=
  (isTable_lastPositions masks).unique (isTable_tableOf masks)

end AddressMask.Mask
