import AddressMask.Mask.Order
import Mathlib.Data.List.Induction

/-!
# The order of masks is linear

Masks are compared by family and then by number.  Natural numbers are in a linear order, and an
order that goes by one linear order first and by another one second is transitive and total; so all
that is left to show is that nothing is lost on the way to the numbers.  Two masks of one family and
one number are the same mask, because four octets can be got back from the word they are packed into
(`Octets.ofWord_toWord`).  Octets in any number are told by their number as well, which is a matter
of order: the numbers of equally many octets compare as the octets do, the first one first
(`Bytes.compare_number`).

Sorting a list of masks therefore leaves no choice, and a list without repetitions is strictly
ascending once it is sorted.
-/

namespace AddressMask

namespace Bytes

/-! ## Octets as numbers -/

theorem compare_toNat (a b : UInt8) : compare a.toNat b.toNat = compare a b := by
  change compareOfLessAndEq a.toNat b.toNat = compareOfLessAndEq a b
  simp only [compareOfLessAndEq, UInt8.lt_iff_toNat_lt, UInt8.toNat_inj]

/-- The last octets matter only if the others are the same. -/
theorem compare_concat {xs ys : Bytes} (h : xs.length = ys.length) (a b : UInt8) :
    compare (xs ++ [a]) (ys ++ [b]) = (compare xs ys).then (compare a b) := by
  induction xs generalizing ys with
  | nil =>
    rw [List.eq_nil_of_length_eq_zero h.symm, List.nil_append, List.nil_append,
      List.compare_cons_cons, List.compare_nil_nil, Ordering.then_eq, Ordering.eq_then]
  | cons x xs ih =>
    obtain ⟨y, ys, rfl⟩ := List.exists_cons_of_length_eq_add_one h.symm
    rw [List.cons_append, List.cons_append, List.compare_cons_cons, List.compare_cons_cons,
      ih (Nat.succ_inj.mp h), Ordering.then_assoc]

theorem compare_add_left (n a b : Nat) : compare (n + a) (n + b) = compare a b := by
  rcases Nat.lt_trichotomy a b with h | rfl | h
  · rw [Nat.compare_eq_lt.mpr h, Nat.compare_eq_lt.mpr (Nat.add_lt_add_left h n)]
  · rw [Std.compare_self, Std.compare_self]
  · rw [Nat.compare_eq_gt.mpr h, Nat.compare_eq_gt.mpr (Nat.add_lt_add_left h n)]

/-- The last digits matter only if the numbers in front of them are the same. -/
theorem compare_mul_add {size m n a b : Nat} (ha : a < size) (hb : b < size) :
    compare (size * m + a) (size * n + b) = (compare m n).then (compare a b) := by
  have hlt {k l c d : Nat} (h : k < l) (hc : c < size) : size * k + c < size * l + d :=
    calc
      size * k + c < size * k + size := Nat.add_lt_add_left hc _
      _ = size * (k + 1) := (Nat.mul_succ size k).symm
      _ ≤ size * l := Nat.mul_le_mul_left size h
      _ ≤ size * l + d := Nat.le_add_right _ _
  rcases Nat.lt_trichotomy m n with h | rfl | h
  · rw [Nat.compare_eq_lt.mpr h, Nat.compare_eq_lt.mpr (hlt h ha), Ordering.lt_then]
  · rw [Nat.compare_eq_eq.mpr rfl, Ordering.eq_then]
    exact compare_add_left (size * m) a b
  · rw [Nat.compare_eq_gt.mpr h, Nat.compare_eq_gt.mpr (hlt h hb), Ordering.gt_then]

/-- **Numbers of equally many octets compare as the octets do**, the first one first. -/
theorem compare_number {xs ys : Bytes} (h : xs.length = ys.length) :
    compare (number xs) (number ys) = compare xs ys := by
  induction xs using List.reverseRecOn generalizing ys with
  | nil =>
    rw [List.eq_nil_of_length_eq_zero h.symm]
    rfl
  | append_singleton xs a ih =>
    rcases List.eq_nil_or_concat ys with rfl | ⟨ys, b, rfl⟩
    · rw [List.length_append, List.length_singleton] at h
      cases h
    · rw [List.concat_eq_append] at h ⊢
      rw [List.length_append, List.length_append, List.length_singleton, List.length_singleton,
        Nat.add_right_cancel_iff] at h
      rw [number_concat, number_concat, compare_mul_add a.toNat_lt b.toNat_lt, ih h,
        compare_toNat, compare_concat h]

theorem number_injective {xs ys : Bytes} (hlength : xs.length = ys.length)
    (h : number xs = number ys) : xs = ys := by
  have hcompare := compare_number hlength
  rw [h, Std.compare_self] at hcompare
  exact Std.compare_eq_iff_eq.mp hcompare.symm

end Bytes

namespace Mask

/-! ## The order of masks -/

/-- Masks are in order by two numbers, one after the other. -/
instance : Std.TransOrd Mask :=
  inferInstanceAs (Std.TransCmp (compareLex (compareOn familyRank) (compareOn number)))

/-- Family and number tell everything about a mask. -/
theorem eq_of_number {a b : Mask} (hrank : a.familyRank = b.familyRank)
    (hnumber : a.number = b.number) : a = b := by
  cases a with
  | invalid =>
    cases b with
    | invalid => rfl
    | _ => cases hrank
  | ipv4 octets =>
    cases b with
    | ipv4 octets' =>
      exact congrArg ipv4 (Octets.toWord_injective (UInt32.toNat_inj.mp hnumber))
    | _ => cases hrank
  | ipv6 length =>
    cases b with
    | ipv6 length' => exact congrArg ipv6 (UInt8.toNat_inj.mp hnumber)
    | _ => cases hrank

/-- Masks that compare as equal are equal. -/
instance : Std.LawfulEqOrd Mask where
  eq_of_compare h := by
    obtain ⟨hrank, hnumber⟩ := Ordering.then_eq_eq.mp h
    exact eq_of_number (Nat.compare_eq_eq.mp hrank) (Nat.compare_eq_eq.mp hnumber)

/-! ## Sorted lists -/

theorem pairwise_sort (masks : List Mask) :
    (sort masks).Pairwise fun a b => (compare a b).isLE := by
  refine List.pairwise_mergeSort (fun a b c => Std.TransCmp.isLE_trans) (fun a b => ?_) masks
  have hswap : compare b a = (compare a b).swap := Std.OrientedCmp.eq_swap
  rw [hswap]
  cases compare a b with
  | lt => rfl
  | eq => rfl
  | gt => rfl

theorem mem_sort {m : Mask} {masks : List Mask} : m ∈ sort masks ↔ m ∈ masks :=
  (perm_sort masks).mem_iff

/-- Without repetitions, each mask of a sorted list is below all that follow. -/
theorem pairwise_sort_of_nodup {masks : List Mask} (h : masks.Nodup) :
    (sort masks).Pairwise fun a b => compare a b = .lt := by
  have hnodup := (perm_sort masks).nodup_iff.mpr h
  refine (List.pairwise_and_iff.mpr ⟨pairwise_sort masks, hnodup⟩).imp ?_
  rintro a b ⟨hle, hne⟩
  rcases Ordering.isLE_iff_eq_lt_or_eq_eq.mp hle with hlt | heq
  · exact hlt
  · exact absurd (Std.compare_eq_iff_eq.mp heq) hne

end Mask

end AddressMask
