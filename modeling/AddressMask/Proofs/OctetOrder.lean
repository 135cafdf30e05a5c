import AddressMask.Proofs.WholeWord

/-!
# The order of masks is that of their octets

Masks are compared by family and by a number, and neither of the two is something a mask is written
with: the number of an IPv6 mask is a length.  Yet the order can be read off the octets a mask is laid
over an address with.  The families have none, four and sixteen octets, so the number of octets ranks
them (`compare_length_toBytes`).  In a family the octets are equally many, and then they compare as the
number they make (`Bytes.compare_number`); and the longer of two prefixes makes the larger number,
since it lacks the smaller power of two (`Bytes.compare_ofPrefix`).

The last step needs lengths that the octets have room for, so `compare_eq_toBytes` is about masks that
can be made.  That the order is linear needs no such thing, and with it a list of masks has one
ascending arrangement, the sorted one (`eq_sort_of_perm`).
-/

namespace AddressMask

/-! ## Octets of prefixes -/

/-- Prefixes written in as many octets compare as their lengths. -/
theorem Bytes.compare_ofPrefix {width m n : Nat} (hm : m ≤ 8 * width) (hn : n ≤ 8 * width) :
    compare (ofPrefix width m) (ofPrefix width n) = compare m n := by
  have hlength : (ofPrefix width m).length = (ofPrefix width n).length := by simp
  have hlt {k l : Nat} (hk : k < l) (hl : l ≤ 8 * width) :
      number (ofPrefix width k) < number (ofPrefix width l) := by
    have hless := number_ofPrefix_add (Nat.le_of_lt (Nat.lt_of_lt_of_le hk hl))
    have hmore := number_ofPrefix_add hl
    have hpow : 2 ^ (8 * width - l) < 2 ^ (8 * width - k) :=
      Nat.pow_lt_pow_right Nat.one_lt_two (by omega)
    omega
  rw [← compare_number hlength]
  rcases Nat.lt_trichotomy m n with h | rfl | h
  · rw [Nat.compare_eq_lt.mpr h, Nat.compare_eq_lt.mpr (hlt h hn)]
  · rw [Std.compare_self, Std.compare_self]
  · rw [Nat.compare_eq_gt.mpr h, Nat.compare_eq_gt.mpr (hlt h hm)]

namespace Mask

variable {a b : Mask} {xs ys : List Mask}

/-! ## Masks and their octets -/

theorem length_toBytes (m : Mask) :
    m.toBytes.length = match m with
      | .invalid => 0
      | .ipv4 _ => 4
      | .ipv6 _ => 16 := by
  cases m with
  | invalid => rfl
  | ipv4 octets => exact Vector.length_toList
  | ipv6 length => exact Bytes.length_ofPrefix 16 length.toNat

/-- The number of octets ranks the families. -/
theorem compare_length_toBytes (a b : Mask) :
    compare a.toBytes.length b.toBytes.length = compare a.familyRank b.familyRank := by
  rw [length_toBytes, length_toBytes]
  cases a <;> cases b <;> rfl

/-- In a family the octets compare as the numbers do. -/
theorem compare_toBytes_of_familyRank_eq (ha : a.WellFormed) (hb : b.WellFormed)
    (h : a.familyRank = b.familyRank) : compare a.number b.number = compare a.toBytes b.toBytes := by
  cases a with
  | invalid =>
    cases b with
    | invalid => rfl
    | _ => cases h
  | ipv4 octets =>
    cases b with
    | ipv4 octets' =>
      have hlength : octets.toList.length = octets'.toList.length := by simp
      rw [number_ipv4, number_ipv4]
      exact Bytes.compare_number hlength
    | _ => cases h
  | ipv6 length =>
    cases b with
    | ipv6 length' =>
      have hle : length.toNat ≤ 8 * 16 := UInt8.le_iff_toNat_le.mp ha
      have hle' : length'.toNat ≤ 8 * 16 := UInt8.le_iff_toNat_le.mp hb
      exact (Bytes.compare_ofPrefix hle hle').symm
    | _ => cases h

/-- **Masks that can be made compare as their octets do**: first how many there are, and then octet by
octet, the first one first. -/
theorem compare_eq_toBytes (ha : a.WellFormed) (hb : b.WellFormed) :
    compare a b =
      (compare a.toBytes.length b.toBytes.length).then (compare a.toBytes b.toBytes) := by
  rw [compare_length_toBytes]
  show (compare a.familyRank b.familyRank).then (compare a.number b.number) = _
  cases hrank : compare a.familyRank b.familyRank with
  | lt => rfl
  | gt => rfl
  | eq => exact compare_toBytes_of_familyRank_eq ha hb (Nat.compare_eq_eq.mp hrank)

/-- Masks that can be made are told by their octets. -/
theorem toBytes_inj (ha : a.WellFormed) (hb : b.WellFormed) : a.toBytes = b.toBytes ↔ a = b := by
  refine ⟨fun h => ?_, congrArg toBytes⟩
  have hcompare := compare_eq_toBytes ha hb
  rw [h, Std.compare_self, Std.compare_self] at hcompare
  exact Std.compare_eq_iff_eq.mp hcompare

/-! ## One ascending arrangement -/

instance : Std.IsLinearOrder Mask := .of_ord

theorem pairwise_le_sort (masks : List Mask) : (sort masks).Pairwise (· ≤ ·) := pairwise_sort masks

/-- A list of masks in ascending order is the sorted list of its masks. -/
theorem eq_sort_of_perm (hperm : xs.Perm ys) (hxs : xs.Pairwise (· ≤ ·)) : xs = sort ys :=
  List.Perm.eq_of_pairwise (fun _ _ _ _ => Std.le_antisymm) hxs (pairwise_le_sort ys)
    (hperm.trans (perm_sort ys).symm)

/-- **The order of masks is linear, and it is that of their octets.**  Masks that can be made compare
as the numbers of their octets do, and if these are the same as the octets themselves, the first one
first.  They compare as equal exactly if they are equal, and that is exactly if their octets are.  For
all masks the order is reflexive, transitive, antisymmetric and total, and comparing two masks the
other way round turns the answer round.

So a list of masks has exactly one ascending arrangement, which is what it is sorted to, and the same
masks in another order are sorted to the same list. -/
theorem order_of_octets :
    (∀ a b : Mask, a.Constructible → b.Constructible →
      compare a b =
        (compare a.toBytes.length b.toBytes.length).then (compare a.toBytes b.toBytes) ∧
      (compare a b = .eq ↔ a = b) ∧
      (a = b ↔ a.toBytes = b.toBytes)) ∧
    (∀ a b c : Mask,
      (a ≤ b ↔ (compare a b).isLE = true) ∧ (a < b ↔ compare a b = .lt) ∧
      compare b a = (compare a b).swap ∧
      a ≤ a ∧ (a ≤ b → b ≤ c → a ≤ c) ∧ (a ≤ b → b ≤ a → a = b) ∧ (a ≤ b ∨ b ≤ a)) ∧
    (∀ masks sorted : List Mask,
      sorted.Perm masks ∧ sorted.Pairwise (· ≤ ·) ↔ sorted = sort masks) ∧
    (∀ xs ys : List Mask, xs.Perm ys → sort xs = sort ys) := by
  refine ⟨fun a b ha hb => ⟨?_, Std.compare_eq_iff_eq, ?_⟩, fun a b c => ?_,
    fun masks sorted => ⟨?_, ?_⟩, fun xs ys hperm => ?_⟩
  · exact compare_eq_toBytes ha.wellFormed hb.wellFormed
  · exact (toBytes_inj ha.wellFormed hb.wellFormed).symm
  · exact ⟨Iff.rfl, Std.compare_eq_lt.symm, Std.OrientedOrd.eq_swap, Std.le_refl a, Std.le_trans,
      Std.le_antisymm, Std.le_total⟩
  · rintro ⟨hperm, hsorted⟩
    exact eq_sort_of_perm hperm hsorted
  · rintro rfl
    exact ⟨perm_sort masks, pairwise_le_sort masks⟩
  · exact eq_sort_of_perm ((perm_sort xs).trans hperm) (pairwise_le_sort xs)

/-- Lengths that end in the first octet and in the second one, a family with larger octets below them,
and a list that is given twice. -/
theorem order_of_octets_of_lengths :
    (Mask.ipv6 7).Constructible ∧ (Mask.ipv6 9).Constructible ∧
      compare (Mask.ipv6 7) (.ipv6 9) =
        (compare (Mask.ipv6 7).toBytes.length (Mask.ipv6 9).toBytes.length).then
          (compare (Mask.ipv6 7).toBytes (Mask.ipv6 9).toBytes) ∧
      [.ipv4 #v[255, 255, 255, 255], .ipv6 7] =
        sort [.ipv6 7, .ipv4 #v[255, 255, 255, 255]] ∧
      sort [.ipv6 9, .invalid, .ipv6 7] = sort [.invalid, .ipv6 9, .ipv6 7] := by
  obtain ⟨hmasks, -, hsorted, hlists⟩ := order_of_octets
  have h7 : (Mask.ipv6 7).Constructible := constructible_iff.mpr (by decide)
  have h9 : (Mask.ipv6 9).Constructible := constructible_iff.mpr (by decide)
  exact ⟨h7, h9, (hmasks _ _ h7 h9).1, (hsorted _ _).mp ⟨.swap _ _ _, by decide⟩,
    hlists _ _ (.swap _ _ _)⟩

end Mask

end AddressMask
