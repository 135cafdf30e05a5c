import AddressMask.Mask.Basic

/-!
# Masks in order and by key

Masks are ordered by family, the invalid mask first and IPv6 last, and within a family by number:
the four octets of an IPv4 mask as one unsigned word, or the length of an IPv6 mask. The order is
total, and masks that compare as equal are equal.

Lists of masks are arranged in three ways: sorted, grouped by equal masks in the order of first
appearance, and as a table in ascending order that keeps the last position of each mask.
-/

namespace AddressMask.Mask

/-! ### The order -/

/-- The place of a family in the order. -/
def familyRank : Mask → Nat
  | .invalid => 0
  | .ipv4 _ => 1
  | .ipv6 _ => 2

/-- The number that orders the masks of one family. -/
def number : Mask → Nat
  | .invalid => 0
  | .ipv4 octets => octets.toWord.toNat
  | .ipv6 length => length.toNat

theorem number_ipv4 (octets : Octets 4) : number (.ipv4 octets) = Bytes.number octets.toList :=
  Octets.toNat_toWord octets

instance : Ord Mask where
  compare a b := (compare a.familyRank b.familyRank).then (compare a.number b.number)

instance : LE Mask := leOfOrd

instance : LT Mask := ltOfOrd

instance : DecidableRel (α := Mask) (· ≤ ·) := fun _ _ => inferInstanceAs (Decidable (_ = true))

instance : Max Mask := maxOfLe

instance : Min Mask := minOfLe

/-- Family and number are told apart in 64 bits, so distinct masks have distinct hashes. -/
instance : Hashable Mask where
  hash m := UInt64.ofNat (m.familyRank * UInt32.size + m.number)

/-! ### Lists of masks -/

/-- The masks of a list in ascending order. -/
def sort (masks : List Mask) : List Mask := masks.mergeSort fun a b => (compare a b).isLE

theorem perm_sort (masks : List Mask) : (sort masks).Perm masks := List.mergeSort_perm masks _

/-- The positions at which a mask stands in a list, in ascending order. -/
def positions (m : Mask) (masks : List Mask) : List Nat :=
  (masks.zipIdx.filter fun entry => entry.1 == m).map (·.2)

/-- The distinct masks of a list in the order of first appearance, each with its positions. -/
def groups (masks : List Mask) : List (Mask × List Nat) :=
  masks.eraseDups.map fun m => (m, positions m masks)

/-- The distinct masks of a list in ascending order, each with its last position. -/
def lastPositions (masks : List Mask) : List (Mask × Nat) :=
  (sort masks.eraseDups).map fun m => (m, (positions m masks).getLastD 0)

example : compare (Mask.ipv6 0) (Mask.ipv4 #v[255, 255, 255, 255]) = .gt := by decide
example : groups [.ipv6 1, .invalid, .ipv6 1] = [(.ipv6 1, [0, 2]), (.invalid, [1])] := by
  decide +kernel
example : lastPositions [.ipv6 1, .invalid, .ipv6 1] = [(.invalid, 1), (.ipv6 1, 2)] := by cbv

end AddressMask.Mask
