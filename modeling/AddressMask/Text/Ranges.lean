/-!
# Ranges of code points

A property of characters is kept as the list of the ranges of code points that have it, both ends
included, in ascending order and apart from each other.
-/

namespace AddressMask.Text

/-- Ranges of code points, both ends included. -/
abbrev Ranges := List (Nat × Nat)

namespace Ranges

/-- Whether a code point lies in one of the ranges. -/
def contains (ranges : Ranges) (n : Nat) : Bool :=
  ranges.any fun (low, high) => low ≤ n && n ≤ high

/-- The number of code points in the ranges. -/
def count : Ranges → Nat
  | [] => 0
  | (low, high) :: rest => high + 1 - low + count rest

/-- Whether the ranges ascend and a gap lies between any two of them. -/
def ascending : Ranges → Bool
  | [] => true
  | [(low, high)] => low ≤ high
  | (low, high) :: (next, last) :: rest =>
    low ≤ high && high + 1 < next && ascending ((next, last) :: rest)

end Ranges

end AddressMask.Text
