import AddressMask.Proofs.PrefixScan

/-!
# More ones than the count has room for

`Bytes.prefixLength?` counts ones in 32 bits, and a byte string may be long enough to start with more
ones than that.  Then the count starts again from zero.  Nothing else depends on it: where the ones end
is found in the octets, and so is what follows them.  So what is reported is the number of ones that are
there, taken modulo 2 ^ 32 (`prefixLength?_eq_some_iff_mod`), provided that they are followed by zeros
only and that what is left of their number is at most 255.

What is left of a number may well be that small, and then a length is reported that is a wrong one: the
right one is reported exactly if the octets of ones at the front can be counted
(`hasPrefixLength_iff_onesFit`), as they can in fewer than 2 ^ 29 octets.  That many octets of ones bring
the count back to zero.  A scan that fails where a sum does not fit never reports a wrong length; but on
such octets it fails, and does not say that there are too many of them.
-/

namespace AddressMask

namespace Bytes

variable {bytes : Bytes} {k n : Nat}

/-- A length that is reported is right exactly if the octets of ones could be counted. -/
theorem hasPrefixLength_iff_onesFit (h : prefixLength? bytes = some n) :
    HasPrefixLength bytes n ↔ OnesFit bytes :=
  ⟨fun hn => hn.onesFit (prefixLength?_le_255 h), fun hfit => (hfit.prefixLength?_eq_some_iff.mp h).2⟩

theorem scan_eq_error_iff : scan 0 bytes = .error {} ↔ ¬ OnesFit bytes := by
  rw [scan_zero_eq]
  split
  · rename_i hfit
    exact iff_of_false nofun fun hover => hover hfit
  · rename_i hover
    exact iff_of_true rfl hover

/-- Octets of ones are refused if what is left of their number is too large to be reported. -/
theorem prefixLength?_replicate_ones_eq_none_iff :
    prefixLength? (List.replicate k 0xff) = none ↔ 32 ≤ k % 2 ^ 29 := by
  rw [prefixLength?_replicate_ones, reportedLength?, UInt32.toNat_ofNat']
  split
  · exact iff_of_false nofun (by omega)
  · exact iff_of_true rfl (by omega)

/-- **What a count of 32 bits comes to**, in byte strings of any length.  A length is found exactly if
the bits are ones and then zeros and it is the number of the ones modulo 2 ^ 32, and at most 255.  It is
right exactly if the octets of ones at the front can be counted; of 32 or more octets of ones none is
found exactly if 32 or more are left of them modulo 2 ^ 29.  A scan that fails where a sum does not fit
finds the right lengths and no others, and it fails exactly if the octets of ones cannot be counted. -/
theorem prefixLength?_of_wrapping_count (bytes : Bytes) :
    (∀ n, prefixLength? bytes = some n ↔
      n ≤ 255 ∧ ∃ m, HasPrefixLength bytes m ∧ m % 2 ^ 32 = n) ∧
    (∀ n, prefixLength? bytes = some n → (HasPrefixLength bytes n ↔ OnesFit bytes)) ∧
    (∀ k, bytes = List.replicate k 0xff → (prefixLength? bytes = none ↔ 32 ≤ k % 2 ^ 29)) ∧
    (∀ n, scan 0 bytes = .ok (some n) ↔ n ≤ 255 ∧ HasPrefixLength bytes n) ∧
    (scan 0 bytes = .error {} ↔ ¬ OnesFit bytes) := by
  refine ⟨fun n => prefixLength?_eq_some_iff_mod, fun n => hasPrefixLength_iff_onesFit, ?_,
    fun n => scan_eq_ok_some_iff, scan_eq_error_iff⟩
  rintro k rfl
  exact prefixLength?_replicate_ones_eq_none_iff

/-- Three octets of ones and a part of one, and 33 octets of ones, which are too many to report. -/
theorem prefixLength?_of_wrapping_count_of_short :
    prefixLength? [0xff, 0xff, 0xff, 0x80] = some 25 ∧
      (HasPrefixLength [0xff, 0xff, 0xff, 0x80] 25 ↔ OnesFit [0xff, 0xff, 0xff, 0x80]) ∧
      prefixLength? (List.replicate 33 0xff) = none := by
  have hfound : prefixLength? [0xff, 0xff, 0xff, 0x80] = some 25 := by decide
  obtain ⟨-, hright, -, -, -⟩ := prefixLength?_of_wrapping_count [0xff, 0xff, 0xff, 0x80]
  obtain ⟨-, -, hones, -, -⟩ := prefixLength?_of_wrapping_count (List.replicate 33 0xff)
  exact ⟨hfound, hright 25 hfound, (hones 33 rfl).mpr (by decide)⟩

/-- 2 ^ 29 octets of ones are taken for a prefix of length 0, though they are not one; and a scan of
them fails, in place of finding no length. -/
theorem two_pow_29_ones :
    (List.replicate (2 ^ 29) 0xff : Bytes).length < 2 ^ 63 ∧
      prefixLength? (List.replicate (2 ^ 29) 0xff) = some 0 ∧
      ¬ HasPrefixLength (List.replicate (2 ^ 29) 0xff) 0 ∧
      scan 0 (List.replicate (2 ^ 29) 0xff) = .error {} := by
  have hnone : ¬ HasPrefixLength (List.replicate (2 ^ 29) 0xff) 0 := by
    rw [hasPrefixLength_replicate_ones]
    decide
  have hfound : prefixLength? (List.replicate (2 ^ 29) 0xff) = some 0 := by
    rw [prefixLength?_replicate_ones]
    rfl
  refine ⟨by rw [List.length_replicate]; decide, hfound, hnone, scan_eq_error_iff.mpr ?_⟩
  rwa [← hasPrefixLength_iff_onesFit hfound]

end Bytes

end AddressMask
