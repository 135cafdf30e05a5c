import AddressMask.Proofs.LeadingOnes

/-!
# Prefixes, one octet after the other

`Bytes.prefixLength?` goes through a byte string with a running count of 32 bits.  A sum that does not
fit them is cut down to what fits, and the loop goes on with it.  Here the same loop is written with
sums that are checked (`Bytes.scan`): one that does not fit is a failure of the scan.

The loop invariant is that the count is eight times the number of octets passed, all of which were
ones.  So a state of the loop stands for a whole byte string, the ones that are passed and the octets
that are left, and one induction shows that a scan answers what `prefixLength?` answers for it unless
the ones do not fit (`scan_eq`).  Fewer than 2 ^ 29 octets always fit; and a length that can be
reported at all is far from the end of the word, so a scan finds the lengths of the bits in byte
strings of any length (`scan_eq_ok_some_iff`).

A byte string is no prefix exactly if a one comes after a zero (`not_hasGap_iff`).  With that the
recogniser is described by the bits alone, and recognising and writing a prefix are inverse to each
other.
-/

namespace AddressMask

namespace Bytes

variable {bytes rest : Bytes} {count : UInt32} {b : UInt8} {k n run : Nat}

/-! ## The loop -/

/-- A count of ones that does not fit its word. -/
structure CountOverflow where
  deriving DecidableEq, Repr

/-- Adds a run of ones to the count. -/
def addOnes (count : UInt32) (run : Nat) : Except CountOverflow UInt32 :=
  if count.toNat + run < UInt32.size then .ok (count + UInt32.ofNat run) else .error {}

/-- Recognises a prefix from some octet on, given the count of the ones before it. -/
def scan (count : UInt32) : Bytes → Except CountOverflow (Option Nat)
  | [] => .ok (reportedLength? count)
  | b :: rest =>
    if b = 0xff then do
      let count ← addOnes count 8
      scan count rest
    else if b <<< UInt8.ofNat (Octet.leadingOnes b) = 0 then do
      let count ← addOnes count (Octet.leadingOnes b)
      .ok (if rest.all (· == 0) then reportedLength? count else none)
    else .ok none

theorem addOnes_of_lt (h : count.toNat + run < UInt32.size) :
    addOnes count run = .ok (count + UInt32.ofNat run) := if_pos h

theorem addOnes_of_not_lt (h : ¬ count.toNat + run < UInt32.size) :
    addOnes count run = .error {} := if_neg h

theorem scan_ones_of_lt (h : count.toNat + 8 < UInt32.size) :
    scan count (0xff :: rest) = scan (count + 8) rest := by
  rw [scan, if_pos rfl, addOnes_of_lt h]
  rfl

theorem scan_ones_of_not_lt (h : ¬ count.toNat + 8 < UInt32.size) :
    scan count (0xff :: rest) = .error {} := by
  rw [scan, if_pos rfl, addOnes_of_not_lt h]
  rfl

/-- The octet in which the ones end decides, together with what follows it. -/
theorem scan_last (hb : b ≠ 0xff) (h : count.toNat + Octet.leadingOnes b < UInt32.size) :
    scan count (b :: rest) = .ok
      (if b <<< UInt8.ofNat (Octet.leadingOnes b) == 0 && rest.all (· == 0) then
        reportedLength? (count + UInt32.ofNat (Octet.leadingOnes b)) else none) := by
  rw [scan, if_neg hb]
  by_cases hshift : b <<< UInt8.ofNat (Octet.leadingOnes b) = 0
  · rw [if_pos hshift, addOnes_of_lt h, hshift, beq_self_eq_true, Bool.true_and]
    rfl
  · rw [if_neg hshift, beq_eq_false_iff_ne.mpr hshift, Bool.false_and]
    rfl

/-! ## Checked and unchecked sums -/

theorem replicate_ones_succ_append (k : Nat) (rest : Bytes) :
    List.replicate (k + 1) 0xff ++ rest = List.replicate k 0xff ++ (0xff : UInt8) :: rest := by
  rw [List.replicate_succ', List.append_assoc]
  rfl

/-- **A scan answers what is recognised in the whole byte string**, the octets of ones it has passed
and the octets that are left, if all the ones can be counted.  Otherwise it fails. -/
theorem scan_eq (hk : 8 * k < UInt32.size) :
    scan (UInt32.ofNat (8 * k)) bytes =
      if OnesFit (List.replicate k 0xff ++ bytes) then
        .ok (prefixLength? (List.replicate k 0xff ++ bytes)) else .error {} := by
  have hcount : (UInt32.ofNat (8 * k)).toNat = 8 * k := UInt32.toNat_ofNat_of_lt' hk
  induction bytes generalizing k with
  | nil =>
    rw [if_pos (onesFit_replicate_append.mpr hk), List.append_nil, prefixLength?_replicate_ones,
      scan]
  | cons b rest ih =>
    by_cases hb : b = 0xff
    · subst hb
      rw [← replicate_ones_succ_append]
      by_cases hfit : 8 * (k + 1) < UInt32.size
      · have hnext : UInt32.ofNat (8 * k) + 8 = UInt32.ofNat (8 * (k + 1)) :=
          (UInt32.ofNat_add (8 * k) 8).symm
        rw [scan_ones_of_lt (by rw [hcount]; exact hfit), hnext,
          ih hfit (UInt32.toNat_ofNat_of_lt' hfit)]
      · rw [scan_ones_of_not_lt (by rw [hcount]; exact hfit), if_neg]
        rw [onesFit_replicate_append]
        omega
    · have hrun := Octet.leadingOnes_lt hb
      have hsize : UInt32.size = 4294967296 := rfl
      have hfit : OnesFit (List.replicate k 0xff ++ b :: rest) := by
        rw [onesFit_replicate_append, List.takeWhile_cons_of_neg (by simp [hb])]
        exact hk
      rw [if_pos hfit, prefixLength?_append_cons hb, scan_last hb (by rw [hcount]; omega)]

theorem scan_zero_eq (bytes : Bytes) :
    scan 0 bytes = if OnesFit bytes then .ok (prefixLength? bytes) else .error {} :=
  scan_eq (by decide : 8 * 0 < UInt32.size)

/-! ## Lengths -/

/-- A length that is reported is far below the end of the word, so its ones can be counted. -/
theorem HasPrefixLength.onesFit (h : HasPrefixLength bytes n) (hn : n ≤ 255) : OnesFit bytes := by
  obtain ⟨hones, -⟩ := eq_ones_append_zeros_iff.mp h
  rw [← replicate_ones_append_dropWhile bytes, bits_append, bits_replicate_ones,
    takeWhile_ones_append, List.length_append, List.length_replicate] at hones
  show _ < 4294967296
  omega

theorem prefixLength?_of_hasPrefixLength (hn : n ≤ 255) (h : HasPrefixLength bytes n) :
    prefixLength? bytes = some n :=
  (h.onesFit hn).prefixLength?_eq_some_iff.mpr ⟨hn, h⟩

/-- **A scan finds the lengths of the bits**, in byte strings of any length. -/
theorem scan_eq_ok_some_iff : scan 0 bytes = .ok (some n) ↔ n ≤ 255 ∧ HasPrefixLength bytes n := by
  rw [scan_zero_eq]
  split
  · rename_i hfit
    rw [Except.ok.injEq, hfit.prefixLength?_eq_some_iff]
  · rename_i hover
    exact iff_of_false nofun fun h => hover (h.2.onesFit h.1)

/-! ## Byte strings that are no prefix -/

/-- A one comes after a zero. -/
def HasGap (bytes : Bytes) : Prop := List.Sublist [false, true] (bits bytes)

instance : DecidablePred HasGap := fun bytes =>
  inferInstanceAs (Decidable (List.Sublist [false, true] (bits bytes)))

theorem forall_mem_dropWhile_ones_iff (row : List Bool) :
    (∀ x ∈ row.dropWhile id, x = false) ↔ ¬ List.Sublist [false, true] row := by
  induction row with
  | nil => exact iff_of_true nofun nofun
  | cons x row ih =>
    cases x with
    | true =>
      rw [List.dropWhile_cons_of_pos rfl, ih, not_iff_not]
      -- the zero is not the first bit
      refine ⟨fun h => h.cons true, fun h => ?_⟩
      cases h with
      | cons _ h => exact h
    | false =>
      rw [List.dropWhile_cons_of_neg Bool.false_ne_true, List.cons_sublist_cons,
        List.singleton_sublist, List.forall_mem_cons, eq_self, true_and]
      refine ⟨fun h hone => Bool.false_ne_true (h true hone).symm, fun h x hx => ?_⟩
      cases x with
      | true => exact absurd hx h
      | false => rfl

/-- **A byte string is a prefix of some length or has a gap**, and never both. -/
theorem not_hasGap_iff : ¬ HasGap bytes ↔ ∃ n, HasPrefixLength bytes n := by
  rw [HasGap, ← forall_mem_dropWhile_ones_iff]
  constructor
  · intro h
    exact ⟨_, eq_ones_append_zeros_iff.mpr ⟨rfl, h⟩⟩
  · rintro ⟨n, h⟩
    exact (eq_ones_append_zeros_iff.mp h).2

/-- The first ones of a prefix are as many as one likes, up to its length. -/
theorem HasPrefixLength.replicate_prefix_iff (h : HasPrefixLength bytes n) :
    List.replicate k true <+: bits bytes ↔ k ≤ n := by
  constructor
  · rintro ⟨row, hrow⟩
    obtain ⟨hn, -⟩ := eq_ones_append_zeros_iff.mp h
    rw [← hrow, takeWhile_ones_append, List.length_append, List.length_replicate] at hn
    omega
  · intro hle
    obtain ⟨zeros, hbits⟩ := h
    obtain ⟨more, rfl⟩ := Nat.exists_eq_add_of_le hle
    refine ⟨List.replicate more true ++ List.replicate zeros false, ?_⟩
    rw [hbits, ← List.append_assoc, List.replicate_append_replicate]

/-- No length is recognised if there is none, or none that can be reported. -/
theorem OnesFit.prefixLength?_eq_none_iff (h : OnesFit bytes) :
    prefixLength? bytes = none ↔ HasGap bytes ∨ List.replicate 256 true <+: bits bytes := by
  rw [Option.eq_none_iff_forall_ne_some]
  simp only [ne_eq, h.prefixLength?_eq_some_iff, not_and]
  by_cases hgap : HasGap bytes
  · exact iff_of_true (fun n _ hn => not_hasGap_iff.mpr ⟨n, hn⟩ hgap) (Or.inl hgap)
  · obtain ⟨n, hn⟩ := not_hasGap_iff.mp hgap
    rw [or_iff_right hgap, hn.replicate_prefix_iff]
    constructor
    · intro hnone
      exact Nat.lt_of_not_le fun hle => hnone n hle hn
    · intro hlong n' hle hn'
      -- the same ones are at the front, whichever length is meant
      have hlong' := hn'.replicate_prefix_iff.mp (hn.replicate_prefix_iff.mpr hlong)
      omega

/-- **The recogniser is exact.**  In a byte string of fewer than 2 ^ 29 octets the count of ones never
leaves its word.  A length is found exactly if it is at most 255 and the bits are that many ones
followed by zeros only; and none is found exactly if a one comes after a zero or more than 255 ones
come first. -/
theorem prefixLength?_exact (h : bytes.length < 2 ^ 29) :
    scan 0 bytes = .ok (prefixLength? bytes) ∧
    (∀ n, prefixLength? bytes = some n ↔ n ≤ 255 ∧ HasPrefixLength bytes n) ∧
    (prefixLength? bytes = none ↔ HasGap bytes ∨ List.replicate 256 true <+: bits bytes) := by
  have hfit := onesFit_of_length h
  refine ⟨?_, fun n => hfit.prefixLength?_eq_some_iff, hfit.prefixLength?_eq_none_iff⟩
  rw [scan_zero_eq, if_pos hfit]

/-- A prefix that ends inside an octet, a one behind the zeros, and 256 ones. -/
theorem prefixLength?_exact_of_edges :
    ([0xff, 0xff, 0xfe, 0] : Bytes).length < 2 ^ 29 ∧
      prefixLength? [0xff, 0xff, 0xfe, 0] = some 23 ∧
      prefixLength? [0xff, 0, 0, 1] = none ∧
      prefixLength? (List.replicate 32 0xff) = none := by
  have hshort : ([0xff, 0xff, 0xfe, 0] : Bytes).length < 2 ^ 29 := by decide
  have hgap : ([0xff, 0, 0, 1] : Bytes).length < 2 ^ 29 := by decide
  have hlong : (List.replicate 32 0xff : Bytes).length < 2 ^ 29 := by decide
  exact ⟨hshort, ((prefixLength?_exact hshort).2.1 23).mpr ⟨by decide, 9, by decide⟩,
    (prefixLength?_exact hgap).2.2.mpr (Or.inl (by decide)),
    (prefixLength?_exact hlong).2.2.mpr (Or.inr (by decide +kernel))⟩

/-! ## Writing and recognising -/

theorem hasPrefixLength_ofPrefix (width ones : Nat) :
    HasPrefixLength (ofPrefix width ones) (min ones (8 * width)) :=
  ⟨_, bits_ofPrefix width ones⟩

theorem hasPrefixLength_ofPrefix_of_le {width : Nat} (h : n ≤ 8 * width) :
    HasPrefixLength (ofPrefix width n) n := by
  have hlength := hasPrefixLength_ofPrefix width n
  rwa [Nat.min_eq_left h] at hlength

theorem prefixLength?_le_255 (h : prefixLength? bytes = some n) : n ≤ 255 := by
  rw [prefixLength?_eq] at h
  split at h
  · exact (reportedLength?_eq_some_iff.mp h).2
  · simp only at h
    split at h
    · exact (reportedLength?_eq_some_iff.mp h).2
    · cases h

/-- **Recognising and writing a prefix are inverse to each other**, in any number of octets.  A count
of ones is written as that many ones, or as many as there is room for, followed by zeros; and it is
recognised again.  Octets in which a length is found are those that the length is written as.

The last two parts are about counting on after a sum that does not fit the word, which takes 2 ^ 29
octets of ones.  A length that is recognised then is still no longer than the octets, but it is
written as others: as the same octets exactly if their octets of ones can be counted. -/
theorem prefixLength?_inverse_ofPrefix (width : Nat) :
    (∀ ones : UInt8,
      bits (Octets.ofPrefix width ones.toNat).toList =
        List.replicate (min ones.toNat (8 * width)) true ++
          List.replicate (8 * width - ones.toNat) false ∧
      prefixLength? (Octets.ofPrefix width ones.toNat).toList =
        some (min ones.toNat (8 * width)) ∧
      scan 0 (Octets.ofPrefix width ones.toNat).toList =
        .ok (some (min ones.toNat (8 * width)))) ∧
    (∀ (octets : Octets width) (n : Nat), scan 0 octets.toList = .ok (some n) →
      n ≤ 8 * width ∧ Octets.ofPrefix width n = octets) ∧
    (∀ (octets : Octets width) (n : Nat), prefixLength? octets.toList = some n →
      n ≤ 8 * width ∧ (Octets.ofPrefix width n = octets ↔ OnesFit octets.toList)) ∧
    (∀ octets : Octets width, width < 2 ^ 29 → OnesFit octets.toList) := by
  refine ⟨fun ones => ?_, fun octets n h => ?_, fun octets n h => ?_, fun octets h => ?_⟩
  · have hlength := hasPrefixLength_ofPrefix width ones.toNat
    have hle : min ones.toNat (8 * width) ≤ 255 := by
      have hlt : ones.toNat < 256 := ones.toNat_lt
      omega
    rw [Octets.toList_ofPrefix]
    exact ⟨bits_ofPrefix width ones.toNat, prefixLength?_of_hasPrefixLength hle hlength,
      scan_eq_ok_some_iff.mpr ⟨hle, hlength⟩⟩
  · exact (scan_eq_ok_some_iff.mp h).2.octets
  · have hle := prefixLength?_le h
    rw [Vector.length_toList] at hle
    refine ⟨hle, ?_, fun hfit => (hfit.prefixLength?_eq_some_iff.mp h).2.octets.2⟩
    rintro rfl
    have hlength := hasPrefixLength_ofPrefix width n
    rw [Nat.min_eq_left hle] at hlength
    exact hlength.onesFit (prefixLength?_le_255 h)
  · exact onesFit_of_length (Vector.length_toList ▸ h)

/-- More ones than four octets have room for, and ones that end inside the third of four octets. -/
theorem prefixLength?_inverse_ofPrefix_of_four :
    prefixLength? (Octets.ofPrefix 4 200).toList = some 32 ∧
      scan 0 (#v[0xff, 0xff, 0xfe, 0] : Octets 4).toList = .ok (some 23) ∧
      Octets.ofPrefix 4 23 = #v[0xff, 0xff, 0xfe, 0] ∧
      prefixLength? (#v[0xff, 0xff, 0xfe, 0] : Octets 4).toList = some 23 ∧ 23 ≤ 8 * 4 ∧
      OnesFit (#v[0xff, 0xff, 0xfe, 0] : Octets 4).toList := by
  obtain ⟨hwrite, hread, hcut, hfit⟩ := prefixLength?_inverse_ofPrefix 4
  have hscan : scan 0 (#v[0xff, 0xff, 0xfe, 0] : Octets 4).toList = .ok (some 23) := by decide
  have hfound : prefixLength? (#v[0xff, 0xff, 0xfe, 0] : Octets 4).toList = some 23 := by decide
  exact ⟨(hwrite 200).2.1, hscan, (hread _ _ hscan).2, hfound, (hcut _ _ hfound).1,
    hfit _ (by decide)⟩

/-- The length that is recognised in 2 ^ 29 octets of ones is written as octets of zeros. -/
theorem ofPrefix_ne_two_pow_29_ones :
    prefixLength? (Vector.replicate (2 ^ 29) 0xff : Octets (2 ^ 29)).toList = some 0 ∧
      Octets.ofPrefix (2 ^ 29) 0 ≠ Vector.replicate (2 ^ 29) 0xff := by
  constructor
  · rw [Vector.toList_replicate, prefixLength?_replicate_ones]
    rfl
  · intro h
    have hlength := hasPrefixLength_ofPrefix_of_le (Nat.zero_le (8 * 2 ^ 29))
    rw [← Octets.toList_ofPrefix, h, Vector.toList_replicate, hasPrefixLength_replicate_ones]
      at hlength
    exact absurd hlength (by decide)

end Bytes

end AddressMask
