import AddressMask.Proofs.WholeWord

/-!
# Counts of ones, made into masks and reported

A mask can be asked for by a count of ones and a number of bits, and a mask reports a count of its
own.  Both go through an octet.  Asking cuts the count down to one, but only after both numbers have
been tested, so nothing is lost (`ofPrefix_cases`): a count that is in range is written into the
octets of its family, and any other one gives the invalid mask.

Reporting has a number for "none" as well, -1, and that is no count in either family.  So a mask that
reports it and is asked for again is the invalid one (`ofPrefix_neg_one`), whatever it was before, and
a mask that reports a count comes back in its own family alone: the same count in the other one is
another mask.
-/

namespace AddressMask.Mask

open Bytes (HasPrefixLength)

variable {ones total : Int} {n : Nat}

/-! ## Asking for a count -/

/-- A number of bits that an address has, and a count of ones that it has room for. -/
def InRange (ones total : Int) : Prop := (total = 32 ∨ total = 128) ∧ 0 ≤ ones ∧ ones ≤ total

theorem ofPrefix_natCast_32 (h : n ≤ 32) : ofPrefix n 32 = .ipv4 (.ofPrefix 4 n) := by
  have hlength : HasPrefixLength (Octets.ofPrefix 4 n).toList n :=
    Bytes.hasPrefixLength_ofPrefix_of_le h
  exact ofPrefix_32 hlength

theorem ofPrefix_of_not_inRange (h : ¬ InRange ones total) : ofPrefix ones total = .invalid := by
  unfold ofPrefix
  split
  · rename_i hcount
    have htotal : ¬ (total = 32 ∨ total = 128) := fun htotal => h ⟨htotal, hcount⟩
    simp only
    rw [if_neg fun h32 => htotal (Or.inl h32), if_neg fun h128 => htotal (Or.inr h128)]
  · rfl

/-- **What comes of asking for a count**: the octets of four or of sixteen in which it is written, or
no mask. -/
theorem ofPrefix_cases (ones total : Int) :
    (∃ n : Nat, n ≤ 32 ∧ ones = n ∧ total = 32 ∧
      ofPrefix ones total = .ipv4 (.ofPrefix 4 n)) ∨
    (∃ n : Nat, n ≤ 128 ∧ ones = n ∧ total = 128 ∧
      ofPrefix ones total = .ipv6 (UInt8.ofNat n)) ∨
    (¬ InRange ones total ∧ ofPrefix ones total = .invalid) := by
  by_cases h : InRange ones total
  · obtain ⟨htotal, hpos, hle⟩ := h
    obtain ⟨n, rfl⟩ := Int.eq_ofNat_of_zero_le hpos
    rcases htotal with rfl | rfl
    · have hn : n ≤ 32 := by omega
      exact Or.inl ⟨n, hn, rfl, rfl, ofPrefix_natCast_32 hn⟩
    · have hn : n ≤ 128 := by omega
      refine Or.inr (Or.inl ⟨n, hn, rfl, rfl, ?_⟩)
      rw [ofPrefix_natCast_128, if_pos hn]
  · exact Or.inr (Or.inr ⟨h, ofPrefix_of_not_inRange h⟩)

theorem inRange_32 (h : n ≤ 32) : InRange n 32 := ⟨Or.inl rfl, by omega, by omega⟩

theorem inRange_128 (h : n ≤ 128) : InRange n 128 := ⟨Or.inr rfl, by omega, by omega⟩

theorem isValid_ofPrefix_iff : (ofPrefix ones total).isValid = true ↔ InRange ones total := by
  obtain ⟨n, hn, rfl, rfl, hmask⟩ | ⟨n, hn, rfl, rfl, hmask⟩ | ⟨hrange, hmask⟩ :=
    ofPrefix_cases ones total
  · rw [hmask]
    exact iff_of_true rfl (inRange_32 hn)
  · rw [hmask]
    exact iff_of_true rfl (inRange_128 hn)
  · rw [hmask]
    exact iff_of_false nofun hrange

theorem isIPv4_ofPrefix_iff :
    (ofPrefix ones total).isIPv4 = true ↔ InRange ones total ∧ total = 32 := by
  obtain ⟨n, hn, rfl, rfl, hmask⟩ | ⟨n, -, rfl, rfl, hmask⟩ | ⟨hrange, hmask⟩ :=
    ofPrefix_cases ones total
  · rw [hmask]
    exact iff_of_true rfl ⟨inRange_32 hn, rfl⟩
  · rw [hmask]
    exact iff_of_false nofun fun h => absurd h.2 (by decide)
  · rw [hmask]
    exact iff_of_false nofun fun h => hrange h.1

theorem isIPv6_ofPrefix_iff :
    (ofPrefix ones total).isIPv6 = true ↔ InRange ones total ∧ total = 128 := by
  obtain ⟨n, -, rfl, rfl, hmask⟩ | ⟨n, hn, rfl, rfl, hmask⟩ | ⟨hrange, hmask⟩ :=
    ofPrefix_cases ones total
  · rw [hmask]
    exact iff_of_false nofun fun h => absurd h.2 (by decide)
  · rw [hmask]
    exact iff_of_true rfl ⟨inRange_128 hn, rfl⟩
  · rw [hmask]
    exact iff_of_false nofun fun h => hrange h.1

/-! ## Reporting a count -/

/-- Four octets report their length if they are a prefix, and none otherwise. -/
theorem bits_ipv4_cases (octets : Octets 4) :
    (∃ n : Nat, HasPrefixLength octets.toList n ∧ (Mask.ipv4 octets).bits = n) ∨
    ((¬ ∃ n, HasPrefixLength octets.toList n) ∧ (Mask.ipv4 octets).bits = -1) := by
  by_cases h : ∃ n, HasPrefixLength octets.toList n
  · obtain ⟨n, hn⟩ := h
    refine Or.inl ⟨n, hn, bits_eq_natCast_iff.mpr ?_⟩
    exact (Bytes.prefixLength?_toList_eq_some_iff (by decide)).mpr hn
  · refine Or.inr ⟨h, bits_eq_neg_one_iff.mpr (Option.eq_none_iff_forall_ne_some.mpr ?_)⟩
    intro n hn
    exact h ⟨n, (Bytes.prefixLength?_toList_eq_some_iff (by decide)).mp hn⟩

/-- **A count that is asked for is reported.** -/
theorem bits_ofPrefix (h : InRange ones total) : (ofPrefix ones total).bits = ones := by
  obtain ⟨n, hn, rfl, rfl, hmask⟩ | ⟨n, hn, rfl, rfl, hmask⟩ | ⟨hrange, -⟩ :=
    ofPrefix_cases ones total
  · rw [hmask, bits_eq_natCast_iff, prefixLength?_ipv4,
      Bytes.prefixLength?_toList_eq_some_iff (by decide)]
    exact Bytes.hasPrefixLength_ofPrefix_of_le hn
  · rw [hmask, bits_ipv6, UInt8.toNat_ofNat_of_lt' (Nat.lt_of_le_of_lt hn (by decide))]
  · exact absurd h hrange

theorem toBytes_ofPrefix (h : InRange ones total) :
    (ofPrefix ones total).toBytes = Bytes.ofPrefix (total / 8).toNat ones.toNat := by
  obtain ⟨n, hn, rfl, rfl, hmask⟩ | ⟨n, hn, rfl, rfl, hmask⟩ | ⟨hrange, -⟩ :=
    ofPrefix_cases ones total
  · rw [hmask]
    rfl
  · rw [hmask, toBytes_ipv6, UInt8.toNat_ofNat_of_lt' (Nat.lt_of_le_of_lt hn (by decide))]
    rfl
  · exact absurd h hrange

/-- The ones stand in front of the zeros, and together they are as many as were asked for. -/
theorem bits_toBytes_ofPrefix (h : InRange ones total) :
    Bytes.bits (ofPrefix ones total).toBytes =
      List.replicate ones.toNat true ++ List.replicate (total - ones).toNat false := by
  obtain ⟨htotal, hpos, hle⟩ := h
  have hwidth : 8 * (total / 8).toNat = total.toNat := by
    rcases htotal with rfl | rfl
    · rfl
    · rfl
  have hzeros : total.toNat - ones.toNat = (total - ones).toNat := by omega
  rw [toBytes_ofPrefix ⟨htotal, hpos, hle⟩, Bytes.bits_ofPrefix, hwidth, hzeros,
    Nat.min_eq_left (by omega)]

/-! ## Asking for what is reported -/

/-- No mask has less than no ones. -/
theorem ofPrefix_neg_one (total : Int) : ofPrefix (-1) total = .invalid :=
  ofPrefix_of_not_inRange fun h => absurd h.2.1 (by decide)

/-- In 32 bits the IPv4 prefixes come back, and the invalid mask. -/
theorem ofPrefix_bits_32_eq_iff {m : Mask} :
    ofPrefix m.bits 32 = m ↔
      m = .invalid ∨ (m.isIPv4 = true ∧ ∃ n, HasPrefixLength m.toBytes n) := by
  cases m with
  | invalid => exact iff_of_true (ofPrefix_neg_one 32) (Or.inl rfl)
  | ipv4 octets =>
    obtain ⟨n, hn, hbits⟩ | ⟨hnone, hbits⟩ := bits_ipv4_cases octets
    · rw [hbits]
      exact iff_of_true (ofPrefix_32 hn) (Or.inr ⟨rfl, n, hn⟩)
    · rw [hbits, ofPrefix_neg_one]
      exact iff_of_false nofun fun h => hnone (h.resolve_left nofun).2
  | ipv6 length =>
    refine iff_of_false (fun h => ?_) fun h => nomatch (h.resolve_left nofun).1
    exact absurd (isIPv6_ofPrefix_iff.mp (congrArg isIPv6 h)).2 (by decide)

/-- In 128 bits the IPv6 masks come back that can be made, and the invalid mask. -/
theorem ofPrefix_bits_128_eq_iff {m : Mask} (h : m.WellFormed) :
    ofPrefix m.bits 128 = m ↔ m = .invalid ∨ m.isIPv6 = true := by
  cases m with
  | invalid => exact iff_of_true (ofPrefix_neg_one 128) (Or.inl rfl)
  | ipv4 octets =>
    refine iff_of_false (fun h => ?_) fun h => nomatch h.resolve_left nofun
    exact absurd (isIPv4_ofPrefix_iff.mp (congrArg isIPv4 h)).2 (by decide)
  | ipv6 length =>
    have hle : length.toNat ≤ 128 := UInt8.le_iff_toNat_le.mp h
    refine iff_of_true ?_ (Or.inr rfl)
    rw [bits_ipv6, ofPrefix_natCast_128, if_pos hle, UInt8.ofNat_toNat]

/-- Four octets that are no prefix come to no mask in either number of bits. -/
theorem ofPrefix_bits_of_no_length {m : Mask} (hfour : m.isIPv4 = true)
    (hnone : ¬ ∃ n, HasPrefixLength m.toBytes n) (total : Int) :
    ofPrefix m.bits total = .invalid := by
  cases m with
  | ipv4 octets =>
    obtain ⟨n, hn, -⟩ | ⟨-, hbits⟩ := bits_ipv4_cases octets
    · exact absurd ⟨n, hn⟩ hnone
    · rw [hbits, ofPrefix_neg_one]
  | _ => cases hfour

/-- **Counts of ones are kept and reported.**  For any two numbers, however large or negative, there
is a mask of so many ones in so many bits exactly if the bits are 32 or 128 and the ones are between
none and all of them.  It is one of IPv4 for 32 bits and of IPv6 for 128; it reports the count; and
its octets are an eighth of the bits, with that many ones in front and only zeros after them.

A mask that can be made is the mask of the count it reports, in 32 bits exactly if it is invalid or an
IPv4 prefix, and in 128 bits exactly if it is invalid or one of IPv6.  An IPv4 mask that is no prefix
gives the invalid mask in both. -/
theorem count_kept_and_reported :
    (∀ ones total : Int,
      ((ofPrefix ones total).isValid = true ↔
        (total = 32 ∨ total = 128) ∧ 0 ≤ ones ∧ ones ≤ total) ∧
      ((ofPrefix ones total).isValid = true →
        ((ofPrefix ones total).isIPv4 = true ↔ total = 32) ∧
        ((ofPrefix ones total).isIPv6 = true ↔ total = 128) ∧
        (ofPrefix ones total).bits = ones ∧
        ((ofPrefix ones total).toBytes.length : Int) = total / 8 ∧
        Bytes.bits (ofPrefix ones total).toBytes =
          List.replicate ones.toNat true ++ List.replicate (total - ones).toNat false)) ∧
    (∀ m : Mask, m.Constructible →
      (ofPrefix m.bits 32 = m ↔
        m = .invalid ∨ (m.isIPv4 = true ∧ ∃ n, HasPrefixLength m.toBytes n)) ∧
      (ofPrefix m.bits 128 = m ↔ m = .invalid ∨ m.isIPv6 = true) ∧
      (m.isIPv4 = true → (¬ ∃ n, HasPrefixLength m.toBytes n) →
        ofPrefix m.bits 32 = .invalid ∧ ofPrefix m.bits 128 = .invalid)) := by
  refine ⟨fun ones total => ⟨isValid_ofPrefix_iff, fun hvalid => ?_⟩, fun m hm => ⟨?_, ?_, ?_⟩⟩
  · have hrange := isValid_ofPrefix_iff.mp hvalid
    have hpos : 0 ≤ total := Int.le_trans hrange.2.1 hrange.2.2
    refine ⟨?_, ?_, bits_ofPrefix hrange, ?_, bits_toBytes_ofPrefix hrange⟩
    · rw [isIPv4_ofPrefix_iff, and_iff_right hrange]
    · rw [isIPv6_ofPrefix_iff, and_iff_right hrange]
    · rw [toBytes_ofPrefix hrange, Bytes.length_ofPrefix, Int.toNat_of_nonneg (by omega)]
  · exact ofPrefix_bits_32_eq_iff
  · exact ofPrefix_bits_128_eq_iff hm.wellFormed
  · intro hfour hnone
    exact ⟨ofPrefix_bits_of_no_length hfour hnone 32, ofPrefix_bits_of_no_length hfour hnone 128⟩

/-- Twenty ones in 32 bits, a length that comes back in 128 bits, and an alternating pattern that
comes back in neither. -/
theorem count_kept_and_reported_of_twenty :
    (ofPrefix 20 32).isValid = true ∧ (ofPrefix 20 32).bits = 20 ∧
      Bytes.bits (ofPrefix 20 32).toBytes = List.replicate 20 true ++ List.replicate 12 false ∧
      (Mask.ipv6 67).Constructible ∧ ofPrefix (Mask.ipv6 67).bits 128 = .ipv6 67 ∧
      (Mask.ipv4 #v[0x55, 0, 0, 0]).Constructible ∧
      ofPrefix (Mask.ipv4 #v[0x55, 0, 0, 0]).bits 32 = .invalid := by
  obtain ⟨hcounts, hmasks⟩ := count_kept_and_reported
  have hvalid : (ofPrefix 20 32).isValid = true := by decide
  obtain ⟨-, -, hbits, -, hones⟩ := (hcounts 20 32).2 hvalid
  have hmade : (Mask.ipv6 67).Constructible := constructible_iff.mpr (by decide)
  have hback := (hmasks _ hmade).2.1.mpr (Or.inr rfl)
  have hfour : (Mask.ipv4 #v[0x55, 0, 0, 0]).Constructible := .ipv4 _
  have hgap : Bytes.HasGap (Mask.ipv4 #v[0x55, 0, 0, 0]).toBytes := by decide
  have hnone := (hmasks _ hfour).2.2 rfl fun h => Bytes.not_hasGap_iff.mpr h hgap
  exact ⟨hvalid, hbits, hones, hmade, hback, hfour, hnone.1⟩

end AddressMask.Mask
