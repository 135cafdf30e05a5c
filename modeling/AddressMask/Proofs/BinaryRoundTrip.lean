import AddressMask.Proofs.Constructible

/-!
# The byte form, written and read back

There is no tag in a byte form: the number of octets alone tells the family, and a byte string of
any other length is refused.  `BinaryReading` says what a byte string comes to, one constructor for
each length, and `ofBinary_eq_iff` that this is what is read.

Every form but one is the only one of its mask.  A single octet has room for lengths that no address
has, and those are read as the invalid mask, which is written as no octets at all.  So reading and
writing again gives the octets back unless they are such a length (`IsLongLength`), and writing and
reading again gives the mask back because the masks that can be made have no such length
(`Constructible.wellFormed`).
-/

namespace AddressMask.Mask

/-! ## What a byte string comes to -/

/-- A single octet above 128, which is the length of no IPv6 prefix. -/
def IsLongLength (bytes : Bytes) : Prop := ∃ length : UInt8, bytes = [length] ∧ 128 < length

/-- What a byte string comes to, by the number of its octets. -/
inductive BinaryReading (bytes : Bytes) : Except DecodeError Mask → Prop
  /-- No octets are the invalid mask. -/
  | empty (h : bytes = []) : BinaryReading bytes (.ok .invalid)
  /-- One octet is the length of an IPv6 mask … -/
  | length {n : UInt8} (h : bytes = [n]) (hle : n ≤ 128) : BinaryReading bytes (.ok (.ipv6 n))
  /-- … unless no address is that long. -/
  | longLength (h : IsLongLength bytes) : BinaryReading bytes (.ok .invalid)
  /-- Four octets are an IPv4 mask. -/
  | four {octets : Octets 4} (h : bytes = octets.toList) : BinaryReading bytes (.ok (.ipv4 octets))
  /-- No form has any other number of octets. -/
  | otherSize (hzero : bytes.length ≠ 0) (hone : bytes.length ≠ 1) (hfour : bytes.length ≠ 4) :
      BinaryReading bytes (.error (.unexpectedSize bytes.length))

theorem ofBinary_singleton (n : UInt8) :
    ofBinary [n] = .ok (if n ≤ 128 then .ipv6 n else .invalid) := by
  have hle : n ≤ 128 ↔ n.toNat ≤ 128 := UInt8.le_iff_toNat_le
  show Except.ok (ofPrefix (n.toNat : Int) 128) = _
  rw [ofPrefix_natCast_128, UInt8.ofNat_toNat]
  exact congrArg Except.ok (if_congr hle.symm rfl rfl)

@[simp] theorem ofBinary_toList (octets : Octets 4) :
    ofBinary octets.toList = .ok (.ipv4 octets) := by
  obtain ⟨a, b, c, d, rfl⟩ := octets.exists_four
  rfl

theorem ofBinary_of_length {bytes : Bytes} (hzero : bytes.length ≠ 0) (hone : bytes.length ≠ 1)
    (hfour : bytes.length ≠ 4) : ofBinary bytes = .error (.unexpectedSize bytes.length) := by
  unfold ofBinary readBinary
  split
  · exact absurd rfl hzero
  · exact absurd rfl hone
  · exact absurd rfl hfour
  · rfl

theorem ofBinary_of_binaryReading {bytes : Bytes} {r : Except DecodeError Mask}
    (h : BinaryReading bytes r) : ofBinary bytes = r := by
  cases h with
  | empty h => rw [h]; rfl
  | length h hle => rw [h, ofBinary_singleton, if_pos hle]
  | longLength h =>
    obtain ⟨n, rfl, hlt⟩ := h
    rw [ofBinary_singleton, if_neg (UInt8.not_le.mpr hlt)]
  | four h => rw [h, ofBinary_toList]
  | otherSize hzero hone hfour => exact ofBinary_of_length hzero hone hfour

theorem binaryReading_ofBinary (bytes : Bytes) : BinaryReading bytes (ofBinary bytes) := by
  match bytes with
  | [] => exact .empty rfl
  | [n] =>
    rw [ofBinary_singleton]
    by_cases hle : n ≤ 128
    · rw [if_pos hle]
      exact .length rfl hle
    · rw [if_neg hle]
      exact .longLength ⟨n, rfl, UInt8.not_le.mp hle⟩
  | [a, b, c, d] => exact .four (Octets.toList_four a b c d).symm
  | [_, _] | [_, _, _] | _ :: _ :: _ :: _ :: _ :: _ =>
    rw [ofBinary_of_length (by simp) (by simp) (by simp)]
    exact .otherSize (by simp) (by simp) (by simp)

/-- What is read from a byte string is what it comes to by the number of its octets. -/
theorem ofBinary_eq_iff {bytes : Bytes} {r : Except DecodeError Mask} :
    ofBinary bytes = r ↔ BinaryReading bytes r := by
  constructor
  · rintro rfl
    exact binaryReading_ofBinary bytes
  · exact ofBinary_of_binaryReading

/-! ## Writing, then reading -/

theorem binaryReading_toBinary {m : Mask} (h : m.WellFormed) :
    BinaryReading m.toBinary (.ok m) := by
  cases m with
  | invalid => exact .empty rfl
  | ipv4 octets => exact .four rfl
  | ipv6 length => exact .length rfl h

theorem ofBinary_toBinary {m : Mask} (h : m.Constructible) : ofBinary m.toBinary = .ok m :=
  ofBinary_of_binaryReading (binaryReading_toBinary h.wellFormed)

/-! ## Reading, then writing -/

/-- Refused are the byte strings of a length that no form has, and for that reason. -/
theorem ofBinary_eq_error_iff {bytes : Bytes} {cause : DecodeError} :
    ofBinary bytes = .error cause ↔
      (bytes.length ≠ 0 ∧ bytes.length ≠ 1 ∧ bytes.length ≠ 4) ∧
        cause = .unexpectedSize bytes.length := by
  constructor
  · intro h
    cases ofBinary_eq_iff.mp h with
    | otherSize hzero hone hfour => exact ⟨⟨hzero, hone, hfour⟩, rfl⟩
  · rintro ⟨⟨hzero, hone, hfour⟩, rfl⟩
    exact ofBinary_of_length hzero hone hfour

/-- A byte string that is read is the written form of its mask, or a length of no address. -/
theorem toBinary_of_ofBinary {bytes : Bytes} {m : Mask} (h : ofBinary bytes = .ok m) :
    (¬ IsLongLength bytes ∧ m.toBinary = bytes) ∨ (IsLongLength bytes ∧ m = .invalid) := by
  have hlong : IsLongLength bytes → bytes.length = 1 := by
    rintro ⟨n, rfl, -⟩
    rfl
  cases ofBinary_eq_iff.mp h with
  | empty hb => exact Or.inl ⟨fun hl => absurd (hlong hl) (by simp [hb]), hb.symm⟩
  | length hb hle =>
    refine Or.inl ⟨?_, hb.symm⟩
    rintro ⟨n', hb', hlt⟩
    -- there is only one octet, and it is not above 128
    rw [hb] at hb'
    cases hb'
    exact UInt8.not_le.mpr hlt hle
  | longLength hl => exact Or.inr ⟨hl, rfl⟩
  | four hb => exact Or.inl ⟨fun hl => absurd (hlong hl) (by simp [hb]), hb.symm⟩

/-- **The byte form is exact in both directions.**  A mask that can be made is written with as many
octets as it says and is read back as it was.  A byte string is refused exactly if it has neither
none nor one nor four octets, with its length as the cause; and if it is read, the mask is written
as that byte string again, except exactly if it is a single octet above 128: then the mask is the
invalid one, of which nothing is written.  Distinct masks have distinct byte forms. -/
theorem toBinary_exact :
    (∀ m : Mask, m.Constructible →
      ofBinary m.toBinary = .ok m ∧ m.toBinary.length = m.binaryLength) ∧
    (∀ bytes : Bytes,
      ((∃ cause, ofBinary bytes = .error cause) ↔
        bytes.length ≠ 0 ∧ bytes.length ≠ 1 ∧ bytes.length ≠ 4) ∧
      (∀ cause, ofBinary bytes = .error cause → cause = .unexpectedSize bytes.length) ∧
      (∀ m, ofBinary bytes = .ok m →
        (m.toBinary = bytes ↔ ¬ IsLongLength bytes) ∧
        (IsLongLength bytes → m = .invalid ∧ m.toBinary = []))) ∧
    (∀ a b : Mask, a.toBinary = b.toBinary → a = b) := by
  refine ⟨fun m hm => ⟨ofBinary_toBinary hm, length_toBinary m⟩, fun bytes => ⟨?_, ?_, ?_⟩,
    fun a b => toBinary_injective⟩
  · constructor
    · rintro ⟨cause, h⟩
      exact (ofBinary_eq_error_iff.mp h).1
    · intro h
      exact ⟨_, ofBinary_eq_error_iff.mpr ⟨h, rfl⟩⟩
  · intro cause h
    exact (ofBinary_eq_error_iff.mp h).2
  · intro m h
    rcases toBinary_of_ofBinary h with ⟨hshort, hm⟩ | ⟨hlong, rfl⟩
    · exact ⟨iff_of_true hm hshort, fun hlong => absurd hlong hshort⟩
    · refine ⟨iff_of_false ?_ (not_not_intro hlong), fun _ => ⟨rfl, rfl⟩⟩
      -- one octet is read, and none is written
      obtain ⟨n, rfl, -⟩ := hlong
      exact nofun

/-- The lossy corner, and an IPv4 mask that is no prefix. -/
theorem toBinary_exact_of_corner :
    ofBinary (toBinary (.ipv4 #v[0x55, 0, 0xaa, 1])) = .ok (.ipv4 #v[0x55, 0, 0xaa, 1]) ∧
      (Mask.invalid.toBinary = [129] ↔ ¬ IsLongLength [129]) ∧
      (Mask.ipv6 128).toBinary ≠ (Mask.ipv6 64).toBinary :=
  ⟨(toBinary_exact.1 _ (.ipv4 _)).1, ((toBinary_exact.2.1 [129]).2.2 .invalid rfl).1,
    fun h => absurd (toBinary_exact.2.2 _ _ h) (by decide)⟩

end AddressMask.Mask
