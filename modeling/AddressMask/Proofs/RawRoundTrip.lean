import AddressMask.Proofs.PrefixScan
import AddressMask.Proofs.SameBits

/-!
# Raw octets and addresses, read and given back

A mask can be laid over an address, as four or sixteen octets, and be read from them again.  For IPv4
that is no more than keeping the octets.  An IPv6 mask keeps only its length: its octets are written
from the length, and a length is recognised in octets that are read.  So everything rests on these
two being inverse to each other, and on sixteen octets having either a length or a gap
(`ofIPv6_eq_ipv6_iff`, `ofIPv6_eq_invalid_iff`).

`RawReading` says what a byte string comes to, one constructor for each kind, and `ofBytes?_eq_iff`
that this is what is read.  The kinds show where the two directions differ.  A mask that can be made
is read back from its octets unless it is the invalid one, which has none.  A byte string is given
back by its mask unless it has a gap: then there is nothing to give back, although it was read.
-/

namespace AddressMask.Mask

open Bytes (HasPrefixLength HasGap)

/-! ## Sixteen octets -/

/-- A gap leaves no mask. -/
theorem ofIPv6_of_hasGap {octets : Octets 16} (h : HasGap octets.toList) :
    ofIPv6 octets = .invalid := by
  have hshort : octets.toList.length < 2 ^ 29 := by
    rw [Vector.length_toList]
    decide
  have hnone : Bytes.prefixLength? octets.toList = none :=
    (Bytes.onesFit_of_length hshort).prefixLength?_eq_none_iff.mpr (Or.inl h)
  unfold ofIPv6 readIPv6
  rw [hnone]
  rfl

theorem ofIPv6_eq_invalid_iff {octets : Octets 16} :
    ofIPv6 octets = .invalid ↔ HasGap octets.toList := by
  refine ⟨fun h => ?_, ofIPv6_of_hasGap⟩
  by_contra hgap
  obtain ⟨n, hn⟩ := Bytes.not_hasGap_iff.mp hgap
  rw [(ofIPv6_of_hasPrefixLength hn).2] at h
  cases h

theorem ofIPv6_eq_ipv6_iff {octets : Octets 16} {length : UInt8} :
    ofIPv6 octets = .ipv6 length ↔ HasPrefixLength octets.toList length.toNat := by
  constructor
  · intro h
    have hgap : ¬ HasGap octets.toList := fun hgap => by
      rw [ofIPv6_of_hasGap hgap] at h
      cases h
    obtain ⟨n, hn⟩ := Bytes.not_hasGap_iff.mp hgap
    obtain ⟨hle, hmask⟩ := ofIPv6_of_hasPrefixLength hn
    rw [hmask] at h
    cases h
    rwa [UInt8.toNat_ofNat_of_lt' (Nat.lt_of_le_of_lt hle (by decide))]
  · intro h
    rw [(ofIPv6_of_hasPrefixLength h).2, UInt8.ofNat_toNat]

/-- A mask of sixteen octets has the length that is recognised in them. -/
theorem prefixLength?_ofIPv6 (octets : Octets 16) :
    (ofIPv6 octets).prefixLength? = Bytes.prefixLength? octets.toList := by
  cases hfound : Bytes.prefixLength? octets.toList with
  | none =>
    unfold ofIPv6 readIPv6
    rw [hfound]
    rfl
  | some n =>
    have hle := Bytes.prefixLength?_le_255 hfound
    unfold ofIPv6 readIPv6
    rw [hfound]
    exact congrArg some (UInt8.toNat_ofNat_of_lt' (Nat.lt_succ_of_le hle))

/-- The octets written for a length are read as that length. -/
theorem ofIPv6_ofPrefix {length : UInt8} (h : length ≤ 128) :
    ofIPv6 (.ofPrefix 16 length.toNat) = .ipv6 length := by
  have hle : length.toNat ≤ 8 * 16 := UInt8.le_iff_toNat_le.mp h
  exact ofIPv6_eq_ipv6_iff.mpr (Bytes.hasPrefixLength_ofPrefix_of_le hle)

/-- Octets that are read as a length are written for it. -/
theorem ofPrefix_of_ofIPv6 {octets : Octets 16} {length : UInt8}
    (h : ofIPv6 octets = .ipv6 length) : Octets.ofPrefix 16 length.toNat = octets :=
  (ofIPv6_eq_ipv6_iff.mp h).octets.2

/-! ## What a byte string comes to -/

/-- What a byte string comes to, by the number of its octets and by its bits. -/
inductive RawReading (bytes : Bytes) : Option Mask → Prop
  /-- Four octets are an IPv4 mask. -/
  | four {octets : Octets 4} (hoctets : octets.toList = bytes) :
      RawReading bytes (some (.ipv4 octets))
  /-- Sixteen octets are the IPv6 mask of their length … -/
  | sixteen {octets : Octets 16} {length : UInt8} (hoctets : octets.toList = bytes)
      (hlength : HasPrefixLength bytes length.toNat) : RawReading bytes (some (.ipv6 length))
  /-- … unless they are no prefix. -/
  | gap {octets : Octets 16} (hoctets : octets.toList = bytes) (hgap : HasGap bytes) :
      RawReading bytes (some .invalid)
  /-- No address has any other number of octets. -/
  | otherSize (hfour : bytes.length ≠ 4) (hsixteen : bytes.length ≠ 16) : RawReading bytes none

theorem ofBytes?_of_rawReading {bytes : Bytes} {r : Option Mask} (h : RawReading bytes r) :
    ofBytes? bytes = r := by
  cases h with
  | four hoctets => rw [← hoctets, ofBytes?_toList_ipv4]
  | sixteen hoctets hlength =>
    subst hoctets
    rw [ofBytes?_toList_ipv6, ofIPv6_eq_ipv6_iff.mpr hlength]
  | gap hoctets hgap =>
    subst hoctets
    rw [ofBytes?_toList_ipv6, ofIPv6_of_hasGap hgap]
  | otherSize hfour hsixteen =>
    rw [ofBytes?, readBytes?, Octets.ofBytes?_of_length_ne hfour,
      Octets.ofBytes?_of_length_ne hsixteen]
    rfl

theorem exists_rawReading (bytes : Bytes) : ∃ r, RawReading bytes r := by
  by_cases hfour : bytes.length = 4
  · obtain ⟨octets, h⟩ := Octets.exists_of_length hfour
    exact ⟨_, .four h⟩
  · by_cases hsixteen : bytes.length = 16
    · obtain ⟨octets, h⟩ := Octets.exists_of_length hsixteen
      by_cases hgap : HasGap bytes
      · exact ⟨_, .gap h hgap⟩
      · obtain ⟨n, hn⟩ := Bytes.not_hasGap_iff.mp hgap
        have hle := hn.le
        have hword : (UInt8.ofNat n).toNat = n :=
          UInt8.toNat_ofNat_of_lt' (by show n < 256; omega)
        exact ⟨some (.ipv6 (UInt8.ofNat n)), .sixteen h (hword.symm ▸ hn)⟩
    · exact ⟨_, .otherSize hfour hsixteen⟩

/-- What is read from a byte string is what it comes to. -/
theorem ofBytes?_eq_iff {bytes : Bytes} {r : Option Mask} :
    ofBytes? bytes = r ↔ RawReading bytes r := by
  refine ⟨fun h => ?_, ofBytes?_of_rawReading⟩
  obtain ⟨r', hr'⟩ := exists_rawReading bytes
  rw [← h, ofBytes?_of_rawReading hr']
  exact hr'

/-! ## Giving octets, then reading them -/

theorem ofBytes?_toBytes {m : Mask} (h : m.WellFormed) (hvalid : m.isValid = true) :
    ofBytes? m.toBytes = some m := by
  cases m with
  | invalid => cases hvalid
  | ipv4 octets => exact ofBytes?_toList_ipv4 octets
  | ipv6 length =>
    rw [toBytes_ipv6, ← Octets.toList_ofPrefix, ofBytes?_toList_ipv6, ofIPv6_ofPrefix h]

theorem ofAddress_toAddress? {m : Mask} (h : m.WellFormed) (hvalid : m.isValid = true) :
    m.toAddress?.map ofAddress = some m := by
  cases m with
  | invalid => cases hvalid
  | ipv4 octets => rfl
  | ipv6 length =>
    show some (ofIPv6 (.ofPrefix 16 length.toNat)) = _
    rw [ofIPv6_ofPrefix h]

/-! ## Reading octets, then giving them back -/

theorem ofBytes?_eq_none_iff {bytes : Bytes} :
    ofBytes? bytes = none ↔ bytes.length ≠ 4 ∧ bytes.length ≠ 16 := by
  rw [ofBytes?_eq_iff]
  constructor
  · intro h
    cases h with
    | otherSize hfour hsixteen => exact ⟨hfour, hsixteen⟩
  · rintro ⟨hfour, hsixteen⟩
    exact .otherSize hfour hsixteen

theorem ofBytes?_eq_invalid_iff {bytes : Bytes} :
    ofBytes? bytes = some .invalid ↔ bytes.length = 16 ∧ HasGap bytes := by
  rw [ofBytes?_eq_iff]
  constructor
  · intro h
    cases h with
    | gap hoctets hgap => exact ⟨by rw [← hoctets, Vector.length_toList], hgap⟩
  · rintro ⟨hlength, hgap⟩
    obtain ⟨octets, h⟩ := Octets.exists_of_length hlength
    exact .gap h hgap

theorem toBytes_of_ofBytes? {bytes : Bytes} {m : Mask} (h : ofBytes? bytes = some m)
    (hvalid : m.isValid = true) : m.toBytes = bytes := by
  cases ofBytes?_eq_iff.mp h with
  | four hoctets => exact hoctets
  | sixteen hoctets hlength =>
    subst hoctets
    rw [toBytes_ipv6, ← Octets.toList_ofPrefix, ofPrefix_of_ofIPv6 (ofIPv6_eq_ipv6_iff.mpr hlength)]
  | gap hoctets hgap => cases hvalid

/-- An IPv6 address comes back if its bits are a prefix. -/
theorem toAddress?_ofAddress_ipv6 {octets : Octets 16} {n : Nat}
    (h : HasPrefixLength octets.toList n) :
    (ofAddress (.ipv6 octets)).toAddress? = some (.ipv6 octets) := by
  have hmask := (ofIPv6_of_hasPrefixLength h).2
  rw [ofAddress_ipv6, hmask]
  show some (Address.ipv6 (Octets.ofPrefix 16 (UInt8.ofNat n).toNat)) = _
  rw [ofPrefix_of_ofIPv6 hmask]

/-- **Octets and addresses are given and read back without loss.**  A valid mask that can be made is
the mask of its octets and of its address; the invalid mask has neither, and no octets are no mask.
A byte string is read exactly if it has four or sixteen octets; it is what its mask gives if that is
valid, and its mask is invalid exactly if it has sixteen octets and a one comes after a zero in them.
An address is what its mask gives if it is one of IPv4 or if its bits are a prefix, and otherwise its
mask gives none. -/
theorem raw_octets_exact :
    (∀ m : Mask, m.Constructible →
      (m.isValid = true → ofBytes? m.toBytes = some m ∧ m.toAddress?.map ofAddress = some m) ∧
      (m.isValid = false →
        m.toBytes = [] ∧ ofBytes? m.toBytes = none ∧ m.toAddress? = none)) ∧
    (∀ bytes : Bytes,
      (ofBytes? bytes = none ↔ bytes.length ≠ 4 ∧ bytes.length ≠ 16) ∧
      (∀ m, ofBytes? bytes = some m → m.isValid = true → m.toBytes = bytes) ∧
      (ofBytes? bytes = some .invalid ↔ bytes.length = 16 ∧ HasGap bytes)) ∧
    (∀ octets : Octets 4,
      (ofAddress (.ipv4 octets)).toAddress? = some (.ipv4 octets)) ∧
    (∀ octets : Octets 16,
      ((∃ n, HasPrefixLength octets.toList n) →
        (ofAddress (.ipv6 octets)).toAddress? = some (.ipv6 octets)) ∧
      ((¬ ∃ n, HasPrefixLength octets.toList n) →
        (ofAddress (.ipv6 octets)).toAddress? = none)) := by
  refine ⟨fun m hm => ⟨fun hvalid => ?_, fun hinvalid => ?_⟩,
    fun bytes => ⟨ofBytes?_eq_none_iff, fun m => toBytes_of_ofBytes?, ofBytes?_eq_invalid_iff⟩,
    fun octets => rfl, fun octets => ⟨?_, fun hnone => ?_⟩⟩
  · exact ⟨ofBytes?_toBytes hm.wellFormed hvalid, ofAddress_toAddress? hm.wellFormed hvalid⟩
  · rw [isValid_eq_false_iff.mp hinvalid]
    exact ⟨rfl, ofBytes?_eq_none_iff.mpr ⟨nofun, nofun⟩, rfl⟩
  · rintro ⟨n, hn⟩
    exact toAddress?_ofAddress_ipv6 hn
  · have hgap : HasGap octets.toList := not_not.mp fun h => hnone (Bytes.not_hasGap_iff.mp h)
    rw [ofAddress_ipv6, ofIPv6_of_hasGap hgap]
    rfl

/-- The mask of 67 ones, and sixteen octets in each of which a one comes after zeros. -/
theorem raw_octets_exact_of_sixty_seven :
    (Mask.ipv6 67).Constructible ∧ ofBytes? (Mask.ipv6 67).toBytes = some (.ipv6 67) ∧
      (Mask.ipv6 67).toAddress?.map ofAddress = some (.ipv6 67) ∧
      ofBytes? (List.replicate 16 1) = some .invalid ∧
      (ofAddress (.ipv6 (.ofPrefix 16 67))).toAddress? = some (.ipv6 (.ofPrefix 16 67)) := by
  have hmade : (Mask.ipv6 67).Constructible := constructible_iff.mpr (by decide)
  obtain ⟨hmasks, hbytes, -, haddresses⟩ := raw_octets_exact
  obtain ⟨hread, haddress⟩ := (hmasks _ hmade).1 rfl
  obtain ⟨-, -, hgap⟩ := hbytes (List.replicate 16 1)
  exact ⟨hmade, hread, haddress, hgap.mpr ⟨by decide, by decide +kernel⟩,
    (haddresses (.ofPrefix 16 67)).1 ⟨67, Bytes.hasPrefixLength_ofPrefix 16 67⟩⟩

end AddressMask.Mask
