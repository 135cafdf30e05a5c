import AddressMask.Proofs.OctetOrder

/-!
# The views of a mask

A mask can be asked for its length, its octets, its address and its byte form, and every answer is
computed anew.  The families answer in opposite directions: an IPv4 mask keeps octets, in which its
length is recognised when it is asked for; an IPv6 mask keeps its length, for which octets are
written when they are asked for.  What makes the answers views of one mask is that a length is
recognised in the octets written for it (`prefixLength?_toBytes`).  The octets must have room for
it, so this is about masks that can be made.  And it is not about the invalid mask: it has no
octets, and in no octets there is a length, that of no ones.

There are two readers of octets as well, one for those that are laid over an address and one for
byte forms, and both go by the number of octets.  Four is the only number that they share, and four
octets are the same mask for both (`both_read_iff`).  So a mask that is written for one of them and
given to the other is read as it was or not at all.
-/

namespace AddressMask

/-- A prefix has as many ones as its length says. -/
theorem Bytes.HasPrefixLength.count_ones {bytes : Bytes} {n : Nat} (h : HasPrefixLength bytes n) :
    (bits bytes).count true = n := by
  obtain ⟨zeros, hbits⟩ := h
  have hnone : (List.replicate zeros false).count true = 0 :=
    List.count_eq_zero.mpr fun hmem => Bool.false_ne_true (List.eq_of_mem_replicate hmem).symm
  rw [hbits, List.count_append, List.count_replicate_self, hnone, Nat.add_zero]

namespace Mask

open Bytes (HasPrefixLength)

variable {m a b : Mask} {bytes : Bytes} {n : Nat}

theorem isIPv4_iff : m.isIPv4 = true ↔ ∃ octets, m = .ipv4 octets := by
  constructor
  · intro h
    cases m with
    | ipv4 octets => exact ⟨octets, rfl⟩
    | _ => cases h
  · rintro ⟨octets, rfl⟩
    rfl

theorem isIPv6_iff : m.isIPv6 = true ↔ ∃ length, m = .ipv6 length := by
  constructor
  · intro h
    cases m with
    | ipv6 length => exact ⟨length, rfl⟩
    | _ => cases h
  · rintro ⟨length, rfl⟩
    rfl

/-! ## The length and the octets -/

/-- The length that a mask reports is that of its octets. -/
theorem hasPrefixLength_toBytes (h : m.WellFormed) (hn : m.prefixLength? = some n) :
    HasPrefixLength m.toBytes n := by
  cases m with
  | invalid => cases hn
  | ipv4 octets => exact (Bytes.prefixLength?_toList_eq_some_iff (by decide)).mp hn
  | ipv6 length =>
    have hle : length.toNat ≤ 8 * 16 := UInt8.le_iff_toNat_le.mp h
    obtain rfl := Option.some.inj hn
    exact Bytes.hasPrefixLength_ofPrefix_of_le hle

/-- **The length that a mask reports is recognised in its octets**, and none if it reports none. -/
theorem prefixLength?_toBytes (h : m.WellFormed) (hvalid : m.isValid = true) :
    Bytes.prefixLength? m.toBytes = m.prefixLength? := by
  cases m with
  | invalid => cases hvalid
  | ipv4 octets => rfl
  | ipv6 length =>
    have hle : length.toNat ≤ 255 := Nat.le_of_lt_succ length.toNat_lt
    exact Bytes.prefixLength?_of_hasPrefixLength hle (hasPrefixLength_toBytes h rfl)

-- the invalid mask reports no length, although one is recognised in no octets
example : Mask.invalid.prefixLength? = none ∧
    Bytes.prefixLength? Mask.invalid.toBytes = some 0 := by decide

/-- The ones in the octets of a mask are as many as it reports. -/
theorem count_ones_toBytes (h : m.WellFormed) (hn : m.bits = n) :
    (Bytes.bits m.toBytes).count true = n :=
  (hasPrefixLength_toBytes h (bits_eq_natCast_iff.mp hn)).count_ones

theorem toBytes_toAddress? (hvalid : m.isValid = true) :
    m.toAddress?.map Address.toBytes = some m.toBytes := by
  cases m with
  | invalid => cases hvalid
  | ipv4 octets => rfl
  | ipv6 length => rfl

/-- **The views of a mask agree.**  Let a mask be valid and one that can be made.  The length it
reports is the one recognised in its octets.  Its number of bits is that length, and -1 exactly if
there is none.  The octets of its address are its octets.

An IPv4 mask gives them as four octets and gives no sixteen, and they are its byte form.  An IPv6
mask gives them as sixteen octets and gives no four; its byte form is one octet, its number of bits;
and that is how many ones there are in its octets. -/
theorem views_agree (h : m.Constructible) (hvalid : m.isValid = true) :
    m.prefixLength? = Bytes.prefixLength? m.toBytes ∧
    (∀ n : Nat, m.bits = n ↔ Bytes.prefixLength? m.toBytes = some n) ∧
    (m.bits = -1 ↔ Bytes.prefixLength? m.toBytes = none) ∧
    m.toAddress?.map Address.toBytes = some m.toBytes ∧
    (m.isIPv4 = true →
      m.ipv4Octets?.map Vector.toList = some m.toBytes ∧ m.ipv6Octets? = none ∧
      m.toBinary = m.toBytes) ∧
    (m.isIPv6 = true →
      m.ipv6Octets?.map Vector.toList = some m.toBytes ∧ m.ipv4Octets? = none ∧
      (∃ length : UInt8, m.toBinary = [length] ∧ m.bits = length.toNat) ∧
      ((Bytes.bits m.toBytes).count true : Int) = m.bits) := by
  have hlength := prefixLength?_toBytes h.wellFormed hvalid
  refine ⟨hlength.symm, fun n => ?_, ?_, toBytes_toAddress? hvalid, fun hfour => ?_,
    fun hsixteen => ?_⟩
  · rw [hlength, bits_eq_natCast_iff]
  · rw [hlength, bits_eq_neg_one_iff]
  · obtain ⟨octets, rfl⟩ := isIPv4_iff.mp hfour
    exact ⟨rfl, rfl, rfl⟩
  · obtain ⟨length, rfl⟩ := isIPv6_iff.mp hsixteen
    have hcount := count_ones_toBytes h.wellFormed (bits_ipv6 length)
    exact ⟨rfl, rfl, ⟨length, rfl, bits_ipv6 length⟩, congrArg Nat.cast hcount⟩

/-- Ones that end inside the ninth of sixteen octets, four octets that are a prefix, and four that
are none. -/
theorem views_agree_of_sixty_seven :
    (Mask.ipv6 67).Constructible ∧ Bytes.prefixLength? (Mask.ipv6 67).toBytes = some 67 ∧
      ((Bytes.bits (Mask.ipv6 67).toBytes).count true : Int) = (Mask.ipv6 67).bits ∧
      (Mask.ipv4 #v[255, 255, 254, 0]).bits = (23 : Nat) ∧
      (Mask.ipv4 #v[0x55, 0, 0, 0]).bits = -1 ∧
      (Mask.ipv4 #v[0x55, 0, 0, 0]).toBinary = (Mask.ipv4 #v[0x55, 0, 0, 0]).toBytes := by
  have hmade : (Mask.ipv6 67).Constructible := constructible_iff.mpr (by decide)
  obtain ⟨hlength, -, -, -, -, hsixteen⟩ := views_agree hmade rfl
  obtain ⟨-, hbits, -, -, -, -⟩ := views_agree (.ipv4 #v[255, 255, 254, 0]) rfl
  obtain ⟨-, -, hnone, -, hfour, -⟩ := views_agree (.ipv4 #v[0x55, 0, 0, 0]) rfl
  exact ⟨hmade, hlength.symm, (hsixteen rfl).2.2.2, (hbits 23).mpr (by decide),
    hnone.mpr (by decide), (hfour rfl).2.2⟩

/-! ## Octets and byte forms -/

/-- **The octets of a mask are a byte form of no other mask**, and of itself unless it is one of
IPv6: the numbers of octets that the two have in common are none and four. -/
theorem toBytes_eq_toBinary_iff : a.toBytes = b.toBinary ↔ a = b ∧ a.isIPv6 = false := by
  constructor
  · intro h
    have hlength := congrArg List.length h
    rw [length_toBytes, length_toBinary] at hlength
    cases a with
    | invalid =>
      cases b with
      | invalid => exact ⟨rfl, rfl⟩
      | _ => cases hlength
    | ipv4 octets =>
      cases b with
      | ipv4 octets' => exact ⟨congrArg ipv4 (Vector.toList_inj.mp h), rfl⟩
      | _ => cases hlength
    | ipv6 length => cases b <;> cases hlength
  · rintro ⟨rfl, hother⟩
    cases a with
    | invalid => rfl
    | ipv4 octets => rfl
    | ipv6 length => cases hother

/-- **Both readers take four octets and nothing else**, and take them for the same mask. -/
theorem both_read_iff :
    ofBytes? bytes = some a ∧ ofBinary bytes = .ok b ↔
      ∃ octets : Octets 4, octets.toList = bytes ∧ a = .ipv4 octets ∧ b = .ipv4 octets := by
  constructor
  · rintro ⟨hraw, hform⟩
    -- no byte form has sixteen octets
    have hshort : bytes.length ≠ 16 := by
      intro hlength
      rw [ofBinary_of_length (by omega) (by omega) (by omega)] at hform
      cases hform
    cases ofBytes?_eq_iff.mp hraw with
    | @four octets hoctets =>
      rw [← hoctets, ofBinary_toList] at hform
      exact ⟨octets, hoctets, rfl, (Except.ok.inj hform).symm⟩
    | sixteen hoctets _ => exact absurd (hoctets ▸ Vector.length_toList) hshort
    | gap hoctets _ => exact absurd (hoctets ▸ Vector.length_toList) hshort
  · rintro ⟨octets, rfl, rfl, rfl⟩
    exact ⟨ofBytes?_toList_ipv4 octets, ofBinary_toList octets⟩

theorem both_read_iff_length :
    (∃ a, ofBytes? bytes = some a) ∧ (∃ b, ofBinary bytes = .ok b) ↔ bytes.length = 4 := by
  constructor
  · rintro ⟨⟨a, hraw⟩, ⟨b, hform⟩⟩
    obtain ⟨octets, rfl, -, -⟩ := both_read_iff.mp ⟨hraw, hform⟩
    exact Vector.length_toList
  · intro hlength
    obtain ⟨octets, rfl⟩ := Octets.exists_of_length hlength
    exact ⟨⟨_, ofBytes?_toList_ipv4 octets⟩, ⟨_, ofBinary_toList octets⟩⟩

/-- **Octets and byte forms are never confused.**  A byte string is read both as octets and as a
byte form exactly if there are four octets in it, and then as the same mask.  The octets of a mask
are read as its byte form if the mask is invalid or one of IPv4; those of an IPv6 mask are refused
for being sixteen.  The byte form of a mask is read as its octets if it is one of IPv4; that of any
other mask is the octets of none.  What is written as the octets of a mask is written as the byte
form of no other mask, and as that of the same mask exactly if it is not one of IPv6. -/
theorem octets_never_confused :
    (∀ bytes : Bytes,
      ((∃ a, ofBytes? bytes = some a) ∧ (∃ b, ofBinary bytes = .ok b) ↔ bytes.length = 4) ∧
      (∀ a b, ofBytes? bytes = some a → ofBinary bytes = .ok b → a = b)) ∧
    (∀ m : Mask,
      (m = .invalid ∨ m.isIPv4 = true → ofBinary m.toBytes = .ok m) ∧
      (m.isIPv6 = true → ofBinary m.toBytes = .error (.unexpectedSize 16)) ∧
      (m.isIPv4 = true → ofBytes? m.toBinary = some m) ∧
      (m = .invalid ∨ m.isIPv6 = true → ofBytes? m.toBinary = none)) ∧
    (∀ a b : Mask, a.toBytes = b.toBinary ↔ a = b ∧ a.isIPv6 = false) := by
  refine ⟨fun bytes => ⟨both_read_iff_length, fun a b hraw hform => ?_⟩,
    fun m => ⟨?_, fun hsixteen => ?_, fun hfour => ?_, ?_⟩, fun a b => toBytes_eq_toBinary_iff⟩
  · obtain ⟨octets, -, rfl, rfl⟩ := both_read_iff.mp ⟨hraw, hform⟩
    rfl
  · rintro (rfl | hfour)
    · rfl
    · obtain ⟨octets, rfl⟩ := isIPv4_iff.mp hfour
      exact ofBinary_toList octets
  · obtain ⟨length, rfl⟩ := isIPv6_iff.mp hsixteen
    exact ofBinary_of_length nofun nofun nofun
  · obtain ⟨octets, rfl⟩ := isIPv4_iff.mp hfour
    exact ofBytes?_toList_ipv4 octets
  · rintro (rfl | hsixteen)
    · exact ofBytes?_eq_none_iff.mpr ⟨nofun, nofun⟩
    · obtain ⟨length, rfl⟩ := isIPv6_iff.mp hsixteen
      exact ofBytes?_eq_none_iff.mpr ⟨nofun, nofun⟩

/-- Four octets with a gap, which both readers take, and a length, of which neither form is taken
for the other. -/
theorem octets_never_confused_of_gap :
    (∃ m, ofBytes? [0x55, 0, 0xaa, 1] = some m ∧ ofBinary [0x55, 0, 0xaa, 1] = .ok m) ∧
      ofBinary (Mask.ipv4 #v[0x55, 0, 0xaa, 1]).toBytes = .ok (.ipv4 #v[0x55, 0, 0xaa, 1]) ∧
      ofBytes? (Mask.ipv4 #v[0x55, 0, 0xaa, 1]).toBinary = some (.ipv4 #v[0x55, 0, 0xaa, 1]) ∧
      ofBinary (Mask.ipv6 64).toBytes = .error (.unexpectedSize 16) ∧
      ofBytes? (Mask.ipv6 64).toBinary = none := by
  obtain ⟨hbytes, hmasks, -⟩ := octets_never_confused
  obtain ⟨hboth, hsame⟩ := hbytes [0x55, 0, 0xaa, 1]
  obtain ⟨⟨a, ha⟩, ⟨b, hb⟩⟩ := hboth.mpr rfl
  obtain rfl := hsame a b ha hb
  obtain ⟨hform, -, hraw, -⟩ := hmasks (.ipv4 #v[0x55, 0, 0xaa, 1])
  obtain ⟨-, hrefused, -, hnone⟩ := hmasks (.ipv6 64)
  exact ⟨⟨a, ha, hb⟩, hform (Or.inr rfl), hraw rfl, hrefused rfl, hnone (Or.inr rfl)⟩

end Mask

end AddressMask
