import AddressMask.Proofs.BinaryRoundTrip
import AddressMask.Proofs.LeadingOnes
import AddressMask.Proofs.TextRoundTrip

/-!
# Same bits, same mask

The bits of a mask can be given in several ways that share nothing but the bits: as octets, as the
octets or the groups of an address, as a byte form, as any of many texts, or as a count of leading
ones.  Masks are compared and looked up as they are kept, so all of these have to end in one and the
same value.

`GivesFour` and `GivesSixteen` list the ways in which four and sixteen octets can be given.  What
makes two of them agree is in each case one fact: a text stands for the octets of the byte form
(`ofText_of_amounts`), a count of ones is the only byte string with that many (`ofPrefix_32`), and
sixteen octets are kept as the count that is recognised in them (`ofIPv6_of_hasPrefixLength`).  The
families never meet, since no way of giving sixteen octets ends in an IPv4 mask.
-/

namespace AddressMask

/-! ## Octets and groups -/

namespace Address

@[simp] theorem groups_nil : groups [] = [] := rfl

@[simp] theorem groups_cons_cons (high low : UInt8) (rest : Bytes) :
    groups (high :: low :: rest) = (256 * high.toNat + low.toNat) :: groups rest := rfl

/-- Octets that come in pairs are told by their groups. -/
theorem groups_injective {xs ys : Bytes} {k : Nat} (hx : xs.length = 2 * k)
    (hy : ys.length = 2 * k) (h : groups xs = groups ys) : xs = ys := by
  induction k generalizing xs ys with
  | zero => rw [List.length_eq_zero_iff.mp hx, List.length_eq_zero_iff.mp hy]
  | succ k ih =>
    match xs, ys, hx, hy with
    | high :: low :: xs, high' :: low' :: ys, hx, hy =>
      rw [List.length_cons, List.length_cons] at hx hy
      rw [groups_cons_cons, groups_cons_cons, List.cons.injEq] at h
      obtain ⟨hgroup, hrest⟩ := h
      -- an octet is below 256, so a group has only one pair of them
      have hlt := low.toNat_lt
      have hlt' := low'.toNat_lt
      have hhigh : high = high' := UInt8.toNat_inj.mp (by omega)
      have hlow : low = low' := UInt8.toNat_inj.mp (by omega)
      rw [hhigh, hlow, ih (by omega) (by omega) hrest]

theorem length_groups (bytes : Bytes) : (groups bytes).length = bytes.length / 2 := by
  induction bytes using groups.induct with
  | case1 high low rest ih =>
    rw [groups_cons_cons, List.length_cons, ih, List.length_cons, List.length_cons]
    omega
  | case2 bytes h =>
    match bytes, h with
    | [], _ => rfl
    | [_], _ => simp [groups]
    | high :: low :: rest, h => exact absurd rfl (h high low rest)

/-- The group at a place is the two octets there. -/
theorem getElem?_groups (bytes : Bytes) {i : Nat} (h : 2 * i + 1 < bytes.length) :
    (groups bytes)[i]? = some (256 * bytes[2 * i].toNat + bytes[2 * i + 1].toNat) := by
  induction i generalizing bytes with
  | zero =>
    match bytes, h with
    | high :: low :: rest, _ => rfl
  | succ i ih =>
    match bytes, h with
    | high :: low :: rest, h =>
      rw [List.length_cons, List.length_cons] at h
      rw [groups_cons_cons, List.getElem?_cons_succ, ih rest (by omega)]
      rfl

/-- Cut into octets and put together again, groups are as they were. -/
theorem groups_octetsOfGroups (words : Vector UInt16 8) :
    groups (octetsOfGroups words).toList = words.toList.map UInt16.toNat := by
  have hgroup (w : UInt16) :
      256 * (UInt8.ofNat (w.toNat / 256)).toNat + (UInt8.ofNat (w.toNat % 256)).toNat =
        w.toNat := by
    have hlt : w.toNat < 65536 := w.toNat_lt
    rw [UInt8.toNat_ofNat_of_lt' (by show w.toNat / 256 < 256; omega),
      UInt8.toNat_ofNat_of_lt' (by show w.toNat % 256 < 256; omega)]
    omega
  apply List.ext_getElem
  · rw [length_groups, List.length_map, Vector.length_toList, Vector.length_toList]
  · intro i hi hi'
    rw [List.length_map, Vector.length_toList] at hi'
    have hat := getElem?_groups (octetsOfGroups words).toList (i := i)
      (by rw [Vector.length_toList]; omega)
    rw [List.getElem?_eq_getElem hi, Option.some.injEq] at hat
    -- both octets of a place come from the group there, one from each half
    have heven : 2 * i / 2 = i ∧ 2 * i % 2 = 0 := by omega
    have hodd : (2 * i + 1) / 2 = i ∧ (2 * i + 1) % 2 ≠ 0 := by omega
    rw [hat, List.getElem_map]
    simp only [octetsOfGroups, Vector.getElem_toList, Vector.getElem_ofFn, heven, hodd, if_true,
      if_false, hgroup]

/-- Eight groups have one string of sixteen octets. -/
theorem octetsOfGroups_eq {octets : Octets 16} {words : Vector UInt16 8}
    (h : groups octets.toList = words.toList.map UInt16.toNat) : octetsOfGroups words = octets := by
  apply Vector.toList_inj.mp
  apply groups_injective (k := 8) Vector.length_toList Vector.length_toList
  rw [groups_octetsOfGroups, h]

end Address

/-! ## One fact for each way -/

namespace Mask

open Numeral Text

/-- Four numerals with points between them are the mask of their numbers. -/
theorem ofText_of_amounts {s : String} {octets : Octets 4}
    (hsize : 7 ≤ s.utf8ByteSize ∧ s.utf8ByteSize ≤ 15)
    (hnumerals : ∀ field ∈ s.toList.splitOn '.', IsNumeral field)
    (hamounts : amounts s = octets.toList.map UInt8.toNat) : ofText s = .ok (.ipv4 octets) := by
  obtain ⟨w, x, y, z, rfl⟩ := octets.exists_four
  have htext : joined (s.toList.splitOn '.') = s.toList := List.intercalate_splitOn '.'
  rw [amounts, Octets.toList_four] at hamounts
  simp only [List.map_cons, List.map_nil, List.map_eq_cons_iff, List.map_eq_nil_iff] at hamounts
  obtain ⟨a, -, hfields, ha, b, -, rfl, hb, c, -, rfl, hc, d, -, rfl, hd, rfl⟩ := hamounts
  rw [hfields, joined_four] at htext
  have hna := hnumerals a (by simp [hfields])
  have hnb := hnumerals b (by simp [hfields])
  have hnc := hnumerals c (by simp [hfields])
  have hnd := hnumerals d (by simp [hfields])
  have hcut : CutAtPoints s.toList a b c d :=
    ⟨htext.symm, hna.not_mem_point, hnb.not_mem_point, hnc.not_mem_point⟩
  exact ofText_of_textReading
    (.dotted hsize hcut (.octet hna ha) (.octet hnb hb) (.octet hnc hc) (.octet hnd hd))

/-- A numeral of up to three octets is the mask of its number, if an address is that long. -/
theorem ofText_of_amount {s : String} (hsize : 1 ≤ s.utf8ByteSize ∧ s.utf8ByteSize ≤ 3)
    (hdigits : IsNumeral s.toList) (hle : amount s.toList ≤ 128) :
    ofText s = .ok (.ipv6 (UInt8.ofNat (amount s.toList))) := by
  have hlt : amount s.toList < UInt8.size := Nat.lt_of_le_of_lt hle (by decide)
  exact ofText_of_textReading (.length hsize hdigits (UInt8.toNat_ofNat_of_lt' hlt).symm hle)

/-- The octets of an IPv4 prefix are the ones that its length is written as. -/
theorem ofPrefix_32 {octets : Octets 4} {n : Nat} (h : Bytes.HasPrefixLength octets.toList n) :
    ofPrefix n 32 = .ipv4 octets := by
  obtain ⟨hle, hwritten⟩ := h.octets
  have hlt : n < UInt8.size := Nat.lt_of_le_of_lt hle (by decide)
  rw [ofPrefix, if_pos ⟨Int.natCast_nonneg n, by omega⟩]
  show Mask.ipv4 (Octets.ofPrefix 4 (UInt8.ofNat n).toNat) = _
  rw [UInt8.toNat_ofNat_of_lt' hlt, hwritten]

/-- Sixteen octets that are a prefix are kept as its length. -/
theorem ofIPv6_of_hasPrefixLength {octets : Octets 16} {n : Nat}
    (h : Bytes.HasPrefixLength octets.toList n) :
    n ≤ 128 ∧ ofIPv6 octets = .ipv6 (UInt8.ofNat n) := by
  have hle := h.le
  rw [Vector.length_toList] at hle
  have hfound : Bytes.prefixLength? octets.toList = some n :=
    (Bytes.prefixLength?_toList_eq_some_iff (by decide)).mpr h
  refine ⟨by omega, ?_⟩
  unfold ofIPv6 readIPv6
  rw [hfound]
  rfl

@[simp] theorem ofBytes?_toList_ipv6 (octets : Octets 16) :
    ofBytes? octets.toList = some (ofIPv6 octets) := by
  have hfour : Octets.ofBytes? 4 octets.toList = none :=
    Octets.ofBytes?_of_length_ne (by rw [Vector.length_toList]; decide)
  rw [ofBytes?, readBytes?, hfour, Octets.ofBytes?_toList]
  rfl

/-- Sixteen octets are never an IPv4 mask. -/
theorem ofIPv6_ne_ipv4 (sixteen : Octets 16) (four : Octets 4) : ofIPv6 sixteen ≠ .ipv4 four := by
  unfold ofIPv6 readIPv6
  split <;> nofun

end Mask

/-! ## All the ways -/

namespace Source

open Numeral

/-- The ways in which the four octets of an IPv4 mask can be given. -/
inductive GivesFour (octets : Octets 4) : Source → Prop
  | ipv4 : GivesFour octets (.ipv4 octets)
  | rawBytes : GivesFour octets (.rawBytes octets.toList)
  | binary : GivesFour octets (.binary octets.toList)
  | ipv4Address : GivesFour octets (.ipv4Address octets)
  | address : GivesFour octets (.address (.ipv4 octets))
  /-- A text that has one numeral for each of the octets, with any leading zeros. -/
  | text {s : String} (hsize : 7 ≤ s.utf8ByteSize ∧ s.utf8ByteSize ≤ 15)
      (hnumerals : ∀ field ∈ s.toList.splitOn '.', IsNumeral field)
      (hamounts : Text.amounts s = octets.toList.map UInt8.toNat) : GivesFour octets (.text s)
  /-- The number of leading ones, if there are no others. -/
  | leadingOnes {n : Nat} (h : Bytes.HasPrefixLength octets.toList n) :
      GivesFour octets (.leadingOnes n 32)

/-- The ways in which the sixteen octets of an IPv6 mask can be given. -/
inductive GivesSixteen (octets : Octets 16) : Source → Prop
  | ipv6 : GivesSixteen octets (.ipv6 octets)
  | rawBytes : GivesSixteen octets (.rawBytes octets.toList)
  | ipv6Address : GivesSixteen octets (.ipv6Address octets)
  | address : GivesSixteen octets (.address (.ipv6 octets))
  /-- Eight groups of two octets each, the more significant one first, as an IPv6 address … -/
  | ipv6Groups {words : Vector UInt16 8}
      (h : Address.groups octets.toList = words.toList.map UInt16.toNat) :
      GivesSixteen octets (.ipv6Address (Address.octetsOfGroups words))
  /-- … or as an address. -/
  | groups {words : Vector UInt16 8}
      (h : Address.groups octets.toList = words.toList.map UInt16.toNat) :
      GivesSixteen octets (.address (.ipv6 (Address.octetsOfGroups words)))
  /-- The number of leading ones, if there are no others … -/
  | leadingOnes {n : Nat} (h : Bytes.HasPrefixLength octets.toList n) :
      GivesSixteen octets (.leadingOnes n 128)
  /-- … as one octet … -/
  | binary {length : UInt8} (h : Bytes.HasPrefixLength octets.toList length.toNat) :
      GivesSixteen octets (.binary [length])
  /-- … or as a numeral, with any leading zeros. -/
  | text {s : String} (hsize : 1 ≤ s.utf8ByteSize ∧ s.utf8ByteSize ≤ 3)
      (hdigits : IsNumeral s.toList)
      (h : Bytes.HasPrefixLength octets.toList (amount s.toList)) : GivesSixteen octets (.text s)

theorem GivesFour.mask {octets : Octets 4} {source : Source} (h : GivesFour octets source) :
    source.mask = .ok (.ipv4 octets) := by
  cases h with
  | ipv4 => rfl
  | rawBytes => rw [mask_rawBytes, Mask.ofBytes?_toList_ipv4]
  | binary => rw [mask_binary, Mask.ofBinary_toList]; rfl
  | ipv4Address => rfl
  | address => rfl
  | text hsize hnumerals hamounts =>
    rw [mask_text, Mask.ofText_of_amounts hsize hnumerals hamounts]
    rfl
  | leadingOnes h => rw [mask_leadingOnes, Mask.ofPrefix_32 h]

theorem GivesSixteen.mask {octets : Octets 16} {source : Source} (h : GivesSixteen octets source) :
    source.mask = .ok (.ofIPv6 octets) := by
  cases h with
  | ipv6 => rfl
  | rawBytes => rw [mask_rawBytes, Mask.ofBytes?_toList_ipv6]
  | ipv6Address => rfl
  | address => rfl
  | ipv6Groups h => rw [Address.octetsOfGroups_eq h]; rfl
  | groups h => rw [Address.octetsOfGroups_eq h]; rfl
  | leadingOnes h =>
    obtain ⟨hle, hmask⟩ := Mask.ofIPv6_of_hasPrefixLength h
    rw [mask_leadingOnes, Mask.ofPrefix_natCast_128, if_pos hle, hmask]
  | @binary length h =>
    obtain ⟨hle, hmask⟩ := Mask.ofIPv6_of_hasPrefixLength h
    rw [mask_binary, Mask.ofBinary_singleton, if_pos (UInt8.le_iff_toNat_le.mpr hle), hmask,
      UInt8.ofNat_toNat]
    rfl
  | text hsize hdigits h =>
    obtain ⟨hle, hmask⟩ := Mask.ofIPv6_of_hasPrefixLength h
    rw [mask_text, Mask.ofText_of_amount hsize hdigits hle, hmask]
    rfl

/-- A text that gives a mask is parsed to it as well. -/
theorem parse_of_mask {s : String} {m : Mask} (h : mask (.text s) = .ok m) :
    Mask.parse s = .ok m := by
  rw [mask_text] at h
  exact mapError_eq_ok_iff.mp h

/-- **The same bits are the same mask, in whatever way they are given.**  All the ways of giving
four octets have one mask, and so have all the ways of giving sixteen; a text may be read or parsed.
No mask given by four octets is one given by sixteen. -/
theorem mask_of_same_bits :
    (∀ (octets : Octets 4) (source : Source), GivesFour octets source →
      source.mask = .ok (.ipv4 octets)) ∧
    (∀ (octets : Octets 16) (source : Source), GivesSixteen octets source →
      source.mask = .ok (.ofIPv6 octets)) ∧
    (∀ (octets : Octets 4) (s : String), GivesFour octets (.text s) →
      Mask.parse s = .ok (.ipv4 octets)) ∧
    (∀ (octets : Octets 16) (s : String), GivesSixteen octets (.text s) →
      Mask.parse s = .ok (.ofIPv6 octets)) ∧
    (∀ (four : Octets 4) (sixteen : Octets 16) (source source' : Source),
      GivesFour four source → GivesSixteen sixteen source' → source.mask ≠ source'.mask) := by
  refine ⟨fun octets source => GivesFour.mask, fun octets source => GivesSixteen.mask,
    fun octets s h => parse_of_mask h.mask, fun octets s h => parse_of_mask h.mask,
    fun four sixteen source source' h h' => ?_⟩
  rw [h.mask, h'.mask]
  exact fun he => Mask.ofIPv6_ne_ipv4 sixteen four (Except.ok.inj he).symm

/-- A prefix of twenty ones, given as a text with zeros and as a count, and the sixteen octets of an
address of which the length is given as a text. -/
theorem mask_of_same_bits_of_twenty :
    GivesFour #v[255, 255, 240, 0] (.text "255.255.240.000") ∧
      GivesFour #v[255, 255, 240, 0] (.leadingOnes 20 32) ∧
      GivesSixteen (.ofPrefix 16 20) (.text "020") ∧
      mask (.text "255.255.240.000") = mask (.leadingOnes 20 32) ∧
      mask (.text "020") = .ok (.ofIPv6 (.ofPrefix 16 20)) ∧
      mask (.leadingOnes 20 32) ≠ mask (.text "020") := by
  have htext : GivesFour #v[255, 255, 240, 0] (.text "255.255.240.000") :=
    .text (by decide) (by decide +kernel) (by decide +kernel)
  have hones : GivesFour #v[255, 255, 240, 0] (.leadingOnes 20 32) :=
    .leadingOnes (n := 20) ⟨12, by decide +kernel⟩
  have hlength : GivesSixteen (.ofPrefix 16 20) (.text "020") :=
    .text (by decide) (by decide +kernel) ⟨108, by decide +kernel⟩
  obtain ⟨hfour, hsixteen, -, -, hne⟩ := mask_of_same_bits
  exact ⟨htext, hones, hlength, (hfour _ _ htext).trans (hfour _ _ hones).symm,
    hsixteen _ _ hlength, hne _ _ _ _ hones hlength⟩

end Source

end AddressMask
