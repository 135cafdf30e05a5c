import AddressMask.Payload
import AddressMask.Proofs.TextGrammar
import AddressMask.Session

/-!
# The masks that can be made

A mask keeps the length of an IPv6 prefix in an octet, which has room for twice as many lengths as
there are.  Nothing in the type says that the room is not used: each constructor and each reader
cuts a number down to an octet by itself, after a test of its own or after none.  `Constructible`
lists all of them, with any arguments, and `WellFormed` is the bound that each has to keep.

`constructible_iff` says that the two are one: whatever makes a mask keeps the bound, and every mask
within the bound is made by something.  A session composes writers and readers in any order and
never leaves these masks (`constructible_run`).
-/

namespace AddressMask

namespace Mask

/-- Whether the length of a mask is one that an IPv6 address has. -/
def WellFormed : Mask → Prop
  | .ipv6 length => length ≤ 128
  | _ => True

instance : DecidablePred WellFormed := fun m => by
  cases m <;> unfold WellFormed <;> infer_instance

/-- The masks that the constructors and readers make.  None of them takes a mask, so the arguments
range over everything that other masks can have been written to before. -/
inductive Constructible : Mask → Prop
  | default : Constructible default
  | ofPrefix (ones total : Int) : Constructible (ofPrefix ones total)
  | ipv4 (octets : Octets 4) : Constructible (.ipv4 octets)
  | ofIPv6 (octets : Octets 16) : Constructible (ofIPv6 octets)
  | ofBytes {bytes : Bytes} {m : Mask} (h : ofBytes? bytes = some m) : Constructible m
  | ofBinary {bytes : Bytes} {m : Mask} (h : ofBinary bytes = .ok m) : Constructible m
  | ofText {s : String} {m : Mask} (h : ofText s = .ok m) : Constructible m
  | parse {s : String} {m : Mask} (h : parse s = .ok m) : Constructible m
  | ofIPv4Address (octets : Octets 4) : Constructible (ofIPv4Address octets)
  | ofIPv6Address (octets : Octets 16) : Constructible (ofIPv6Address octets)
  | ofAddress (a : Address) : Constructible (ofAddress a)
  | ofPayload {payload : Payload} {m : Mask} (h : ofPayload payload = .ok m) : Constructible m

/-! ## Each way of making a mask keeps the bound -/

theorem wellFormed_ofPrefix (ones total : Int) : (ofPrefix ones total).WellFormed := by
  unfold ofPrefix
  split
  · rename_i h
    simp only
    split
    · trivial
    · split
      · -- the count is at most 128 before it is cut down
        have hle : ones.toNat ≤ 128 := by omega
        exact UInt8.le_iff_toNat_le.mpr (Nat.le_trans (Nat.mod_le _ _) hle)
      · trivial
  · trivial

/-- Sixteen octets have no more than 128 bits, so the count needs no test. -/
theorem wellFormed_ofIPv6 (octets : Octets 16) : (ofIPv6 octets).WellFormed := by
  unfold ofIPv6 readIPv6
  split
  · rename_i n hn
    have hle := Bytes.prefixLength?_le hn
    rw [Vector.length_toList] at hle
    exact UInt8.le_iff_toNat_le.mpr (Nat.le_trans (Nat.mod_le _ _) hle)
  · trivial

theorem wellFormed_of_ofBytes? {bytes : Bytes} {m : Mask} (h : ofBytes? bytes = some m) :
    m.WellFormed := by
  unfold ofBytes? readBytes? at h
  split at h
  · cases h
    trivial
  · rename_i octets _ _
    rw [Logged.value_map] at h
    cases h
    exact wellFormed_ofIPv6 octets
  · cases h

theorem wellFormed_of_ofBinary {bytes : Bytes} {m : Mask} (h : ofBinary bytes = .ok m) :
    m.WellFormed := by
  unfold ofBinary readBinary at h
  split at h
  · cases h
    trivial
  · cases h
    exact wellFormed_ofPrefix _ _
  · cases h
    trivial
  · cases h

theorem wellFormed_of_ofText {s : String} {m : Mask} (h : ofText s = .ok m) : m.WellFormed := by
  have hreading := textReading_ofText s
  rw [h] at hreading
  cases hreading with
  | empty _ => trivial
  | length _ _ hn hle => exact UInt8.le_iff_toNat_le.mpr (hn ▸ hle)
  | longLength _ _ _ => trivial
  | dotted _ _ _ _ _ _ => trivial

theorem wellFormed_ofAddress (a : Address) : (ofAddress a).WellFormed := by
  cases a with
  | ipv4 octets => trivial
  | ipv6 octets => exact wellFormed_ofIPv6 octets

theorem wellFormed_of_ofPayload {payload : Payload} {m : Mask} (h : ofPayload payload = .ok m) :
    m.WellFormed := by
  cases payload with
  | text s => exact wellFormed_of_ofText (mapError_eq_ok_iff.mp h)
  | octets bytes => exact wellFormed_of_ofBinary (mapError_eq_ok_iff.mp h)
  | items values =>
    obtain ⟨bytes, -, hbytes⟩ := bind_eq_ok_iff.mp h
    exact wellFormed_of_ofBinary (mapError_eq_ok_iff.mp hbytes)

theorem Constructible.wellFormed {m : Mask} (h : m.Constructible) : m.WellFormed := by
  cases h with
  | default => trivial
  | ofPrefix ones total => exact wellFormed_ofPrefix ones total
  | ipv4 octets => trivial
  | ofIPv6 octets => exact wellFormed_ofIPv6 octets
  | ofBytes h => exact wellFormed_of_ofBytes? h
  | ofBinary h => exact wellFormed_of_ofBinary h
  | ofText h => exact wellFormed_of_ofText h
  | parse h => exact wellFormed_of_ofText h
  | ofIPv4Address octets => trivial
  | ofIPv6Address octets => exact wellFormed_ofIPv6 octets
  | ofAddress a => exact wellFormed_ofAddress a
  | ofPayload h => exact wellFormed_of_ofPayload h

/-- **The masks that can be made are those within the bound.** -/
theorem constructible_iff {m : Mask} : m.Constructible ↔ m.WellFormed := by
  refine ⟨Constructible.wellFormed, fun h => ?_⟩
  cases m with
  | invalid => exact .default
  | ipv4 octets => exact .ipv4 octets
  | ipv6 length =>
    have hle : length.toNat ≤ 128 := UInt8.le_iff_toNat_le.mp h
    have hmade := Constructible.ofPrefix length.toNat 128
    rw [ofPrefix_natCast_128, if_pos hle, UInt8.ofNat_toNat] at hmade
    exact hmade

/-! ## The prefix lengths of the masks that can be made -/

theorem bits_invalid : bits .invalid = -1 := rfl

theorem bits_ipv6 (length : UInt8) : bits (.ipv6 length) = length.toNat := rfl

/-- An IPv4 mask is no prefix, or one of at most 32 ones. -/
theorem bits_ipv4 (octets : Octets 4) :
    bits (.ipv4 octets) = -1 ∨ (0 ≤ bits (.ipv4 octets) ∧ bits (.ipv4 octets) ≤ 32) := by
  unfold bits
  cases h : prefixLength? (.ipv4 octets) with
  | none => exact Or.inl rfl
  | some n =>
    have hle := Bytes.prefixLength?_le h
    rw [Vector.length_toList] at hle
    exact Or.inr ⟨Int.natCast_nonneg n, by simp only; omega⟩

/-- **No length leaves its range.**  However a mask is made, an IPv6 mask has a length of at most
128, and the reported number of bits is -1 for the invalid mask, -1 or at most 32 for an IPv4 mask
and at most 128 for an IPv6 mask. -/
theorem Constructible.bits_range {m : Mask} (h : m.Constructible) :
    (∀ length, m = .ipv6 length → length.toNat ≤ 128) ∧
      (m = .invalid → m.bits = -1) ∧
      (m.isIPv4 = true → m.bits = -1 ∨ (0 ≤ m.bits ∧ m.bits ≤ 32)) ∧
      (m.isIPv6 = true → 0 ≤ m.bits ∧ m.bits ≤ 128) := by
  have hbound : ∀ length, m = .ipv6 length → length.toNat ≤ 128 := by
    rintro length rfl
    exact UInt8.le_iff_toNat_le.mp h.wellFormed
  refine ⟨hbound, ?_, ?_, ?_⟩
  · rintro rfl
    exact bits_invalid
  · intro h4
    cases m with
    | ipv4 octets => exact bits_ipv4 octets
    | _ => cases h4
  · intro h6
    cases m with
    | ipv6 length =>
      have hle := hbound length rfl
      rw [bits_ipv6]
      omega
    | _ => cases h6

/-- Sixteen octets of ones, of which the length is kept as it is counted. -/
theorem bits_range_of_all_ones :
    (ofIPv6 (.ofPrefix 16 128)).Constructible ∧
      0 ≤ (ofIPv6 (.ofPrefix 16 128)).bits ∧ (ofIPv6 (.ofPrefix 16 128)).bits ≤ 128 :=
  ⟨.ofIPv6 _, (Constructible.ofIPv6 (.ofPrefix 16 128)).bits_range.2.2.2 (by decide)⟩

end Mask

/-! ## Compositions -/

open Mask

theorem Source.constructible_of_mask {source : Source} {m : Mask} (h : source.mask = .ok m) :
    m.Constructible := by
  cases source with
  | invalid => cases h; exact .default
  | leadingOnes ones total => cases h; exact .ofPrefix ones total
  | ipv4 octets => cases h; exact .ipv4 octets
  | ipv6 octets => cases h; exact .ofIPv6 octets
  | rawBytes bytes =>
    rw [mask_rawBytes] at h
    split at h
    · rename_i hbytes
      cases h
      exact .ofBytes hbytes
    · cases h
  | binary bytes => exact .ofBinary (mapError_eq_ok_iff.mp h)
  | text s => exact .ofText (mapError_eq_ok_iff.mp h)
  | ipv4Address octets => cases h; exact .ofIPv4Address octets
  | ipv6Address octets => cases h; exact .ofIPv6Address octets
  | address a => cases h; exact .ofAddress a

namespace Session

/-- A step that gives the session a mask takes it from a source. -/
theorem constructible_load {s s' : Session} {source : Source} (h : s.load source = .ok s') :
    s'.mask.Constructible := by
  unfold load at h
  cases hm : source.mask with
  | error e => rw [hm] at h; cases h
  | ok m =>
    rw [hm] at h
    cases h
    exact Source.constructible_of_mask hm

theorem constructible_next {s s' : Session} {t : Step} (hs : s.mask.Constructible)
    (h : s.next t = .ok s') : s'.mask.Constructible := by
  cases t with
  | set source => exact constructible_load h
  | decodeBinary => exact constructible_load h
  | decodeBytes => exact constructible_load h
  | decodeText => exact constructible_load h
  | appendBinary | appendText | pushBytes _ | pushText _ | clear => cases h; exact hs

theorem constructible_step {s : Session} (hs : s.mask.Constructible) (t : Step) :
    (s.step t).mask.Constructible := by
  unfold step
  split
  · rename_i s' h
    exact constructible_next hs h
  · exact hs

/-- **Nothing but masks that can be made comes of composing writers and readers.**  The current mask
of a session is such a mask after any steps in any order. -/
theorem constructible_run {s : Session} (hs : s.mask.Constructible) (steps : List Step) :
    (s.run steps).mask.Constructible := by
  induction steps generalizing s with
  | nil => exact hs
  | cons t steps ih => exact ih (constructible_step hs t)

end Session

end AddressMask
