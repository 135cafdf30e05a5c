import AddressMask.PrefixLength
import Mathlib.Data.List.TakeWhile
import Mathlib.Tactic.IntervalCases

/-!
# Leading ones, read as bits

`Bytes.prefixLength?` and `Bytes.ofPrefix` work octet by octet: whole octets of ones, one octet in
which the ones end, and zeros.  Here both are tied to the flat string of bits.  `HasPrefixLength`
says of that string that it is `n` ones and then zeros, and mentions no octets.

`prefixLength?_eq_some_iff_mod` says which lengths the recogniser finds.  Its count of ones has 32 bits,
so it is the length modulo 2 ^ 32 that is found, and it is reported only if it is at most 255.  Where the
octets of ones are few enough for the count (`OnesFit`), as they are in byte strings of fewer than
2 ^ 29 octets, that is the length itself (`OnesFit.prefixLength?_eq_some_iff`).
`ofPrefix_eq_of_hasPrefixLength` says that there is only one byte string of a given number of octets
with a given length, the one that is written.

Shifting the leading ones out of an octet and looking whether anything is left is a test on its bits
(`Octet.shiftLeft_leadingOnes_eq_zero_iff`); this is the only place where the two views meet inside
an octet.
-/

namespace AddressMask

/-! ## Rows of bits -/

theorem takeWhile_ones_append (n : Nat) (bits : List Bool) :
    (List.replicate n true ++ bits).takeWhile id = List.replicate n true ++ bits.takeWhile id :=
  List.takeWhile_append_of_pos fun _ hx => List.eq_of_mem_replicate hx

theorem dropWhile_ones_append (n : Nat) (bits : List Bool) :
    (List.replicate n true ++ bits).dropWhile id = bits.dropWhile id :=
  List.dropWhile_append_of_pos fun _ hx => List.eq_of_mem_replicate hx

/-- Bits are `n` ones and then zeros exactly if the leading ones are `n` and no one comes later. -/
theorem eq_ones_append_zeros_iff {bits : List Bool} {n : Nat} :
    (∃ zeros, bits = List.replicate n true ++ List.replicate zeros false) ↔
      (bits.takeWhile id).length = n ∧ ∀ x ∈ bits.dropWhile id, x = false := by
  constructor
  · rintro ⟨zeros, rfl⟩
    rw [takeWhile_ones_append, dropWhile_ones_append]
    simp
  · rintro ⟨hn, hzeros⟩
    have hones : bits.takeWhile id = List.replicate n true :=
      List.eq_replicate_iff.mpr ⟨hn, fun x hx => List.mem_takeWhile_imp hx⟩
    have hrest : bits.dropWhile id = List.replicate (bits.dropWhile id).length false :=
      List.eq_replicate_iff.mpr ⟨rfl, hzeros⟩
    refine ⟨(bits.dropWhile id).length, ?_⟩
    rw [← hrest, ← hones, List.takeWhile_append_dropWhile]

/-! ## One octet -/

namespace Octet

theorem bits_injective {a b : UInt8} (h : bits a = bits b) : a = b := by
  simp only [bits, List.map_cons, List.map_nil, List.cons.injEq, and_true] at h
  obtain ⟨h7, h6, h5, h4, h3, h2, h1, h0⟩ := h
  apply UInt8.toNat_inj.mp
  apply Nat.eq_of_testBit_eq
  intro i
  by_cases hi : i < 8
  · interval_cases i <;> assumption
  · have hhigh (c : UInt8) : c.toNat.testBit i = false :=
      Nat.testBit_lt_two_pow
        (Nat.lt_of_lt_of_le c.toNat_lt (Nat.pow_le_pow_right (by decide) (by omega)))
    rw [hhigh, hhigh]

theorem eq_zero_iff_bits {b : UInt8} : b = 0 ↔ ∀ x ∈ bits b, x = false := by
  constructor
  · rintro rfl
    decide
  · intro h
    exact bits_injective (List.eq_replicate_iff.mpr ⟨length_bits b, h⟩)

theorem bits_shiftLeft (b : UInt8) {k : Nat} (h : k < 8) :
    bits (b <<< UInt8.ofNat k) = (bits b).drop k ++ List.replicate k false := by
  have hk : (UInt8.ofNat k).toNat % 8 = k := by
    rw [UInt8.toNat_ofNat_of_lt' (Nat.lt_trans h (by decide))]
    exact Nat.mod_eq_of_lt h
  simp only [bits, List.map_cons, List.map_nil, UInt8.toNat_shiftLeft, hk,
    Nat.testBit_mod_two_pow, Nat.testBit_shiftLeft]
  interval_cases k <;> rfl

theorem bits_ofOnes (n : Nat) :
    bits (ofOnes n) = List.replicate (min n 8) true ++ List.replicate (8 - n) false := by
  by_cases h : 8 ≤ n
  · rw [ofOnes, if_pos h, Nat.min_eq_right h, Nat.sub_eq_zero_of_le h]
    rfl
  · interval_cases n <;> rfl

/-- An octet that is not all ones has a zero at which its leading ones end. -/
theorem leadingOnes_lt {b : UInt8} (h : b ≠ 0xff) : leadingOnes b < 8 := by
  refine Nat.lt_of_le_of_ne (leadingOnes_le b) fun hall => h (bits_injective ?_)
  have hlength : ((bits b).takeWhile id).length = (bits b).length := hall
  have hself := (List.takeWhile_sublist id).eq_of_length hlength
  exact List.eq_replicate_iff.mpr ⟨length_bits b, List.takeWhile_eq_self_iff.mp hself⟩

/-- What the leading ones leave behind when they are shifted out are the bits after them. -/
theorem shiftLeft_leadingOnes_eq_zero_iff {b : UInt8} (h : b ≠ 0xff) :
    b <<< UInt8.ofNat (leadingOnes b) = 0 ↔ ∀ x ∈ (bits b).dropWhile id, x = false := by
  have hdrop : (bits b).drop (leadingOnes b) = (bits b).dropWhile id := by
    conv_lhs => rw [← List.takeWhile_append_dropWhile (p := id) (l := bits b)]
    exact List.drop_left
  rw [eq_zero_iff_bits, bits_shiftLeft b (leadingOnes_lt h), hdrop, List.forall_mem_append]
  exact and_iff_left fun x hx => List.eq_of_mem_replicate hx

end Octet

/-! ## Byte strings -/

namespace Bytes

theorem bits_injective {xs ys : Bytes} (h : bits xs = bits ys) : xs = ys := by
  induction xs generalizing ys with
  | nil =>
    have hlength := congrArg List.length h
    rw [length_bits, length_bits, List.length_nil] at hlength
    exact (List.length_eq_zero_iff.mp (by omega)).symm
  | cons x xs ih =>
    cases ys with
    | nil => cases h
    | cons y ys =>
      -- each octet has eight bits, so the first octets have the same ones
      obtain ⟨hoctet, hrest⟩ := List.append_inj h rfl
      rw [Octet.bits_injective hoctet, ih hrest]

theorem bits_replicate_ones (k : Nat) :
    bits (List.replicate k 0xff) = List.replicate (8 * k) true := by
  induction k with
  | zero => rfl
  | succ k ih =>
    rw [List.replicate_succ, bits_cons, ih, Nat.mul_succ, Nat.add_comm,
      ← List.replicate_append_replicate]
    rfl

theorem forall_mem_bits_iff {bytes : Bytes} {P : Bool → Prop} :
    (∀ x ∈ bits bytes, P x) ↔ ∀ b ∈ bytes, ∀ x ∈ Octet.bits b, P x :=
  List.forall_mem_flatMap

/-- The bits are `n` ones followed by zeros only. -/
def HasPrefixLength (bytes : Bytes) (n : Nat) : Prop :=
  ∃ zeros, bits bytes = List.replicate n true ++ List.replicate zeros false

theorem HasPrefixLength.le {bytes : Bytes} {n : Nat} (h : HasPrefixLength bytes n) :
    n ≤ 8 * bytes.length := by
  obtain ⟨zeros, h⟩ := h
  rw [← length_bits, h, List.length_append, List.length_replicate]
  exact Nat.le_add_right _ _

/-! ### Writing a prefix -/

theorem bits_ofPrefix (width ones : Nat) :
    bits (ofPrefix width ones) =
      List.replicate (min ones (8 * width)) true ++ List.replicate (8 * width - ones) false := by
  induction width generalizing ones with
  | zero => simp
  | succ width ih =>
    rw [ofPrefix_succ, bits_cons, Octet.bits_ofOnes, ih]
    -- the ones end in the first octet, or they fill it
    by_cases h : ones ≤ 8
    · rw [Nat.min_eq_left h, Nat.sub_eq_zero_of_le h, Nat.zero_min, List.replicate_zero,
        List.nil_append, List.append_assoc, List.replicate_append_replicate,
        Nat.min_eq_left (by omega)]
      congr 2
      omega
    · rw [Nat.min_eq_right (by omega), Nat.sub_eq_zero_of_le (by omega), List.replicate_zero,
        List.append_nil, ← List.append_assoc, List.replicate_append_replicate]
      congr 2 <;> omega

/-- **A prefix is written as it is**: no other byte string of as many octets has its length. -/
theorem ofPrefix_eq_of_hasPrefixLength {bytes : Bytes} {n : Nat} (h : HasPrefixLength bytes n) :
    ofPrefix bytes.length n = bytes := by
  have hle := h.le
  obtain ⟨zeros, hbits⟩ := h
  have hlength := congrArg List.length hbits
  rw [length_bits, List.length_append, List.length_replicate, List.length_replicate] at hlength
  apply bits_injective
  rw [bits_ofPrefix, hbits, Nat.min_eq_left hle, hlength, Nat.add_sub_cancel_left]

/-- The same of octets, whose number is known. -/
theorem HasPrefixLength.octets {width n : Nat} {octets : Octets width}
    (h : HasPrefixLength octets.toList n) :
    n ≤ 8 * width ∧ Octets.ofPrefix width n = octets := by
  have hle := h.le
  have hwritten := ofPrefix_eq_of_hasPrefixLength h
  rw [Vector.length_toList] at hle hwritten
  exact ⟨hle, Vector.toList_inj.mp hwritten⟩

/-! ### Recognising a prefix -/

theorem hasPrefixLength_replicate_ones {k n : Nat} :
    HasPrefixLength (List.replicate k 0xff) n ↔ 8 * k = n := by
  unfold HasPrefixLength
  rw [eq_ones_append_zeros_iff, bits_replicate_ones, List.takeWhile_replicate,
    List.dropWhile_replicate]
  simp

/-- The ones end in the first octet that is not all ones, and nothing but zeros may follow. -/
theorem hasPrefixLength_append_cons {k n : Nat} {last : UInt8} {rest : Bytes} (h : last ≠ 0xff) :
    HasPrefixLength (List.replicate k 0xff ++ last :: rest) n ↔
      8 * k + Octet.leadingOnes last = n ∧
        last <<< UInt8.ofNat (Octet.leadingOnes last) = 0 ∧ ∀ b ∈ rest, b = 0 := by
  have hlt : ((Octet.bits last).takeWhile id).length < (Octet.bits last).length :=
    Octet.leadingOnes_lt h
  have hstop : ((Octet.bits last).dropWhile id).isEmpty = false := by
    have hlength := congrArg List.length
      (List.takeWhile_append_dropWhile (p := id) (l := Octet.bits last))
    rw [List.length_append] at hlength
    rw [List.isEmpty_eq_false_iff, ← List.length_pos_iff]
    omega
  unfold HasPrefixLength
  rw [eq_ones_append_zeros_iff, bits_append, bits_replicate_ones, bits_cons,
    takeWhile_ones_append, dropWhile_ones_append, List.takeWhile_append, if_neg (Nat.ne_of_lt hlt),
    List.dropWhile_append, hstop, if_neg Bool.false_ne_true, List.length_append,
    List.length_replicate, List.forall_mem_append, Octet.shiftLeft_leadingOnes_eq_zero_iff h,
    forall_mem_bits_iff]
  simp only [← Octet.eq_zero_iff_bits]
  rfl

/-- A byte string is the octets of ones it starts with and what comes after them. -/
theorem replicate_ones_append_dropWhile (bytes : Bytes) :
    List.replicate (bytes.takeWhile (· == 0xff)).length 0xff ++ bytes.dropWhile (· == 0xff) =
      bytes := by
  have hones : bytes.takeWhile (· == 0xff) =
      List.replicate (bytes.takeWhile (· == 0xff)).length 0xff :=
    List.eq_replicate_iff.mpr
      ⟨rfl, fun b hb => eq_of_beq (List.mem_takeWhile_imp (p := (· == 0xff)) hb)⟩
  rw [← hones, List.takeWhile_append_dropWhile]

/-- A byte string is some octets of ones, or behind them comes an octet that is not all ones. -/
theorem exists_replicate_ones (bytes : Bytes) :
    (∃ k, bytes = List.replicate k 0xff) ∨
    ∃ k last rest, last ≠ 0xff ∧ bytes = List.replicate k 0xff ++ last :: rest := by
  have hsplit := replicate_ones_append_dropWhile bytes
  cases hdrop : bytes.dropWhile (· == 0xff) with
  | nil =>
    rw [hdrop, List.append_nil] at hsplit
    exact Or.inl ⟨_, hsplit.symm⟩
  | cons last rest =>
    have hhead := List.head_dropWhile_not (· == (0xff : UInt8)) (l := bytes) (by simp [hdrop])
    rw [hdrop] at hsplit
    exact Or.inr ⟨_, last, rest, by simpa [hdrop] using hhead, hsplit.symm⟩

theorem takeWhile_replicate_append (k : Nat) (bytes : Bytes) :
    (List.replicate k 0xff ++ bytes).takeWhile (· == 0xff) =
      List.replicate k 0xff ++ bytes.takeWhile (· == 0xff) :=
  List.takeWhile_append_of_pos fun _ hx => beq_iff_eq.mpr (List.eq_of_mem_replicate hx)

theorem dropWhile_replicate_append (k : Nat) (bytes : Bytes) :
    (List.replicate k 0xff ++ bytes).dropWhile (· == 0xff) = bytes.dropWhile (· == 0xff) :=
  List.dropWhile_append_of_pos fun _ hx => beq_iff_eq.mpr (List.eq_of_mem_replicate hx)

theorem prefixLength?_replicate_ones (k : Nat) :
    prefixLength? (List.replicate k 0xff) = reportedLength? (UInt32.ofNat (8 * k)) := by
  rw [prefixLength?_eq]
  simp

theorem prefixLength?_append_cons {k : Nat} {last : UInt8} {rest : Bytes} (h : last ≠ 0xff) :
    prefixLength? (List.replicate k 0xff ++ last :: rest) =
      if last <<< UInt8.ofNat (Octet.leadingOnes last) == 0 && rest.all (· == 0) then
        reportedLength? (UInt32.ofNat (8 * k) + UInt32.ofNat (Octet.leadingOnes last)) else none := by
  rw [prefixLength?_eq, takeWhile_replicate_append, dropWhile_replicate_append,
    List.takeWhile_cons_of_neg (by simp [h]), List.dropWhile_cons_of_neg (by simp [h]),
    List.append_nil, List.length_replicate]

/-- **The ones are reported modulo the size of their count**, in byte strings of any length. -/
theorem prefixLength?_eq_some_iff_mod {bytes : Bytes} {n : Nat} :
    prefixLength? bytes = some n ↔ n ≤ 255 ∧ ∃ m, HasPrefixLength bytes m ∧ m % 2 ^ 32 = n := by
  obtain ⟨k, rfl⟩ | ⟨k, last, rest, hlast, rfl⟩ := exists_replicate_ones bytes
  · rw [prefixLength?_replicate_ones, reportedLength?_eq_some_iff, UInt32.toNat_ofNat', and_comm]
    simp only [hasPrefixLength_replicate_ones, exists_eq_left']
  · rw [prefixLength?_append_cons hlast]
    simp only [hasPrefixLength_append_cons hlast]
    by_cases hzeros : last <<< UInt8.ofNat (Octet.leadingOnes last) = 0 ∧ ∀ b ∈ rest, b = 0
    · rw [if_pos (by simpa using hzeros), reportedLength?_eq_some_iff, ← UInt32.ofNat_add,
        UInt32.toNat_ofNat', and_comm]
      refine and_congr_right fun _ => ⟨fun h => ⟨_, ⟨rfl, hzeros⟩, h⟩, ?_⟩
      rintro ⟨m, ⟨rfl, -⟩, h⟩
      exact h
    · rw [if_neg (by simpa using hzeros)]
      refine iff_of_false nofun ?_
      rintro ⟨-, m, ⟨-, h⟩, -⟩
      exact hzeros h

/-! ### Counting the ones -/

/-- The octets of ones at the front can be counted in the word of the count. -/
def OnesFit (bytes : Bytes) : Prop := 8 * (bytes.takeWhile (· == 0xff)).length < UInt32.size

instance : DecidablePred OnesFit := fun bytes =>
  inferInstanceAs (Decidable (8 * (bytes.takeWhile (· == 0xff)).length < UInt32.size))

theorem onesFit_replicate_append {k : Nat} {bytes : Bytes} :
    OnesFit (List.replicate k 0xff ++ bytes) ↔
      8 * (k + (bytes.takeWhile (· == 0xff)).length) < UInt32.size := by
  rw [OnesFit, takeWhile_replicate_append, List.length_append, List.length_replicate]

/-- Fewer than 2 ^ 29 octets have fewer ones than there is room for in the count. -/
theorem onesFit_of_length {bytes : Bytes} (h : bytes.length < 2 ^ 29) : OnesFit bytes := by
  have hle := (List.takeWhile_sublist (· == (0xff : UInt8)) (l := bytes)).length_le
  show _ < 4294967296
  omega

/-- The count is a multiple of eight where the ones end inside an octet, so there is room for these. -/
theorem OnesFit.lt {bytes : Bytes} {n : Nat} (h : OnesFit bytes) (hn : HasPrefixLength bytes n) :
    n < 2 ^ 32 := by
  have hsize : UInt32.size = 4294967296 := rfl
  obtain ⟨k, rfl⟩ | ⟨k, last, rest, hlast, rfl⟩ := exists_replicate_ones bytes
  · rw [← List.append_nil (List.replicate k 0xff), onesFit_replicate_append] at h
    have hones := hasPrefixLength_replicate_ones.mp hn
    omega
  · have hfit := onesFit_replicate_append.mp h
    have hones := ((hasPrefixLength_append_cons hlast).mp hn).1
    have hrun := Octet.leadingOnes_lt hlast
    omega

/-- **The lengths that are recognised are those of the bits**, up to the largest one reported, if the
ones can be counted. -/
theorem OnesFit.prefixLength?_eq_some_iff {bytes : Bytes} {n : Nat} (h : OnesFit bytes) :
    prefixLength? bytes = some n ↔ n ≤ 255 ∧ HasPrefixLength bytes n := by
  rw [prefixLength?_eq_some_iff_mod]
  refine and_congr_right fun hle => ⟨?_, fun hn => ⟨n, hn, Nat.mod_eq_of_lt (h.lt hn)⟩⟩
  rintro ⟨m, hm, rfl⟩
  rwa [Nat.mod_eq_of_lt (h.lt hm)]

theorem prefixLength?_eq_some_iff {bytes : Bytes} {n : Nat} (h : bytes.length < 2 ^ 29) :
    prefixLength? bytes = some n ↔ n ≤ 255 ∧ HasPrefixLength bytes n :=
  (onesFit_of_length h).prefixLength?_eq_some_iff

/-- Octets that are few enough for every length to be reported. -/
theorem prefixLength?_toList_eq_some_iff {width n : Nat} {octets : Octets width} (h : width < 32) :
    prefixLength? octets.toList = some n ↔ HasPrefixLength octets.toList n := by
  have hlength : octets.toList.length = width := Vector.length_toList
  rw [prefixLength?_eq_some_iff (by omega)]
  refine and_iff_right_of_imp fun hn => ?_
  have hle := hn.le
  omega

end Bytes

end AddressMask
