import AddressMask.Proofs.MaskOrder
import AddressMask.Proofs.RawRoundTrip
import Mathlib.Data.Nat.Init
import Mathlib.Tactic.Ring

/-!
# Octets and the whole word

Whether octets are a prefix can also be asked of the number they make.  Taken as one word, the octets
of a prefix have all the bits set but the last few, so their number is a difference of two powers of
two; and since the ones are in front, they can be counted and shifted out, and nothing may be left
(`Word.prefixLength?`).  Neither of these looks at octets.

Both are brought to one equation, `v + 2 ^ (w - n) = 2 ^ w` for the word `v` of `w` bits and the
length `n`.  On the side of the octets it holds by induction on the octets that are written for a
length (`number_ofPrefix_add`), and octets are told by their number, so it holds of no others.  On the
side of the word the leading ones confine `v` between two such differences, and the test on what is
left over decides whether it is the lower one (`Word.prefixLength?_eq_some_iff`).
-/

namespace AddressMask

/-! ## Octets as a number -/

namespace Bytes

theorem number_cons (b : UInt8) (bytes : Bytes) :
    number (b :: bytes) = b.toNat * 2 ^ (8 * bytes.length) + number bytes := by
  induction bytes using List.reverseRecOn with
  | nil =>
    rw [← List.nil_append [b], number_concat, number_nil, List.length_nil]
    omega
  | append_singleton bytes a ih =>
    rw [← List.cons_append, number_concat, number_concat, ih, List.length_append,
      List.length_singleton, Nat.mul_succ, Nat.pow_add]
    ring

theorem number_lt (bytes : Bytes) : number bytes < 2 ^ (8 * bytes.length) := by
  induction bytes with
  | nil => exact Nat.one_pos
  | cons b bytes ih =>
    have hb : b.toNat + 1 ≤ 2 ^ 8 := b.toNat_lt
    rw [number_cons, List.length_cons, Nat.mul_succ, Nat.pow_add]
    calc
      b.toNat * 2 ^ (8 * bytes.length) + number bytes
        < b.toNat * 2 ^ (8 * bytes.length) + 2 ^ (8 * bytes.length) := Nat.add_lt_add_left ih _
      _ = (b.toNat + 1) * 2 ^ (8 * bytes.length) := (Nat.succ_mul _ _).symm
      _ ≤ 2 ^ 8 * 2 ^ (8 * bytes.length) := Nat.mul_le_mul_right _ hb
      _ = 2 ^ (8 * bytes.length) * 2 ^ 8 := Nat.mul_comm _ _

theorem toNat_ofOnes_add {n : Nat} (h : n ≤ 8) : (Octet.ofOnes n).toNat + 2 ^ (8 - n) = 2 ^ 8 := by
  interval_cases n <;> rfl

/-- The number of a written prefix lacks a power of two to be one itself. -/
theorem number_ofPrefix_add {width n : Nat} (h : n ≤ 8 * width) :
    number (ofPrefix width n) + 2 ^ (8 * width - n) = 2 ^ (8 * width) := by
  induction width generalizing n with
  | zero =>
    rw [Nat.le_zero.mp h]
    rfl
  | succ width ih =>
    rw [ofPrefix_succ, number_cons, length_ofPrefix, Nat.mul_succ, Nat.pow_add]
    by_cases hn : n ≤ 8
    · -- the ones end in the first octet, and the others are zero
      have hrest : number (ofPrefix width 0) = 0 := by
        have hih := ih (Nat.zero_le (8 * width))
        rw [Nat.sub_zero] at hih
        omega
      rw [Nat.sub_eq_zero_of_le hn, hrest, Nat.add_zero, Nat.add_sub_assoc hn, Nat.pow_add,
        Nat.mul_comm, ← Nat.mul_add, toNat_ofOnes_add hn]
    · have hrest := ih (n := n - 8) (by omega)
      have hfirst : (Octet.ofOnes n).toNat = 255 := by
        rw [Octet.ofOnes, if_pos (by omega)]
        rfl
      have hexp : 8 * width + 8 - n = 8 * width - (n - 8) := by omega
      rw [hexp, hfirst]
      omega

/-- Octets are told by their number, so no others have the number of a prefix. -/
theorem hasPrefixLength_iff_number_add {bytes : Bytes} {n : Nat} :
    HasPrefixLength bytes n ↔
      n ≤ 8 * bytes.length ∧ number bytes + 2 ^ (8 * bytes.length - n) = 2 ^ (8 * bytes.length) := by
  constructor
  · intro h
    have hnumber := number_ofPrefix_add h.le
    rw [ofPrefix_eq_of_hasPrefixLength h] at hnumber
    exact ⟨h.le, hnumber⟩
  · rintro ⟨hle, hnumber⟩
    have hsame : number bytes = number (ofPrefix bytes.length n) := by
      have hwritten := number_ofPrefix_add hle
      omega
    have hbytes := number_injective (length_ofPrefix bytes.length n).symm hsame
    rw [hbytes]
    exact hasPrefixLength_ofPrefix_of_le hle

theorem hasPrefixLength_iff_number {bytes : Bytes} {width n : Nat} (hwidth : 8 * bytes.length = width)
    (hn : n ≤ width) : HasPrefixLength bytes n ↔ number bytes = 2 ^ width - 2 ^ (width - n) := by
  have hpow : 2 ^ (width - n) ≤ 2 ^ width := Nat.pow_le_pow_right (by decide) (Nat.sub_le width n)
  rw [hasPrefixLength_iff_number_add, hwidth, and_iff_right hn]
  omega

end Bytes

/-! ## A word -/

namespace Word

variable {w n : Nat}

/-- The number of ones a word starts with, which are zeros in its complement. -/
def leadingOnes (v : BitVec w) : Nat := (~~~v).clz.toNat

/-- What is left of a word when its first `k` bits are shifted out, nothing if it has no more. -/
def shiftOut (v : BitVec w) (k : Nat) : BitVec w := if k < w then v <<< k else 0#w

/-- The number of ones a word starts with, if nothing is left when they are shifted out. -/
def prefixLength? (v : BitVec w) : Option Nat :=
  if shiftOut v (leadingOnes v) = 0#w then some (leadingOnes v) else none

/-- A word has room for its own width. -/
theorem toNat_width (w : Nat) : (w : BitVec w).toNat = w := by
  rw [BitVec.natCast_eq_ofNat, BitVec.toNat_ofNat]
  exact Nat.mod_eq_of_lt Nat.lt_two_pow_self

theorem leadingOnes_le (v : BitVec w) : leadingOnes v ≤ w := by
  have hle := BitVec.le_def.mp (BitVec.clz_le (x := ~~~v))
  rwa [toNat_width] at hle

/-- The leading ones alone make the word at least as large as their prefix … -/
theorem le_toNat_add (v : BitVec w) : 2 ^ w ≤ v.toNat + 2 ^ (w - leadingOnes v) := by
  have hlt : (~~~v).toNat < 2 ^ (w - leadingOnes v) := BitVec.toNat_lt_two_pow_sub_clz
  rw [BitVec.toNat_not] at hlt
  omega

/-- … and the zero behind them makes it less than the next longer one. -/
theorem toNat_add_lt {v : BitVec w} (h : leadingOnes v < w) :
    v.toNat + 2 ^ (w - 1 - leadingOnes v) < 2 ^ w := by
  have hne : ~~~v ≠ 0#w := by
    intro hzero
    have hall : leadingOnes v = w := by
      rw [leadingOnes, BitVec.clz_eq_iff_eq_zero.mpr hzero, toNat_width]
    omega
  have hle := BitVec.two_pow_sub_clz_le_toNat_of_ne_zero (Nat.zero_lt_of_lt h) hne
  have hv := v.isLt
  rw [BitVec.toNat_not] at hle
  change 2 ^ (w - 1 - leadingOnes v) ≤ _ at hle
  omega

/-- Of the numbers from `d * m - d` on that are below `d * m`, only the first is a multiple of `d`. -/
theorem dvd_iff_add_eq {d m v : Nat} (hlow : d * m ≤ v + d) (hv : v < d * m) :
    d ∣ v ↔ v + d = d * m := by
  constructor
  · rintro ⟨q, rfl⟩
    rw [← Nat.mul_succ] at hlow ⊢
    have hd : 0 < d := Nat.pos_of_mul_pos_right (Nat.zero_lt_of_lt hv)
    have hlt : q < m := Nat.lt_of_mul_lt_mul_left hv
    have hle : m ≤ q + 1 := Nat.le_of_mul_le_mul_left hlow hd
    rw [show q.succ = m by omega]
  · intro h
    exact (Nat.dvd_add_left (Nat.dvd_refl d)).mp (h ▸ Nat.dvd_mul_right d m)

/-- Nothing is left over exactly if the word is no larger than its ones make it. -/
theorem shiftOut_leadingOnes_eq_zero_iff (v : BitVec w) :
    shiftOut v (leadingOnes v) = 0#w ↔ v.toNat + 2 ^ (w - leadingOnes v) = 2 ^ w := by
  have hlow := le_toNat_add v
  have hv := v.isLt
  unfold shiftOut
  split
  · have hpow : 2 ^ w = 2 ^ (w - leadingOnes v) * 2 ^ leadingOnes v := by
      rw [← Nat.pow_add, Nat.sub_add_cancel (leadingOnes_le v)]
    rw [BitVec.toNat_eq, BitVec.toNat_shiftLeft, BitVec.toNat_zero, ← Nat.dvd_iff_mod_eq_zero,
      Nat.shiftLeft_eq, hpow, Nat.mul_dvd_mul_iff_right (Nat.two_pow_pos _)]
    exact dvd_iff_add_eq (hpow ▸ hlow) (hpow ▸ hv)
  · rename_i hall
    have hone : w - leadingOnes v = 0 := Nat.sub_eq_zero_of_le (Nat.le_of_not_lt hall)
    rw [hone, Nat.pow_zero] at hlow ⊢
    exact iff_of_true rfl (by omega)

/-- **The lengths of a word**, as differences of two powers of two. -/
theorem prefixLength?_eq_some_iff (v : BitVec w) :
    prefixLength? v = some n ↔ n ≤ w ∧ v.toNat + 2 ^ (w - n) = 2 ^ w := by
  have hlow := le_toNat_add v
  have hle := leadingOnes_le v
  unfold prefixLength?
  rw [Option.ite_none_right_eq_some, shiftOut_leadingOnes_eq_zero_iff, Option.some.injEq]
  constructor
  · rintro ⟨hv, rfl⟩
    exact ⟨hle, hv⟩
  · rintro ⟨hn, hv⟩
    have hmore : leadingOnes v ≤ n := by
      have hpow : w - n ≤ w - leadingOnes v :=
        (Nat.pow_le_pow_iff_right Nat.one_lt_two).mp (by omega)
      omega
    have hfewer : n ≤ leadingOnes v := by
      by_contra hlt
      have hhigh := toNat_add_lt (v := v) (by omega)
      have hpow : w - 1 - leadingOnes v < w - n :=
        (Nat.pow_lt_pow_iff_right Nat.one_lt_two).mp (by omega)
      omega
    rw [Nat.le_antisymm hmore hfewer]
    exact ⟨hv, rfl⟩

/-- Octets have the length of the word they make. -/
theorem prefixLength?_number {bytes : Bytes} (hwidth : 8 * bytes.length = w) (hw : w ≤ 255) :
    Bytes.prefixLength? bytes = prefixLength? (BitVec.ofNat w (Bytes.number bytes)) := by
  have hnumber : (BitVec.ofNat w (Bytes.number bytes)).toNat = Bytes.number bytes := by
    rw [BitVec.toNat_ofNat]
    exact Nat.mod_eq_of_lt (hwidth ▸ Bytes.number_lt bytes)
  have hshort : bytes.length < 2 ^ 29 := by omega
  ext n
  rw [Bytes.prefixLength?_eq_some_iff hshort, prefixLength?_eq_some_iff, hnumber,
    Bytes.hasPrefixLength_iff_number_add, hwidth]
  exact and_iff_right_of_imp fun h => Nat.le_trans h.1 hw

end Word

namespace Mask

open Bytes (HasPrefixLength HasGap)

/-! ## Masks -/

theorem bits_eq_natCast_iff {m : Mask} {n : Nat} : m.bits = n ↔ m.prefixLength? = some n := by
  unfold bits
  cases m.prefixLength? with
  | none => exact iff_of_false nofun nofun
  | some length => rw [Int.natCast_inj, Option.some.injEq]

theorem bits_eq_neg_one_iff {m : Mask} : m.bits = -1 ↔ m.prefixLength? = none := by
  unfold bits
  cases m.prefixLength? with
  | none => exact iff_of_true rfl rfl
  | some length => exact iff_of_false nofun nofun

theorem bits_ipv4_eq_iff {octets : Octets 4} {n : Nat} (hn : n ≤ 32) :
    (Mask.ipv4 octets).bits = n ↔ Bytes.number octets.toList = 2 ^ 32 - 2 ^ (32 - n) := by
  have hlength : octets.toList.length = 4 := Vector.length_toList
  rw [bits_eq_natCast_iff, prefixLength?_ipv4, Bytes.prefixLength?_toList_eq_some_iff (by decide),
    Bytes.hasPrefixLength_iff_number (by omega) hn]

/-- Four octets have no bits to report if their number is that of no prefix. -/
theorem bits_ipv4_eq_neg_one_iff {octets : Octets 4} :
    (Mask.ipv4 octets).bits = -1 ↔
      ∀ n ≤ 32, Bytes.number octets.toList ≠ 2 ^ 32 - 2 ^ (32 - n) := by
  constructor
  · intro hnone n hn hnumber
    have hsome := (bits_ipv4_eq_iff hn).mpr hnumber
    omega
  · intro h
    rcases bits_ipv4 octets with hnone | ⟨hpos, hle⟩
    · exact hnone
    · obtain ⟨n, hn⟩ := Int.eq_ofNat_of_zero_le hpos
      have hle32 : n ≤ 32 := by omega
      exact absurd ((bits_ipv4_eq_iff hle32).mp hn) (h n hle32)

theorem ofIPv6_eq_ipv6_ofNat_iff {octets : Octets 16} {n : Nat} (hn : n ≤ 128) :
    ofIPv6 octets = .ipv6 (UInt8.ofNat n) ↔
      Bytes.number octets.toList = 2 ^ 128 - 2 ^ (128 - n) := by
  have hlength : 8 * octets.toList.length = 128 := by rw [Vector.length_toList]
  have hword : (UInt8.ofNat n).toNat = n :=
    UInt8.toNat_ofNat_of_lt' (Nat.lt_of_le_of_lt hn (by decide))
  rw [ofIPv6_eq_ipv6_iff, hword, Bytes.hasPrefixLength_iff_number hlength hn]

/-- Sixteen octets give no mask if their number is that of no prefix. -/
theorem ofIPv6_eq_invalid_iff_number {octets : Octets 16} :
    ofIPv6 octets = .invalid ↔ ∀ n ≤ 128, Bytes.number octets.toList ≠ 2 ^ 128 - 2 ^ (128 - n) := by
  constructor
  · intro hnone n hn hnumber
    rw [(ofIPv6_eq_ipv6_ofNat_iff hn).mpr hnumber] at hnone
    cases hnone
  · intro h
    rw [ofIPv6_eq_invalid_iff]
    by_contra hgap
    obtain ⟨n, hn⟩ := Bytes.not_hasGap_iff.mp hgap
    obtain ⟨hle, hmask⟩ := ofIPv6_of_hasPrefixLength hn
    exact h n hle ((ofIPv6_eq_ipv6_ofNat_iff hle).mp hmask)

/-- **Octet by octet or as a whole word, the same is found.**  Four octets are a valid mask; it has
`n` bits exactly if the octets make the number of `n` ones in 32 bits, and none to report exactly if
they make no such number.  Sixteen octets are the mask of length `n` exactly if they make the number
of `n` ones in 128 bits, and no mask exactly if they make no such number.  In both families the length
is what is found by counting the ones the word starts with and testing that nothing is left when they
are shifted out. -/
theorem octets_agree_with_word :
    (∀ octets : Octets 4,
      (Mask.ipv4 octets).isValid = true ∧
      Bytes.number octets.toList < 2 ^ 32 ∧
      (∀ n ≤ 32,
        (Mask.ipv4 octets).bits = (n : Nat) ↔
          Bytes.number octets.toList = 2 ^ 32 - 2 ^ (32 - n)) ∧
      ((Mask.ipv4 octets).bits = -1 ↔
        ∀ n ≤ 32, Bytes.number octets.toList ≠ 2 ^ 32 - 2 ^ (32 - n)) ∧
      (Mask.ipv4 octets).prefixLength? =
        Word.prefixLength? (BitVec.ofNat 32 (Bytes.number octets.toList))) ∧
    (∀ octets : Octets 16,
      Bytes.number octets.toList < 2 ^ 128 ∧
      (∀ n ≤ 128,
        ofIPv6 octets = .ipv6 (UInt8.ofNat n) ↔
          Bytes.number octets.toList = 2 ^ 128 - 2 ^ (128 - n)) ∧
      (ofIPv6 octets = .invalid ↔
        ∀ n ≤ 128, Bytes.number octets.toList ≠ 2 ^ 128 - 2 ^ (128 - n)) ∧
      (ofIPv6 octets).prefixLength? =
        Word.prefixLength? (BitVec.ofNat 128 (Bytes.number octets.toList))) := by
  refine ⟨fun octets => ?_, fun octets => ?_⟩
  · have hlength : 8 * octets.toList.length = 32 := by rw [Vector.length_toList]
    exact ⟨rfl, hlength ▸ Bytes.number_lt octets.toList, fun n hn => bits_ipv4_eq_iff hn,
      bits_ipv4_eq_neg_one_iff, Word.prefixLength?_number hlength (by decide)⟩
  · have hlength : 8 * octets.toList.length = 128 := by rw [Vector.length_toList]
    refine ⟨hlength ▸ Bytes.number_lt octets.toList, fun n hn => ofIPv6_eq_ipv6_ofNat_iff hn,
      ofIPv6_eq_invalid_iff_number, ?_⟩
    rw [prefixLength?_ofIPv6, Word.prefixLength?_number hlength (by decide)]

/-- The ones end in the third of four octets, there are no others than ones in sixteen octets, and an
alternating pattern. -/
theorem octets_agree_with_word_of_all_ones :
    (Mask.ipv4 #v[255, 255, 254, 0]).bits = (23 : Nat) ∧
      (Mask.ipv4 #v[0x55, 0, 0, 0]).bits = -1 ∧
      ofIPv6 (.ofPrefix 16 128) = .ipv6 (UInt8.ofNat 128) := by
  obtain ⟨hfour, hsixteen⟩ := octets_agree_with_word
  obtain ⟨-, -, hbits, -, -⟩ := hfour #v[255, 255, 254, 0]
  obtain ⟨-, -, -, hnone, -⟩ := hfour #v[0x55, 0, 0, 0]
  obtain ⟨-, hmask, -, -⟩ := hsixteen (.ofPrefix 16 128)
  exact ⟨(hbits 23 (by decide)).mpr (by decide +kernel), hnone.mpr (by decide +kernel),
    (hmask 128 (by decide)).mpr (by decide +kernel)⟩

end Mask

end AddressMask
