import AddressMask.Bytes

/-!
# Prefixes

A byte string is a *prefix of length n* when its bits are `n` ones followed by zeros only. Two
functions speak about prefixes and are written independently of each other:

* `Bytes.prefixLength?` recognises one and gives its length. It goes through the octets with a count:
  whole octets of ones, then one octet in which the ones end, then zeros.
* `Bytes.ofPrefix` writes the prefix of a given length into a given number of octets.

A length is reported only up to 255, the largest that fits one octet, and the ones are counted in
a 32-bit word. Masks are 4 or 16 octets long and come nowhere near either limit.
-/

namespace AddressMask

namespace Bytes

/-- A count of ones as it is reported: only what fits one octet is a length. -/
def reportedLength? (count : UInt32) : Option Nat :=
  if count.toNat ≤ 255 then some count.toNat else none

/-- Recognises a prefix from some octet on, given the count of the ones before it. An octet of ones
adds eight to the count. Any other octet ends the ones: shifted out, the ones it starts with must
leave nothing behind, and every octet after it must be zero. -/
def countOnes? (count : UInt32) : Bytes → Option Nat
  | [] => reportedLength? count
  | b :: rest =>
    if b = 0xff then countOnes? (count + 8) rest
    else if b <<< UInt8.ofNat (Octet.leadingOnes b) ≠ 0 then none
    else if rest.any (· ≠ 0) then none
    else reportedLength? (count + UInt32.ofNat (Octet.leadingOnes b))

/-- The number of ones a byte string starts with, if only zeros follow them (`prefix_length`). -/
def prefixLength? (bytes : Bytes) : Option Nat := countOnes? 0 bytes

theorem reportedLength?_eq_some_iff {count : UInt32} {n : Nat} :
    reportedLength? count = some n ↔ count.toNat = n ∧ n ≤ 255 := by
  unfold reportedLength?
  split <;> simp <;> omega

/-- An octet that is not all ones decides, together with what follows it. -/
theorem countOnes?_cons_of_ne {b : UInt8} (h : b ≠ 0xff) (count : UInt32) (rest : Bytes) :
    countOnes? count (b :: rest) =
      if b <<< UInt8.ofNat (Octet.leadingOnes b) == 0 && rest.all (· == 0) then
        reportedLength? (count + UInt32.ofNat (Octet.leadingOnes b)) else none := by
  rw [countOnes?, if_neg h]
  by_cases hshift : b <<< UInt8.ofNat (Octet.leadingOnes b) = 0
  · rw [if_neg (not_not_intro hshift), hshift, beq_self_eq_true, Bool.true_and]
    by_cases hzeros : ∀ x ∈ rest, x = 0
    · rw [if_neg (by simpa using hzeros), if_pos (by simpa using hzeros)]
    · rw [if_pos (by simpa using hzeros), if_neg (by simpa using hzeros)]
  · rw [if_pos hshift, beq_eq_false_iff_ne.mpr hshift, Bool.false_and]
    rfl

/-- **The octets of ones may be counted all at once**, however many there are and whether or not
their count wraps. -/
theorem countOnes?_eq (count : UInt32) (bytes : Bytes) :
    countOnes? count bytes =
      let count := count + UInt32.ofNat (8 * (bytes.takeWhile (· == 0xff)).length)
      match bytes.dropWhile (· == 0xff) with
      | [] => reportedLength? count
      | last :: rest =>
        if last <<< UInt8.ofNat (Octet.leadingOnes last) == 0 && rest.all (· == 0) then
          reportedLength? (count + UInt32.ofNat (Octet.leadingOnes last))
        else none := by
  induction bytes generalizing count with
  | nil => exact congrArg reportedLength? (UInt32.add_zero count).symm
  | cons b rest ih =>
    by_cases hb : b = 0xff
    · have hsum (k : Nat) :
          count + 8 + UInt32.ofNat (8 * k) = count + UInt32.ofNat (8 * (k + 1)) := by
        rw [Nat.mul_succ, Nat.add_comm (8 * k), UInt32.ofNat_add, UInt32.add_assoc]
        rfl
      rw [countOnes?, if_pos hb, ih, List.takeWhile_cons_of_pos (by simp [hb]),
        List.dropWhile_cons_of_pos (by simp [hb]), List.length_cons, hsum]
    · have hnone : count + UInt32.ofNat (8 * 0) = count := UInt32.add_zero count
      rw [countOnes?_cons_of_ne hb, List.takeWhile_cons_of_neg (by simp [hb]),
        List.dropWhile_cons_of_neg (by simp [hb]), List.length_nil, hnone]

theorem prefixLength?_eq (bytes : Bytes) :
    prefixLength? bytes =
      let count := UInt32.ofNat (8 * (bytes.takeWhile (· == 0xff)).length)
      match bytes.dropWhile (· == 0xff) with
      | [] => reportedLength? count
      | last :: rest =>
        if last <<< UInt8.ofNat (Octet.leadingOnes last) == 0 && rest.all (· == 0) then
          reportedLength? (count + UInt32.ofNat (Octet.leadingOnes last))
        else none := by
  rw [prefixLength?, countOnes?_eq, UInt32.zero_add]

/-- No length is above the number of bits. A count that wraps only gets smaller. -/
theorem prefixLength?_le {bytes : Bytes} {n : Nat} (h : prefixLength? bytes = some n) :
    n ≤ 8 * bytes.length := by
  have hlength : (bytes.takeWhile (· == 0xff)).length + (bytes.dropWhile (· == 0xff)).length =
      bytes.length := by
    rw [← List.length_append, List.takeWhile_append_dropWhile]
  have hofNat (k : Nat) : (UInt32.ofNat k).toNat ≤ k := Nat.mod_le k _
  have hadd (a b : UInt32) : (a + b).toNat ≤ a.toNat + b.toNat := Nat.mod_le _ _
  have hcount := hofNat (8 * (bytes.takeWhile (· == 0xff)).length)
  rw [prefixLength?_eq] at h
  split at h
  · obtain ⟨rfl, -⟩ := reportedLength?_eq_some_iff.mp h
    omega
  · rename_i last rest hdrop
    have hrun := Nat.le_trans (hofNat (Octet.leadingOnes last)) (Octet.leadingOnes_le last)
    rw [hdrop, List.length_cons] at hlength
    simp only at h
    split at h
    · obtain ⟨rfl, -⟩ := reportedLength?_eq_some_iff.mp h
      refine Nat.le_trans (hadd _ _) ?_
      omega
    · cases h

/-- The prefix of length `ones` in `width` octets. Ones that have no room are dropped. -/
def ofPrefix : (width ones : Nat) → Bytes
  | 0, _ => []
  | width + 1, ones => Octet.ofOnes ones :: ofPrefix width (ones - 8)

@[simp] theorem ofPrefix_zero (ones : Nat) : ofPrefix 0 ones = [] := rfl

@[simp] theorem ofPrefix_succ (width ones : Nat) :
    ofPrefix (width + 1) ones = Octet.ofOnes ones :: ofPrefix width (ones - 8) := rfl

@[simp] theorem length_ofPrefix (width ones : Nat) : (ofPrefix width ones).length = width := by
  induction width generalizing ones with
  | zero => rfl
  | succ width ih => simp [ih]

example : prefixLength? [0xff, 0xff, 0xff, 0x80] = some 25 := by decide
example : prefixLength? [0xff, 0, 0, 1] = none := by decide
example : prefixLength? (List.replicate 32 0xff) = none := by decide

end Bytes

/-- The prefix of length `ones` as exactly `n` octets (`prefix_bytes`). -/
def Octets.ofPrefix (n ones : Nat) : Octets n :=
  ⟨(Bytes.ofPrefix n ones).toArray, by simp⟩

@[simp] theorem Octets.toList_ofPrefix (n ones : Nat) :
    (Octets.ofPrefix n ones).toList = Bytes.ofPrefix n ones := rfl

end AddressMask
