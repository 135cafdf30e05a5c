/-!
# Byte strings and their bits

Masks are made of octets and are written as octets, so byte strings are what every other module
speaks about. A byte string is looked at in two further ways: as one flat string of bits, the most
significant bit of the first octet first, and as one unsigned number, the first octet being the
most significant one (network order). `Bytes.bits` and `Bytes.number` are these two views; each
comes with one lemma per way of building a byte string, and nothing else unfolds them.

Octets of a known number are a type of their own, and four of them are as good as a 32-bit word:
`Octets.toWord` and `Octets.ofWord` are inverse to each other.
-/

namespace AddressMask

/-- A byte string of any length. -/
abbrev Bytes := List UInt8

/-- A byte string of exactly `n` octets. -/
abbrev Octets (n : Nat) := Vector UInt8 n

/-! ### One octet -/

namespace Octet

/-- The eight bits of an octet, the most significant first. -/
def bits (b : UInt8) : List Bool := [7, 6, 5, 4, 3, 2, 1, 0].map b.toNat.testBit

@[simp] theorem length_bits (b : UInt8) : (bits b).length = 8 := rfl

/-- The number of ones an octet starts with. -/
def leadingOnes (b : UInt8) : Nat := ((bits b).takeWhile id).length

theorem leadingOnes_le (b : UInt8) : leadingOnes b ≤ 8 :=
  (List.takeWhile_sublist id).length_le

/-- The octet that starts with `n` ones and continues with zeros; all ones from eight on. -/
def ofOnes (n : Nat) : UInt8 :=
  if 8 ≤ n then 0xff else ~~~((0xff : UInt8) >>> UInt8.ofNat n)

example : bits 0xe1 = [true, true, true, false, false, false, false, true] := by decide
example : (List.range 9).map (leadingOnes ∘ ofOnes) = List.range 9 := by decide

end Octet

/-! ### Byte strings -/

namespace Bytes

/-- The bits of a byte string, each octet's most significant bit first. -/
def bits (bytes : Bytes) : List Bool := bytes.flatMap Octet.bits

@[simp] theorem bits_nil : bits [] = [] := rfl

@[simp] theorem bits_cons (b : UInt8) (bytes : Bytes) :
    bits (b :: bytes) = Octet.bits b ++ bits bytes := rfl

@[simp] theorem bits_append (xs ys : Bytes) : bits (xs ++ ys) = bits xs ++ bits ys := by
  simp [bits]

@[simp] theorem length_bits (bytes : Bytes) : (bits bytes).length = 8 * bytes.length := by
  induction bytes with
  | nil => rfl
  | cons b bytes ih =>
    simp only [bits_cons, List.length_append, Octet.length_bits, ih, List.length_cons]
    omega

/-- The unsigned number with the given octets, the most significant first. -/
def number (bytes : Bytes) : Nat := bytes.foldl (fun n b => 256 * n + b.toNat) 0

@[simp] theorem number_nil : number [] = 0 := rfl

@[simp] theorem number_concat (bytes : Bytes) (b : UInt8) :
    number (bytes ++ [b]) = 256 * number bytes + b.toNat := by
  simp [number, List.foldl_append]

end Bytes

/-! ### Byte strings of a known length -/

namespace Octets

/-- The string of four octets. -/
def four (a b c d : UInt8) : Octets 4 := #v[a, b, c, d]

@[simp] theorem toList_four (a b c d : UInt8) : (four a b c d).toList = [a, b, c, d] := rfl

theorem exists_four (octets : Octets 4) : ∃ a b c d, octets = four a b c d := by
  obtain ⟨⟨list⟩, hsize⟩ := octets
  match list, hsize with
  | [a, b, c, d], _ => exact ⟨a, b, c, d, rfl⟩

theorem exists_of_length {n : Nat} {bytes : Bytes} (h : bytes.length = n) :
    ∃ octets : Octets n, octets.toList = bytes :=
  ⟨⟨bytes.toArray, by simpa using h⟩, rfl⟩

/-- The octets of a byte string, if there are exactly `n` of them. -/
def ofBytes? (n : Nat) (bytes : Bytes) : Option (Octets n) :=
  if h : bytes.length = n then some ⟨bytes.toArray, by simpa using h⟩ else none

theorem ofBytes?_of_length_ne {n : Nat} {bytes : Bytes} (h : bytes.length ≠ n) :
    ofBytes? n bytes = none := dif_neg h

@[simp] theorem ofBytes?_toList {n : Nat} (octets : Octets n) :
    ofBytes? n octets.toList = some octets := by
  rw [ofBytes?, dif_pos Vector.length_toList]
  rfl

/-! #### Four octets as a word -/

/-- The 32-bit word that four octets are packed into, the first one being the most significant. -/
def toWord (octets : Octets 4) : UInt32 := UInt32.ofNat (Bytes.number octets.toList)

/-- The four octets that a 32-bit word is unpacked to, the most significant one first. -/
def ofWord (word : UInt32) : Octets 4 :=
  four (word >>> 24).toUInt8 (word >>> 16).toUInt8 (word >>> 8).toUInt8 word.toUInt8

theorem number_four (a b c d : UInt8) :
    Bytes.number (four a b c d).toList =
      256 * (256 * (256 * a.toNat + b.toNat) + c.toNat) + d.toNat := by
  simp [Bytes.number]

/-- A word has room for the number of four octets. -/
theorem toNat_toWord (octets : Octets 4) : octets.toWord.toNat = Bytes.number octets.toList := by
  obtain ⟨a, b, c, d, rfl⟩ := octets.exists_four
  have ha := a.toNat_lt
  have hb := b.toNat_lt
  have hc := c.toNat_lt
  have hd := d.toNat_lt
  refine UInt32.toNat_ofNat_of_lt' ?_
  rw [number_four]
  show _ < 4294967296
  omega

/-- The octets of a word are its digits to the base 256. -/
theorem toList_ofWord (word : UInt32) :
    (ofWord word).toList.map UInt8.toNat =
      [word.toNat / 16777216, word.toNat / 65536 % 256, word.toNat / 256 % 256,
        word.toNat % 256] := by
  have hlt : word.toNat < 4294967296 := word.toNat_lt
  have hfirst : word.toNat / 16777216 < 256 := by omega
  rw [ofWord, toList_four]
  simp only [List.map_cons, List.map_nil, UInt32.toNat_toUInt8, UInt32.toNat_shiftRight,
    Nat.shiftRight_eq_div_pow]
  show [word.toNat / 16777216 % 256, _, _, _] = _
  rw [Nat.mod_eq_of_lt hfirst]
  rfl

/-- **Packing and unpacking are inverse to each other.** Unpacked, the word of four octets is
these octets … -/
@[simp] theorem ofWord_toWord (octets : Octets 4) : ofWord octets.toWord = octets := by
  have hword := toNat_toWord octets
  have hdigits := toList_ofWord octets.toWord
  obtain ⟨a, b, c, d, rfl⟩ := octets.exists_four
  have ha := a.toNat_lt
  have hb := b.toNat_lt
  have hc := c.toNat_lt
  have hd := d.toNat_lt
  rw [number_four] at hword
  rw [hword] at hdigits
  apply Vector.toList_inj.mp
  apply (List.map_inj_right fun _ _ => UInt8.toNat_inj.mp).mp
  rw [hdigits, toList_four]
  simp only [List.map_cons, List.map_nil, List.cons.injEq, and_true]
  omega

/-- … and packed, the octets of a word are the word. -/
@[simp] theorem toWord_ofWord (word : UInt32) : (ofWord word).toWord = word := by
  have hlt : word.toNat < 4294967296 := word.toNat_lt
  have hdigits := toList_ofWord word
  have hword := toNat_toWord (ofWord word)
  obtain ⟨a, b, c, d, hoctets⟩ := (ofWord word).exists_four
  rw [hoctets, toList_four] at hdigits
  simp only [List.map_cons, List.map_nil, List.cons.injEq, and_true] at hdigits
  rw [hoctets, number_four] at hword
  rw [hoctets]
  apply UInt32.toNat_inj.mp
  omega

theorem toWord_injective {a b : Octets 4} (h : a.toWord = b.toWord) : a = b := by
  rw [← ofWord_toWord a, h, ofWord_toWord]

end Octets

end AddressMask
