import AddressMask.Proofs.FirstFailure
import AddressMask.Proofs.Numeral

/-!
# The grammar of the text form

`Mask.ofText` is an algorithm: bands of lengths, then a cut, then four readers in a row.  Here the
same language is written down without one.  `TextReading s r` has one constructor for each thing a
text can come to, and the conditions of a constructor speak about the text alone: how many octets it
has, how many points, which fields the first three points cut it into, which octets a field consists
of and what its digits count for.  Of several bad fields the leftmost gives the cause
(`FirstFailure`).

`ofText_eq_iff` says that the two agree: every text comes to exactly one thing, the one that is
read.
-/

namespace AddressMask

open Numeral

/-! ## Fields between points -/

namespace Text

/-- The first three points of a text cut it into four fields.  Further points stay in the last. -/
structure CutAtPoints (text a b c d : List Char) : Prop where
  eq : text = a ++ '.' :: (b ++ '.' :: (c ++ '.' :: d))
  first : '.' ∉ a
  second : '.' ∉ b
  third : '.' ∉ c

/-- A text has one field more than it has points, up to the number of cuts. -/
theorem length_fields (cuts : Nat) (text : List Char) :
    (fields cuts text).length = min (text.count '.') cuts + 1 := by
  induction cuts generalizing text with
  | zero => simp
  | succ cuts ih =>
    by_cases h : '.' ∈ text
    · obtain ⟨field, rest, rfl, hfield⟩ := List.eq_append_cons_of_mem h
      rw [fields_append hfield, List.length_cons, ih, List.count_append, List.count_cons_self,
        List.count_eq_zero_of_not_mem hfield]
      omega
    · rw [fields_of_not_mem h, List.count_eq_zero_of_not_mem h]
      simp

theorem fields_of_cut {text a b c d : List Char} (h : CutAtPoints text a b c d) :
    fields 3 text = [a, b, c, d] := by
  rw [h.eq, fields_append h.first, fields_append h.second, fields_append h.third, fields_zero]

/-- A text with three points can be cut. -/
theorem exists_cut {text : List Char} (h : 3 ≤ text.count '.') :
    ∃ a b c d, CutAtPoints text a b c d := by
  -- a point that is there can be split off with what stands before it
  have split : ∀ {k : Nat} {text : List Char}, k + 1 ≤ text.count '.' →
      ∃ field rest, text = field ++ '.' :: rest ∧ '.' ∉ field ∧ k ≤ rest.count '.' := by
    intro k text hk
    obtain ⟨field, rest, rfl, hfield⟩ :=
      List.eq_append_cons_of_mem (List.count_pos_iff.mp (by omega : 0 < text.count '.'))
    rw [List.count_append, List.count_cons_self, List.count_eq_zero_of_not_mem hfield] at hk
    exact ⟨field, rest, rfl, hfield, by omega⟩
  obtain ⟨a, text, rfl, ha, h⟩ := split h
  obtain ⟨b, text, rfl, hb, h⟩ := split h
  obtain ⟨c, d, rfl, hc, _⟩ := split h
  exact ⟨a, b, c, d, rfl, ha, hb, hc⟩

end Text

namespace Mask

open Text

/-! ## What a text comes to -/

/-- What a dotted field comes to.  The digits are looked at before the number. -/
inductive FieldReading (field : List Char) : Except DecodeError UInt8 → Prop
  | octet {n : UInt8} (hdigits : IsNumeral field) (hn : amount field = n.toNat) :
      FieldReading field (.ok n)
  | noDigits (hdigits : ¬ IsNumeral field) : FieldReading field (.error .invalidDigit)
  | tooLarge (hdigits : IsNumeral field) (hlt : 255 < amount field) :
      FieldReading field (.error .octetOutOfRange)

/-- What a text comes to, by the number of its octets. -/
inductive TextReading (s : String) : Except DecodeError Mask → Prop
  /-- The empty text is the invalid mask. -/
  | empty (hsize : s.utf8ByteSize = 0) : TextReading s (.ok .invalid)
  /-- Up to three octets, all of them digits, are the length of an IPv6 mask … -/
  | length {n : UInt8} (hsize : 1 ≤ s.utf8ByteSize ∧ s.utf8ByteSize ≤ 3)
      (hdigits : IsNumeral s.toList) (hn : amount s.toList = n.toNat)
      (hle : amount s.toList ≤ 128) : TextReading s (.ok (.ipv6 n))
  /-- … unless no address is that long … -/
  | longLength (hsize : 1 ≤ s.utf8ByteSize ∧ s.utf8ByteSize ≤ 3) (hdigits : IsNumeral s.toList)
      (hlt : 128 < amount s.toList) : TextReading s (.ok .invalid)
  /-- … and nothing if one is no digit. -/
  | noLength (hsize : 1 ≤ s.utf8ByteSize ∧ s.utf8ByteSize ≤ 3) (hdigits : ¬ IsNumeral s.toList) :
      TextReading s (.error .invalidDigit)
  /-- Seven to fifteen octets need three points … -/
  | fewPoints (hsize : 7 ≤ s.utf8ByteSize ∧ s.utf8ByteSize ≤ 15) (hlt : s.toList.count '.' < 3) :
      TextReading s (.error (.fieldCount (s.toList.count '.' + 1)))
  /-- … and are then the IPv4 mask of four octets … -/
  | dotted {a b c d : List Char} {w x y z : UInt8}
      (hsize : 7 ≤ s.utf8ByteSize ∧ s.utf8ByteSize ≤ 15) (hcut : CutAtPoints s.toList a b c d)
      (ha : FieldReading a (.ok w)) (hb : FieldReading b (.ok x)) (hc : FieldReading c (.ok y))
      (hd : FieldReading d (.ok z)) : TextReading s (.ok (.ipv4 (.four w x y z)))
  /-- … unless a field is bad, the leftmost of several. -/
  | badField {a b c d : List Char} {cause : DecodeError}
      (hsize : 7 ≤ s.utf8ByteSize ∧ s.utf8ByteSize ≤ 15) (hcut : CutAtPoints s.toList a b c d)
      (hbad : FirstFailure FieldReading [a, b, c, d] cause) : TextReading s (.error cause)
  /-- No form has any other number of octets. -/
  | otherSize (hsize : (4 ≤ s.utf8ByteSize ∧ s.utf8ByteSize ≤ 6) ∨ 15 < s.utf8ByteSize) :
      TextReading s (.error (.unexpectedSize s.utf8ByteSize))

/-! ## The readers, one by one -/

theorem readNumber_eq (field : List Char) :
    readNumber field =
      if IsNumeral field then pure (amount field)
      else reject .invalidDigit (.invalidDigit (String.ofList field)) := by
  rw [readNumber, value?_eq]
  by_cases h : IsNumeral field
  · rw [if_pos h, if_pos h]
  · rw [if_neg h, if_neg h]

theorem result_readNumber (field : List Char) :
    (readNumber field).result =
      if IsNumeral field then .ok (amount field) else .error .invalidDigit := by
  rw [readNumber_eq]
  by_cases h : IsNumeral field
  · rw [if_pos h, if_pos h]; rfl
  · rw [if_neg h, if_neg h]; rfl

theorem result_readOctet (field : List Char) :
    (readOctet field).result =
      if IsNumeral field then
        if amount field ≤ 255 then .ok (UInt8.ofNat (amount field)) else .error .octetOutOfRange
      else .error .invalidDigit := by
  rw [readOctet, Decoding.result_bind, result_readNumber]
  by_cases h : IsNumeral field
  · rw [if_pos h, if_pos h]
    show Decoding.result (if _ then _ else _) = _
    split <;> rfl
  · rw [if_neg h, if_neg h]
    rfl

/-- The reader of a field finds what the field comes to. -/
theorem fieldReading_iff {field : List Char} {r : Except DecodeError UInt8} :
    FieldReading field r ↔ (readOctet field).result = r := by
  rw [result_readOctet]
  constructor
  · intro h
    cases h with
    | @octet n hdigits hn =>
      have hle : amount field ≤ 255 := by rw [hn]; exact Nat.le_of_lt_succ n.toNat_lt
      rw [if_pos hdigits, if_pos hle, hn, UInt8.ofNat_toNat]
    | noDigits hdigits => rw [if_neg hdigits]
    | tooLarge hdigits hlt => rw [if_pos hdigits, if_neg (by omega)]
  · rintro rfl
    by_cases hdigits : IsNumeral field
    · rw [if_pos hdigits]
      by_cases hle : amount field ≤ 255
      · rw [if_pos hle]
        exact .octet hdigits (UInt8.toNat_ofNat_of_lt' (Nat.lt_succ_of_le hle)).symm
      · rw [if_neg hle]
        exact .tooLarge hdigits (by omega)
    · rw [if_neg hdigits]
      exact .noDigits hdigits

/-- **What up to three digits stand for fits every word on its way to a length**: the word of 64
bits, which would refuse it without a record, and the signed one of 32 bits, which would cut it
down. -/
theorem number_of_short {s : String} {n : Nat} (hsize : s.utf8ByteSize ≤ 3)
    (h : (readNumber s.toList).result = .ok n) :
    n < UInt64.size ∧ (Int32.ofNat n).toInt = n := by
  rw [result_readNumber] at h
  split at h
  · rename_i hdigits
    cases h
    have hlength : s.toList.length ≤ 3 := by
      rw [← length_octets_of_isDigit hdigits.isDigit, length_octets]
      exact hsize
    have hlt : amount s.toList < 1000 :=
      Nat.lt_of_lt_of_le (amount_lt hdigits.isDigit) (Nat.pow_le_pow_right (by decide) hlength)
    exact ⟨Nat.lt_trans hlt (by decide), Int32.toInt_ofNat_of_lt (Nat.lt_trans hlt (by decide))⟩
  · cases h

theorem readLength_eq {s : String} (hsize : s.utf8ByteSize ≤ 3) :
    readLength s =
      if IsNumeral s.toList then pure (ofPrefix (amount s.toList) 128)
      else reject .invalidDigit (.invalidDigit s) := by
  rw [readLength, readNumber_eq, String.ofList_toList]
  by_cases h : IsNumeral s.toList
  · have hnumber : (readNumber s.toList).result = .ok (amount s.toList) := by
      rw [result_readNumber, if_pos h]
    obtain ⟨hlt, hcast⟩ := number_of_short hsize hnumber
    rw [if_pos h, if_pos h, pure_bind, if_pos hlt, hcast]
  · rw [if_neg h, if_neg h]
    rfl

theorem result_readLength {s : String} (hsize : s.utf8ByteSize ≤ 3) :
    (readLength s).result =
      if IsNumeral s.toList then
        .ok (if amount s.toList ≤ 128 then .ipv6 (UInt8.ofNat (amount s.toList)) else .invalid)
      else .error .invalidDigit := by
  rw [readLength_eq hsize]
  by_cases h : IsNumeral s.toList
  · rw [if_pos h, if_pos h, Decoding.result_pure, ofPrefix_natCast_128]
  · rw [if_neg h, if_neg h]
    rfl

/-- A text that is cut into four fields is read field by field. -/
theorem result_readDotted {s : String} {a b c d : List Char} (hcut : CutAtPoints s.toList a b c d) :
    (readDotted s).result = (do
      let w ← (readOctet a).result
      let x ← (readOctet b).result
      let y ← (readOctet c).result
      let z ← (readOctet d).result
      .ok (.ipv4 (.four w x y z))) := by
  rw [readDotted, fields_of_cut hcut]
  simp only [Decoding.result_bind, Decoding.result_pure]

theorem readDotted_eq_ok_iff {s : String} {a b c d : List Char}
    (hcut : CutAtPoints s.toList a b c d) {m : Mask} :
    (readDotted s).result = .ok m ↔
      ∃ w x y z, FieldReading a (.ok w) ∧ FieldReading b (.ok x) ∧ FieldReading c (.ok y) ∧
        FieldReading d (.ok z) ∧ m = .ipv4 (.four w x y z) := by
  simp only [result_readDotted hcut, bind_eq_ok_iff, fieldReading_iff]
  constructor
  · rintro ⟨w, ha, x, hb, y, hc, z, hd, h⟩
    exact ⟨w, x, y, z, ha, hb, hc, hd, (Except.ok.inj h).symm⟩
  · rintro ⟨w, x, y, z, ha, hb, hc, hd, rfl⟩
    exact ⟨w, ha, x, hb, y, hc, z, hd, rfl⟩

theorem readDotted_eq_error_iff {s : String} {a b c d : List Char}
    (hcut : CutAtPoints s.toList a b c d) {cause : DecodeError} :
    (readDotted s).result = .error cause ↔ FirstFailure FieldReading [a, b, c, d] cause := by
  simp only [result_readDotted hcut, bind_eq_error_iff, FirstFailure.cons_iff,
    FirstFailure.nil_iff, fieldReading_iff]
  simp

theorem readDotted_of_few {s : String} (h : s.toList.count '.' < 3) :
    readDotted s =
      reject (.fieldCount (s.toList.count '.' + 1)) (.fieldCount s (s.toList.count '.' + 1)) := by
  have hlength : (fields 3 s.toList).length = s.toList.count '.' + 1 := by
    rw [length_fields, Nat.min_eq_left (Nat.le_of_lt h)]
  unfold readDotted
  split
  · rename_i hfields
    rw [hfields] at hlength
    exact absurd hlength (by simp; omega)
  · rw [hlength]

theorem result_readDotted_of_few {s : String} (h : s.toList.count '.' < 3) :
    (readDotted s).result = .error (.fieldCount (s.toList.count '.' + 1)) := by
  rw [readDotted_of_few h]
  rfl

/-! ## Reading by the number of octets -/

theorem size_cases (s : String) :
    s.utf8ByteSize = 0 ∨ (1 ≤ s.utf8ByteSize ∧ s.utf8ByteSize ≤ 3) ∨
      (7 ≤ s.utf8ByteSize ∧ s.utf8ByteSize ≤ 15) ∨
      ((4 ≤ s.utf8ByteSize ∧ s.utf8ByteSize ≤ 6) ∨ 15 < s.utf8ByteSize) := by
  omega

theorem readText_of_empty {s : String} (h : s.utf8ByteSize = 0) : readText s = pure .invalid := by
  rw [readText, if_pos h]

theorem readText_of_short {s : String} (h : 1 ≤ s.utf8ByteSize ∧ s.utf8ByteSize ≤ 3) :
    readText s = readLength s := by
  rw [readText, if_neg (by omega), if_pos h.2]

theorem readText_of_long {s : String} (h : 7 ≤ s.utf8ByteSize ∧ s.utf8ByteSize ≤ 15) :
    readText s = readDotted s := by
  rw [readText, if_neg (by omega), if_neg (by omega), if_pos h]

theorem readText_of_other {s : String}
    (h : (4 ≤ s.utf8ByteSize ∧ s.utf8ByteSize ≤ 6) ∨ 15 < s.utf8ByteSize) :
    readText s = reject (.unexpectedSize s.utf8ByteSize) (.textLength s.utf8ByteSize) := by
  rw [readText, if_neg (by omega), if_neg (by omega), if_neg (by omega)]

theorem ofText_of_empty {s : String} (h : s.utf8ByteSize = 0) : ofText s = .ok .invalid := by
  rw [ofText, readText_of_empty h]
  rfl

theorem ofText_of_short {s : String} (h : 1 ≤ s.utf8ByteSize ∧ s.utf8ByteSize ≤ 3) :
    ofText s = (readLength s).result := by
  rw [ofText, readText_of_short h]

theorem ofText_of_long {s : String} (h : 7 ≤ s.utf8ByteSize ∧ s.utf8ByteSize ≤ 15) :
    ofText s = (readDotted s).result := by
  rw [ofText, readText_of_long h]

theorem ofText_of_other {s : String}
    (h : (4 ≤ s.utf8ByteSize ∧ s.utf8ByteSize ≤ 6) ∨ 15 < s.utf8ByteSize) :
    ofText s = .error (.unexpectedSize s.utf8ByteSize) := by
  rw [ofText, readText_of_other h]
  rfl

theorem ofText_of_textReading {s : String} {r : Except DecodeError Mask} (h : TextReading s r) :
    ofText s = r := by
  cases h with
  | empty hsize => exact ofText_of_empty hsize
  | length hsize hdigits hn hle =>
    rw [ofText_of_short hsize, result_readLength hsize.2, if_pos hdigits, if_pos hle, hn,
      UInt8.ofNat_toNat]
  | longLength hsize hdigits hlt =>
    rw [ofText_of_short hsize, result_readLength hsize.2, if_pos hdigits, if_neg (by omega)]
  | noLength hsize hdigits =>
    rw [ofText_of_short hsize, result_readLength hsize.2, if_neg hdigits]
  | fewPoints hsize hlt => rw [ofText_of_long hsize, result_readDotted_of_few hlt]
  | dotted hsize hcut ha hb hc hd =>
    rw [ofText_of_long hsize]
    exact (readDotted_eq_ok_iff hcut).mpr ⟨_, _, _, _, ha, hb, hc, hd, rfl⟩
  | badField hsize hcut hbad =>
    rw [ofText_of_long hsize]
    exact (readDotted_eq_error_iff hcut).mpr hbad
  | otherSize hsize => exact ofText_of_other hsize

theorem textReading_ofText (s : String) : TextReading s (ofText s) := by
  rcases size_cases s with hsize | hsize | hsize | hsize
  · rw [ofText_of_empty hsize]
    exact .empty hsize
  · rw [ofText_of_short hsize, result_readLength hsize.2]
    by_cases hdigits : IsNumeral s.toList
    · rw [if_pos hdigits]
      by_cases hle : amount s.toList ≤ 128
      · have hlt : amount s.toList < UInt8.size := Nat.lt_of_le_of_lt hle (by decide)
        rw [if_pos hle]
        exact .length hsize hdigits (UInt8.toNat_ofNat_of_lt' hlt).symm hle
      · rw [if_neg hle]
        exact .longLength hsize hdigits (by omega)
    · rw [if_neg hdigits]
      exact .noLength hsize hdigits
  · rw [ofText_of_long hsize]
    by_cases hpoints : s.toList.count '.' < 3
    · rw [result_readDotted_of_few hpoints]
      exact .fewPoints hsize hpoints
    · obtain ⟨a, b, c, d, hcut⟩ := exists_cut (Nat.le_of_not_lt hpoints)
      cases hr : (readDotted s).result with
      | ok m =>
        obtain ⟨w, x, y, z, ha, hb, hc, hd, rfl⟩ := (readDotted_eq_ok_iff hcut).mp hr
        exact .dotted hsize hcut ha hb hc hd
      | error cause => exact .badField hsize hcut ((readDotted_eq_error_iff hcut).mp hr)
  · rw [ofText_of_other hsize]
    exact .otherSize hsize

/-- **The readers read the language of the grammar.**  For every text, whatever characters it has,
what is read is the one thing that the text comes to by its octets, points and fields: a mask, or
the cause that the grammar gives. -/
theorem ofText_eq_iff (s : String) (r : Except DecodeError Mask) :
    ofText s = r ↔ TextReading s r := by
  constructor
  · rintro rfl
    exact textReading_ofText s
  · exact ofText_of_textReading

end Mask

end AddressMask
