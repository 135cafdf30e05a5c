import AddressMask.Proofs.Constructible

/-!
# The text form, written and read back

Writing a mask and reading the text gives the mask (`ofText_toText`), and the number of octets
written tells the family.  The other way round reading forgets something: a field may have
superfluous zeros, and every length above 128 is read as the invalid mask.  What is written after
reading is the text without the superfluous zeros (`trimmedFields`), so of all texts of a mask the
written one is the only shortest; and two texts with a mask have the same one exactly if they have
the same numbers between their points (`amounts`).

Both directions go through the byte form: the text form is the octets of the byte form in decimal
(`toText_eq`), and the fields of a text with a mask stand for those octets (`fields_of_ofText`).
-/

namespace AddressMask

open Numeral

/-! ## Texts of several fields -/

namespace Text

/-- A text without the superfluous zeros of its fields. -/
def trimmedFields (s : String) : String :=
  String.ofList (joined ((s.toList.splitOn '.').map trimmed))

/-- What the fields of a text stand for, in order. -/
def amounts (s : String) : List Nat := (s.toList.splitOn '.').map amount

theorem octets_append (xs ys : List Char) : octets (xs ++ ys) = octets xs ++ octets ys :=
  List.flatMap_append

theorem utf8ByteSize_ofList (text : List Char) :
    (String.ofList text).utf8ByteSize = (octets text).length := by
  rw [← length_octets, String.toList_ofList]

theorem joined_four (a b c d : List Char) :
    joined [a, b, c, d] = a ++ '.' :: (b ++ '.' :: (c ++ '.' :: d)) := by
  simp [joined]

/-- Fields that get shorter make the text shorter. -/
theorem joined_map_sublist {shorten : List Char → List Char}
    (h : ∀ field, (shorten field).Sublist field) (fields : List (List Char)) :
    (joined (fields.map shorten)).Sublist (joined fields) := by
  unfold joined
  induction fields with
  | nil => exact List.Sublist.refl _
  | cons field rest ih =>
    cases rest with
    | nil => simpa using h field
    | cons next rest =>
      -- the point between two fields stays
      rw [List.map_cons, List.map_cons, List.intercalate_cons_cons, List.intercalate_cons_cons]
      exact ((h field).append (List.Sublist.refl _)).append ih

theorem trimmedFields_sublist (s : String) : (trimmedFields s).toList.Sublist s.toList := by
  have h := joined_map_sublist (fun field => (trimmed_suffix field).sublist) (s.toList.splitOn '.')
  unfold joined at h
  rw [List.intercalate_splitOn] at h
  rwa [trimmedFields, String.toList_ofList]

theorem splitOn_of_cut {text a b c d : List Char} (h : CutAtPoints text a b c d) (hd : '.' ∉ d) :
    text.splitOn '.' = [a, b, c, d] := by
  rw [h.eq, List.splitOn_append_cons_self_of_not_mem h.first,
    List.splitOn_append_cons_self_of_not_mem h.second,
    List.splitOn_append_cons_self_of_not_mem h.third, List.splitOn_eq_singleton hd]

end Text

namespace Mask

open Text

/-! ## Writing, then reading -/

theorem fieldReading_octetDecimal (b : UInt8) : FieldReading (octetDecimal b) (.ok b) :=
  .octet (isNumeral_octetDecimal b) (amount_octetDecimal b)

/-- The numeral of an octet is one to three octets long. -/
theorem size_octetDecimal (b : UInt8) :
    1 ≤ (octets (octetDecimal b)).length ∧ (octets (octetDecimal b)).length ≤ 3 := by
  rw [length_octets_of_isDigit (isNumeral_octetDecimal b).isDigit]
  exact length_octetDecimal b

theorem size_toText_ipv6 (length : UInt8) :
    1 ≤ (toText (.ipv6 length)).utf8ByteSize ∧ (toText (.ipv6 length)).utf8ByteSize ≤ 3 := by
  rw [toText_ipv6, utf8ByteSize_ofList]
  exact size_octetDecimal length

theorem size_toText_ipv4 (octets : Octets 4) :
    7 ≤ (toText (.ipv4 octets)).utf8ByteSize ∧ (toText (.ipv4 octets)).utf8ByteSize ≤ 15 := by
  obtain ⟨a, b, c, d, rfl⟩ := octets.exists_four
  have ha := size_octetDecimal a
  have hb := size_octetDecimal b
  have hc := size_octetDecimal c
  have hd := size_octetDecimal d
  have hpoint : (String.utf8EncodeChar '.').length = 1 := by decide
  rw [toText_ipv4, utf8ByteSize_ofList, Octets.toList_four]
  simp only [List.map_cons, List.map_nil, joined_four, octets_append, octets_cons,
    List.length_append, hpoint]
  omega

theorem textReading_toText {m : Mask} (h : m.WellFormed) : TextReading m.toText (.ok m) := by
  cases m with
  | invalid => exact .empty rfl
  | ipv4 octets =>
    have hsize := size_toText_ipv4 octets
    obtain ⟨a, b, c, d, rfl⟩ := octets.exists_four
    have hpoint (b : UInt8) : '.' ∉ octetDecimal b := (isNumeral_octetDecimal b).not_mem_point
    refine .dotted hsize ⟨?_, hpoint a, hpoint b, hpoint c⟩ (fieldReading_octetDecimal a)
      (fieldReading_octetDecimal b) (fieldReading_octetDecimal c) (fieldReading_octetDecimal d)
    rw [toText_ipv4, String.toList_ofList, Octets.toList_four]
    exact joined_four _ _ _ _
  | ipv6 length =>
    have htext : (toText (.ipv6 length)).toList = octetDecimal length := by
      rw [toText_ipv6, String.toList_ofList]
    have hamount : amount (toText (.ipv6 length)).toList = length.toNat := by
      rw [htext, amount_octetDecimal]
    refine .length (size_toText_ipv6 length) ?_ hamount ?_
    · rw [htext]
      exact isNumeral_octetDecimal length
    · rw [hamount]
      exact UInt8.le_iff_toNat_le.mp h

/-- **Written and read back, a mask is the same**, and the number of octets of its text alone tells
the family: there are none for the invalid mask, seven to fifteen for an IPv4 mask and one to three
for an IPv6 mask. -/
theorem ofText_toText {m : Mask} (h : m.Constructible) :
    ofText m.toText = .ok m ∧ parse m.toText = .ok m ∧
      (m.toText = "" ↔ m = .invalid) ∧
      ((7 ≤ m.toText.utf8ByteSize ∧ m.toText.utf8ByteSize ≤ 15) ↔ m.isIPv4 = true) ∧
      ((1 ≤ m.toText.utf8ByteSize ∧ m.toText.utf8ByteSize ≤ 3) ↔ m.isIPv6 = true) := by
  have hread : ofText m.toText = .ok m := ofText_of_textReading (textReading_toText h.wellFormed)
  refine ⟨hread, hread, ?_⟩
  rw [← String.utf8ByteSize_eq_zero_iff]
  cases m with
  | invalid => decide
  | ipv4 octets =>
    obtain ⟨hlo, hhi⟩ := size_toText_ipv4 octets
    exact ⟨iff_of_false (by omega) nofun, iff_of_true ⟨hlo, hhi⟩ rfl, iff_of_false (by omega) nofun⟩
  | ipv6 length =>
    obtain ⟨hlo, hhi⟩ := size_toText_ipv6 length
    exact ⟨iff_of_false (by omega) nofun, iff_of_false (by omega) nofun, iff_of_true ⟨hlo, hhi⟩ rfl⟩

/-- Four octets that are no prefix, one of them with a zero inside its numeral. -/
theorem ofText_toText_of_inner_zero :
    (Mask.ipv4 #v[101, 0, 10, 255]).Constructible ∧
      ofText (toText (.ipv4 #v[101, 0, 10, 255])) = .ok (.ipv4 #v[101, 0, 10, 255]) :=
  ⟨.ipv4 _, (ofText_toText (.ipv4 #v[101, 0, 10, 255])).1⟩

/-! ## Reading, then writing -/

/-- The fields of a text with a mask are numerals of the octets in the byte form. -/
theorem fields_of_ofText {s : String} {m : Mask} (h : ofText s = .ok m) (hv : m.isValid = true) :
    (∀ field ∈ s.toList.splitOn '.', IsNumeral field) ∧
      amounts s = m.toBinary.map UInt8.toNat := by
  have hreading := textReading_ofText s
  rw [h] at hreading
  unfold amounts
  cases hreading with
  | empty _ => cases hv
  | longLength _ _ _ => cases hv
  | length _ hdigits hn _ =>
    rw [List.splitOn_eq_singleton hdigits.not_mem_point]
    exact ⟨List.forall_mem_singleton.mpr hdigits, congrArg (fun n => [n]) hn⟩
  | dotted _ hcut ha hb hc hd =>
    obtain ⟨hna, hwa⟩ := ha
    obtain ⟨hnb, hwb⟩ := hb
    obtain ⟨hnc, hwc⟩ := hc
    obtain ⟨hnd, hwd⟩ := hd
    -- the last field is a numeral as well, so there is no fourth point in it
    rw [splitOn_of_cut hcut hnd.not_mem_point]
    constructor
    · intro field hfield
      simp only [List.mem_cons, List.not_mem_nil, or_false] at hfield
      obtain rfl | rfl | rfl | rfl := hfield <;> assumption
    · rw [toBinary_ipv4, Octets.toList_four]
      simp only [List.map_cons, List.map_nil, hwa, hwb, hwc, hwd]

/-- What is written for a mask is any text of it without the superfluous zeros. -/
theorem toText_of_ofText {s : String} {m : Mask} (h : ofText s = .ok m) (hv : m.isValid = true) :
    m.toText = trimmedFields s := by
  obtain ⟨hnumerals, hamounts⟩ := fields_of_ofText h hv
  -- every octet is written by its number, and the number is that of its field
  have hfields :=
    calc m.toBinary.map octetDecimal
      _ = (m.toBinary.map UInt8.toNat).map decimal := by
        rw [List.map_map]
        exact List.map_congr_left fun b _ => octetDecimal_eq_decimal b
      _ = (s.toList.splitOn '.').map (decimal ∘ amount) := by
        rw [← hamounts, amounts, List.map_map]
      _ = (s.toList.splitOn '.').map trimmed :=
        List.map_congr_left fun field hfield => decimal_amount (hnumerals field hfield)
  rw [toText_eq, hfields, trimmedFields]

/-- Taking zeros away makes a text shorter, unless there are none. -/
theorem size_trimmedFields (s : String) :
    (trimmedFields s).utf8ByteSize ≤ s.utf8ByteSize ∧
      ((trimmedFields s).utf8ByteSize = s.utf8ByteSize → s = trimmedFields s) := by
  obtain ⟨hle, hall⟩ := length_octets_of_sublist (trimmedFields_sublist s)
  rw [length_octets, length_octets] at hle hall
  exact ⟨hle, fun he => (String.toList_inj.mp (hall he)).symm⟩

/-- Nothing is shorter than what is written for the mask that a text has. -/
theorem size_toText_of_ofText {s : String} {m : Mask} (h : ofText s = .ok m) :
    m.toText.utf8ByteSize ≤ s.utf8ByteSize ∧
      (m.toText.utf8ByteSize = s.utf8ByteSize → s = m.toText) := by
  cases hv : m.isValid with
  | true =>
    rw [toText_of_ofText h hv]
    exact size_trimmedFields s
  | false =>
    obtain rfl := isValid_eq_false_iff.mp hv
    exact ⟨Nat.zero_le _, fun he => String.utf8ByteSize_eq_zero_iff.mp he.symm⟩

/-- Texts of masks have one mask exactly if their fields stand for the same numbers. -/
theorem eq_iff_amounts {s t : String} {a b : Mask} (hs : ofText s = .ok a) (ht : ofText t = .ok b)
    (ha : a.isValid = true) (hb : b.isValid = true) : a = b ↔ amounts s = amounts t := by
  rw [(fields_of_ofText hs ha).2, (fields_of_ofText ht hb).2]
  constructor
  · rintro rfl
    rfl
  · intro h
    exact toBinary_injective ((List.map_inj_right fun _ _ => UInt8.toNat_inj.mp).mp h)

/-- **Read and written again, a text loses its superfluous zeros**, and all of it if it is read as
the invalid mask.  What is written is a text of the same mask, is shorter than every other one, and
two texts with masks have the same one exactly if they have as many fields and each stands for the
same number. -/
theorem toText_canonical {s t : String} {a b : Mask} (hs : ofText s = .ok a)
    (ht : ofText t = .ok b) :
    a.toText = (if a.isValid then trimmedFields s else "") ∧
      ofText a.toText = .ok a ∧
      a.toText.utf8ByteSize ≤ s.utf8ByteSize ∧
      (a.toText.utf8ByteSize = s.utf8ByteSize → s = a.toText) ∧
      (a.isValid = true → b.isValid = true → (a = b ↔ amounts s = amounts t)) := by
  obtain ⟨hle, hall⟩ := size_toText_of_ofText hs
  refine ⟨?_, ofText_of_textReading (textReading_toText (wellFormed_of_ofText hs)), hle, hall,
    eq_iff_amounts hs ht⟩
  by_cases hv : a.isValid = true
  · rw [if_pos hv, toText_of_ofText hs hv]
  · obtain rfl := isValid_eq_false_iff.mp (Bool.eq_false_iff.mpr hv)
    rfl

/-- Two texts of one mask, with zeros in different fields. -/
theorem toText_canonical_of_zeros :
    ofText "010.1.000.255" = .ok (.ipv4 #v[10, 1, 0, 255]) ∧
      ofText "10.01.0.255" = .ok (.ipv4 #v[10, 1, 0, 255]) ∧
      toText (.ipv4 #v[10, 1, 0, 255]) = trimmedFields "010.1.000.255" ∧
      amounts "010.1.000.255" = amounts "10.01.0.255" := by
  have hs : ofText "010.1.000.255" = .ok (.ipv4 #v[10, 1, 0, 255]) := by rfl
  have ht : ofText "10.01.0.255" = .ok (.ipv4 #v[10, 1, 0, 255]) := by rfl
  obtain ⟨htext, -, -, -, heq⟩ := toText_canonical hs ht
  exact ⟨hs, ht, htext, (heq rfl rfl).mp rfl⟩

end Mask

end AddressMask
