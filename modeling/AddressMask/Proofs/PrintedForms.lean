import AddressMask.Proofs.EntryPoints

/-!
# Printed masks

A mask is printed in two ways, for people and for diagnostics.  Neither is the text form: people get
a word for the invalid mask, which has an empty text form, and diagnostics say besides that it is a
mask that they show.

The word is twelve octets long, as a dotted text may be, and is no text form only because there are
no points in it.  So what is printed for people is read as the mask, or refused if the mask is
invalid (`parse_display`).  With that a refusal stands for one mask as well (`getD_parse_display`),
and masks are told by what is printed of them.  Diagnostics put the same into brackets, and nothing
at all into brackets for the invalid mask (`debug_eq_iff`), so they tell masks as well.
-/

namespace AddressMask.Mask

variable {m a b : Mask} {text : String}

theorem eq_invalid_or_isValid (m : Mask) : m = .invalid ∨ m.isValid = true := by
  cases m with
  | invalid => exact Or.inl rfl
  | ipv4 octets => exact Or.inr rfl
  | ipv6 length => exact Or.inr rfl

/-! ## For people -/

/-- The word for the invalid mask is as long as a dotted text, but has only one field. -/
theorem parse_display_invalid : parse (display .invalid) = .error (.fieldCount 1) :=
  ofText_of_textReading (.fewPoints (by decide) (by decide))

/-- **What is printed of a mask is read as that mask**, and refused if it is the invalid one. -/
theorem parse_display (h : m.Constructible) :
    parse m.display = if m.isValid then .ok m else .error (.fieldCount 1) := by
  rcases eq_invalid_or_isValid m with rfl | hvalid
  · exact parse_display_invalid
  · rw [if_pos hvalid, display_of_isValid hvalid]
    exact ofText_of_constructible h

/-- A refusal stands for the invalid mask. -/
theorem getD_parse_display (h : m.Constructible) :
    (parse m.display).toOption.getD .invalid = m := by
  rw [parse_display h]
  rcases eq_invalid_or_isValid m with rfl | hvalid
  · rfl
  · rw [if_pos hvalid]
    rfl

theorem display_inj (ha : a.Constructible) (hb : b.Constructible) :
    a.display = b.display ↔ a = b := by
  refine ⟨fun h => ?_, congrArg display⟩
  calc a
    _ = (parse a.display).toOption.getD .invalid := (getD_parse_display ha).symm
    _ = (parse b.display).toOption.getD .invalid := by rw [h]
    _ = b := getD_parse_display hb

/-! ## In diagnostics -/

theorem debug_of_isValid (h : m.isValid = true) : m.debug = "Mask(" ++ m.display ++ ")" := by
  cases m with
  | invalid => cases h
  | ipv4 octets => rfl
  | ipv6 length => rfl

/-- Where other masks have their bracket there is a colon for the invalid one. -/
theorem debug_invalid_ne (text : String) : debug .invalid ≠ "Mask(" ++ text ++ ")" := by
  intro h
  have hfifth : (debug .invalid).toList[4]? = ("Mask(" ++ text ++ ")").toList[4]? := by rw [h]
  rw [String.toList_append, String.toList_append] at hfifth
  cases hfifth

/-- **What stands in brackets is what is printed for people**, and nothing does for the invalid
mask. -/
theorem debug_eq_iff : m.debug = "Mask(" ++ text ++ ")" ↔ m.isValid = true ∧ m.display = text := by
  rcases eq_invalid_or_isValid m with rfl | hvalid
  · exact iff_of_false (debug_invalid_ne text) nofun
  · rw [debug_of_isValid hvalid, String.append_left_inj, String.append_right_inj,
      and_iff_right hvalid]

theorem debug_inj (ha : a.Constructible) (hb : b.Constructible) : a.debug = b.debug ↔ a = b := by
  refine ⟨fun h => ?_, congrArg debug⟩
  rcases eq_invalid_or_isValid a with rfl | hvalid
  · rcases eq_invalid_or_isValid b with rfl | hother
    · rfl
    · exact absurd (h.trans (debug_of_isValid hother)) (debug_invalid_ne b.display)
  · obtain ⟨-, hshown⟩ := debug_eq_iff.mp (h.symm.trans (debug_of_isValid hvalid))
    exact (display_inj ha hb).mp hshown.symm

/-- **What is printed of a mask tells which mask it is**, for people as well as in diagnostics: of
two masks that can be made the same is printed only if they are the same.  What is printed for
people is read as the mask if the mask is valid.  For the invalid mask it is refused as a text of
one field in place of four, so it is read as no mask.  In diagnostics the same stands in brackets
behind the name of the type if the mask is valid, and for the invalid mask nothing is printed in
that shape. -/
theorem printed_forms_identify :
    (∀ a b : Mask, a.Constructible → b.Constructible →
      (a.display = b.display ↔ a = b) ∧ (a.debug = b.debug ↔ a = b)) ∧
    (∀ m : Mask, m.Constructible → m.isValid = true → parse m.display = .ok m) ∧
    parse (display .invalid) = .error (.fieldCount 1) ∧
    (∀ m : Mask, m.isValid = true → m.debug = "Mask(" ++ m.display ++ ")") ∧
    (∀ text : String, debug .invalid ≠ "Mask(" ++ text ++ ")") := by
  refine ⟨fun a b ha hb => ⟨display_inj ha hb, debug_inj ha hb⟩, fun m hm hvalid => ?_,
    parse_display_invalid, fun m => debug_of_isValid, debug_invalid_ne⟩
  rw [parse_display hm, if_pos hvalid]

/-- Octets that differ only in where a digit stands, and the mask of no ones beside the invalid one.
-/
theorem printed_forms_identify_of_digits :
    display (.ipv4 #v[1, 11, 0, 0]) ≠ display (.ipv4 #v[11, 1, 0, 0]) ∧
      (Mask.ipv6 0).Constructible ∧ debug (.ipv6 0) ≠ debug .invalid ∧
      parse (display (.ipv6 0)) = .ok (.ipv6 0) ∧
      debug (.ipv4 #v[1, 11, 0, 0]) = "Mask(" ++ display (.ipv4 #v[1, 11, 0, 0]) ++ ")" := by
  obtain ⟨htold, hread, -, hshown, -⟩ := printed_forms_identify
  have hnone : (Mask.ipv6 0).Constructible := constructible_iff.mpr (by decide)
  obtain ⟨hdisplay, -⟩ := htold _ _ (.ipv4 #v[1, 11, 0, 0]) (.ipv4 #v[11, 1, 0, 0])
  obtain ⟨-, hdebug⟩ := htold (.ipv6 0) .invalid hnone .default
  refine ⟨fun h => ?_, hnone, fun h => ?_, hread _ hnone rfl, hshown _ rfl⟩
  · exact absurd (hdisplay.mp h) (by decide)
  · exact absurd (hdebug.mp h) (by decide)

end AddressMask.Mask
