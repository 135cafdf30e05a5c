import AddressMask.Proofs.EntryPoints
import AddressMask.Proofs.LastPositions
import Mathlib.Data.List.Nodup

/-!
# Masks in JSON

A text form has digits and points in it and nothing else (`isDigit_or_point_of_mem_toText`), so it
stands between its quotes as it is.  The JSON text of a list is therefore known to the last
character, and reading takes it apart again.

In a table the text forms are names, and a table would lose an entry if two masks had one name.  But
a name is read back as the mask that it was written for, so different masks have different names
(`toText_injective`).  The entries keep the order of the masks, which is not the order of the names.
-/

namespace AddressMask

/-- What is in a list with separators is in a separator or in one of the items. -/
theorem mem_of_mem_intercalate {α : Type} {x : α} {separator : List α} {items : List (List α)}
    (h : x ∈ separator.intercalate items) : x ∈ separator ∨ ∃ item ∈ items, x ∈ item := by
  induction items with
  | nil => exact absurd h List.not_mem_nil
  | cons item items ih =>
    by_cases hitems : items = []
    · rw [hitems, List.intercalate_singleton] at h
      exact Or.inr ⟨item, List.mem_cons_self, h⟩
    · rw [List.intercalate_cons_of_ne_nil hitems, List.mem_append, List.mem_append] at h
      rcases h with (h | h) | h
      · exact Or.inr ⟨item, List.mem_cons_self, h⟩
      · exact Or.inl h
      · rcases ih h with h | ⟨later, hlater, h⟩
        · exact Or.inl h
        · exact Or.inr ⟨later, List.mem_cons_of_mem item hlater, h⟩

namespace Json

/-- Where names are not repeated, each member is found by its name. -/
theorem member?_of_mem {members : List (String × Json)} (h : (members.map Prod.fst).Nodup)
    {name : String} {value : Json} (hmem : (name, value) ∈ members) :
    (Json.object members).member? name = some value := by
  have hfound : (members.reverse.find? (·.1 == name)).isSome :=
    List.find?_isSome.mpr ⟨(name, value), List.mem_reverse.mpr hmem, beq_self_eq_true name⟩
  obtain ⟨member, hmember⟩ := Option.isSome_iff_exists.mp hfound
  have hname := List.find?_some hmember
  rw [beq_iff_eq] at hname
  have hsame : member = (name, value) :=
    List.inj_on_of_nodup_map h (List.mem_reverse.mp (List.mem_of_find?_eq_some hmember)) hmem hname
  rw [member?, hmember, hsame]
  rfl

end Json

namespace Mask

/-! ## Text forms in JSON -/

theorem isDigit_or_point_of_mem_toText {m : Mask} {c : Char} (h : c ∈ m.toText.toList) :
    c.isDigit = true ∨ c = '.' := by
  rw [toText_eq, String.toList_ofList] at h
  rcases mem_of_mem_intercalate h with h | ⟨field, hfield, h⟩
  · exact Or.inr (List.mem_singleton.mp h)
  · obtain ⟨b, -, rfl⟩ := List.mem_map.mp hfield
    exact Or.inl ((Numeral.isNumeral_octetDecimal b).isDigit c h)

/-- A text form needs no escapes. -/
theorem plain_of_mem_toText {m : Mask} {c : Char} (h : c ∈ m.toText.toList) :
    0x20 ≤ c.toNat ∧ c ≠ '"' ∧ c ≠ '\\' := by
  rcases isDigit_or_point_of_mem_toText h with hdigit | rfl
  · have hlow := (Char.isDigit_iff_toNat.mp hdigit).1
    refine ⟨Nat.le_trans (by decide) hlow, ?_, ?_⟩
    · rintro rfl
      cases hdigit
    · rintro rfl
      cases hdigit
  · decide

/-- Masks that can be made have different text forms. -/
theorem toText_injective {a b : Mask} (ha : a.Constructible) (hb : b.Constructible)
    (h : a.toText = b.toText) : a = b := by
  have hread := ofText_of_constructible ha
  rw [h, ofText_of_constructible hb] at hread
  exact (Except.ok.inj hread).symm

section Formats

variable (formats : Formats)

/-! ## Lists -/

/-- A text form between quotes. -/
def quotedText (m : Mask) : String := "\"" ++ m.toText ++ "\""

theorem write_toText (m : Mask) : formats.write (.string m.toText) = quotedText m :=
  formats.write_string m.toText fun _ => plain_of_mem_toText

theorem write_listToJson (masks : List Mask) :
    formats.write (listToJson masks) = "[" ++ ",".intercalate (masks.map quotedText) ++ "]" := by
  rw [listToJson, formats.write_array, List.map_map]
  congr 3
  exact List.map_congr_left fun m _ => write_toText formats m

theorem backslash_not_mem_quotedText (m : Mask) : '\\' ∉ (quotedText m).toList := by
  intro h
  rw [quotedText, String.toList_append, String.toList_append, List.mem_append, List.mem_append] at h
  rcases h with (h | h) | h
  · exact absurd h (by decide)
  · exact (plain_of_mem_toText h).2.2 rfl
  · exact absurd h (by decide)

/-- No character of the text of a list is escaped. -/
theorem backslash_not_mem_write (masks : List Mask) :
    '\\' ∉ (formats.write (listToJson masks)).toList := by
  intro h
  rw [write_listToJson, String.toList_append, String.toList_append, List.mem_append,
    List.mem_append, String.toList_intercalate] at h
  rcases h with (h | h) | h
  · exact absurd h (by decide)
  · rcases mem_of_mem_intercalate h with h | ⟨item, hitem, h⟩
    · exact absurd h (by decide)
    · rw [List.map_map] at hitem
      obtain ⟨m, -, rfl⟩ := List.mem_map.mp hitem
      exact backslash_not_mem_quotedText m h
  · exact absurd h (by decide)

theorem read?_listToJson (masks : List Mask) :
    formats.read? (formats.write (listToJson masks)) = some (listToJson masks) := by
  apply formats.read?_write
  refine .array fun item hitem => ?_
  obtain ⟨m, -, rfl⟩ := List.mem_map.mp hitem
  rw [toJson_eq]
  exact .string m.toText

theorem listOfJson_listToJson {masks : List Mask} (h : ∀ m ∈ masks, m.Constructible) :
    listOfJson (listToJson masks) = .ok masks :=
  mapM_map_eq_ok fun m hm => ofPayload_toPayload (h m hm) true

/-! ## Tables -/

/-- An entry of a table as a member of an object. -/
def memberOf (entry : Mask × Nat) : String × Json := (entry.1.toText, .integer entry.2)

/-- The text of that member. -/
def memberText (entry : Mask × Nat) : String := quotedText entry.1 ++ ":" ++ toString entry.2

/-- The object of a table. -/
def tableToJson (entries : List (Mask × Nat)) : Json := .object (entries.map memberOf)

/-- Every mask has a name, so a table is always written. -/
theorem positionsToJson_eq (masks : List Mask) :
    positionsToJson masks = some (tableToJson (tableOf masks).toList) := by
  have hmembers : (lastPositions masks).mapM positionMember? =
      some ((lastPositions masks).map memberOf) := List.mapM_pure
  rw [positionsToJson, hmembers, lastPositions_eq]
  rfl

theorem write_tableToJson (entries : List (Mask × Nat)) :
    formats.write (tableToJson entries) =
      "\x7b" ++ ",".intercalate (entries.map memberText) ++ "\x7d" := by
  rw [tableToJson, formats.write_object, List.map_map]
  congr 3
  refine List.map_congr_left fun entry _ => ?_
  show formats.write (.string entry.1.toText) ++ ":" ++ formats.write (.integer entry.2) = _
  rw [write_toText, formats.write_natural, memberText]

/-- The order of the members is not that of their names. -/
example : (positionsToJson [.ipv4 #v[10, 0, 0, 0], .ipv6 0, .ipv4 #v[9, 0, 0, 0]]).map Json.render =
    some "\x7b\"9.0.0.0\":2,\"10.0.0.0\":0,\"0\":1\x7d" := by cbv

theorem read?_tableToJson {masks : List Mask} (h : masks.length ≤ UInt64.size) :
    formats.read? (formats.write (tableToJson (tableOf masks).toList)) =
      some (tableToJson (tableOf masks).toList) := by
  apply formats.read?_write
  refine .object fun member hmember => ?_
  obtain ⟨⟨m, i⟩, hentry, rfl⟩ := List.mem_map.mp hmember
  have hlast := ((isTable_tableOf masks).mem_iff m i).mp hentry
  have hlt := (List.getElem?_eq_some_iff.mp hlast.1).1
  exact .integer (by omega) (by omega)

/-- The names of a table are different, as the masks are. -/
theorem nodup_names {masks : List Mask} {entries : List (Mask × Nat)} (h : IsTable masks entries)
    (hmade : ∀ m ∈ masks, m.Constructible) : (entries.map fun entry => entry.1.toText).Nodup := by
  refine List.pairwise_map.mpr (h.pairwise_ne.imp_of_mem fun {a b} ha hb hne he => hne ?_)
  have hmem {entry : Mask × Nat} (hentry : entry ∈ entries) : entry.1 ∈ masks :=
    exists_isLastPosition_iff.mp ⟨entry.2, (h.mem_iff entry.1 entry.2).mp hentry⟩
  exact toText_injective (hmade a.1 (hmem ha)) (hmade b.1 (hmem hb)) he

theorem member?_tableToJson {masks : List Mask} (hmade : ∀ m ∈ masks, m.Constructible)
    {m : Mask} {i : Nat} (h : (m, i) ∈ (tableOf masks).toList) :
    (tableToJson (tableOf masks).toList).member? m.toText = some (.integer i) := by
  refine Json.member?_of_mem ?_ (List.mem_map_of_mem (f := memberOf) h)
  rw [List.map_map]
  exact nodup_names (isTable_tableOf masks) hmade

/-! ## Both forms -/

/-- **Masks in JSON**, whatever its texts are like beyond what masks rely on.  The text of a list is
the text forms of its masks between quotes, with commas between them and brackets around them;
nothing in it is escaped, and it is read back as the list.

The masks that are entered into a table with their positions, one after the other, make an object
with a member for each mask of the list and no more.  The members ascend as the masks do, and their
names are different.  Each name is read as its mask, and what is found under it is the last position
of the mask.  The text of the object is read back as the object if all positions fit a word. -/
theorem json_forms {masks : List Mask} (h : ∀ m ∈ masks, m.Constructible) :
    (formats.write (listToJson masks) = "[" ++ ",".intercalate (masks.map quotedText) ++ "]" ∧
      '\\' ∉ (formats.write (listToJson masks)).toList ∧
      (formats.read? (formats.write (listToJson masks))).map listOfJson = some (.ok masks)) ∧
    let entries := (tableOf masks).toList
    let table := tableToJson entries
    positionsToJson masks = some table ∧
      formats.write table = "\x7b" ++ ",".intercalate (entries.map memberText) ++ "\x7d" ∧
      (∀ m, (∃ i, (m, i) ∈ entries) ↔ m ∈ masks) ∧
      (entries.Pairwise fun a b => compare a.1 b.1 = .lt ∧ a.1.toText ≠ b.1.toText) ∧
      (∀ m i, (m, i) ∈ entries → ofText m.toText = .ok m ∧ IsLastPosition m masks i ∧
        table.member? m.toText = some (.integer i)) ∧
      (masks.length ≤ UInt64.size → formats.read? (formats.write table) = some table) := by
  have htable := isTable_tableOf masks
  refine ⟨⟨write_listToJson formats masks, backslash_not_mem_write formats masks, ?_⟩,
    positionsToJson_eq masks, write_tableToJson formats _, fun m => ?_, ?_, fun m i hmem => ?_,
    read?_tableToJson formats⟩
  · rw [read?_listToJson, Option.map_some, listOfJson_listToJson h]
  · simp only [htable.mem_iff, exists_isLastPosition_iff]
  · exact htable.ascending.and (List.pairwise_map.mp (nodup_names htable h))
  · have hlast := (htable.mem_iff m i).mp hmem
    have hm := exists_isLastPosition_iff.mp ⟨i, hlast⟩
    exact ⟨ofText_of_constructible (h m hm), hlast, member?_tableToJson h hmem⟩

end Formats

/-- A mask that stands in a list twice, written and read by this library. -/
theorem json_forms_of_repeated :
    let formats := Formats.usual
    let masks : List Mask := [.ipv4 #v[10, 0, 0, 0], .ipv6 0, .ipv4 #v[9, 0, 0, 0], .ipv6 0]
    let table := tableToJson (tableOf masks).toList
    (formats.read? (formats.write (listToJson masks))).map listOfJson = some (.ok masks) ∧
      positionsToJson masks = some table ∧
      formats.read? (formats.write table) = some table ∧
      table.member? "0" = some (.integer 3) := by
  intro formats masks table
  have hmade : ∀ m ∈ masks, m.Constructible := by
    simp only [constructible_iff]
    decide
  obtain ⟨⟨-, -, hlist⟩, htable, -, hkeys, -, hentries, hread⟩ := json_forms formats hmade
  obtain ⟨i, hi⟩ := (hkeys (.ipv6 0)).mpr (by decide)
  obtain ⟨-, hlast, hmember⟩ := hentries (.ipv6 0) i hi
  have hle : 3 ≤ i := Nat.le_of_not_lt fun hlt => hlast.2 3 hlt rfl
  have hlt : i < 4 := (List.getElem?_eq_some_iff.mp hlast.1).1
  obtain rfl : i = 3 := by omega
  exact ⟨hlist, htable, hread (by decide), hmember⟩

end Mask

end AddressMask
