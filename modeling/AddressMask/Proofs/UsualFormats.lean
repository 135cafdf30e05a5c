import AddressMask.Formats
import AddressMask.Proofs.JsonRoundTrip
import Mathlib.Data.List.Basic

/-!
# The reader and the writer of this library

`Formats` says what masks rely on.  That something is like that has to be shown of a reader and a
writer, and those of this library are: what they write is made of the parts it has to be made of,
character by character, and what was written is read back (`Json.parse?_render`).
-/

namespace AddressMask

namespace Json

theorem toList_render (value : Json) : value.render.toList = value.renderChars := by
  rw [render, String.toList_ofList]

theorem commaSeparated_toList (items : List String) :
    commaSeparated (items.map String.toList) = (",".intercalate items).toList := by
  rw [String.toList_intercalate]
  rfl

/-- A string in which nothing has to be escaped stands between its quotes as it is. -/
theorem render_string {s : String} (h : ∀ c ∈ s.toList, 0x20 ≤ c.toNat ∧ c ≠ '"' ∧ c ≠ '\\') :
    (Json.string s).render = "\"" ++ s ++ "\"" := by
  have hplain : ∀ c ∈ s.toList, escape c = [c] := fun c hc =>
    escape_of_ne (h c hc).2.1 (h c hc).2.2 (h c hc).1
  rw [← String.toList_inj, toList_render, renderChars, renderString, List.flatMap_congr hplain,
    List.flatMap_singleton', String.toList_append, String.toList_append]
  rfl

theorem render_natural (n : Nat) : (Json.integer n).render = toString n := by
  rw [← String.toList_inj, toList_render, renderChars]
  rfl

/-- The text of an array is made of the texts of its items. -/
theorem render_array (items : List Json) :
    (Json.array items).render = "[" ++ ",".intercalate (items.map render) ++ "]" := by
  have hitems : items.map renderChars = (items.map render).map String.toList := by
    rw [List.map_map]
    exact List.map_congr_left fun item _ => (toList_render item).symm
  rw [← String.toList_inj, toList_render, renderChars, renderItems_eq_map, hitems,
    commaSeparated_toList, String.toList_append, String.toList_append]
  rfl

/-- The text of an object is made of the texts of its members. -/
theorem render_object (members : List (String × Json)) :
    (Json.object members).render =
      "\x7b" ++ ",".intercalate (members.map fun member =>
        (Json.string member.1).render ++ ":" ++ member.2.render) ++ "\x7d" := by
  have hmember (member : String × Json) :
      renderString member.1 ++ ':' :: member.2.renderChars =
        ((Json.string member.1).render ++ ":" ++ member.2.render).toList := by
    rw [String.toList_append, String.toList_append, toList_render, toList_render, renderChars,
      List.append_assoc]
    rfl
  have hmembers : renderMembers members =
      (members.map fun member =>
        (Json.string member.1).render ++ ":" ++ member.2.render).map String.toList := by
    rw [renderMembers_eq_map, List.map_map]
    exact List.map_congr_left fun member _ => hmember member
  rw [← String.toList_inj, toList_render, renderChars, hmembers, commaSeparated_toList,
    String.toList_append, String.toList_append]
  rfl

end Json

/-- **This library has what masks rely on.** -/
def Formats.usual : Formats where
  describe := Json.describe
  refusal := PayloadError.message
  streamRefusal := FrameError.message
  write := Json.render
  read? := Json.parse?
  refusal_undecodable _ := rfl
  refusal_unexpectedKind _ _ := rfl
  streamRefusal_undecodable _ := rfl
  streamRefusal_truncated := rfl
  write_string _ := Json.render_string
  write_natural := Json.render_natural
  write_array := Json.render_array
  write_object := Json.render_object
  read?_write _ := Json.parse?_render

end AddressMask
