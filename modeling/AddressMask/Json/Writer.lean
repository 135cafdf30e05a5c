import AddressMask.Decimal.Layout
import AddressMask.Json.Escape
import AddressMask.Json.Value

/-!
# Writing JSON

The compact form of a value: no blanks, members in their order, and in a string only what must be
escaped is escaped. Printable texts without quote and backslash are therefore written as they are.
A real has as few digits as tell it from its neighbours.
-/

namespace AddressMask.Json

/-- One character of a written string. A control below U+0020 that has no short escape is written as
four hexadecimal digits. -/
def escape (c : Char) : List Char :=
  match shortEscape? c with
  | some letter => ['\\', letter]
  | none =>
    if c.toNat < 0x20 then ['\\', 'u', '0', '0'] ++ Numeral.hexOctet c.toNat.toUInt8 else [c]

theorem escape_of_ne {c : Char} (hq : c ≠ '"') (hb : c ≠ '\\') (h : 0x20 ≤ c.toNat) :
    escape c = [c] := by
  rw [escape, shortEscape?_eq_none hq hb h]
  exact if_neg (Nat.not_lt.2 h)

/-- A string between its quotes. -/
def renderString (s : String) : List Char := '"' :: (s.toList.flatMap escape ++ ['"'])

/-- Reals are written positionally from `0.00001` on and below `10 ^ 16`. -/
def realLayout : Decimal.Layout := ⟨-5, 16⟩

/-- The text of a real. -/
def renderReal (x : Float) : List Char := realLayout.writeFloat x

/-- Items with commas between them. -/
def commaSeparated (items : List (List Char)) : List Char := (items.intersperse [',']).flatten

mutual

/-- The characters of the compact form. -/
def renderChars : Json → List Char
  | .null => "null".toList
  | .boolean b => (if b then "true" else "false").toList
  | .integer n => (toString n).toList
  | .real x => renderReal x
  | .string s => renderString s
  | .array items => '[' :: (commaSeparated (renderItems items) ++ [']'])
  | .object members => '\x7b' :: (commaSeparated (renderMembers members) ++ ['\x7d'])

/-- The compact forms of the items of an array. -/
def renderItems : List Json → List (List Char)
  | [] => []
  | item :: items => renderChars item :: renderItems items

/-- The compact forms of the members of an object. -/
def renderMembers : List (String × Json) → List (List Char)
  | [] => []
  | (name, value) :: members =>
    (renderString name ++ ':' :: renderChars value) :: renderMembers members

end

/-- The compact form of a value. -/
def render (value : Json) : String := String.ofList value.renderChars

@[simp] theorem renderItems_eq_map (items : List Json) :
    renderItems items = items.map renderChars := by
  induction items with
  | nil => rfl
  | cons item items ih => rw [renderItems, ih, List.map_cons]

example : realLayout.write ⟨1, 16⟩ = "1e+16".toList := by decide +kernel
example : realLayout.write ⟨11, -6⟩ = "0.000011".toList := by decide +kernel

end AddressMask.Json
