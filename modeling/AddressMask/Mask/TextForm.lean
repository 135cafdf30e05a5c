import AddressMask.Mask.BinaryForm
import AddressMask.Numeral

/-!
# The text form of a mask

The text form is empty for the invalid mask, four decimal numbers with points between them for an
IPv4 mask, and the decimal length of an IPv6 mask. What is read back is decided by the length of the
text in octets of UTF-8: none is the invalid mask, up to three are a length, 7 to 15 are a dotted
mask, and anything else is refused. Numbers may have leading zeros; a length above 128 is read as
the invalid mask.

A dotted text is cut at its first three points, so that a fourth point ends up inside the last
field. The number of fields is looked at first. After that the leftmost bad field decides: it is
refused for having something else than digits before its value is looked at. Each refusal is
recorded once, with the text or the field that caused it.
-/

namespace AddressMask

namespace Text

/-- A text cut at its first `cuts` points, or at all of them if there are fewer. -/
def fields : (cuts : Nat) → List Char → List (List Char)
  | 0, text => [text]
  | cuts + 1, text =>
    match text.dropWhile (· ≠ '.') with
    | [] => [text]
    | _ :: rest => text.takeWhile (· ≠ '.') :: fields cuts rest

@[simp] theorem fields_zero (text : List Char) : fields 0 text = [text] := rfl

theorem forall_ne_of_not_mem {c : Char} {text : List Char} (h : c ∉ text) :
    ∀ d ∈ text, decide (d ≠ c) = true := fun _ hd => decide_eq_true fun hdc => h (hdc ▸ hd)

theorem fields_of_not_mem {text : List Char} (h : '.' ∉ text) (cuts : Nat) :
    fields cuts text = [text] := by
  cases cuts with
  | zero => rfl
  | succ cuts =>
    have none_left : (text ++ []).dropWhile (· ≠ '.') = [] :=
      List.dropWhile_append_of_pos (forall_ne_of_not_mem h)
    rw [fields, ← List.append_nil text, none_left]

theorem fields_append {field : List Char} (h : '.' ∉ field) (cuts : Nat) (rest : List Char) :
    fields (cuts + 1) (field ++ '.' :: rest) = field :: fields cuts rest := by
  have kept := forall_ne_of_not_mem h
  rw [fields, List.dropWhile_append_of_pos kept, List.takeWhile_append_of_pos kept]
  simp

/-- Fields with points between them. -/
def joined (fields : List (List Char)) : List Char := ['.'].intercalate fields

/-- A separator stands before each item but the first. -/
theorem intercalate_cons (separator item : List Char) (items : List (List Char)) :
    separator.intercalate (item :: items) = item ++ items.flatMap (separator ++ ·) := by
  induction items generalizing item with
  | nil => simp
  | cons next items ih =>
    have hstep : separator.intercalate (item :: next :: items) =
        item ++ (separator ++ separator.intercalate (next :: items)) := by
      simp
    rw [hstep, ih, List.flatMap_cons, List.append_assoc]

theorem joined_cons (field : List Char) (fields : List (List Char)) :
    joined (field :: fields) = field ++ fields.flatMap ('.' :: ·) :=
  intercalate_cons ['.'] field fields

/-- Puts the decimal numerals of octets behind a text. There are `place` octets before them, and a
point comes before each octet but the very first. -/
def appendDotted (buffer : String) (place : Nat) : Bytes → String
  | [] => buffer
  | b :: rest =>
    let buffer := if 0 < place then buffer.push '.' else buffer
    appendDotted (Numeral.pushOctet buffer b) (place + 1) rest

/-- Behind the first octet the loop puts a point and a numeral each time. -/
theorem toList_appendDotted_succ (buffer : String) (place : Nat) (bytes : Bytes) :
    (appendDotted buffer (place + 1) bytes).toList =
      buffer.toList ++ (bytes.map Numeral.octetDecimal).flatMap ('.' :: ·) := by
  induction bytes generalizing buffer place with
  | nil => exact (List.append_nil _).symm
  | cons b rest ih =>
    rw [appendDotted, if_pos (Nat.succ_pos place), ih, Numeral.pushOctet_eq, List.map_cons,
      List.flatMap_cons]
    simp

/-- All that the loop puts behind a text are the numerals, with points between them. -/
theorem appendDotted_eq (buffer : String) (bytes : Bytes) :
    appendDotted buffer 0 bytes =
      buffer ++ String.ofList (joined (bytes.map Numeral.octetDecimal)) := by
  cases bytes with
  | nil => exact String.append_empty.symm
  | cons b rest =>
    rw [← String.toList_inj, appendDotted, if_neg (Nat.lt_irrefl 0), toList_appendDotted_succ,
      Numeral.pushOctet_eq, List.map_cons, joined_cons]
    simp

example : fields 3 "1.2.3.4.5".toList = ["1", "2", "3", "4.5"].map String.toList := by decide

end Text

namespace Mask

/-! ### Writing -/

/-- Puts the text form of a mask behind the text in a buffer (`append_text`). -/
def appendText (m : Mask) (buffer : String) : String :=
  match m with
  | .invalid => buffer
  | .ipv4 octets => Text.appendDotted buffer 0 octets.toList
  | .ipv6 length => Numeral.pushOctet buffer length

/-- The text form of a mask: what is put into an empty buffer (`to_text`). -/
def toText (m : Mask) : String := m.appendText ""

/-- A mask as it is shown to people (`Display`): the text form, with a word for the invalid mask. -/
def display (m : Mask) : String :=
  match m with
  | .invalid => "invalid Mask"
  | _ => m.toText

/-- A mask as it is shown in diagnostics (`Debug`), which tells it from a text. -/
def debug (m : Mask) : String :=
  match m with
  | .invalid => "Mask::INVALID"
  | _ => "Mask(" ++ m.display ++ ")"

instance : ToString Mask := ⟨display⟩

instance : Repr Mask := ⟨fun m _ => m.debug⟩

/-! ### Reading -/

/-- Reads a row of decimal digits (`parse_digits`). -/
def readNumber (field : List Char) : Decoding Nat :=
  match Numeral.value? field with
  | some n => pure n
  | none => reject .invalidDigit (.invalidDigit (String.ofList field))

/-- Reads a row of decimal digits with a value of at most 255: one field of `parse_dotted`. -/
def readOctet (field : List Char) : Decoding UInt8 := do
  let n ← readNumber field
  if n ≤ 255 then pure (UInt8.ofNat n)
  else reject .octetOutOfRange (.octetOutOfRange (String.ofList field))

/-- Reads the length of an IPv6 mask (`parse_prefix`). The number is taken into a word of 64 bits,
which refuses what does not fit without a record, and from there into a signed word of 32 bits. -/
def readLength (text : String) : Decoding Mask := do
  let n ← readNumber text.toList
  if n < UInt64.size then pure (ofPrefix (Int32.ofNat n).toInt 128)
  else throw .invalidDigit

/-- Reads four numbers with points between them (`parse_dotted`). -/
def readDotted (text : String) : Decoding Mask :=
  match Text.fields 3 text.toList with
  | [a, b, c, d] => do
    let a ← readOctet a
    let b ← readOctet b
    let c ← readOctet c
    let d ← readOctet d
    pure (.ipv4 (.four a b c d))
  | found => reject (.fieldCount found.length) (.fieldCount text found.length)

/-- Reads a text form (`from_text`). -/
def readText (text : String) : Decoding Mask :=
  let length := text.utf8ByteSize
  if length = 0 then pure .invalid
  else if length ≤ 3 then readLength text
  else if 7 ≤ length ∧ length ≤ 15 then readDotted text
  else reject (.unexpectedSize length) (.textLength length)

/-- The mask with a given text form. -/
def ofText (text : String) : Except DecodeError Mask := (readText text).result

/-- The mask that a text is parsed to, where masks are parsed like other values (`FromStr`). -/
def parse (text : String) : Except DecodeError Mask := ofText text

@[simp] theorem toText_invalid : toText .invalid = "" := rfl

theorem toText_ipv4 (octets : Octets 4) :
    toText (.ipv4 octets) =
      String.ofList (Text.joined (octets.toList.map Numeral.octetDecimal)) := by
  rw [toText, appendText, Text.appendDotted_eq, String.empty_append]

theorem toText_ipv6 (length : UInt8) :
    toText (.ipv6 length) = String.ofList (Numeral.octetDecimal length) := by
  rw [toText, appendText, Numeral.pushOctet_eq, String.empty_append]

/-- What is in a buffer stays in front of the form. -/
theorem appendText_eq (m : Mask) (buffer : String) : m.appendText buffer = buffer ++ m.toText := by
  cases m with
  | invalid => exact String.append_empty.symm
  | ipv4 octets => rw [toText_ipv4, appendText, Text.appendDotted_eq]
  | ipv6 length => rw [toText_ipv6, appendText, Numeral.pushOctet_eq]

/-- The text form is the byte form in decimal, with points between the octets. -/
theorem toText_eq (m : Mask) :
    m.toText = String.ofList (Text.joined (m.toBinary.map Numeral.octetDecimal)) := by
  cases m with
  | invalid => rfl
  | ipv4 octets => exact toText_ipv4 octets
  | ipv6 length =>
    rw [toText_ipv6, Text.joined, toBinary_ipv6, List.map_singleton, List.intercalate_singleton]

@[simp] theorem display_invalid : display .invalid = "invalid Mask" := rfl

theorem display_of_isValid {m : Mask} (h : m.isValid = true) : m.display = m.toText := by
  cases m with
  | invalid => cases h
  | ipv4 octets => rfl
  | ipv6 length => rfl

example : (Mask.ipv4 #v[85, 0, 101, 1]).appendText "mask=" = "mask=85.0.101.1" := by decide +kernel
example : ofText "007" = .ok (.ipv6 7) := by rfl
example : ofText "255.256.x.0" = .error .octetOutOfRange := by rfl
example : (readText "1.2.3.4.5").log = [.invalidDigit "4.5"] := by decide +kernel

end Mask

end AddressMask
