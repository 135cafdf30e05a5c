import AddressMask.Mask.RawBytes

/-!
# The byte form of a mask

The shortest way to keep a mask: nothing for the invalid mask, the four octets of an IPv4 mask, and
one octet with the length of an IPv6 mask. No tag is needed, since the number of octets tells the
family. Octets that are no byte form are refused, and the refusal is recorded; only a single octet
above 128, the length of no prefix, is read as the invalid mask.

This form is not the raw octets of `Mask.toBytes`, although the two agree on IPv4 masks.
-/

namespace AddressMask.Mask

/-- Puts the byte form of a mask behind the octets in a buffer (`append_binary`). -/
def appendBinary (m : Mask) (buffer : Bytes) : Bytes :=
  match m with
  | .invalid => buffer
  | .ipv4 octets => buffer ++ octets.toList
  | .ipv6 length => buffer ++ [length]

/-- The byte form of a mask: what is put into an empty buffer (`to_binary`). -/
def toBinary (m : Mask) : Bytes := m.appendBinary []

/-- The number of octets in the byte form (`binary_len`). -/
def binaryLength : Mask → Nat
  | .invalid => 0
  | .ipv4 _ => 4
  | .ipv6 _ => 1

/-- Reads a byte form (`from_binary`). -/
def readBinary (bytes : Bytes) : Decoding Mask :=
  match bytes with
  | [] => pure .invalid
  | [length] => pure (ofPrefix length.toNat 128)
  | [a, b, c, d] => pure (.ipv4 (.four a b c d))
  | _ => reject (.unexpectedSize bytes.length) (.binaryLength bytes.length)

/-- The mask with a given byte form. -/
def ofBinary (bytes : Bytes) : Except DecodeError Mask := (readBinary bytes).result

@[simp] theorem toBinary_invalid : toBinary .invalid = [] := rfl

@[simp] theorem toBinary_ipv4 (octets : Octets 4) : toBinary (.ipv4 octets) = octets.toList := rfl

@[simp] theorem toBinary_ipv6 (length : UInt8) : toBinary (.ipv6 length) = [length] := rfl

/-- What is in a buffer stays in front of the form. -/
theorem appendBinary_eq (m : Mask) (buffer : Bytes) :
    m.appendBinary buffer = buffer ++ m.toBinary := by
  cases m with
  | invalid => exact (List.append_nil buffer).symm
  | ipv4 octets => rfl
  | ipv6 length => rfl

@[simp] theorem length_toBinary (m : Mask) : m.toBinary.length = m.binaryLength := by
  cases m with
  | invalid => rfl
  | ipv4 octets => exact Vector.length_toList
  | ipv6 length => rfl

/-- The number of octets tells the family, and the octets tell the mask. -/
theorem toBinary_injective {a b : Mask} (h : a.toBinary = b.toBinary) : a = b := by
  have hlength := congrArg List.length h
  rw [length_toBinary, length_toBinary] at hlength
  cases a with
  | invalid =>
    cases b with
    | invalid => rfl
    | _ => cases hlength
  | ipv4 octets =>
    cases b with
    | ipv4 octets' => exact congrArg ipv4 (Vector.toList_inj.mp h)
    | _ => cases hlength
  | ipv6 length =>
    cases b with
    | ipv6 length' => exact congrArg ipv6 (List.head_eq_of_cons_eq h)
    | _ => cases hlength

example : (ipv6 48).appendBinary ((ofPrefix 8 32).appendBinary [0xaa]) = [0xaa, 255, 0, 0, 0, 48] := by
  decide
example : ofBinary [129] = .ok .invalid := rfl
example : ofBinary [0x55, 0, 0xaa, 1] = .ok (.ipv4 #v[0x55, 0, 0xaa, 1]) := rfl
example : (readBinary [1, 2]).log = [.binaryLength 2] := rfl

end AddressMask.Mask
