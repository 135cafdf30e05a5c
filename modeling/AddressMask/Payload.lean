import AddressMask.Json.Writer
import AddressMask.Mask.Exchange

/-!
# Payloads

A format hands a mask over as a *payload*: a text, octets, or a sequence of values that stand for
octets. A text holds the text form, octets hold the byte form, and a sequence is read item by item,
so that a bad item is reported before the number of items is looked at. What a mask is written as is
a payload too, of one of the first two kinds.
-/

namespace AddressMask

/-- What a format hands over for a mask. -/
inductive Payload where
  | text (text : String)
  | octets (bytes : Bytes)
  | items (values : List Json)

/-- What is handed over is kept as it is. -/
def Payload.encoder (readable : Bool) : Encoder Payload where
  readable
  text := .text
  octets := .octets

/-- What a value was expected to be. -/
inductive Expected where
  | mask
  | list
  | octet
  deriving DecidableEq, Repr

/-- The wording of what was expected; for a mask it is that of `expecting`. -/
def Expected.message : Expected → String
  | .mask => "a network mask in text or binary form"
  | .list => "a sequence"
  | .octet => "u8"

/-- Why a value is no mask. -/
inductive PayloadError where
  /-- A text or octets that are no form of a mask. -/
  | undecodable (cause : DecodeError)
  /-- A value of another kind than the expected one. -/
  | unexpectedKind (found : Json) (expected : Expected)
  /-- An integer that is no octet. -/
  | outOfRange (found : Int)

/-- The words for a value in a message. Input is quoted in them. -/
def Json.describe : Json → String
  | .null => "null"
  | .boolean b => "boolean `" ++ (if b then "true" else "false") ++ "`"
  | .integer n => "integer `" ++ toString n ++ "`"
  | .real x => "floating point `" ++ String.ofList (renderReal x) ++ "`"
  | .string s => "string " ++ Text.quoted s
  | .array _ => "sequence"
  | .object _ => "map"

/-- The sentence that states why a value is no mask. -/
def PayloadError.message : PayloadError → String
  | .undecodable cause => cause.message
  | .unexpectedKind found expected =>
    "invalid type: " ++ found.describe ++ ", expected " ++ expected.message
  | .outOfRange found =>
    "invalid value: " ++ (Json.integer found).describe ++ ", expected " ++ Expected.octet.message

namespace Json

/-- Octets as a sequence of numbers. -/
def ofOctets (bytes : Bytes) : List Json := bytes.map fun b => .integer b.toNat

/-- The octet that a value stands for. -/
def toOctet : Json → Except PayloadError UInt8
  | .integer n => if 0 ≤ n ∧ n ≤ 255 then .ok (UInt8.ofNat n.toNat) else .error (.outOfRange n)
  | found => .error (.unexpectedKind found .octet)

end Json

namespace Mask

/-- A mask as a payload. -/
def toPayload (readable : Bool) (m : Mask) : Payload := m.encode (Payload.encoder readable)

/-- The mask in a payload. Items are collected before they are read as octets (`visit_seq`). -/
def ofPayload : Payload → Except PayloadError Mask
  | .text text => visitText .undecodable text
  | .octets bytes => visitOctets .undecodable bytes
  | .items values => do
    let bytes ← values.mapM Json.toOctet
    visitOctets .undecodable bytes

example : (PayloadError.outOfRange 300).message = "invalid value: integer `300`, expected u8" := by
  decide +kernel

end Mask

end AddressMask
