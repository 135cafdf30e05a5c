import AddressMask.Json.Reader
import AddressMask.Mask.Order
import AddressMask.Payload

/-!
# The JSON form of a mask

In JSON a mask is a string with its text form, a list of masks is an array, and the positions of
masks in a list are an object with the text forms as names. Only a string is read back as a mask: an
array of octets is none.
-/

namespace AddressMask

namespace Json

/-- People read JSON. Octets would become an array of numbers. -/
def encoder : Encoder Json where
  readable := true
  text := .string
  octets bytes := .array (ofOctets bytes)

/-- The same for the name of a member, which has to be a text. -/
def nameEncoder : Encoder (Option String) where
  readable := true
  text := some
  octets _ := none

end Json

namespace Mask

/-! ### Writing -/

/-- A mask as a JSON value. -/
def toJson (m : Mask) : Json := m.encode Json.encoder

/-- A list of masks as a JSON value. -/
def listToJson (masks : List Mask) : Json := .array (masks.map toJson)

/-- A mask and its position as a member of an object; none if the mask has no name. -/
def positionMember? (entry : Mask × Nat) : Option (String × Json) := do
  let name ← entry.1.encode Json.nameEncoder
  pure (name, .integer entry.2)

/-- The distinct masks of a list in ascending order, each with its last position in the list, as a
JSON value; none if a mask has no name. -/
def positionsToJson (masks : List Mask) : Option Json := do
  let members ← (lastPositions masks).mapM positionMember?
  pure (.object members)

/-! ### Reading -/

/-- The mask that a JSON value stands for. -/
def ofJson : Json → Except PayloadError Mask
  | .string text => ofPayload (.text text)
  | found => .error (.unexpectedKind found .mask)

/-- The list of masks that a JSON value stands for. The first item that is no mask is the answer. -/
def listOfJson : Json → Except PayloadError (List Mask)
  | .array items => items.mapM ofJson
  | found => .error (.unexpectedKind found .list)

@[simp] theorem ofJson_string (text : String) :
    ofJson (.string text) = (ofText text).mapError .undecodable := rfl

theorem toJson_eq (m : Mask) : m.toJson = .string m.toText := rfl

example : (listToJson [ofPrefix 24 32, .ipv6 56, .invalid]).render =
    "[\"255.255.255.0\",\"56\",\"\"]" := by decide +kernel

end Mask

end AddressMask
