/-!
# Why a written mask cannot be read

The causes for which a byte form or a text form is refused, and the sentence that states each.
Constructors of masks never fail: only reading a form does.
-/

namespace AddressMask

/-- Why a written mask is refused (`MaskDecodeError`). -/
inductive DecodeError where
  /-- No form has this many octets. -/
  | unexpectedSize (length : Nat)
  /-- A field is empty or has something in it that is not a decimal digit. -/
  | invalidDigit
  /-- A dotted text has this many fields in place of four. -/
  | fieldCount (found : Nat)
  /-- A dotted field is a number above 255. -/
  | octetOutOfRange
  deriving DecidableEq, Repr

namespace DecodeError

/-- The sentence that states a cause. -/
def message : DecodeError → String
  | .unexpectedSize length => "unexpected slice size: " ++ toString length
  | .invalidDigit => "invalid digit in mask"
  | .fieldCount found => "expected 4 dotted fields, found " ++ toString found
  | .octetOutOfRange => "dotted field out of range"

instance : ToString DecodeError := ⟨message⟩

end DecodeError

end AddressMask
