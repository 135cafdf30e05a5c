import AddressMask.Mask.TextForm

/-!
# What masks and formats ask of each other

A mask has two forms, and a format gets one of them: the text form if people read the format, and
the byte form if only programs do. The format is asked which it is, and what becomes of the form is
up to the format. On the way back it hands over a text or octets, and makes a failure of its own of
what is refused.
-/

namespace AddressMask

/-- A format that masks are written to, as far as a mask gets to know it. -/
structure Encoder (α : Type) where
  /-- Whether people read the format. -/
  readable : Bool
  /-- What becomes of a text. -/
  text : String → α
  /-- What becomes of octets. -/
  octets : Bytes → α

namespace Mask

variable {α ε : Type}

/-- Writes a mask to a format (`serialize`). -/
def encode (encoder : Encoder α) (m : Mask) : α :=
  if encoder.readable then encoder.text m.toText else encoder.octets m.toBinary

/-- Reads a text that a format hands over (`visit_str`). -/
def visitText (failure : DecodeError → ε) (text : String) : Except ε Mask :=
  (ofText text).mapError failure

/-- Reads octets that a format hands over (`visit_bytes`). -/
def visitOctets (failure : DecodeError → ε) (bytes : Bytes) : Except ε Mask :=
  (ofBinary bytes).mapError failure

end Mask

end AddressMask
