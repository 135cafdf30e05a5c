import AddressMask.Formats

/-!
# Masks in documents

A mask is read from a format in the form in which it is written to it. A format that people read is
asked for a text, any other one for octets.

What a format answers is up to the format. Some hold a single payload and hand it over whatever they
are asked for, so that a mask may meet octets, or a sequence, where it has asked for a text. JSON is
read by people and hands over nothing but a text; a stream of frames is not, and hands over the
content of its first frame. A format may also fail before there is a payload, in words of its own.
-/

namespace AddressMask

/-- A format with a value in it, as far as a mask gets to know it. -/
structure Document where
  /-- Whether people read the format. -/
  readable : Bool
  /-- What comes of asking for a text. -/
  asText : Except String Payload
  /-- What comes of asking for octets. -/
  asOctets : Except String Payload

namespace Document

/-- What comes of asking for the form that masks have in the format. -/
def payload (document : Document) : Except String Payload :=
  if document.readable then document.asText else document.asOctets

/-- A payload that is handed over whatever is asked for. -/
def plain (readable : Bool) (payload : Payload) : Document where
  readable
  asText := .ok payload
  asOctets := .ok payload

variable (formats : Formats)

/-- A JSON value. The answer that no mask asks for is left open. -/
def ofJson (unasked : Except String Payload) (value : Json) : Document where
  readable := true
  asText :=
    match value with
    | .string text => .ok (.text text)
    | found => .error (formats.refusal (.unexpectedKind found .mask))
  asOctets := unasked

/-- A stream that begins with a frame. The answer that no mask asks for is left open. -/
def ofStream (unasked : Except String Payload) (stream : Bytes) : Document where
  readable := false
  asText := unasked
  asOctets :=
    ((Frame.takeFrame stream).map fun taken => .octets taken.1).mapError formats.streamRefusal

end Document

namespace Mask

variable (formats : Formats)

/-- The mask in a document (`deserialize`). -/
def ofDocument (document : Document) : Except String Mask := do
  let payload ← document.payload
  (ofPayload payload).mapError formats.refusal

theorem ofDocument_plain (readable : Bool) (payload : Payload) :
    ofDocument formats (.plain readable payload) =
      (ofPayload payload).mapError formats.refusal := by
  cases readable with
  | true => rfl
  | false => rfl

/-- A JSON value is read as a document just as it is read alone. -/
theorem ofDocument_ofJson (unasked : Except String Payload) (value : Json) :
    ofDocument formats (.ofJson formats unasked value) =
      (ofJson value).mapError formats.refusal := by
  cases value with
  | string text => rfl
  | _ => rfl

/-- The frame at the front of a stream is all that a mask is read from. -/
theorem ofFrame_eq_bind (stream : Bytes) :
    ofFrame stream =
      Frame.takeFrame stream >>= fun taken => visitOctets .undecodable taken.1 := by
  rw [ofFrame, Frame.takeMask]
  cases Frame.takeFrame stream with
  | error e => rfl
  | ok taken =>
    change _ <$> (visitOctets FrameError.undecodable taken.1 >>= _) =
      visitOctets FrameError.undecodable taken.1
    cases visitOctets FrameError.undecodable taken.1 with
    | error cause => rfl
    | ok m => rfl

/-- A stream is read as a document just as it is read alone. -/
theorem ofDocument_ofStream (unasked : Except String Payload) (stream : Bytes) :
    ofDocument formats (.ofStream formats unasked stream) =
      (ofFrame stream).mapError formats.streamRefusal := by
  rw [ofFrame_eq_bind, ofDocument, Document.payload, Document.ofStream]
  cases Frame.takeFrame stream with
  | error e => rfl
  | ok taken =>
    have hpayload := formats.mapError_refusal (ofBinary taken.1)
    have hframe := formats.mapError_streamRefusal (ofBinary taken.1)
    exact hpayload.trans hframe.symm

example : ofDocument formats (.plain true (.octets [64])) = .ok (.ipv6 64) := rfl

end Mask

end AddressMask
