import AddressMask.Mask.Exchange

/-!
# Framed masks

Masks in a stream of octets. A *word* is eight octets that hold a number, the least significant octet
first. A *frame* is a word with the length of what follows, and that many octets: the byte form of a
mask. A list of masks is a word with their number and then their frames. Reading takes from the
front of the stream and leaves the rest; it fails where the stream ends too early, or where a frame
that is there in full holds no byte form.
-/

namespace AddressMask

/-- Why no mask can be taken from a stream. -/
inductive FrameError where
  /-- The stream ends inside a word or a frame. -/
  | truncated
  /-- A complete frame holds no byte form of a mask. -/
  | undecodable (cause : DecodeError)
  deriving DecidableEq, Repr

/-- The sentence that states the failure. -/
def FrameError.message : FrameError → String
  | .truncated => "unexpected end of file"
  | .undecodable cause => cause.message

namespace Frame

/-! ### Words and frames -/

/-- The number held by octets, the least significant first. -/
def littleEndian : Bytes → Nat
  | [] => 0
  | b :: bytes => b.toNat + 256 * littleEndian bytes

/-- The `width` octets of a number, the least significant first. What does not fit is dropped. -/
def octets : (width n : Nat) → Bytes
  | 0, _ => []
  | width + 1, n => UInt8.ofNat (n % 256) :: octets width (n / 256)

/-- A number in eight octets. -/
def word (n : Nat) : Bytes := octets 8 n

/-- Some content in a frame. -/
def enclosed (content : Bytes) : Bytes := word content.length ++ content

/-- Nobody reads a stream but programs. A text would be framed as its octets of UTF-8. -/
def encoder : Encoder Bytes where
  readable := false
  text text := enclosed text.toUTF8.data.toList
  octets := enclosed

@[simp] theorem length_octets (width n : Nat) : (octets width n).length = width := by
  induction width generalizing n with
  | zero => rfl
  | succ width ih => exact congrArg (· + 1) (ih (n / 256))

@[simp] theorem length_word (n : Nat) : (word n).length = 8 := length_octets 8 n

/-! ### Taking from the front of a stream -/

/-- Takes the given number of octets. -/
def take (length : Nat) (stream : Bytes) : Except FrameError (Bytes × Bytes) :=
  if length ≤ stream.length then .ok (stream.take length, stream.drop length)
  else .error .truncated

/-- Takes a word. -/
def takeWord (stream : Bytes) : Except FrameError (Nat × Bytes) := do
  let (word, rest) ← take 8 stream
  pure (littleEndian word, rest)

/-- Takes the content of a frame. -/
def takeFrame (stream : Bytes) : Except FrameError (Bytes × Bytes) := do
  let (length, rest) ← takeWord stream
  take length rest

/-- Takes a mask. -/
def takeMask (stream : Bytes) : Except FrameError (Mask × Bytes) := do
  let (content, rest) ← takeFrame stream
  let m ← Mask.visitOctets .undecodable content
  pure (m, rest)

/-- Takes the given number of masks. The first failure in order is the answer. -/
def takeMasks : (count : Nat) → Bytes → Except FrameError (List Mask × Bytes)
  | 0, stream => pure ([], stream)
  | count + 1, stream => do
    let (m, rest) ← takeMask stream
    let (masks, rest) ← takeMasks count rest
    pure (m :: masks, rest)

/-- Takes a list of masks. -/
def takeList (stream : Bytes) : Except FrameError (List Mask × Bytes) := do
  let (count, rest) ← takeWord stream
  takeMasks count rest

end Frame

namespace Mask

/-- The frame of a mask. -/
def toFrame (m : Mask) : Bytes := m.encode Frame.encoder

/-- The masks of a list in frames, after their number. -/
def framed (masks : List Mask) : Bytes := Frame.word masks.length ++ masks.flatMap toFrame

/-- The mask at the front of a stream. What follows it is ignored. -/
def ofFrame (stream : Bytes) : Except FrameError Mask := (·.1) <$> Frame.takeMask stream

/-- The list of masks at the front of a stream. What follows it is ignored. -/
def ofFramed (stream : Bytes) : Except FrameError (List Mask) := (·.1) <$> Frame.takeList stream

theorem toFrame_eq (m : Mask) : m.toFrame = Frame.enclosed m.toBinary := rfl

example : toFrame (ofPrefix 16 32) = [4, 0, 0, 0, 0, 0, 0, 0, 255, 255, 0, 0] := by decide
example : ofFrame [2, 0, 0, 0, 0, 0, 0, 0, 64] = .error .truncated := rfl
example : ofFramed [1, 0, 0, 0, 0, 0, 0, 0, 2, 0, 0, 0, 0, 0, 0, 0, 64, 7] =
    .error (.undecodable (.unexpectedSize 2)) := rfl

end Mask

end AddressMask
