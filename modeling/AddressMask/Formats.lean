import AddressMask.Frame
import AddressMask.Mask.JsonForm

/-!
# The formats that masks rely on

Masks are exchanged in formats that are not theirs. JSON has texts of its own, and each format states
in its own words what it cannot read. Little of this matters to a mask, and `Formats` says what does:

* a refused mask is refused in the words of the refusal, in whatever format it has come;
* where something else was expected, it is said what was expected;
* a stream that ends too early is said to do so;
* the compact JSON text of a string is the string between quotes if nothing in it has to be escaped,
  an array and an object are their items and members with commas between them, and a natural number is
  its decimal numeral;
* a JSON text that was written is read as the value that it was written for (`Json.Exact`).

Nothing else is fixed, neither how other characters or other numbers are written nor what any other
text is read as. The reader and the writer of this library are one choice among others.
-/

namespace AddressMask

/-- The formats that masks are exchanged in, with what masks rely on. -/
structure Formats where
  /-- The words for a value. -/
  describe : Json → String
  /-- The words in which a value is refused. -/
  refusal : PayloadError → String
  /-- The words in which a stream is refused. -/
  streamRefusal : FrameError → String
  /-- The compact JSON text of a value. -/
  write : Json → String
  /-- The value that a JSON text is read as, if it is one. -/
  read? : String → Option Json
  refusal_undecodable : ∀ cause, refusal (.undecodable cause) = cause.message
  refusal_unexpectedKind : ∀ found expected, refusal (.unexpectedKind found expected) =
    "invalid type: " ++ describe found ++ ", expected " ++ expected.message
  streamRefusal_undecodable : ∀ cause, streamRefusal (.undecodable cause) = cause.message
  streamRefusal_truncated : streamRefusal .truncated = "unexpected end of file"
  write_string : ∀ s : String, (∀ c ∈ s.toList, 0x20 ≤ c.toNat ∧ c ≠ '"' ∧ c ≠ '\\') →
    write (.string s) = "\"" ++ s ++ "\""
  write_natural : ∀ n : Nat, write (.integer n) = toString n
  write_array : ∀ items, write (.array items) = "[" ++ ",".intercalate (items.map write) ++ "]"
  write_object : ∀ members, write (.object members) =
    "\x7b" ++ ",".intercalate (members.map fun member =>
      write (.string member.1) ++ ":" ++ write member.2) ++ "\x7d"
  read?_write : ∀ value : Json, value.Exact Json.maxDepth → read? (write value) = some value

namespace Formats

variable (formats : Formats)

/-- A refusal keeps its words as a refusal of a payload. -/
theorem mapError_refusal {α : Type} (x : Except DecodeError α) :
    (x.mapError PayloadError.undecodable).mapError formats.refusal =
      x.mapError DecodeError.message := by
  cases x with
  | error cause => exact congrArg Except.error (formats.refusal_undecodable cause)
  | ok a => rfl

/-- A refusal keeps its words as a failure of a frame. -/
theorem mapError_streamRefusal {α : Type} (x : Except DecodeError α) :
    (x.mapError FrameError.undecodable).mapError formats.streamRefusal =
      x.mapError DecodeError.message := by
  cases x with
  | error cause => exact congrArg Except.error (formats.streamRefusal_undecodable cause)
  | ok a => rfl

end Formats

end AddressMask
