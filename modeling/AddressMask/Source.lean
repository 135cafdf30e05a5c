import AddressMask.Mask.TextForm

/-!
# Sources of masks

All the ways in which a mask can be given, in one type: a count of leading ones, octets of either
family, a byte string of raw octets, a written form, or an address of one family or of either.
`Source.read` reads any of them and records what the reader of that kind records. The constructors
among them never fail; a byte string of raw octets can have the wrong length, and a written form can
be refused.
-/

namespace AddressMask

/-- A way of giving a mask. -/
inductive Source where
  | invalid
  | leadingOnes (ones total : Int)
  | ipv4 (octets : Octets 4)
  | ipv6 (octets : Octets 16)
  | rawBytes (bytes : Bytes)
  | binary (bytes : Bytes)
  | text (s : String)
  | ipv4Address (octets : Octets 4)
  | ipv6Address (octets : Octets 16)
  | address (a : Address)
  deriving DecidableEq, Repr

/-- Why a source gives no mask. -/
inductive SourceError where
  /-- Raw octets that are neither four nor sixteen. -/
  | notAddressSized
  /-- A written form that is refused. -/
  | undecodable (cause : DecodeError)
  deriving DecidableEq, Repr

namespace Source

/-- A written form as a source: its refusals become failures of the source. -/
def ofDecoding (form : Decoding Mask) : Logged (Except SourceError Mask) :=
  (Except.mapError SourceError.undecodable) <$> form.run

/-- Reads a source, with what is recorded on the way. -/
def read : Source → Logged (Except SourceError Mask)
  | .invalid => pure (.ok .invalid)
  | .leadingOnes ones total => pure (.ok (Mask.ofPrefix ones total))
  | .ipv4 octets => pure (.ok (.ipv4 octets))
  | .ipv6 octets => Except.ok <$> Mask.readIPv6 octets
  | .rawBytes bytes => do
    match ← Mask.readBytes? bytes with
    | some m => pure (.ok m)
    | none => pure (.error .notAddressSized)
  | .binary bytes => ofDecoding (Mask.readBinary bytes)
  | .text s => ofDecoding (Mask.readText s)
  | .ipv4Address octets => Except.ok <$> Mask.readIPv4Address octets
  | .ipv6Address octets => Except.ok <$> Mask.readIPv6Address octets
  | .address a => Except.ok <$> Mask.readAddress a

/-- The mask that a source gives. -/
def mask (source : Source) : Except SourceError Mask := source.read.value

/-- What is recorded while a source is read. -/
def log (source : Source) : List Event := source.read.log

/-- What a log shows of it: the level and the sentence of each event. -/
def records (source : Source) : List (Level × String) :=
  source.log.map fun event => (event.level, event.message)

@[simp] theorem mask_invalid : mask .invalid = .ok .invalid := rfl

@[simp] theorem mask_leadingOnes (ones total : Int) :
    mask (.leadingOnes ones total) = .ok (Mask.ofPrefix ones total) := rfl

@[simp] theorem mask_ipv4 (octets : Octets 4) : mask (.ipv4 octets) = .ok (.ipv4 octets) := rfl

@[simp] theorem mask_ipv6 (octets : Octets 16) : mask (.ipv6 octets) = .ok (Mask.ofIPv6 octets) := rfl

@[simp] theorem mask_binary (bytes : Bytes) :
    mask (.binary bytes) = (Mask.ofBinary bytes).mapError .undecodable := rfl

@[simp] theorem mask_text (s : String) :
    mask (.text s) = (Mask.ofText s).mapError .undecodable := rfl

@[simp] theorem mask_ipv4Address (octets : Octets 4) :
    mask (.ipv4Address octets) = .ok (.ipv4 octets) := rfl

@[simp] theorem mask_ipv6Address (octets : Octets 16) :
    mask (.ipv6Address octets) = .ok (Mask.ofIPv6 octets) := rfl

@[simp] theorem mask_address (a : Address) : mask (.address a) = .ok (Mask.ofAddress a) := rfl

theorem mask_rawBytes (bytes : Bytes) :
    mask (.rawBytes bytes) =
      match Mask.ofBytes? bytes with
      | some m => .ok m
      | none => .error .notAddressSized := by
  unfold mask read Mask.ofBytes?
  rw [Logged.value_bind]
  cases (Mask.readBytes? bytes).value <;> rfl

end Source

end AddressMask
