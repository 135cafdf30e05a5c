import AddressMask.Bytes
import AddressMask.DecodeError
import AddressMask.Text.Quoted

/-!
# What is recorded while masks are read

Reading a mask leaves a record of what went wrong. An `Event` is one thing that can go wrong, with
the evidence for it; `Logged α` is a result of type `α` together with the events recorded on the
way, oldest first. `Decoding α` is a logged result that may also be refused. A refusal keeps the
events recorded before it, so what was recorded can be read off the result in either case.
-/

namespace AddressMask

/-- How much an event matters. -/
inductive Level where
  | debug
  | trace
  deriving DecidableEq, Repr

/-- Something worth recording while a mask is read. -/
inductive Event where
  /-- Sixteen octets are not a prefix, so they give no mask. -/
  | nonPrefix (octets : Octets 16)
  /-- A byte form of this many octets. -/
  | binaryLength (length : Nat)
  /-- A text form of this many octets. -/
  | textLength (length : Nat)
  /-- A dotted text with this many fields. -/
  | fieldCount (text : String) (found : Nat)
  /-- A field that is not a row of decimal digits. -/
  | invalidDigit (field : String)
  /-- A dotted field above 255. -/
  | octetOutOfRange (field : String)
  deriving DecidableEq, Repr

namespace Event

/-- Refused forms are worth a look; octets that give no mask are a detail. -/
def level : Event → Level
  | .nonPrefix _ => .trace
  | _ => .debug

/-- The sentence that records an event. Input is quoted in it. -/
def message : Event → String
  | .nonPrefix octets =>
    "non-prefix IPv6 mask [" ++
      ", ".intercalate (octets.toList.map fun b => String.ofList (Numeral.hexOctet b)) ++ "]"
  | .binaryLength length => "binary mask of unexpected length " ++ toString length
  | .textLength length => "text mask of unexpected length " ++ toString length
  | .fieldCount text found =>
    "dotted mask " ++ Text.quoted text ++ " has " ++ toString found ++ " fields"
  | .invalidDigit field => "invalid digit in mask field " ++ Text.quoted field
  | .octetOutOfRange field => "dotted field " ++ Text.quoted field ++ " out of range"

@[simp] theorem message_nonPrefix (octets : Octets 16) :
    (nonPrefix octets).message =
      "non-prefix IPv6 mask [" ++
        ", ".intercalate (octets.toList.map fun b => String.ofList (Numeral.hexOctet b)) ++ "]" :=
  rfl

@[simp] theorem message_binaryLength (length : Nat) :
    (binaryLength length).message = "binary mask of unexpected length " ++ toString length := rfl

@[simp] theorem message_textLength (length : Nat) :
    (textLength length).message = "text mask of unexpected length " ++ toString length := rfl

@[simp] theorem message_fieldCount (text : String) (found : Nat) :
    (fieldCount text found).message =
      "dotted mask " ++ Text.quoted text ++ " has " ++ toString found ++ " fields" := rfl

@[simp] theorem message_invalidDigit (field : String) :
    (invalidDigit field).message = "invalid digit in mask field " ++ Text.quoted field := rfl

@[simp] theorem message_octetOutOfRange (field : String) :
    (octetOutOfRange field).message =
      "dotted field " ++ Text.quoted field ++ " out of range" := rfl

end Event

/-- A result and the events recorded on the way to it, oldest first. -/
structure Logged (α : Type) where
  value : α
  log : List Event
  deriving Repr

namespace Logged

variable {α β : Type}

instance : Monad Logged where
  pure a := ⟨a, []⟩
  bind x f := ⟨(f x.value).value, x.log ++ (f x.value).log⟩

/-- Records one event. -/
def record (event : Event) : Logged Unit := ⟨(), [event]⟩

@[ext] protected theorem ext {x y : Logged α} (hv : x.value = y.value) (hl : x.log = y.log) : x = y := by
  cases x; cases y; cases hv; cases hl; rfl

@[simp] theorem value_pure (a : α) : (pure a : Logged α).value = a := rfl

@[simp] theorem log_pure (a : α) : (pure a : Logged α).log = [] := rfl

@[simp] theorem value_bind (x : Logged α) (f : α → Logged β) :
    (x >>= f).value = (f x.value).value := rfl

@[simp] theorem log_bind (x : Logged α) (f : α → Logged β) :
    (x >>= f).log = x.log ++ (f x.value).log := rfl

@[simp] theorem value_map (x : Logged α) (f : α → β) : (f <$> x).value = f x.value := rfl

@[simp] theorem log_map (x : Logged α) (f : α → β) : (f <$> x).log = x.log := List.append_nil _

@[simp] theorem value_record (event : Event) : (record event).value = () := rfl

@[simp] theorem log_record (event : Event) : (record event).log = [event] := rfl

instance : LawfulMonad Logged :=
  LawfulMonad.mk' Logged (fun x => Logged.ext rfl (List.append_nil x.log)) (fun _ _ => rfl)
    (fun _ _ _ => Logged.ext rfl (List.append_assoc _ _ _))

end Logged

/-- A logged result that may be refused. -/
abbrev Decoding := ExceptT DecodeError Logged

/-- Refuses for the given cause, and records the event that shows it. -/
def reject {α : Type} (cause : DecodeError) (event : Event) : Decoding α :=
  ExceptT.mk ⟨.error cause, [event]⟩

namespace Decoding

variable {α β : Type}

/-- What came of it, without the record. -/
def result (x : Decoding α) : Except DecodeError α := x.run.value

/-- What was recorded. -/
def log (x : Decoding α) : List Event := x.run.log

@[simp] theorem result_pure (a : α) : result (pure a) = .ok a := rfl

@[simp] theorem log_pure (a : α) : log (pure a) = [] := rfl

@[simp] theorem result_throw (cause : DecodeError) :
    result (throw cause : Decoding α) = .error cause := rfl

@[simp] theorem log_throw (cause : DecodeError) : log (throw cause : Decoding α) = [] := rfl

@[simp] theorem result_reject (cause : DecodeError) (event : Event) :
    result (reject cause event : Decoding α) = .error cause := rfl

@[simp] theorem log_reject (cause : DecodeError) (event : Event) :
    log (reject cause event : Decoding α) = [event] := rfl

@[simp] theorem result_bind (x : Decoding α) (f : α → Decoding β) :
    result (x >>= f) = result x >>= fun a => result (f a) := by
  obtain ⟨value, entries⟩ := x
  cases value <;> rfl

end Decoding

end AddressMask
