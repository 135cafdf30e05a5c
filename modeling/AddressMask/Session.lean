import AddressMask.Source

/-!
# Sessions

A session holds one current mask and two buffers, one of octets and one of text. Masks are appended
to the buffers in their written forms, raw data can be pushed after them, and a buffer can be read
back as a mask. A step that fails changes nothing, and a step that reads a buffer leaves it as it
is, so a buffer is always what was appended and pushed since it was last cleared.
-/

namespace AddressMask

/-- The current mask and the two buffers. -/
structure Session where
  mask : Mask
  octets : Bytes
  text : String
  deriving DecidableEq

/-- One step of a session. -/
inductive Step where
  /-- The mask of a source becomes the current one. -/
  | set (source : Source)
  | appendBinary
  | appendText
  | pushBytes (bytes : Bytes)
  | pushText (text : String)
  | clear
  /-- The octets are read as a byte form. -/
  | decodeBinary
  /-- The octets are read as raw octets. -/
  | decodeBytes
  /-- The text is read as a text form. -/
  | decodeText
  deriving DecidableEq, Repr

namespace Session

/-- Before the first step: no mask and empty buffers. -/
def start : Session := ⟨default, [], ""⟩

/-- Makes the mask of a source the current one. -/
def load (s : Session) (source : Source) : Except SourceError Session :=
  source.mask.map fun m => { s with mask := m }

/-- Where a step leads, unless it fails. -/
def next (s : Session) : Step → Except SourceError Session
  | .set source => s.load source
  | .appendBinary => .ok { s with octets := s.mask.appendBinary s.octets }
  | .appendText => .ok { s with text := s.mask.appendText s.text }
  | .pushBytes bytes => .ok { s with octets := s.octets ++ bytes }
  | .pushText text => .ok { s with text := s.text ++ text }
  | .clear => .ok { s with octets := [], text := "" }
  | .decodeBinary => s.load (.binary s.octets)
  | .decodeBytes => s.load (.rawBytes s.octets)
  | .decodeText => s.load (.text s.text)

/-- The session after a step. A failing step leaves it as it was. -/
def step (s : Session) (t : Step) : Session :=
  match s.next t with
  | .ok s' => s'
  | .error _ => s

/-- Why a step fails, if it does. -/
def failure? (s : Session) (t : Step) : Option SourceError :=
  match s.next t with
  | .ok _ => none
  | .error e => some e

/-- The session after a list of steps. -/
def run (s : Session) (steps : List Step) : Session := steps.foldl step s

/-- The session after each of the steps, with the failure of that step. -/
def trace (s : Session) : List Step → List (Session × Option SourceError)
  | [] => []
  | t :: steps => (s.step t, s.failure? t) :: (s.step t).trace steps

@[simp] theorem run_nil (s : Session) : s.run [] = s := rfl

@[simp] theorem run_cons (s : Session) (t : Step) (steps : List Step) :
    s.run (t :: steps) = (s.step t).run steps := rfl

theorem run_append (s : Session) (before after : List Step) :
    s.run (before ++ after) = (s.run before).run after := List.foldl_append

end Session

end AddressMask
