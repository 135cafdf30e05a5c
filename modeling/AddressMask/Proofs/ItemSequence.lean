import AddressMask.Proofs.EntryPoints

/-!
# Items, read one after the other

A format may hand a mask over as a sequence of values that stand for octets.  The octets are put into a
buffer as the items come.  A value that stands for none ends the reading at once, and only when there
are no more items is the buffer read as a byte form.  So the two ways to fail do not compete: how many
octets there are is asked for only if all of them are there.

A sequence may say in advance how many items it has, and the buffer is given room for as many, but not
for more than four.  Room is made for every octet that comes, so neither what the sequence says nor the
limit decides what is in the buffer.  The loop invariant is that the buffer holds what it held before
and, behind that, the octets of the items that are passed (`octets_collect`).  Hence the loop comes to
what `ofPayload` says of the whole sequence (`ofSequence_eq`).

`Json.IsOctet` tells the items that stand for octets without reading them.  A sequence has nothing but
such items, and then it is that of a byte string (`forall_isOctet_iff`), or it has a first one that is
no octet (`exists_first_of_not_forall`), and whatever stands behind that one is never looked at.
-/

namespace AddressMask

namespace Json

variable {item : Json} {items front rest : List Json}

/-! ## Items -/

/-- A value that stands for an octet. -/
def IsOctet (item : Json) : Prop := ∃ n : Int, item = .integer n ∧ 0 ≤ n ∧ n ≤ 255

/-- What is wrong with a value that stands for no octet: its size if it is an integer, and its kind
otherwise. -/
def refusal : Json → PayloadError
  | .integer n => .outOfRange n
  | found => .unexpectedKind found .octet

theorem isOctet_iff : item.IsOctet ↔ ∃ b : UInt8, item = .integer b.toNat := by
  constructor
  · rintro ⟨n, rfl, hpos, hle⟩
    obtain ⟨k, rfl⟩ := Int.eq_ofNat_of_zero_le hpos
    have hword : (UInt8.ofNat k).toNat = k := UInt8.toNat_ofNat_of_lt' (by show k < 256; omega)
    exact ⟨UInt8.ofNat k, by rw [hword]⟩
  · rintro ⟨b, rfl⟩
    have hlt := b.toNat_lt
    exact ⟨b.toNat, rfl, by omega, by omega⟩

theorem toOctet_of_not_isOctet (h : ¬ item.IsOctet) : item.toOctet = .error item.refusal := by
  cases item with
  | integer n => exact if_neg fun hn => h ⟨n, rfl, hn⟩
  | _ => rfl

/-- Sequences of octets are those of byte strings. -/
theorem forall_isOctet_iff : (∀ item ∈ items, item.IsOctet) ↔ ∃ bytes, items = ofOctets bytes := by
  constructor
  · intro h
    induction items with
    | nil => exact ⟨[], rfl⟩
    | cons item items ih =>
      obtain ⟨b, rfl⟩ := isOctet_iff.mp (h item List.mem_cons_self)
      obtain ⟨bytes, rfl⟩ := ih fun x hx => h x (List.mem_cons_of_mem _ hx)
      exact ⟨b :: bytes, rfl⟩
  · rintro ⟨bytes, rfl⟩ item hitem
    obtain ⟨b, -, rfl⟩ := List.mem_map.mp hitem
    exact isOctet_iff.mpr ⟨b, rfl⟩

/-- If not all items are octets, there is a first one that is none. -/
theorem exists_first_of_not_forall (h : ¬ ∀ item ∈ items, item.IsOctet) :
    ∃ front item rest, items = front ++ item :: rest ∧ (∀ x ∈ front, x.IsOctet) ∧
      ¬ item.IsOctet := by
  induction items with
  | nil => exact absurd nofun h
  | cons item items ih =>
    by_cases hitem : item.IsOctet
    · have hitems : ¬ ∀ x ∈ items, x.IsOctet := fun hall =>
        h (List.forall_mem_cons.mpr ⟨hitem, hall⟩)
      obtain ⟨front, first, rest, rfl, hfront, hfirst⟩ := ih hitems
      exact ⟨item :: front, first, rest, rfl, List.forall_mem_cons.mpr ⟨hitem, hfront⟩, hfirst⟩
    · exact ⟨[], item, items, rfl, nofun, hitem⟩

theorem mapM_toOctet_of_first (hfront : ∀ x ∈ front, x.IsOctet) (hitem : ¬ item.IsOctet) :
    (front ++ item :: rest).mapM toOctet = .error item.refusal := by
  obtain ⟨bytes, rfl⟩ := forall_isOctet_iff.mp hfront
  rw [List.mapM_append, mapM_toOctet, List.mapM_cons, toOctet_of_not_isOctet hitem]
  rfl

end Json

/-! ## The loop -/

/-- Octets that have been collected, and how many of them there is room for. -/
structure Buffer where
  octets : Bytes
  room : Nat
  length_le : octets.length ≤ room

namespace Buffer

/-- Nothing yet, and room for some octets. -/
def withRoom (room : Nat) : Buffer := ⟨[], room, Nat.zero_le room⟩

/-- Puts an octet behind the others.  If there is no room for it, room is made. -/
def push (buffer : Buffer) (b : UInt8) : Buffer where
  octets := buffer.octets ++ [b]
  room := max buffer.room (buffer.octets.length + 1)
  length_le := by
    rw [List.length_append, List.length_singleton]
    exact Nat.le_max_right _ _

@[simp] theorem octets_push (buffer : Buffer) (b : UInt8) :
    (buffer.push b).octets = buffer.octets ++ [b] := rfl

/-- Reads items into a buffer until there are none left or one of them is no octet. -/
def collect (buffer : Buffer) : List Json → Except PayloadError Buffer
  | [] => .ok buffer
  | item :: rest => do
    let b ← item.toOctet
    collect (buffer.push b) rest

/-- **What is collected stands behind what was there**, in the order of the items; and if an item is no
octet, that is what comes of it. -/
theorem octets_collect (buffer : Buffer) (items : List Json) :
    (collect buffer items).map octets =
      (items.mapM Json.toOctet).map (buffer.octets ++ ·) := by
  induction items generalizing buffer with
  | nil => exact congrArg Except.ok (List.append_nil buffer.octets).symm
  | cons item rest ih =>
    rw [collect, List.mapM_cons]
    cases item.toOctet with
    | error cause => rfl
    | ok b =>
      show (collect (buffer.push b) rest).map octets = _
      rw [ih, octets_push]
      cases rest.mapM Json.toOctet with
      | error cause => rfl
      | ok bytes => exact congrArg Except.ok (List.append_assoc buffer.octets [b] bytes)

/-- A new buffer gets the octets of the items and nothing else, however much room it was given. -/
theorem octets_collect_withRoom (room : Nat) (items : List Json) :
    (collect (withRoom room) items).map octets = items.mapM Json.toOctet := by
  rw [octets_collect]
  cases items.mapM Json.toOctet with
  | error cause => rfl
  | ok bytes => rfl

end Buffer

namespace Mask

open Json (IsOctet ofOctets)

/-- The mask in a sequence of items, which may have said in advance how many there are. -/
def ofSequence (expected : Option Nat) (items : List Json) : Except PayloadError Mask := do
  let buffer ← (Buffer.withRoom (min (expected.getD 0) 4)).collect items
  visitOctets .undecodable buffer.octets

/-- The loop comes to what is said of the whole sequence, whatever was said in advance. -/
theorem ofSequence_eq (expected : Option Nat) (items : List Json) :
    ofSequence expected items = ofPayload (.items items) := by
  have hoctets := Buffer.octets_collect_withRoom (min (expected.getD 0) 4) items
  rw [ofPayload.eq_3, ← hoctets, ofSequence]
  cases (Buffer.withRoom (min (expected.getD 0) 4)).collect items with
  | error cause => rfl
  | ok buffer => rfl

theorem ofPayload_of_first {front rest : List Json} {item : Json}
    (hfront : ∀ x ∈ front, x.IsOctet) (hitem : ¬ item.IsOctet) :
    ofPayload (.items (front ++ item :: rest)) = .error item.refusal := by
  rw [ofPayload.eq_3, Json.mapM_toOctet_of_first hfront hitem]
  rfl

theorem ofPayload_ofOctets (bytes : Bytes) :
    ofPayload (.items (ofOctets bytes)) = (ofBinary bytes).mapError .undecodable := by
  rw [ofPayload.eq_3, Json.mapM_toOctet]
  rfl

/-- **A sequence is read from the left.**  Either all of its items are octets, and then it comes to
what the octets come to as a byte form, all of them and in their order; if they are not as many as in
some form, that is said with the number of all items.  Or there is a first item that is no octet, and
what is wrong with it is what comes of the sequence, whatever stands behind it.

A loop that collects the octets in a buffer comes to the same, whatever was said in advance about the
number of items, and so does a document that holds the sequence, in the words of its format. -/
theorem items_read_in_order (formats : Formats) (expected : Option Nat) (readable : Bool) :
    (∀ items : List Json,
      ofSequence expected items = ofPayload (.items items) ∧
      ofDocument formats (.plain readable (.items items)) =
        (ofPayload (.items items)).mapError formats.refusal) ∧
    (∀ (front : List Json) (item : Json) (rest : List Json),
      (∀ x ∈ front, x.IsOctet) → ¬ item.IsOctet →
        ofPayload (.items (front ++ item :: rest)) = .error item.refusal) ∧
    (∀ items : List Json, (∀ item ∈ items, item.IsOctet) →
      ∃ bytes : Bytes, items = bytes.map (fun b => .integer b.toNat) ∧
        ofPayload (.items items) = (ofBinary bytes).mapError .undecodable ∧
        (items.length ≠ 0 → items.length ≠ 1 → items.length ≠ 4 →
          ofDocument formats (.plain readable (.items items)) =
            .error ("unexpected slice size: " ++ toString items.length))) ∧
    (∀ items : List Json,
      (∀ item ∈ items, item.IsOctet) ∨
      ∃ front item rest, items = front ++ item :: rest ∧ (∀ x ∈ front, x.IsOctet) ∧
        ¬ item.IsOctet) := by
  refine ⟨fun items => ⟨?_, ?_⟩, fun front item rest => ?_, fun items hitems => ?_, fun items => ?_⟩
  · exact ofSequence_eq expected items
  · exact ofDocument_plain formats readable (.items items)
  · exact ofPayload_of_first
  · obtain ⟨bytes, rfl⟩ := Json.forall_isOctet_iff.mp hitems
    refine ⟨bytes, rfl, ofPayload_ofOctets bytes, fun hzero hone hfour => ?_⟩
    rw [ofDocument_items]
    rw [Json.ofOctets, List.length_map] at hzero hone hfour ⊢
    rw [ofBinary_of_length hzero hone hfour]
    rfl
  · by_cases h : ∀ item ∈ items, item.IsOctet
    · exact Or.inl h
    · exact Or.inr (Json.exists_first_of_not_forall h)

/-- Five octets, which are one more than an IPv4 mask has; and the same with an integer behind them that
is too large and a text behind that. -/
theorem items_read_in_order_of_six :
    (∀ x ∈ ofOctets [255, 255, 0, 0, 7], x.IsOctet) ∧ ¬ (Json.integer 300).IsOctet ∧
      ofPayload (.items (ofOctets [255, 255, 0, 0, 7] ++ .integer 300 :: [.string "x"])) =
        .error (.outOfRange 300) ∧
      ofDocument .usual (.plain true (.items (ofOctets [255, 255, 0, 0, 7]))) =
        .error "unexpected slice size: 5" := by
  obtain ⟨-, hfirst, hall, -⟩ := items_read_in_order .usual (some 6) true
  have hoctets : ∀ x ∈ ofOctets [255, 255, 0, 0, 7], x.IsOctet :=
    Json.forall_isOctet_iff.mpr ⟨_, rfl⟩
  have hlarge : ¬ (Json.integer 300).IsOctet := by
    rintro ⟨n, hn, -, hle⟩
    cases hn
    exact absurd hle (by decide)
  obtain ⟨bytes, -, -, hsize⟩ := hall _ hoctets
  refine ⟨hoctets, hlarge, hfirst _ _ _ hoctets hlarge, (hsize ?_ ?_ ?_).trans ?_⟩
  · decide
  · decide
  · decide
  · decide +kernel

end Mask

end AddressMask
