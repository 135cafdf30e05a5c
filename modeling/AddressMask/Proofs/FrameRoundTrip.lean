import AddressMask.Frame
import AddressMask.Proofs.BinaryRoundTrip

/-!
# Framed masks, written and read back

A list of masks in frames is a row of pieces: a count, and for each mask a length and that many
octets.  Nothing marks where a piece ends but the pieces before it, and a stream may be cut off
anywhere: inside the count, inside a length, inside a form or between two frames.

`Takes` says of one reader and one written piece what makes this work: the reader takes the piece
off the front of any stream and leaves what follows it, and where the stream ends within the piece
it reports that.  A piece of two parts is taken by taking the first part and then the second
(`Takes.bind`), wherever the cut falls, so nothing has to be counted.  Words, frames, masks and
lists of masks are put together from `take` in this way, lists by induction.
-/

namespace AddressMask

namespace Frame

/-! ## Taking what was written -/

/-- The reader takes the written octets off the front of a stream, as `a`, and no fewer will do. -/
structure Takes {α : Type} (reader : Bytes → Except FrameError (α × Bytes)) (written : Bytes)
    (a : α) : Prop where
  /-- What follows is left as it is. -/
  whole : ∀ rest, reader (written ++ rest) = .ok (a, rest)
  /-- A stream that ends within the written octets is too short. -/
  cut : ∀ stream, stream <+: written → stream ≠ written → reader stream = .error .truncated

/-- A stream that ends within two pieces ends within the first, or after it within the second. -/
theorem ends_in_first_or_second {stream first second : Bytes} (h : stream <+: first ++ second) :
    (stream <+: first ∧ stream ≠ first) ∨ ∃ rest, stream = first ++ rest ∧ rest <+: second := by
  rcases List.prefix_or_prefix_of_prefix h (List.prefix_append first second) with hshort | hlong
  · by_cases he : stream = first
    · exact Or.inr ⟨[], by rw [he, List.append_nil], List.nil_prefix⟩
    · exact Or.inl ⟨hshort, he⟩
  · obtain ⟨rest, rfl⟩ := hlong
    exact Or.inr ⟨rest, rfl, (List.prefix_append_right_inj first).mp h⟩

namespace Takes

variable {α β : Type} {reader : Bytes → Except FrameError (α × Bytes)}
  {first second : Bytes} {a : α} {b : β}

/-- Nothing is taken by leaving the stream as it is, and no stream is too short for it. -/
theorem of_nil (h : ∀ rest, reader rest = .ok (a, rest)) : Takes reader [] a where
  whole := h
  cut _ hprefix hne := absurd (List.prefix_nil.mp hprefix) hne

/-- **Two pieces are taken one after the other**, wherever a cut falls. -/
theorem bind (hfirst : Takes reader first a) (next : α → Bytes → Except FrameError (β × Bytes))
    (hsecond : Takes (next a) second b) :
    Takes (fun stream => reader stream >>= fun taken => next taken.1 taken.2) (first ++ second)
      b where
  whole rest := by
    rw [List.append_assoc, hfirst.whole]
    exact hsecond.whole rest
  cut stream h hne := by
    rcases ends_in_first_or_second h with ⟨hshort, hne'⟩ | ⟨rest, rfl, hrest⟩
    · rw [hfirst.cut stream hshort hne']
      rfl
    · -- the first piece is whole, so the second is not
      rw [hfirst.whole]
      exact hsecond.cut rest hrest fun he => hne (by rw [he])

/-- What is done with the first piece may take no more of the stream. -/
theorem bind_of_ok (hfirst : Takes reader first a)
    (next : α → Bytes → Except FrameError (β × Bytes))
    (hnext : ∀ rest, next a rest = .ok (b, rest)) :
    Takes (fun stream => reader stream >>= fun taken => next taken.1 taken.2) first b := by
  have hboth := hfirst.bind next (.of_nil hnext)
  rwa [List.append_nil] at hboth

end Takes

theorem takes_take (content : Bytes) : Takes (take content.length) content content where
  whole rest := by
    rw [take, if_pos (by rw [List.length_append]; omega), List.take_left, List.drop_left]
  cut stream h hne := by
    have hlt : stream.length < content.length :=
      Nat.lt_of_le_of_ne h.length_le fun he => hne (h.eq_of_length he)
    rw [take, if_neg (by omega)]

/-! ## Words -/

theorem littleEndian_octets {width n : Nat} (h : n < 256 ^ width) :
    littleEndian (octets width n) = n := by
  induction width generalizing n with
  | zero =>
    rw [Nat.pow_zero] at h
    rw [octets, littleEndian]
    omega
  | succ width ih =>
    have hrest : n / 256 < 256 ^ width :=
      Nat.div_lt_of_lt_mul (by rwa [Nat.mul_comm, ← Nat.pow_succ])
    have hfirst : (UInt8.ofNat (n % 256)).toNat = n % 256 :=
      UInt8.toNat_ofNat_of_lt' (Nat.mod_lt n (by decide))
    rw [octets, littleEndian, ih hrest, hfirst]
    exact Nat.mod_add_div n 256

theorem takes_takeWord {n : Nat} (h : n < UInt64.size) : Takes takeWord (word n) n := by
  have hcontent := takes_take (word n)
  rw [length_word] at hcontent
  exact hcontent.bind_of_ok (fun word rest => pure (littleEndian word, rest)) fun rest =>
    congrArg (fun n => Except.ok (n, rest)) (littleEndian_octets h)

/-! ## Frames -/

theorem takes_takeFrame (content : Bytes) (h : content.length < UInt64.size) :
    Takes takeFrame (enclosed content) content :=
  (takes_takeWord h).bind take (takes_take content)

theorem takes_takeMask {m : Mask} (h : m.Constructible) : Takes takeMask m.toFrame m := by
  have hle : m.toBinary.length ≤ 4 := by
    rw [Mask.length_toBinary]
    cases m <;> simp [Mask.binaryLength]
  have hframe := takes_takeFrame m.toBinary (Nat.lt_of_le_of_lt hle (by decide))
  refine hframe.bind_of_ok (fun content rest => do
    let m ← Mask.visitOctets .undecodable content
    pure (m, rest)) fun rest => ?_
  rw [Mask.visitOctets, Mask.ofBinary_toBinary h]
  rfl

theorem takes_takeMasks {masks : List Mask} (h : ∀ m ∈ masks, m.Constructible) :
    Takes (takeMasks masks.length) (masks.flatMap Mask.toFrame) masks := by
  induction masks with
  | nil => exact .of_nil fun rest => rfl
  | cons m masks ih =>
    have hmasks := ih fun x hx => h x (List.mem_cons_of_mem _ hx)
    have hcons := hmasks.bind_of_ok (b := m :: masks)
      (fun masks rest => pure (m :: masks, rest)) fun rest => rfl
    rw [List.flatMap_cons]
    exact (takes_takeMask (h m (List.mem_cons_self ..))).bind
      (fun m stream => takeMasks masks.length stream >>= fun taken => pure (m :: taken.1, taken.2))
      hcons

theorem takes_takeList {masks : List Mask} (h : ∀ m ∈ masks, m.Constructible)
    (hcount : masks.length < UInt64.size) : Takes takeList (Mask.framed masks) masks :=
  (takes_takeWord hcount).bind takeMasks (takes_takeMasks h)

end Frame

namespace Mask

/-- **Framed masks are read back, and only if they are all there.**  A list of masks that can be
made, as long as its number fits the word that holds it, is read from its frames whatever follows
them in the stream; and if the stream ends anywhere within the frames, that is reported, and no list
is read. -/
theorem ofFramed_framed {masks : List Mask} (h : ∀ m ∈ masks, m.Constructible)
    (hcount : masks.length < UInt64.size) :
    (∀ rest, ofFramed (framed masks ++ rest) = .ok masks) ∧
      ∀ stream, stream <+: framed masks → stream ≠ framed masks →
        ofFramed stream = .error .truncated := by
  have htakes := Frame.takes_takeList h hcount
  constructor
  · intro rest
    rw [ofFramed, htakes.whole]
    rfl
  · intro stream hprefix hne
    rw [ofFramed, htakes.cut stream hprefix hne]
    rfl

/-- Frames of all three sizes with something behind them, and cut within the last. -/
theorem ofFramed_framed_of_three :
    ofFramed (framed [.ipv4 #v[255, 255, 0, 0], .invalid, .ipv6 64] ++ [7, 7]) =
        .ok [.ipv4 #v[255, 255, 0, 0], .invalid, .ipv6 64] ∧
      ofFramed ((framed [.ipv4 #v[255, 255, 0, 0], .invalid, .ipv6 64]).dropLast) =
        .error .truncated := by
  have hmade : ∀ m ∈ [Mask.ipv4 #v[255, 255, 0, 0], .invalid, .ipv6 64], m.Constructible := by
    simp only [constructible_iff]
    decide
  obtain ⟨hwhole, hcut⟩ := ofFramed_framed hmade (by decide)
  exact ⟨hwhole [7, 7], hcut _ (List.dropLast_prefix _) (by decide)⟩

end Mask

end AddressMask
