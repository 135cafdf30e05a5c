import AddressMask.Proofs.FirstFailure
import AddressMask.Proofs.FrameRoundTrip
import AddressMask.Proofs.UsualFormats
import Mathlib.Data.List.Forall2

/-!
# Framed masks in any stream

Frames come from outside.  The count in front of a list and the length in front of each frame are
whatever eight octets say, a frame may hold anything, and a stream may end anywhere.  This module
says what is read from a stream about which nothing is known.

A stream begins with a whole frame or ends within one (`frame_or_cut`), and never both, so there are
three things that the frame at the front can come to: a mask, if its content is as long as a form; a
refusal of its length, if not; and the end of the stream (`FrameFailure`).  A list goes on from one
frame to the next, and the first frame that gives no mask is the answer.  `takeMasks_eq_ok_iff` and
`takeMasks_eq_error_iff` say so by induction on the number of masks that are left to take.

Everything else is read off these two.  Each frame takes eight octets for its length alone, so a
count that promises more frames than the stream has room for is never met.  And only the end of the
stream depends on what does not follow: what is read up to there, or refused, stays so whatever is
appended.
-/

namespace AddressMask

namespace Mask

/-- The numbers of octets that byte forms have. -/
def IsFormLength (length : Nat) : Prop := length = 0 ∨ length = 1 ∨ length = 4

instance (length : Nat) : Decidable (IsFormLength length) :=
  inferInstanceAs (Decidable (length = 0 ∨ length = 1 ∨ length = 4))

/-- A byte form as it is written again after reading.  A single octet above 128 is not. -/
def rewritten : Bytes → Bytes
  | [length] => if 128 < length then [] else [length]
  | bytes => bytes

theorem isFormLength_of_ofBinary {bytes : Bytes} {m : Mask} (h : ofBinary bytes = .ok m) :
    IsFormLength bytes.length := by
  by_contra hsize
  unfold IsFormLength at hsize
  rw [ofBinary_of_length (by omega) (by omega) (by omega)] at h
  cases h

theorem exists_ofBinary {bytes : Bytes} (h : IsFormLength bytes.length) :
    ∃ m, ofBinary bytes = .ok m := by
  cases hread : ofBinary bytes with
  | ok m => exact ⟨m, rfl⟩
  | error cause =>
    obtain ⟨⟨hzero, hone, hfour⟩, -⟩ := ofBinary_eq_error_iff.mp hread
    rcases h with h | h | h
    · exact absurd h hzero
    · exact absurd h hone
    · exact absurd h hfour

theorem rewritten_of_not_isLongLength {bytes : Bytes} (h : ¬ IsLongLength bytes) :
    rewritten bytes = bytes := by
  unfold rewritten
  split
  · rename_i length
    exact if_neg fun hlt => h ⟨length, rfl, hlt⟩
  · rfl

theorem toBinary_eq_rewritten {bytes : Bytes} {m : Mask} (h : ofBinary bytes = .ok m) :
    m.toBinary = rewritten bytes := by
  rcases toBinary_of_ofBinary h with ⟨hshort, hm⟩ | ⟨⟨length, rfl, hlt⟩, rfl⟩
  · rw [hm, rewritten_of_not_isLongLength hshort]
  · exact (if_pos hlt).symm

end Mask

namespace Frame

open Mask

/-! ## What a stream begins with -/

/-- The stream goes on to the written octets, but ends before they do. -/
def EndsWithin (stream written : Bytes) : Prop := stream <+: written ∧ stream ≠ written

theorem endsWithin_of_append {stream missing : Bytes} (h : missing ≠ []) :
    EndsWithin stream (stream ++ missing) :=
  ⟨List.prefix_append stream missing, fun he => h (List.self_eq_append_right.mp he)⟩

theorem littleEndian_lt (bytes : Bytes) : littleEndian bytes < 256 ^ bytes.length := by
  induction bytes with
  | nil => exact Nat.one_pos
  | cons b bytes ih =>
    have hb := b.toNat_lt
    rw [littleEndian, List.length_cons, Nat.pow_succ]
    omega

/-- Octets are the digits of the number that they hold. -/
theorem octets_littleEndian (bytes : Bytes) : octets bytes.length (littleEndian bytes) = bytes := by
  induction bytes with
  | nil => rfl
  | cons b bytes ih =>
    have hb := b.toNat_lt
    have hfirst : (b.toNat + 256 * littleEndian bytes) % 256 = b.toNat := by omega
    have hrest : (b.toNat + 256 * littleEndian bytes) / 256 = littleEndian bytes := by omega
    rw [List.length_cons, littleEndian, octets, hfirst, hrest, ih, UInt8.ofNat_toNat]

/-- Any eight octets are the word of some number. -/
theorem exists_word {bytes : Bytes} (h : bytes.length = 8) :
    ∃ n, n < UInt64.size ∧ bytes = word n := by
  have hlt := littleEndian_lt bytes
  have heq := octets_littleEndian bytes
  rw [h] at hlt heq
  exact ⟨littleEndian bytes, hlt, heq.symm⟩

/-- A stream is too short for a word or begins with one. -/
theorem word_or_short (stream : Bytes) :
    stream.length < 8 ∨ ∃ n rest, n < UInt64.size ∧ stream = word n ++ rest := by
  by_cases h : stream.length < 8
  · exact Or.inl h
  · have hlength : (stream.take 8).length = 8 := by
      rw [List.length_take]
      omega
    obtain ⟨n, hn, hword⟩ := exists_word hlength
    exact Or.inr ⟨n, stream.drop 8, hn, by rw [← hword, List.take_append_drop]⟩

/-- **A stream begins with a whole frame or ends within one.** -/
theorem frame_or_cut (stream : Bytes) :
    (∃ content rest, content.length < UInt64.size ∧ stream = enclosed content ++ rest) ∨
      ∃ content, content.length < UInt64.size ∧ EndsWithin stream (enclosed content) := by
  rcases word_or_short stream with hshort | ⟨n, rest, hn, rfl⟩
  · -- what is missing of the length may as well be zeros, and the content too
    have hlength : (stream ++ List.replicate (8 - stream.length) (0 : UInt8)).length = 8 := by
      rw [List.length_append, List.length_replicate]
      omega
    obtain ⟨n, hn, hword⟩ := exists_word hlength
    refine Or.inr ⟨List.replicate n 0, by rwa [List.length_replicate], ?_⟩
    rw [enclosed, List.length_replicate, ← hword, List.append_assoc]
    exact endsWithin_of_append fun he => by
      have hlength := congrArg List.length he
      rw [List.length_append, List.length_replicate, List.length_nil] at hlength
      omega
  · by_cases hle : n ≤ rest.length
    · refine Or.inl ⟨rest.take n, rest.drop n, ?_, ?_⟩
      · rwa [List.length_take, Nat.min_eq_left hle]
      · rw [enclosed, List.length_take, Nat.min_eq_left hle, List.append_assoc,
          List.take_append_drop]
    · have hlength : (rest ++ List.replicate (n - rest.length) (0 : UInt8)).length = n := by
        rw [List.length_append, List.length_replicate]
        omega
      refine Or.inr ⟨rest ++ List.replicate (n - rest.length) 0, by rwa [hlength], ?_⟩
      rw [enclosed, hlength, ← List.append_assoc]
      exact endsWithin_of_append fun he => by
        have hlength := congrArg List.length he
        rw [List.length_replicate, List.length_nil] at hlength
        omega

/-! ## One frame -/

/-- Why the frame at the front of a stream gives no mask. -/
inductive FrameFailure (stream : Bytes) : FrameError → Prop
  /-- The stream ends within the frame … -/
  | cut {content : Bytes} (hlt : content.length < UInt64.size)
      (hcut : EndsWithin stream (enclosed content)) : FrameFailure stream .truncated
  /-- … or the frame is whole, but no form is as long as its content. -/
  | wrongSize {content rest : Bytes} (hlt : content.length < UInt64.size)
      (h : stream = enclosed content ++ rest) (hsize : ¬ IsFormLength content.length) :
      FrameFailure stream (.undecodable (.unexpectedSize content.length))

theorem takeMask_enclosed {content : Bytes} (h : content.length < UInt64.size) (rest : Bytes) :
    takeMask (enclosed content ++ rest) =
      (ofBinary content).mapError .undecodable >>= fun m => pure (m, rest) := by
  rw [takeMask, (takes_takeFrame content h).whole]
  rfl

theorem takeMask_of_endsWithin {stream content : Bytes} (h : content.length < UInt64.size)
    (hcut : EndsWithin stream (enclosed content)) : takeMask stream = .error .truncated := by
  rw [takeMask, (takes_takeFrame content h).cut stream hcut.1 hcut.2]
  rfl

theorem takeMask_eq_ok_iff {stream rest : Bytes} {m : Mask} :
    takeMask stream = .ok (m, rest) ↔
      ∃ content, stream = enclosed content ++ rest ∧ ofBinary content = .ok m := by
  constructor
  · intro h
    rcases frame_or_cut stream with ⟨content, rest', hlt, rfl⟩ | ⟨content, hlt, hcut⟩
    · rw [takeMask_enclosed hlt] at h
      obtain ⟨m', hm, he⟩ := bind_eq_ok_iff.mp h
      cases he
      exact ⟨content, rfl, mapError_eq_ok_iff.mp hm⟩
    · rw [takeMask_of_endsWithin hlt hcut] at h
      cases h
  · rintro ⟨content, rfl, hm⟩
    have hlt : content.length < UInt64.size := by
      rcases isFormLength_of_ofBinary hm with h | h | h <;> rw [h] <;> decide
    rw [takeMask_enclosed hlt, hm]
    rfl

theorem takeMask_eq_error_iff {stream : Bytes} {e : FrameError} :
    takeMask stream = .error e ↔ FrameFailure stream e := by
  have hwrong {content : Bytes} (hsize : ¬ IsFormLength content.length) :
      ofBinary content = .error (.unexpectedSize content.length) := by
    unfold IsFormLength at hsize
    exact ofBinary_of_length (by omega) (by omega) (by omega)
  constructor
  · intro h
    rcases frame_or_cut stream with ⟨content, rest, hlt, rfl⟩ | ⟨content, hlt, hcut⟩
    · rw [takeMask_enclosed hlt] at h
      by_cases hsize : IsFormLength content.length
      · obtain ⟨m, hm⟩ := exists_ofBinary hsize
        rw [hm] at h
        cases h
      · rw [hwrong hsize] at h
        cases h
        exact .wrongSize hlt rfl hsize
    · rw [takeMask_of_endsWithin hlt hcut] at h
      cases h
      exact .cut hlt hcut
  · intro h
    cases h with
    | cut hlt hcut => exact takeMask_of_endsWithin hlt hcut
    | wrongSize hlt h hsize =>
      rw [h, takeMask_enclosed hlt, hwrong hsize]
      rfl

/-! ## Frame after frame -/

theorem takeMasks_succ_eq_ok_iff {count : Nat} {stream rest : Bytes} {masks : List Mask} :
    takeMasks (count + 1) stream = .ok (masks, rest) ↔
      ∃ m after others, takeMask stream = .ok (m, after) ∧
        takeMasks count after = .ok (others, rest) ∧ masks = m :: others := by
  rw [takeMasks]
  constructor
  · intro h
    obtain ⟨⟨m, after⟩, hfirst, h⟩ := bind_eq_ok_iff.mp h
    obtain ⟨⟨others, left⟩, hothers, h⟩ := bind_eq_ok_iff.mp h
    cases h
    exact ⟨m, after, others, hfirst, hothers, rfl⟩
  · rintro ⟨m, after, others, hfirst, hothers, rfl⟩
    exact bind_eq_ok_iff.mpr ⟨(m, after), hfirst, bind_eq_ok_iff.mpr ⟨(others, rest), hothers, rfl⟩⟩

theorem takeMasks_succ_eq_error_iff {count : Nat} {stream : Bytes} {e : FrameError} :
    takeMasks (count + 1) stream = .error e ↔
      takeMask stream = .error e ∨
        ∃ m after, takeMask stream = .ok (m, after) ∧ takeMasks count after = .error e := by
  rw [takeMasks]
  constructor
  · intro h
    rcases bind_eq_error_iff.mp h with hfirst | ⟨⟨m, after⟩, hfirst, h⟩
    · exact Or.inl hfirst
    · rcases bind_eq_error_iff.mp h with hothers | ⟨_, _, h⟩
      · exact Or.inr ⟨m, after, hfirst, hothers⟩
      · cases h
  · rintro (hfirst | ⟨m, after, hfirst, hothers⟩)
    · exact bind_eq_error_iff.mpr (Or.inl hfirst)
    · exact bind_eq_error_iff.mpr
        (Or.inr ⟨(m, after), hfirst, bind_eq_error_iff.mpr (Or.inl hothers)⟩)

/-- Masks are taken one after the other from frames that stand one after the other. -/
theorem takeMasks_eq_ok_iff {count : Nat} {stream rest : Bytes} {masks : List Mask} :
    takeMasks count stream = .ok (masks, rest) ↔
      ∃ contents : List Bytes, contents.length = count ∧
        stream = contents.flatMap enclosed ++ rest ∧
        List.Forall₂ (fun content m => ofBinary content = .ok m) contents masks := by
  induction count generalizing stream masks with
  | zero =>
    constructor
    · intro h
      cases h
      exact ⟨[], rfl, rfl, .nil⟩
    · rintro ⟨contents, hlength, rfl, hread⟩
      obtain rfl := List.length_eq_zero_iff.mp hlength
      cases hread
      rfl
  | succ count ih =>
    rw [takeMasks_succ_eq_ok_iff]
    constructor
    · rintro ⟨m, after, others, hfirst, hothers, rfl⟩
      obtain ⟨content, rfl, hm⟩ := takeMask_eq_ok_iff.mp hfirst
      obtain ⟨contents, rfl, rfl, hread⟩ := ih.mp hothers
      refine ⟨content :: contents, rfl, ?_, .cons hm hread⟩
      rw [List.flatMap_cons, List.append_assoc]
    · rintro ⟨contents, hlength, rfl, hread⟩
      cases hread with
      | nil => cases hlength
      | @cons content m contents others hm hread =>
        refine ⟨m, contents.flatMap enclosed ++ rest, others, ?_,
          ih.mpr ⟨contents, Nat.succ.inj hlength, rfl, hread⟩, rfl⟩
        rw [List.flatMap_cons, List.append_assoc]
        exact takeMask_eq_ok_iff.mpr ⟨content, rfl, hm⟩

/-- The first frame that gives no mask is the answer, after frames that all give one. -/
theorem takeMasks_eq_error_iff {count : Nat} {stream : Bytes} {e : FrameError} :
    takeMasks count stream = .error e ↔
      ∃ (contents : List Bytes) (rest : Bytes), contents.length < count ∧
        (∀ content ∈ contents, IsFormLength content.length) ∧
        stream = contents.flatMap enclosed ++ rest ∧ FrameFailure rest e := by
  induction count generalizing stream with
  | zero =>
    constructor
    · intro h
      cases h
    · rintro ⟨contents, rest, hlt, -⟩
      exact absurd hlt (Nat.not_lt_zero _)
  | succ count ih =>
    rw [takeMasks_succ_eq_error_iff]
    constructor
    · rintro (hfirst | ⟨m, after, hfirst, hothers⟩)
      · exact ⟨[], stream, Nat.succ_pos _, fun _ h => absurd h List.not_mem_nil, rfl,
          takeMask_eq_error_iff.mp hfirst⟩
      · obtain ⟨content, rfl, hm⟩ := takeMask_eq_ok_iff.mp hfirst
        obtain ⟨contents, rest, hlt, hforms, rfl, hfail⟩ := ih.mp hothers
        refine ⟨content :: contents, rest, ?_, ?_, ?_, hfail⟩
        · rw [List.length_cons]
          omega
        · exact List.forall_mem_cons.mpr ⟨isFormLength_of_ofBinary hm, hforms⟩
        · rw [List.flatMap_cons, List.append_assoc]
    · rintro ⟨contents, rest, hlt, hforms, rfl, hfail⟩
      cases contents with
      | nil => exact Or.inl (takeMask_eq_error_iff.mpr hfail)
      | cons content contents =>
        obtain ⟨hform, hforms⟩ := List.forall_mem_cons.mp hforms
        obtain ⟨m, hm⟩ := exists_ofBinary hform
        rw [List.length_cons] at hlt
        refine Or.inr ⟨m, contents.flatMap enclosed ++ rest, ?_,
          ih.mpr ⟨contents, rest, by omega, hforms, rfl, hfail⟩⟩
        rw [List.flatMap_cons, List.append_assoc]
        exact takeMask_eq_ok_iff.mpr ⟨content, rfl, hm⟩

theorem length_flatMap_enclosed (contents : List Bytes) :
    8 * contents.length ≤ (contents.flatMap enclosed).length := by
  induction contents with
  | nil => exact Nat.le_refl _
  | cons content contents ih =>
    rw [List.flatMap_cons, enclosed, List.length_append, List.length_append, length_word,
      List.length_cons]
    omega

/-- Masks that were read from frames are written in frames of the contents as they are written
again. -/
theorem flatMap_toFrame {contents : List Bytes} {masks : List Mask}
    (h : List.Forall₂ (fun content m => ofBinary content = .ok m) contents masks) :
    masks.flatMap toFrame = (contents.map rewritten).flatMap enclosed := by
  induction h with
  | nil => rfl
  | cons hm _ ih =>
    rw [List.flatMap_cons, ih, List.map_cons, List.flatMap_cons, toFrame_eq,
      toBinary_eq_rewritten hm]

/-! ## A list of frames -/

/-- The stream begins with frames of the given contents, after their number, and each content is a
form of the mask in its place. -/
structure ListReading (stream : Bytes) (contents : List Bytes) (masks : List Mask)
    (rest : Bytes) : Prop where
  count : contents.length < UInt64.size
  eq : stream = word contents.length ++ (contents.flatMap enclosed ++ rest)
  reads : List.Forall₂ (fun content m => ofBinary content = .ok m) contents masks

/-- Why the list at the front of a stream gives no masks. -/
inductive ListFailure (stream : Bytes) : FrameError → Prop
  /-- The stream ends within the number of frames … -/
  | noCount (h : stream.length < 8) : ListFailure stream .truncated
  /-- … or one of that many frames fails, and all those before it give masks. -/
  | frame {count : Nat} {contents : List Bytes} {rest : Bytes} {e : FrameError}
      (hcount : count < UInt64.size) (hlt : contents.length < count)
      (hforms : ∀ content ∈ contents, IsFormLength content.length)
      (h : stream = word count ++ (contents.flatMap enclosed ++ rest))
      (hfail : FrameFailure rest e) : ListFailure stream e

theorem takeList_word_append {count : Nat} (h : count < UInt64.size) (rest : Bytes) :
    takeList (word count ++ rest) = takeMasks count rest := by
  rw [takeList, (takes_takeWord h).whole]
  rfl

theorem takeList_of_short {stream : Bytes} (h : stream.length < 8) :
    takeList stream = .error .truncated := by
  rw [takeList, takeWord, take, if_neg (by omega)]
  rfl

theorem takeList_eq_ok_iff {stream rest : Bytes} {masks : List Mask} :
    takeList stream = .ok (masks, rest) ↔ ∃ contents, ListReading stream contents masks rest := by
  constructor
  · intro h
    rcases word_or_short stream with hshort | ⟨count, rest', hcount, rfl⟩
    · rw [takeList_of_short hshort] at h
      cases h
    · rw [takeList_word_append hcount] at h
      obtain ⟨contents, rfl, rfl, hreads⟩ := takeMasks_eq_ok_iff.mp h
      exact ⟨contents, hcount, rfl, hreads⟩
  · rintro ⟨contents, hcount, rfl, hreads⟩
    rw [takeList_word_append hcount]
    exact takeMasks_eq_ok_iff.mpr ⟨contents, rfl, rfl, hreads⟩

theorem takeList_eq_error_iff {stream : Bytes} {e : FrameError} :
    takeList stream = .error e ↔ ListFailure stream e := by
  constructor
  · intro h
    rcases word_or_short stream with hshort | ⟨count, rest, hcount, rfl⟩
    · rw [takeList_of_short hshort] at h
      cases h
      exact .noCount hshort
    · rw [takeList_word_append hcount] at h
      obtain ⟨contents, rest, hlt, hforms, rfl, hfail⟩ := takeMasks_eq_error_iff.mp h
      exact .frame hcount hlt hforms rfl hfail
  · intro h
    cases h with
    | noCount h => exact takeList_of_short h
    | @frame count contents rest e hcount hlt hforms h hfail =>
      rw [h, takeList_word_append hcount]
      exact takeMasks_eq_error_iff.mpr ⟨contents, rest, hlt, hforms, rfl, hfail⟩

theorem word_injective {m n : Nat} (hm : m < UInt64.size) (hn : n < UInt64.size)
    (h : word m = word n) : m = n := by
  have hm' : littleEndian (word m) = m := littleEndian_octets hm
  have hn' : littleEndian (word n) = n := littleEndian_octets hn
  rw [← hm', ← hn', h]

namespace ListReading

variable {stream rest : Bytes} {contents : List Bytes} {masks : List Mask}

theorem length_eq (h : ListReading stream contents masks rest) :
    contents.length = masks.length := h.reads.length_eq

theorem isFormLength (h : ListReading stream contents masks rest) :
    ∀ content ∈ contents, IsFormLength content.length := by
  intro content hmem
  obtain ⟨i, hi, rfl⟩ := List.getElem_of_mem hmem
  exact isFormLength_of_ofBinary (h.reads.get hi (h.length_eq ▸ hi))

/-- Each frame takes eight octets at least, and so does their number. -/
theorem le_length (h : ListReading stream contents masks rest) :
    8 + 8 * masks.length ≤ stream.length := by
  have hframes := length_flatMap_enclosed contents
  rw [h.eq, ← h.length_eq, List.length_append, length_word, List.length_append]
  omega

/-- Written again, the masks have the frames that they were read from, but with nothing in those of
lengths that no address has. -/
theorem framed_eq (h : ListReading stream contents masks rest) :
    framed masks = word masks.length ++ (contents.map rewritten).flatMap enclosed := by
  rw [framed, flatMap_toFrame h.reads]

/-- What is read from a stream is read from any longer one. -/
theorem append (h : ListReading stream contents masks rest) (more : Bytes) :
    ListReading (stream ++ more) contents masks (rest ++ more) where
  count := h.count
  eq := by rw [h.eq, List.append_assoc, List.append_assoc]
  reads := h.reads

end ListReading

namespace ListFailure

variable {stream : Bytes} {e : FrameError}

/-- A list fails because the stream ends, or because of a length that no form has. -/
theorem cause (h : ListFailure stream e) :
    e = .truncated ∨ ∃ n, ¬ IsFormLength n ∧ e = .undecodable (.unexpectedSize n) := by
  cases h with
  | noCount _ => exact Or.inl rfl
  | frame _ _ _ _ hfail =>
    cases hfail with
    | cut _ _ => exact Or.inl rfl
    | wrongSize _ _ hsize => exact Or.inr ⟨_, hsize, rfl⟩

/-- A refused length is refused in any longer stream. -/
theorem append (h : ListFailure stream e) (hne : e ≠ .truncated) (more : Bytes) :
    ListFailure (stream ++ more) e := by
  cases h with
  | noCount _ => exact absurd rfl hne
  | @frame count contents rest e hcount hlt hforms h hfail =>
    cases hfail with
    | cut _ _ => exact absurd rfl hne
    | @wrongSize content rest hlength hrest hsize =>
      have hfail : FrameFailure (enclosed content ++ (rest ++ more))
          (.undecodable (.unexpectedSize content.length)) := .wrongSize hlength rfl hsize
      refine .frame hcount hlt hforms ?_ hfail
      rw [h, hrest]
      simp only [List.append_assoc]

end ListFailure

end Frame

namespace Mask

open AddressMask.Frame

theorem ofFramed_eq_ok_iff {stream : Bytes} {masks : List Mask} :
    ofFramed stream = .ok masks ↔ ∃ contents rest, ListReading stream contents masks rest := by
  constructor
  · intro h
    rw [ofFramed, map_eq_pure_bind] at h
    obtain ⟨⟨masks', rest⟩, htaken, he⟩ := bind_eq_ok_iff.mp h
    cases he
    obtain ⟨contents, hreading⟩ := takeList_eq_ok_iff.mp htaken
    exact ⟨contents, rest, hreading⟩
  · rintro ⟨contents, rest, hreading⟩
    rw [ofFramed, takeList_eq_ok_iff.mpr ⟨contents, hreading⟩]
    rfl

theorem ofFramed_eq_error_iff {stream : Bytes} {e : FrameError} :
    ofFramed stream = .error e ↔ ListFailure stream e := by
  rw [← takeList_eq_error_iff, ofFramed]
  cases takeList stream with
  | ok taken =>
    constructor
    · intro h
      cases h
    · intro h
      cases h
  | error e' =>
    constructor
    · intro h
      cases h
      rfl
    · intro h
      cases h
      rfl

/-- What does not come to the end of the stream comes to the same in any longer stream. -/
theorem ofFramed_append {stream : Bytes} (h : ofFramed stream ≠ .error .truncated) (more : Bytes) :
    ofFramed (stream ++ more) = ofFramed stream := by
  cases hread : ofFramed stream with
  | ok masks =>
    obtain ⟨contents, rest, hreading⟩ := ofFramed_eq_ok_iff.mp hread
    exact ofFramed_eq_ok_iff.mpr ⟨contents, rest ++ more, hreading.append more⟩
  | error e =>
    have hfailure := ofFramed_eq_error_iff.mp hread
    have hne : e ≠ .truncated := fun he => h (by rw [hread, he])
    exact ofFramed_eq_error_iff.mpr (hfailure.append hne more)

/-- A number of frames for which the stream has no room is never met. -/
theorem ofFramed_of_large_count {count : Nat} {rest : Bytes} (hcount : count < UInt64.size)
    (hlarge : ((word count ++ rest).length - 8) / 8 < count) :
    ∃ e, ofFramed (word count ++ rest) = .error e := by
  cases hread : ofFramed (word count ++ rest) with
  | error e => exact ⟨e, rfl⟩
  | ok masks =>
    obtain ⟨contents, rest', hreading⟩ := ofFramed_eq_ok_iff.mp hread
    have hwords := (List.append_inj hreading.eq (by rw [length_word, length_word])).1
    have hlength := word_injective hcount hreading.count hwords
    have hle := hreading.le_length
    rw [← hreading.length_eq, ← hlength] at hle
    omega

/-- **What is read from a stream of which nothing is known.**

Masks are read exactly if the stream begins with their number and as many frames, each with a form
of the mask in its place; the contents have none, one or four octets, the stream is at least eight
octets long and eight more for each mask, and written again the masks have the same frames, except
that a length above 128 has become nothing.

Otherwise the first frame that gives no mask is the answer: it is refused for the number of its
octets, or the stream ends within it, and the format says so.  So a number of frames for which there
is no room always fails, and a result that does not come from the end of the stream stays when
something is appended. -/
theorem ofFramed_of_any_stream (formats : Formats) (stream : Bytes) :
    (∀ masks, ofFramed stream = .ok masks ↔
      ∃ contents rest, ListReading stream contents masks rest) ∧
    (∀ contents masks rest, ListReading stream contents masks rest →
      stream = word masks.length ++ (contents.flatMap enclosed ++ rest) ∧
      (∀ content ∈ contents, IsFormLength content.length) ∧
      8 + 8 * masks.length ≤ stream.length ∧
      framed masks = word masks.length ++ (contents.map rewritten).flatMap enclosed) ∧
    (∀ e, ofFramed stream = .error e ↔ ListFailure stream e) ∧
    (∀ e, ofFramed stream = .error e →
      (e = .truncated ∧ formats.streamRefusal e = "unexpected end of file") ∨
        ∃ n, ¬ IsFormLength n ∧ e = .undecodable (.unexpectedSize n) ∧
          formats.streamRefusal e = "unexpected slice size: " ++ toString n) ∧
    (∀ count rest, count < UInt64.size → stream = word count ++ rest →
      (stream.length - 8) / 8 < count → ∃ e, ofFramed stream = .error e) ∧
    (∀ more, ofFramed stream ≠ .error .truncated →
      ofFramed (stream ++ more) = ofFramed stream) := by
  refine ⟨fun masks => ofFramed_eq_ok_iff, ?_, fun e => ofFramed_eq_error_iff, ?_, ?_,
    fun more h => ofFramed_append h more⟩
  · intro contents masks rest h
    exact ⟨h.length_eq ▸ h.eq, h.isFormLength, h.le_length, h.framed_eq⟩
  · intro e h
    rcases (ofFramed_eq_error_iff.mp h).cause with rfl | ⟨n, hsize, rfl⟩
    · exact Or.inl ⟨rfl, formats.streamRefusal_truncated⟩
    · exact Or.inr ⟨n, hsize, rfl, formats.streamRefusal_undecodable _⟩
  · rintro count rest hcount rfl hlarge
    exact ofFramed_of_large_count hcount hlarge

/-- A length of no address, with something behind its frame, with too large a number in front of it,
and before a frame of two octets. -/
theorem ofFramed_of_long_length :
    ofFramed (word 1 ++ (enclosed [129] ++ [])) = .ok [.invalid] ∧
      framed [.invalid] = word 1 ++ enclosed [] ∧
      ofFramed (word 1 ++ (enclosed [129] ++ []) ++ [7]) = .ok [.invalid] ∧
      (∃ e, ofFramed (word 2 ++ enclosed [129]) = .error e) ∧
      ofFramed (word 3 ++ (enclosed [129] ++ (enclosed [1, 2] ++ [7]))) =
        .error (.undecodable (.unexpectedSize 2)) ∧
      Formats.usual.streamRefusal (.undecodable (.unexpectedSize 2)) = "unexpected slice size: 2" := by
  have hreading : ListReading (word 1 ++ (enclosed [129] ++ [])) [[129]] [.invalid] [] :=
    ⟨by decide, rfl, .cons rfl .nil⟩
  have hsecond : FrameFailure (enclosed [1, 2] ++ [7]) (.undecodable (.unexpectedSize 2)) :=
    @FrameFailure.wrongSize _ [1, 2] [7] (by decide) rfl (by decide)
  have hforms : ∀ content ∈ [[(129 : UInt8)]], IsFormLength content.length := by decide
  have hfailure : ListFailure (word 3 ++ (enclosed [129] ++ (enclosed [1, 2] ++ [7])))
      (.undecodable (.unexpectedSize 2)) :=
    @ListFailure.frame _ 3 _ _ _ (by decide) (by decide) hforms rfl hsecond
  obtain ⟨hok, hwritten, -, -, -, hmore⟩ :=
    ofFramed_of_any_stream .usual (word 1 ++ (enclosed [129] ++ []))
  obtain ⟨-, -, -, -, hlarge, -⟩ := ofFramed_of_any_stream .usual (word 2 ++ enclosed [129])
  obtain ⟨-, -, hfailed, hwords, -, -⟩ := ofFramed_of_any_stream .usual
    (word 3 ++ (enclosed [129] ++ (enclosed [1, 2] ++ [7])))
  have hread := (hok [.invalid]).mpr ⟨_, _, hreading⟩
  have hrefused := (hfailed _).mpr hfailure
  refine ⟨hread, (hwritten _ _ _ hreading).2.2.2, ?_, hlarge 2 _ (by decide) rfl (by decide),
    hrefused, ?_⟩
  · rw [hmore [7] (by rw [hread]; nofun), hread]
  · rcases hwords _ hrefused with ⟨he, -⟩ | ⟨n, -, he, hn⟩
    · cases he
    · cases he
      exact hn

end Mask

end AddressMask
