import AddressMask.Proofs.RecordedWords
import AddressMask.Proofs.SameBits

/-!
# Every refusal is recorded once

The records of a reading are spread over the readers: a text can be refused for its length, for the
number of its fields, for a digit or for a number, each in another place, and one of these places
keeps no record at all.  What holds of all of them is that a reading is *answered*: it comes to
something in silence, or it is refused with a single record (`Decoding.answer`).  Answers follow
each other as results do (`answer_bind`), because nothing is read after a refusal, so the record of
a row of fields is that of the leftmost field that fails.

`TextRefusal` lists the refusals of a text with the sentences that are recorded of them, word for
word: each has the evidence that the cause calls for, the length, the number of fields with the
whole text, or the field.  `readText_cases` says that a text is read in silence or refused with one
of these.  The place without a record is out of reach: three digits fit all the words that a length
goes through (`number_of_short`).

Octets that are no prefix are no refusal.  They give the invalid mask, as much else does, but only
they are recorded, with a lower level.
-/

namespace AddressMask

open Numeral

namespace Decoding

variable {α β : Type}

/-- The reading that comes to a value in silence, or is refused with a single record. -/
def answer : Except (DecodeError × Event) α → Decoding α
  | .ok a => pure a
  | .error (cause, event) => reject cause event

@[simp] theorem answer_ok (a : α) : answer (.ok a) = pure a := rfl

@[simp] theorem answer_error (cause : DecodeError) (event : Event) :
    (answer (.error (cause, event)) : Decoding α) = reject cause event := rfl

/-- After a refusal nothing is read, so that nothing more is recorded. -/
theorem answer_bind (r : Except (DecodeError × Event) α)
    (f : α → Except (DecodeError × Event) β) :
    answer r >>= (fun a => answer (f a)) = answer (r >>= f) := by
  cases r with
  | ok a => exact pure_bind a _
  | error refusal => rfl

end Decoding

namespace Mask

open Text Decoding

/-! ## The refusals of a text -/

/-- What a dotted field comes to, with the record of a refusal.  It quotes the field. -/
def fieldOutcome (field : List Char) : Except (DecodeError × Event) UInt8 :=
  if ¬ IsNumeral field then .error (.invalidDigit, .invalidDigit (String.ofList field))
  else if 255 < amount field then
    .error (.octetOutOfRange, .octetOutOfRange (String.ofList field))
  else .ok (UInt8.ofNat (amount field))

/-- What a dotted field comes to, with the sentence on a refusal, which quotes the field. -/
inductive FieldAnswer (field : List Char) : Except (DecodeError × String) UInt8 → Prop
  | octet {n : UInt8} (hdigits : IsNumeral field) (hn : amount field = n.toNat) :
      FieldAnswer field (.ok n)
  | noDigits (hdigits : ¬ IsNumeral field) :
      FieldAnswer field
        (.error (.invalidDigit, "invalid digit in mask field " ++ quoted (String.ofList field)))
  | tooLarge (hdigits : IsNumeral field) (hlt : 255 < amount field) :
      FieldAnswer field
        (.error (.octetOutOfRange,
          "dotted field " ++ quoted (String.ofList field) ++ " out of range"))

/-- Why a text is refused, and the sentence that is recorded. -/
inductive TextRefusal (s : String) : DecodeError → String → Prop
  /-- Up to three octets are quoted if they are no numeral. -/
  | noLength (hsize : 1 ≤ s.utf8ByteSize ∧ s.utf8ByteSize ≤ 3) (hdigits : ¬ IsNumeral s.toList) :
      TextRefusal s .invalidDigit ("invalid digit in mask field " ++ quoted s)
  /-- With fewer than three points the whole text is quoted, and its fields are counted. -/
  | fewPoints (hsize : 7 ≤ s.utf8ByteSize ∧ s.utf8ByteSize ≤ 15) (hlt : s.toList.count '.' < 3) :
      TextRefusal s (.fieldCount (s.toList.count '.' + 1))
        ("dotted mask " ++ quoted s ++ " has " ++ toString (s.toList.count '.' + 1) ++ " fields")
  /-- Of four fields the leftmost that fails is quoted. -/
  | badField {a b c d : List Char} {cause : DecodeError} {sentence : String}
      (hsize : 7 ≤ s.utf8ByteSize ∧ s.utf8ByteSize ≤ 15) (hcut : CutAtPoints s.toList a b c d)
      (hbad : FirstFailure FieldAnswer [a, b, c, d] (cause, sentence)) :
      TextRefusal s cause sentence
  /-- A length that no form has is recorded alone. -/
  | otherSize (hsize : (4 ≤ s.utf8ByteSize ∧ s.utf8ByteSize ≤ 6) ∨ 15 < s.utf8ByteSize) :
      TextRefusal s (.unexpectedSize s.utf8ByteSize)
        ("text mask of unexpected length " ++ toString s.utf8ByteSize)

theorem fieldAnswer_of_ok {field : List Char} {n : UInt8} (h : fieldOutcome field = .ok n) :
    FieldAnswer field (.ok n) := by
  unfold fieldOutcome at h
  split at h
  · cases h
  · split at h
    · cases h
    · rename_i hdigits hle
      cases h
      have hlt : amount field < UInt8.size := Nat.lt_succ_of_le (Nat.le_of_not_lt hle)
      exact .octet (not_not.mp hdigits) (UInt8.toNat_ofNat_of_lt' hlt).symm

/-- What is recorded of a field is worth a look, and says what is wrong with it. -/
theorem fieldAnswer_of_error {field : List Char} {cause : DecodeError} {event : Event}
    (h : fieldOutcome field = .error (cause, event)) :
    event.level = .debug ∧ FieldAnswer field (.error (cause, event.message)) := by
  unfold fieldOutcome at h
  split at h
  · cases h
    exact ⟨rfl, .noDigits ‹_›⟩
  · split at h
    · rename_i hdigits hlt
      cases h
      exact ⟨rfl, .tooLarge (not_not.mp hdigits) hlt⟩
    · cases h

/-! ## The readers, with what they record -/

theorem readOctet_eq (field : List Char) : readOctet field = answer (fieldOutcome field) := by
  rw [readOctet, readNumber_eq, fieldOutcome]
  by_cases h : IsNumeral field
  · rw [if_pos h, if_neg (not_not_intro h), pure_bind]
    by_cases hle : amount field ≤ 255
    · rw [if_pos hle, if_neg (by omega)]
      rfl
    · rw [if_neg hle, if_pos (by omega)]
      rfl
  · rw [if_neg h, if_pos h]
    rfl

/-- Four fields are answered as the leftmost that fails, if one does. -/
theorem readDotted_eq {s : String} {a b c d : List Char} (hcut : CutAtPoints s.toList a b c d) :
    readDotted s = answer (do
      let w ← fieldOutcome a
      let x ← fieldOutcome b
      let y ← fieldOutcome c
      let z ← fieldOutcome d
      .ok (.ipv4 (.four w x y z))) := by
  rw [readDotted, fields_of_cut hcut]
  simp only [readOctet_eq, ← answer_bind, answer_ok]

theorem readDotted_cases {s : String} {a b c d : List Char} (hcut : CutAtPoints s.toList a b c d) :
    (∃ m, readDotted s = pure m) ∨
      ∃ cause event, event.level = .debug ∧
        FirstFailure FieldAnswer [a, b, c, d] (cause, event.message) ∧
        readDotted s = reject cause event := by
  rw [readDotted_eq hcut]
  cases h : (do
      let w ← fieldOutcome a
      let x ← fieldOutcome b
      let y ← fieldOutcome c
      let z ← fieldOutcome d
      .ok (.ipv4 (.four w x y z)) : Except (DecodeError × Event) Mask) with
  | ok m => exact Or.inl ⟨m, rfl⟩
  | error refusal =>
    obtain ⟨cause, event⟩ := refusal
    have hbad : FirstFailure (fun field r => fieldOutcome field = r) [a, b, c, d]
        (cause, event) := by
      simpa [bind_eq_error_iff, FirstFailure.cons_iff] using h
    obtain ⟨field, -, hfield⟩ := hbad.exists_error
    refine Or.inr ⟨cause, event, (fieldAnswer_of_error hfield).1, ?_, rfl⟩
    exact hbad.imp (fun _ _ => fieldAnswer_of_ok) fun _ h => (fieldAnswer_of_error h).2

/-- **A text is read in silence, or refused with the one record that belongs to the refusal.** -/
theorem readText_cases (s : String) :
    (∃ m, readText s = pure m) ∨
      ∃ cause event, event.level = .debug ∧ TextRefusal s cause event.message ∧
        readText s = reject cause event := by
  rcases size_cases s with hsize | hsize | hsize | hsize
  · exact Or.inl ⟨_, readText_of_empty hsize⟩
  · rw [readText_of_short hsize, readLength_eq hsize.2]
    by_cases hdigits : IsNumeral s.toList
    · rw [if_pos hdigits]
      exact Or.inl ⟨_, rfl⟩
    · rw [if_neg hdigits]
      exact Or.inr ⟨_, .invalidDigit s, rfl, .noLength hsize hdigits, rfl⟩
  · rw [readText_of_long hsize]
    by_cases hpoints : s.toList.count '.' < 3
    · exact Or.inr ⟨_, .fieldCount s _, rfl, .fewPoints hsize hpoints, readDotted_of_few hpoints⟩
    · obtain ⟨a, b, c, d, hcut⟩ := exists_cut (Nat.le_of_not_lt hpoints)
      rcases readDotted_cases hcut with hread | ⟨cause, event, hlevel, hbad, hread⟩
      · exact Or.inl hread
      · exact Or.inr ⟨cause, event, hlevel, .badField hsize hcut hbad, hread⟩
  · exact Or.inr ⟨_, .textLength _, rfl, .otherSize hsize, readText_of_other hsize⟩

/-! ## Octets -/

/-- A byte form is read in silence, or refused with its length recorded. -/
theorem readBinary_cases (bytes : Bytes) :
    (∃ m, readBinary bytes = pure m) ∨
      readBinary bytes = reject (.unexpectedSize bytes.length) (.binaryLength bytes.length) := by
  unfold readBinary
  split
  · exact Or.inl ⟨_, rfl⟩
  · exact Or.inl ⟨_, rfl⟩
  · exact Or.inl ⟨_, rfl⟩
  · exact Or.inr rfl

/-- Sixteen octets are recorded if they are no prefix. -/
theorem log_readIPv6 (octets : Octets 16) :
    (readIPv6 octets).log = if ofIPv6 octets = .invalid then [.nonPrefix octets] else [] := by
  unfold ofIPv6 readIPv6
  split
  · rfl
  · rfl

theorem log_readBytes?_of_sixteen (octets : Octets 16) :
    (readBytes? octets.toList).log = (readIPv6 octets).log := by
  have hfour : Octets.ofBytes? 4 octets.toList = none :=
    Octets.ofBytes?_of_length_ne (by rw [Vector.length_toList]; decide)
  rw [readBytes?, hfour, Octets.ofBytes?_toList]
  exact Logged.log_map _ _

/-- Nothing is recorded of raw octets that are not sixteen. -/
theorem log_readBytes?_of_ne {bytes : Bytes} (h : bytes.length ≠ 16) :
    (readBytes? bytes).log = [] := by
  rw [readBytes?, Octets.ofBytes?_of_length_ne h]
  split
  · rfl
  · rename_i heq
    cases heq
  · rfl

end Mask

/-! ## All sources -/

namespace Source

open Mask Text

theorem log_text (s : String) : log (.text s) = (readText s).log := Logged.log_map _ _

theorem log_binary (bytes : Bytes) : log (.binary bytes) = (readBinary bytes).log :=
  Logged.log_map _ _

theorem log_ipv6 (octets : Octets 16) : log (.ipv6 octets) = (readIPv6 octets).log :=
  Logged.log_map _ _

theorem log_ipv6Address (octets : Octets 16) :
    log (.ipv6Address octets) = (readIPv6 octets).log := Logged.log_map _ _

theorem log_address (a : Address) : log (.address a) = (readAddress a).log := Logged.log_map _ _

theorem log_rawBytes (bytes : Bytes) : log (.rawBytes bytes) = (readBytes? bytes).log := by
  rw [log, read, Logged.log_bind]
  cases (readBytes? bytes).value <;> exact List.append_nil _

theorem records_of_log_nil {source : Source} (h : source.log = []) : source.records = [] := by
  rw [records, h, List.map_nil]

theorem records_of_log_singleton {source : Source} {event : Event} (h : source.log = [event]) :
    source.records = [(event.level, event.message)] := by
  rw [records, h, List.map_singleton]

/-- A text that is read leaves no record, and one that is refused leaves the record of its
refusal. -/
theorem records_text_of_result (s : String) :
    (∀ m, ofText s = .ok m → records (.text s) = []) ∧
      ∀ cause, ofText s = .error cause →
        ∃ sentence, records (.text s) = [(.debug, sentence)] ∧ TextRefusal s cause sentence := by
  have hlog := log_text s
  rw [ofText]
  rcases readText_cases s with ⟨m, hread⟩ | ⟨cause, event, hlevel, hrefusal, hread⟩
  · rw [hread] at hlog ⊢
    refine ⟨fun _ _ => records_of_log_nil hlog, fun cause h => ?_⟩
    cases h
  · rw [hread] at hlog ⊢
    refine ⟨fun m h => ?_, fun cause' h => ?_⟩
    · cases h
    cases h
    have hrecords := records_of_log_singleton hlog
    rw [hlevel] at hrecords
    exact ⟨event.message, hrecords, hrefusal⟩

/-- The same for a byte form, of which only the length is recorded. -/
theorem records_binary_of_result (bytes : Bytes) :
    (∀ m, ofBinary bytes = .ok m → records (.binary bytes) = []) ∧
      ∀ cause, ofBinary bytes = .error cause →
        cause = .unexpectedSize bytes.length ∧
          records (.binary bytes) =
            [(.debug, "binary mask of unexpected length " ++ toString bytes.length)] := by
  have hlog := log_binary bytes
  rw [ofBinary]
  rcases readBinary_cases bytes with ⟨m, hread⟩ | hread
  · rw [hread] at hlog ⊢
    exact ⟨fun _ _ => records_of_log_nil hlog, nofun⟩
  · rw [hread] at hlog ⊢
    refine ⟨nofun, fun cause h => ?_⟩
    cases h
    exact ⟨rfl, records_of_log_singleton hlog⟩

/-- Sixteen octets leave a record if they give the invalid mask, whichever way they are given. -/
theorem mask_and_log_of_sixteen {octets : Octets 16} {source : Source}
    (h : source ∈ [.ipv6 octets, .rawBytes octets.toList, .ipv6Address octets,
      .address (.ipv6 octets)]) :
    source.mask = .ok (ofIPv6 octets) ∧
      source.log = if ofIPv6 octets = .invalid then [.nonPrefix octets] else [] := by
  simp only [List.mem_cons, List.not_mem_nil, or_false] at h
  rw [← log_readIPv6]
  rcases h with rfl | rfl | rfl | rfl
  · exact ⟨rfl, log_ipv6 octets⟩
  · rw [mask_rawBytes, ofBytes?_toList_ipv6, log_rawBytes, log_readBytes?_of_sixteen]
    exact ⟨rfl, rfl⟩
  · exact ⟨rfl, log_ipv6Address octets⟩
  · exact ⟨rfl, log_address (.ipv6 octets)⟩

/-- Four octets leave no record. -/
theorem log_of_four {octets : Octets 4} {source : Source}
    (h : source ∈ [.ipv4 octets, .rawBytes octets.toList, .ipv4Address octets,
      .address (.ipv4 octets)]) : source.log = [] := by
  simp only [List.mem_cons, List.not_mem_nil, or_false] at h
  rcases h with rfl | rfl | rfl | rfl
  · rfl
  · rw [log_rawBytes, log_readBytes?_of_ne (by rw [Vector.length_toList]; decide)]
  · rfl
  · rfl

/-- Raw octets of which no mask can be made leave no record. -/
theorem log_rawBytes_of_none {bytes : Bytes} (h : ofBytes? bytes = none) :
    log (.rawBytes bytes) = [] := by
  rw [log_rawBytes]
  apply log_readBytes?_of_ne
  intro hsixteen
  -- sixteen octets always have a mask
  obtain ⟨octets, rfl⟩ : ∃ octets : Octets 16, octets.toList = bytes :=
    ⟨⟨bytes.toArray, by simpa using hsixteen⟩, rfl⟩
  rw [ofBytes?_toList_ipv6] at h
  cases h

/-- **Every refusal is recorded once, and nothing else but octets that are no prefix.**

A text that is read, if only as the invalid mask, leaves no record; a text that is refused leaves
one, with the length, the number of fields and the text, or the leftmost field that fails, as its
cause calls for.  A byte form that is refused leaves one with its length, and otherwise none.
Sixteen octets, given as such, as raw octets or by an address, leave one with all of them exactly if
they give the invalid mask.  Counts of ones, four octets and raw octets of which no mask can be made
leave nothing, whatever comes of them.

A text of up to three octets is never refused for the size of its number, and the number is not cut
down.  No two events have the same sentence, and what needs no escape is quoted as it stands. -/
theorem log_of_result :
    (∀ s : String,
      (∀ m, ofText s = .ok m → records (.text s) = []) ∧
      ∀ cause, ofText s = .error cause →
        ∃ sentence, records (.text s) = [(.debug, sentence)] ∧ TextRefusal s cause sentence) ∧
    (∀ bytes : Bytes,
      (∀ m, ofBinary bytes = .ok m → records (.binary bytes) = []) ∧
      ∀ cause, ofBinary bytes = .error cause →
        cause = .unexpectedSize bytes.length ∧
          records (.binary bytes) =
            [(.debug, "binary mask of unexpected length " ++ toString bytes.length)]) ∧
    (∀ (octets : Octets 16) (source : Source),
      source ∈ [.ipv6 octets, .rawBytes octets.toList, .ipv6Address octets,
        .address (.ipv6 octets)] →
      ∃ m, source.mask = .ok m ∧
        (m = .invalid → source.records = [(.trace, "non-prefix IPv6 mask [" ++
          ", ".intercalate (octets.toList.map fun b => String.ofList (hexOctet b)) ++ "]")]) ∧
        (m ≠ .invalid → source.records = [])) ∧
    (∀ ones total : Int, records (.leadingOnes ones total) = []) ∧
    (∀ (octets : Octets 4) (source : Source),
      source ∈ [.ipv4 octets, .rawBytes octets.toList, .ipv4Address octets,
        .address (.ipv4 octets)] →
      source.records = []) ∧
    (∀ bytes : Bytes, ofBytes? bytes = none → records (.rawBytes bytes) = []) ∧
    (∀ (s : String) (n : Nat), s.utf8ByteSize ≤ 3 → (readNumber s.toList).result = .ok n →
      n < UInt64.size ∧ (Int32.ofNat n).toInt = n) ∧
    Function.Injective Event.message ∧
    (∀ s : String,
      (∀ c ∈ s.toList, 0x20 ≤ c.toNat ∧ c.toNat < 0x7f ∧ c ≠ '"' ∧ c ≠ '\\') →
      quoted s = "\"" ++ s ++ "\"") := by
  refine ⟨records_text_of_result, records_binary_of_result, fun octets source h => ?_,
    fun _ _ => rfl, fun octets source h => records_of_log_nil (log_of_four h),
    fun bytes h => records_of_log_nil (log_rawBytes_of_none h), fun s n => number_of_short,
    Event.message_injective, fun s => quoted_of_plain⟩
  obtain ⟨hmask, hlog⟩ := mask_and_log_of_sixteen h
  refine ⟨ofIPv6 octets, hmask, fun hinvalid => ?_, fun hvalid => ?_⟩
  · rw [if_pos hinvalid] at hlog
    exact records_of_log_singleton hlog
  · rw [if_neg hvalid] at hlog
    exact records_of_log_nil hlog

/-- Two bad fields, a number that no length has, octets of no form, and octets that are no
prefix. -/
theorem log_of_result_of_bad_fields :
    (records (.text "1.400.x.0") = [(.debug, "dotted field \"400\" out of range")] ∧
        TextRefusal "1.400.x.0" .octetOutOfRange "dotted field \"400\" out of range") ∧
      records (.text "999") = [] ∧
      records (.binary [1, 2]) = [(.debug, "binary mask of unexpected length 2")] ∧
      records (.binary [129]) = [] ∧
      (mask (.rawBytes (Vector.replicate 16 1).toList) = .ok .invalid ∧
        records (.rawBytes (Vector.replicate 16 1).toList) =
          [(.trace, "non-prefix IPv6 mask " ++
            "[01, 01, 01, 01, 01, 01, 01, 01, 01, 01, 01, 01, 01, 01, 01, 01]")]) ∧
      records (.rawBytes [1, 2, 3]) = [] ∧
      (999 < UInt64.size ∧ (Int32.ofNat 999).toInt = 999) ∧
      Event.message (.textLength 4) ≠ Event.message (.textLength 5) ∧
      quoted "400" = "\"400\"" := by
  obtain ⟨htext, hbinary, hsixteen, -, -, hraw, hnumber, hmessage, hquoted⟩ := log_of_result
  obtain ⟨sentence, hrecords, hrefusal⟩ := (htext "1.400.x.0").2 _ rfl
  have hsentence : records (.text "1.400.x.0") =
      [(.debug, "dotted field \"400\" out of range")] := by decide +kernel
  obtain ⟨m, hm, hinvalid, -⟩ := hsixteen (Vector.replicate 16 1)
    (.rawBytes (Vector.replicate 16 1).toList) (by simp)
  have hmask : mask (.rawBytes (Vector.replicate 16 1).toList) = .ok .invalid := by decide
  obtain rfl : .invalid = m := Except.ok.inj (hmask.symm.trans hm)
  obtain rfl : _ = sentence :=
    congrArg Prod.snd (List.cons.inj (hsentence.symm.trans hrecords)).1
  exact ⟨⟨hsentence, hrefusal⟩, (htext "999").1 .invalid rfl, ((hbinary [1, 2]).2 _ rfl).2,
    (hbinary [129]).1 .invalid rfl, ⟨hmask, hinvalid rfl⟩, hraw [1, 2, 3] rfl,
    hnumber "999" 999 (by decide) rfl, hmessage.ne (by decide), hquoted "400" (by simp)⟩

end Source

end AddressMask
