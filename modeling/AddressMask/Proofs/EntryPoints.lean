import AddressMask.Document
import AddressMask.Proofs.FrameRoundTrip
import AddressMask.Proofs.TextRoundTrip
import AddressMask.Proofs.UsualFormats

/-!
# All ways of reading a form agree

A text form may come as it is, as a value to be parsed, in a document that holds a text, or as a
JSON string; a byte form as it is, as the octets of a document, as a sequence of numbers, or in a
frame.  Each way goes through steps of its own, and each step either hands over what was written or
reports why it is no form.

So no way has to be compared with another: every one is shown to come to the result of `ofText` or
of `ofBinary`, a mask or the words of a refusal, which the formats keep
(`Formats.mapError_refusal`).  The one that takes an argument is the sequence, which is read octet
by octet (`mapM_toOctet`), and the content of a frame is given back by `Frame.takes_takeFrame`
whatever follows it.
-/

namespace AddressMask

namespace Json

theorem toOctet_toNat (b : UInt8) : toOctet (.integer b.toNat) = .ok b := by
  have hlt := b.toNat_lt
  rw [toOctet, if_pos (by omega), Int.toNat_natCast, UInt8.ofNat_toNat]

theorem mapM_toOctet (bytes : Bytes) : (ofOctets bytes).mapM toOctet = .ok bytes :=
  mapM_map_eq_ok fun b _ => toOctet_toNat b

end Json

namespace Mask

/-! ## Each way alone -/

variable (formats : Formats)

theorem ofDocument_text (readable : Bool) (text : String) :
    ofDocument formats (.plain readable (.text text)) =
      (ofText text).mapError DecodeError.message := by
  rw [ofDocument_plain]
  exact formats.mapError_refusal (ofText text)

theorem ofDocument_octets (readable : Bool) (bytes : Bytes) :
    ofDocument formats (.plain readable (.octets bytes)) =
      (ofBinary bytes).mapError DecodeError.message := by
  rw [ofDocument_plain]
  exact formats.mapError_refusal (ofBinary bytes)

/-- The numbers are put together before anything is asked of the octets that they are. -/
theorem ofDocument_items (readable : Bool) (bytes : Bytes) :
    ofDocument formats (.plain readable (.items (Json.ofOctets bytes))) =
      (ofBinary bytes).mapError DecodeError.message := by
  rw [ofDocument_plain, ofPayload.eq_3, Json.mapM_toOctet]
  exact formats.mapError_refusal (ofBinary bytes)

theorem ofDocument_jsonString (unasked : Except String Payload) (text : String) :
    ofDocument formats (.ofJson formats unasked (.string text)) =
      (ofText text).mapError DecodeError.message := by
  rw [ofDocument_ofJson, ofJson_string]
  exact formats.mapError_refusal (ofText text)

theorem ofJson_eq_error {value : Json} (h : ∀ text, value ≠ .string text) :
    ofJson value = .error (.unexpectedKind value .mask) := by
  cases value with
  | string text => exact absurd rfl (h text)
  | _ => rfl

/-- A frame is left behind as soon as its content is there. -/
theorem ofFrame_word {bytes : Bytes} (h : bytes.length < UInt64.size) (rest : Bytes) :
    ofFrame (Frame.word bytes.length ++ bytes ++ rest) =
      (ofBinary bytes).mapError .undecodable := by
  have hcontent := (Frame.takes_takeFrame bytes h).whole rest
  rw [Frame.enclosed] at hcontent
  rw [ofFrame_eq_bind, hcontent]
  rfl

theorem ofDocument_frame (unasked : Except String Payload) {bytes : Bytes}
    (h : bytes.length < UInt64.size) (rest : Bytes) :
    ofDocument formats (.ofStream formats unasked (Frame.word bytes.length ++ bytes ++ rest)) =
      (ofBinary bytes).mapError DecodeError.message := by
  rw [ofDocument_ofStream, ofFrame_word h]
  exact formats.mapError_streamRefusal (ofBinary bytes)

theorem ofText_of_constructible {m : Mask} (h : m.Constructible) : ofText m.toText = .ok m :=
  ofText_of_textReading (textReading_toText h.wellFormed)

/-- A mask that can be made comes back from what a format got of it. -/
theorem ofPayload_toPayload {m : Mask} (h : m.Constructible) (readable : Bool) :
    ofPayload (m.toPayload readable) = .ok m := by
  cases readable with
  | true =>
    change (ofText m.toText).mapError PayloadError.undecodable = .ok m
    rw [ofText_of_constructible h]
    rfl
  | false =>
    change (ofBinary m.toBinary).mapError PayloadError.undecodable = .ok m
    rw [ofBinary_toBinary h]
    rfl

/-! ## All of them -/

/-- **All ways of reading a form agree**, whatever the formats are like.  A text comes to the same
mask, or is refused in the same words, however it is handed over: to be parsed, in a document of its
own, as a JSON string, or as the JSON text of that string.  So do octets: as they are, as a sequence of
numbers, or in a frame with anything behind it.  A JSON value that is no string is refused whatever is
in it. -/
theorem entry_points_agree (formats : Formats) (readable : Bool)
    (unasked : Except String Payload) :
    (∀ text : String,
      let answer := (ofText text).mapError DecodeError.message
      (parse text).mapError DecodeError.message = answer ∧
        ofDocument formats (.plain readable (.text text)) = answer ∧
        ofDocument formats (.ofJson formats unasked (.string text)) = answer ∧
        (formats.read? (formats.write (.string text))).map (fun value =>
          ofDocument formats (.ofJson formats unasked value)) = some answer) ∧
    (∀ bytes : Bytes,
      let answer := (ofBinary bytes).mapError DecodeError.message
      ofDocument formats (.plain readable (.octets bytes)) = answer ∧
        ofDocument formats (.plain readable (.items (Json.ofOctets bytes))) = answer ∧
        (bytes.length < UInt64.size → ∀ rest,
          ofDocument formats (.ofStream formats unasked
            (Frame.word bytes.length ++ bytes ++ rest)) = answer)) ∧
    ∀ value : Json, (∀ text, value ≠ .string text) →
      ofDocument formats (.ofJson formats unasked value) =
        .error ("invalid type: " ++ formats.describe value ++
          ", expected a network mask in text or binary form") := by
  refine ⟨fun text => ⟨rfl, ?_, ?_, ?_⟩, fun bytes => ⟨?_, ?_, fun hlt rest => ?_⟩,
    fun value hvalue => ?_⟩
  · exact ofDocument_text formats readable text
  · exact ofDocument_jsonString formats unasked text
  · rw [formats.read?_write _ (.string text), Option.map_some, ofDocument_jsonString]
  · exact ofDocument_octets formats readable bytes
  · exact ofDocument_items formats readable bytes
  · exact ofDocument_frame formats unasked hlt rest
  · have hwords := formats.refusal_unexpectedKind value .mask
    rw [ofDocument_ofJson, ofJson_eq_error hvalue]
    exact congrArg Except.error (hwords.trans (String.append_assoc ..))

/-- A letter in a JSON string, two octets in a frame with more behind it, and the octets of a mask
that are none in JSON. -/
theorem entry_points_agree_of_refused :
    ofDocument .usual (.ofJson .usual (.ok (.text "")) (.string "1.2.3.x")) =
        .error "invalid digit in mask" ∧
      ofDocument .usual (.ofStream .usual (.ok (.text "")) (Frame.word 2 ++ [1, 2] ++ [7])) =
        .error "unexpected slice size: 2" ∧
      ofDocument .usual
          (.ofJson .usual (.ok (.text "")) (.array (Json.ofOctets [255, 255, 0, 0]))) =
        .error "invalid type: sequence, expected a network mask in text or binary form" := by
  obtain ⟨htext, hoctets, hother⟩ := entry_points_agree .usual true (.ok (.text ""))
  obtain ⟨-, -, hjson, -⟩ := htext "1.2.3.x"
  obtain ⟨-, -, hframe⟩ := hoctets [1, 2]
  have harray := hother (.array (Json.ofOctets [255, 255, 0, 0])) nofun
  refine ⟨hjson.trans ?_, (hframe (by decide) [7]).trans ?_, harray.trans ?_⟩
  · decide +kernel
  · decide +kernel
  · decide +kernel

end Mask

end AddressMask
