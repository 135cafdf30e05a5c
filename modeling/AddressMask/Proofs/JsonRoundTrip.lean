import AddressMask.Json.Reader
import AddressMask.Json.Writer
import AddressMask.Proofs.Numeral

/-!
# JSON, written and read back

Writing gives one of the many texts of a value and reading takes any of them, so the two fit
together because each reader stops where the writer of the same thing has stopped.  A string stops
at its closing quote, which is escaped inside of it (`readString_renderString`).  A number has no
end of its own: it stops because what may stand behind it, a comma, a closing bracket or nothing,
would not go on with it (`EndsNumber`).  A sequence is read item by item, and every item starts with
a character that is no blank and does not close the sequence, so that no item is taken for the end
(`readSequence_commaSeparated`).

Two kinds of values are not read back as they were: a real is read with a rounding error, and an
integer that does not fit 64 bits is read as a real.  `Json.Exact` leaves these out and bounds the
nesting, and all values that are left are read back (`parse?_render`), by induction on the value.
-/

namespace AddressMask.Json

open Numeral

/-! ## Strings -/

/-- A character in front of what is read. -/
def prepend (c : Char) : Option (List Char × List Char) → Option (List Char × List Char) :=
  Option.map fun (read, left) => (c :: read, left)

theorem readString_plain {c : Char} (hq : c ≠ '"') (hb : c ≠ '\\') (h : 0x20 ≤ c.toNat)
    (text : List Char) : readString (c :: text) = prepend c (readString text) := by
  rw [readString.eq_6 c text hq (fun _ _ _ _ _ _ _ _ _ he _ => hb he)
    (fun _ _ _ _ _ he _ => hb he) (fun _ _ he _ => hb he), if_neg (by omega)]
  rfl

theorem readString_short {c letter : Char} (hu : letter ≠ 'u') (h : ofShortEscape? letter = some c)
    (text : List Char) : readString ('\\' :: letter :: text) = prepend c (readString text) := by
  rw [readString.eq_5 letter text (fun _ _ _ _ _ _ _ _ _ he _ => hu he)
    (fun _ _ _ _ _ he _ => hu he), h]
  rfl

theorem readString_hex {c high low : Char} (h : hex4? '0' '0' high low = some c.toNat)
    (hlt : c.toNat < 0x20) (text : List Char) :
    readString ('\\' :: 'u' :: '0' :: '0' :: high :: low :: text) =
      prepend c (readString text) := by
  have hchar : ofCodePoint? c.toNat = some c := by
    have hvalid : c.toNat.isValidChar := c.valid
    rw [ofCodePoint?, if_pos hvalid, Char.ofNat_toNat]
  by_cases hpair : ∃ x y z w rest, text = '\\' :: 'u' :: x :: y :: z :: w :: rest
  · -- what follows looks like the other half of a pair, but there is no first half
    obtain ⟨x, y, z, w, rest, rfl⟩ := hpair
    rw [readString.eq_3, h, Option.bind_eq_bind, Option.bind_some, if_neg (by omega), hchar]
    rfl
  · rw [readString.eq_4 _ _ _ _ text fun x y z w rest he => hpair ⟨x, y, z, w, rest, he⟩, h,
      Option.bind_eq_bind, Option.bind_some, hchar]
    rfl

/-- A short escape is read as the character that it was written for. -/
theorem ofShortEscape?_of_shortEscape? {c letter : Char} (h : shortEscape? c = some letter) :
    letter ≠ 'u' ∧ ofShortEscape? letter = some c := by
  have table : ∀ entry ∈ shortEscapes, entry.2 ≠ 'u' ∧ ofShortEscape? entry.2 = some entry.1 := by
    decide
  obtain ⟨entry, hfound, rfl⟩ := Option.map_eq_some_iff.mp h
  have hc : entry.1 = c := by simpa using List.find?_some hfound
  rw [← hc]
  exact table entry (List.mem_of_find?_eq_some hfound)

/-- What is written for a character is read as the character. -/
theorem readString_escape (c : Char) (text : List Char) :
    readString (escape c ++ text) = prepend c (readString text) := by
  rw [escape]
  cases hshort : shortEscape? c with
  | some letter =>
    obtain ⟨hu, hletter⟩ := ofShortEscape?_of_shortEscape? hshort
    exact readString_short hu hletter text
  | none =>
    by_cases hlt : c.toNat < 0x20
    · have table : ∀ n < 0x20, hex4? '0' '0' (Nat.digitChar (n.toUInt8.toNat / 16))
          (Nat.digitChar (n.toUInt8.toNat % 16)) = some n := by decide
      rw [if_pos hlt]
      exact readString_hex (table c.toNat hlt) hlt text
    · rw [if_neg hlt]
      refine readString_plain ?_ ?_ (Nat.le_of_not_lt hlt) text
      · rintro rfl
        cases hshort
      · rintro rfl
        cases hshort

theorem readString_renderString (s : List Char) (rest : List Char) :
    readString (s.flatMap escape ++ '"' :: rest) = some (s, rest) := by
  induction s with
  | nil => rfl
  | cons c s ih =>
    rw [List.flatMap_cons, List.append_assoc, readString_escape, ih]
    rfl

/-! ## Numbers -/

/-- What may stand behind a number: nothing that would go on with it. -/
def EndsNumber (rest : List Char) : Prop :=
  ∀ c ∈ rest.head?, c.isDigit = false ∧ c ≠ '.' ∧ c ≠ 'e' ∧ c ≠ 'E'

theorem spanDigits_decimal (n : Nat) {rest : List Char} (h : EndsNumber rest) :
    spanDigits (decimal n ++ rest) = (decimal n, rest) := by
  have hdigits := (isNumeral_decimal n).isDigit
  rw [spanDigits, List.takeWhile_append_of_pos hdigits, List.dropWhile_append_of_pos hdigits]
  cases rest with
  | nil => rw [List.takeWhile_nil, List.dropWhile_nil, List.append_nil]
  | cons c rest =>
    have hc : ¬ c.isDigit = true := by simp [(h c rfl).1]
    rw [List.takeWhile_cons_of_neg hc, List.dropWhile_cons_of_neg hc, List.append_nil]

/-- A written number has no superfluous zero in front. -/
theorem decimal_ne_zero_cons (n : Nat) (c : Char) (rest : List Char) :
    decimal n ≠ '0' :: c :: rest := by
  intro h
  have htrimmed := decimal_amount (isNumeral_decimal n)
  rw [amount_decimal, h, trimmed] at htrimmed
  have hle := (trimmed_suffix (c :: rest)).length_le
  rw [← htrimmed, List.length_cons] at hle
  omega

theorem readFraction_of_endsNumber {rest : List Char} (h : EndsNumber rest) :
    readFraction rest = some ([], rest) := by
  cases rest with
  | nil => rfl
  | cons c rest =>
    exact readFraction.eq_2 _ fun rest' he => (h c rfl).2.1 (List.cons.inj he).1

theorem readExponent_of_endsNumber {rest : List Char} (h : EndsNumber rest) :
    readExponent rest = some (none, rest) := by
  cases rest with
  | nil => rfl
  | cons c rest =>
    obtain ⟨-, -, he, hE⟩ := h c rfl
    show (if c = 'e' ∨ c = 'E' then _ else _) = _
    rw [if_neg (not_or_intro he hE)]

theorem exists_digit_decimal (n : Nat) :
    ∃ c digits, decimal n = c :: digits ∧ c.isDigit = true := by
  cases hn : decimal n with
  | nil => exact absurd hn (isNumeral_decimal n).1
  | cons c digits => exact ⟨c, digits, rfl, (isNumeral_decimal n).isDigit c (by simp [hn])⟩

theorem decimal_whole (n : Nat) :
    ¬ (decimal n = [] ∨ ((decimal n).head? = some '0' ∧ decimal n ≠ ['0'])) := by
  rintro (h | ⟨hhead, hne⟩)
  · exact (isNumeral_decimal n).1 h
  · cases hn : decimal n with
    | nil => exact (isNumeral_decimal n).1 hn
    | cons c rest =>
      rw [hn, List.head?_cons, Option.some.injEq] at hhead
      cases rest with
      | nil => exact hne (by rw [hn, hhead])
      | cons d rest => exact decimal_ne_zero_cons n d rest (by rw [hn, hhead])

theorem readNumber_decimal (n : Nat) {rest : List Char} (h : EndsNumber rest) :
    readNumber (decimal n ++ rest) = (wholeNumber? false (decimal n)).map (·, rest) := by
  have hsign : ∀ text, decimal n ++ rest ≠ '-' :: text := by
    intro text he
    obtain ⟨c, digits, hn, hc⟩ := exists_digit_decimal n
    rw [hn, List.cons_append, List.cons.injEq] at he
    rw [he.1] at hc
    exact absurd hc (by decide)
  unfold readNumber
  split
  rename_i hmatch
  split at hmatch
  · exact absurd ‹_› (hsign _)
  · cases hmatch
    simp only [spanDigits_decimal n h]
    rw [if_neg (decimal_whole n), readFraction_of_endsNumber h]
    simp only [Option.bind_eq_bind, Option.bind_some, readExponent_of_endsNumber h]

theorem readNumber_neg_decimal (n : Nat) {rest : List Char} (h : EndsNumber rest) :
    readNumber ('-' :: (decimal n ++ rest)) = (wholeNumber? true (decimal n)).map (·, rest) := by
  unfold readNumber
  simp only [spanDigits_decimal n h]
  rw [if_neg (decimal_whole n), readFraction_of_endsNumber h]
  simp only [Option.bind_eq_bind, Option.bind_some, readExponent_of_endsNumber h]

theorem wholeNumber?_decimal {n : Nat} (h : n < UInt64.size) :
    wholeNumber? false (decimal n) = some (.integer n) := by
  rw [wholeNumber?, ofDigitChars_eq_amount, amount_decimal]
  exact if_pos ⟨Bool.false_ne_true, h⟩

theorem wholeNumber?_neg_decimal {n : Nat} (hpos : 0 < n) (h : n ≤ UInt64.size / 2) :
    wholeNumber? true (decimal n) = some (.integer (-n)) := by
  rw [wholeNumber?, ofDigitChars_eq_amount, amount_decimal]
  show (if _ then _ else if _ then _ else _) = _
  rw [if_neg (by simp), if_pos ⟨rfl, hpos, h⟩]

/-- An integer is written as the numeral of its amount, after a sign if it is negative. -/
theorem toList_toString (n : Int) :
    (toString n).toList = if n < 0 then '-' :: decimal n.natAbs else decimal n.natAbs := by
  cases n with
  | ofNat n =>
    have hneg : ¬ Int.ofNat n < 0 := Int.not_lt.mpr (Int.natCast_nonneg n)
    rw [if_neg hneg]
    exact String.toList_ofList
  | negSucc n =>
    rw [if_pos (Int.negSucc_lt_zero n)]
    show ("-" ++ String.ofList (decimal (n + 1))).toList = '-' :: decimal (n + 1)
    rw [String.toList_append, String.toList_ofList, String.toList_ofList]
    rfl

theorem readNumber_toString {n : Int} (hlow : -(UInt64.size / 2 : Nat) ≤ n)
    (hhigh : n < UInt64.size) {rest : List Char} (h : EndsNumber rest) :
    readNumber ((toString n).toList ++ rest) = some (.integer n, rest) := by
  rw [toList_toString]
  by_cases hneg : n < 0
  · rw [if_pos hneg, List.cons_append, readNumber_neg_decimal _ h,
      wholeNumber?_neg_decimal (by omega) (by omega)]
    simp only [Option.map_some]
    rw [show -(n.natAbs : Int) = n by omega]
  · rw [if_neg hneg, readNumber_decimal _ h, wholeNumber?_decimal (by omega)]
    simp only [Option.map_some]
    rw [show (n.natAbs : Int) = n by omega]

/-! ## Sequences -/

@[simp] theorem commaSeparated_nil : commaSeparated [] = [] := rfl

@[simp] theorem commaSeparated_singleton (item : List Char) : commaSeparated [item] = item := by
  simp [commaSeparated]

@[simp] theorem commaSeparated_cons_cons (item next : List Char) (items : List (List Char)) :
    commaSeparated (item :: next :: items) = item ++ ',' :: commaSeparated (next :: items) := by
  simp [commaSeparated]

theorem length_le_commaSeparated (items : List (List Char)) :
    items.length ≤ (commaSeparated items).length + 1 := by
  induction items with
  | nil => exact Nat.zero_le _
  | cons item items ih =>
    cases items with
    | nil => exact Nat.succ_le_succ (Nat.zero_le _)
    | cons next items =>
      rw [commaSeparated_cons_cons, List.length_append, List.length_cons]
      rw [List.length_cons] at ih
      simp only [List.length_cons]
      omega

theorem skipBlanks_cons {c : Char} (h : isBlank c = false) (text : List Char) :
    skipBlanks (c :: text) = c :: text := by
  rw [skipBlanks, List.dropWhile_cons_of_neg (by simp [h])]

section Sequences

variable {α : Type} {item : List Char → Option (α × List Char)} {write : α → List Char}
  {close : Char} {items : List α}

theorem readItems_of_comma {x : α} {text rest : List Char} (h : item text = some (x, ',' :: rest))
    (bound : Nat) :
    readItems item close (bound + 1) text =
      (readItems item close bound rest).map fun (read, left) => (x :: read, left) := by
  rw [readItems, h]
  simp only [Option.bind_eq_bind, Option.bind_some, skipBlanks_cons (c := ',') rfl]

theorem readItems_of_close (hcomma : close ≠ ',') (hclose : isBlank close = false) {x : α}
    {text rest : List Char} (h : item text = some (x, close :: rest)) (bound : Nat) :
    readItems item close (bound + 1) text = some ([x], rest) := by
  rw [readItems, h]
  simp only [Option.bind_eq_bind, Option.bind_some, skipBlanks_cons hclose, if_true]

theorem readItems_commaSeparated (hcomma : close ≠ ',') (hclose : isBlank close = false)
    (hne : items ≠ [])
    (hitem : ∀ x ∈ items, ∀ c after, c = ',' ∨ c = close →
      item (write x ++ c :: after) = some (x, c :: after))
    {bound : Nat} (hbound : items.length ≤ bound) (rest : List Char) :
    readItems item close bound (commaSeparated (items.map write) ++ close :: rest) =
      some (items, rest) := by
  induction items generalizing bound with
  | nil => exact absurd rfl hne
  | cons x items ih =>
    match bound, hbound with
    | bound + 1, hbound =>
      have hx := hitem x (List.mem_cons_self ..)
      cases items with
      | nil =>
        rw [List.map_singleton, commaSeparated_singleton]
        exact readItems_of_close hcomma hclose (hx close rest (Or.inr rfl)) bound
      | cons y items =>
        have hrest := ih (List.cons_ne_nil y items)
          (fun z hz => hitem z (List.mem_cons_of_mem _ hz)) (Nat.le_of_succ_le_succ hbound)
        rw [List.map_cons, List.map_cons, commaSeparated_cons_cons, List.append_assoc,
          List.cons_append, readItems_of_comma (hx ',' _ (Or.inl rfl)), ← List.map_cons, hrest]
        rfl

theorem readSequence_commaSeparated (hcomma : close ≠ ',') (hclose : isBlank close = false)
    (hstart : ∀ x ∈ items, ∃ c text, write x = c :: text ∧ isBlank c = false ∧ c ≠ close)
    (hitem : ∀ x ∈ items, ∀ c after, c = ',' ∨ c = close →
      item (write x ++ c :: after) = some (x, c :: after))
    (rest : List Char) :
    readSequence item close (commaSeparated (items.map write) ++ close :: rest) =
      some (items, rest) := by
  cases items with
  | nil =>
    rw [List.map_nil, commaSeparated_nil, List.nil_append, readSequence, skipBlanks_cons hclose]
    exact if_pos rfl
  | cons x items =>
    obtain ⟨c, text, hx, hblank, hc⟩ := hstart x (List.mem_cons_self ..)
    -- the first character is that of an item, so this is no empty sequence
    obtain ⟨tail, htail⟩ :
        ∃ tail, commaSeparated ((x :: items).map write) ++ close :: rest = c :: tail := by
      cases items with
      | nil => exact ⟨_, by rw [List.map_singleton, commaSeparated_singleton, hx]; rfl⟩
      | cons y items =>
        exact ⟨_, by rw [List.map_cons, List.map_cons, commaSeparated_cons_cons, hx]; rfl⟩
    have hbound : (x :: items).length ≤
        (commaSeparated ((x :: items).map write) ++ close :: rest).length := by
      have hle := length_le_commaSeparated ((x :: items).map write)
      rw [List.length_map] at hle
      rw [List.length_append, List.length_cons (a := close)]
      omega
    have hread :=
      readItems_commaSeparated hcomma hclose (List.cons_ne_nil x items) hitem hbound rest
    rw [htail] at hread ⊢
    rw [readSequence, skipBlanks_cons hblank]
    simp only [if_neg hc]
    exact hread

end Sequences

/-! ## Values -/

@[simp] theorem renderMembers_eq_map (members : List (String × Json)) :
    renderMembers members =
      members.map fun member => renderString member.1 ++ ':' :: renderChars member.2 := by
  induction members with
  | nil => rfl
  | cons member members ih => rw [renderMembers, ih, List.map_cons]

theorem readValue_of_scalar {c : Char} (h : isBlank c = false ∧ c ≠ '[' ∧ c ≠ '\x7b') (depth : Nat)
    (text : List Char) : readValue depth (c :: text) = readScalar (c :: text) := by
  obtain ⟨hblank, harray, hobject⟩ := h
  cases depth with
  | zero => rw [readValue, skipBlanks_cons hblank]
  | succ depth =>
    rw [readValue, skipBlanks_cons hblank]
    split
    · rename_i hmatch
      exact absurd (List.cons.inj hmatch).1 harray
    · rename_i hmatch
      exact absurd (List.cons.inj hmatch).1 hobject
    · rfl

/-- An integer starts with a sign or a digit, and so with no other character. -/
theorem exists_cons_toString (n : Int) :
    ∃ c text, (toString n).toList = c :: text ∧ ∀ d, d ≠ '-' → d.isDigit = false → c ≠ d := by
  rw [toList_toString]
  by_cases hneg : n < 0
  · rw [if_pos hneg]
    exact ⟨'-', _, rfl, fun d hd _ => hd.symm⟩
  · obtain ⟨c, digits, hn, hc⟩ := exists_digit_decimal n.natAbs
    rw [if_neg hneg, hn]
    refine ⟨c, digits, rfl, fun d _ hd he => ?_⟩
    rw [he, hd] at hc
    cases hc

theorem isBlank_eq_false {c : Char} (h : ∀ d, d ≠ '-' → d.isDigit = false → c ≠ d) :
    isBlank c = false := by
  simp [isBlank, h ' ' (by decide) (by decide), h '\t' (by decide) (by decide),
    h '\n' (by decide) (by decide), h '\r' (by decide) (by decide)]

theorem readScalar_toString {n : Int} (hlow : -(UInt64.size / 2 : Nat) ≤ n)
    (hhigh : n < UInt64.size) {rest : List Char} (h : EndsNumber rest) :
    readScalar ((toString n).toList ++ rest) = some (.integer n, rest) := by
  obtain ⟨c, text, htext, hc⟩ := exists_cons_toString n
  have hhead {d : Char} {tail : List Char} (hd : d ≠ '-' ∧ d.isDigit = false) :
      (toString n).toList ++ rest ≠ d :: tail := by
    rw [htext]
    exact fun he => hc d hd.1 hd.2 (List.cons.inj he).1
  rw [readScalar.eq_5 _ (fun _ => hhead (by decide)) (fun _ => hhead (by decide))
    (fun _ => hhead (by decide)) (fun _ => hhead (by decide))]
  exact readNumber_toString hlow hhigh h

/-- The first character of a value: no blank, and nothing that closes an array. -/
theorem exists_cons_renderChars {depth : Nat} {v : Json} (h : Exact depth v) :
    ∃ c text, v.renderChars = c :: text ∧ isBlank c = false ∧ c ≠ ']' := by
  cases h with
  | null => exact ⟨'n', _, rfl, rfl, by decide⟩
  | boolean b =>
    cases b with
    | true => exact ⟨'t', _, rfl, rfl, by decide⟩
    | false => exact ⟨'f', _, rfl, rfl, by decide⟩
  | @integer _ n _ _ =>
    obtain ⟨c, text, htext, hc⟩ := exists_cons_toString n
    exact ⟨c, text, htext, isBlank_eq_false hc, hc ']' (by decide) (by decide)⟩
  | string s => exact ⟨'"', _, rfl, rfl, by decide⟩
  | array _ => exact ⟨'[', _, by rw [renderChars], rfl, by decide⟩
  | object _ => exact ⟨'\x7b', _, by rw [renderChars], rfl, by decide⟩

/-- A number ends where the next item, the next member or the end of the sequence follows. -/
theorem endsNumber_cons {c : Char} (h : c = ',' ∨ c = ']' ∨ c = '\x7d') (rest : List Char) :
    EndsNumber (c :: rest) := by
  intro d hd
  cases hd
  rcases h with rfl | rfl | rfl <;> decide

theorem readMember_renderString {value : List Char → Option (Json × List Char)}
    (member : String × Json) {after : List Char}
    (h : value (member.2.renderChars ++ after) = some (member.2, after)) :
    readMember value (renderString member.1 ++ ':' :: member.2.renderChars ++ after) =
      some (member, after) := by
  rw [renderString, List.cons_append, List.cons_append, List.append_assoc, List.append_assoc,
    readMember, skipBlanks_cons (by decide)]
  simp only [List.cons_append, List.nil_append, readString_renderString, Option.bind_eq_bind,
    Option.bind_some, skipBlanks_cons (c := ':') rfl, h, String.ofList_toList, Option.map_some]

theorem readValue_renderChars {depth : Nat} {v : Json} (h : Exact depth v) {rest : List Char}
    (hrest : EndsNumber rest) : readValue depth (v.renderChars ++ rest) = some (v, rest) := by
  induction h generalizing rest with
  | null => exact readValue_of_scalar (by decide) _ _
  | boolean b =>
    cases b with
    | true => exact readValue_of_scalar (by decide) _ _
    | false => exact readValue_of_scalar (by decide) _ _
  | @integer depth n hlow hhigh =>
    obtain ⟨c, text, htext, hc⟩ := exists_cons_toString n
    have hscalar := readScalar_toString hlow hhigh hrest
    rw [renderChars]
    rw [htext, List.cons_append] at hscalar ⊢
    rw [readValue_of_scalar ⟨isBlank_eq_false hc, hc '[' (by decide) (by decide),
      hc '\x7b' (by decide) (by decide)⟩, hscalar]
  | string s =>
    rw [renderChars, renderString, List.cons_append, List.append_assoc,
      readValue_of_scalar (by decide), readScalar, List.singleton_append, readString_renderString]
    simp only [Option.map_some, String.ofList_toList]
  | @array depth items h ih =>
    have hstart := fun x hx => exists_cons_renderChars (h x hx)
    have hitem : ∀ x ∈ items, ∀ c after, c = ',' ∨ c = ']' →
        readValue depth (x.renderChars ++ c :: after) = some (x, c :: after) :=
      fun x hx c after hc => ih x hx (endsNumber_cons (hc.imp_right Or.inl) after)
    have hitems := readSequence_commaSeparated (by decide) (by decide) hstart hitem rest
    rw [renderChars, List.cons_append, List.append_assoc, renderItems_eq_map, readValue,
      skipBlanks_cons (by decide)]
    simp only [List.singleton_append, hitems, Option.map_some]
  | @object depth members h ih =>
    have hstart : ∀ member ∈ members, ∃ c text,
        renderString member.1 ++ ':' :: member.2.renderChars = c :: text ∧
          isBlank c = false ∧ c ≠ '\x7d' :=
      fun member _ => ⟨'"', _, rfl, rfl, by decide⟩
    have hmember : ∀ member ∈ members, ∀ c after, c = ',' ∨ c = '\x7d' →
        readMember (readValue depth)
          (renderString member.1 ++ ':' :: member.2.renderChars ++ c :: after) =
            some (member, c :: after) :=
      fun member hm c after hc => readMember_renderString member
        (ih member hm (endsNumber_cons (hc.imp_right Or.inr) after))
    have hmembers := readSequence_commaSeparated (by decide) (by decide) hstart hmember rest
    rw [renderChars, List.cons_append, List.append_assoc, renderMembers_eq_map, readValue,
      skipBlanks_cons (by decide)]
    simp only [List.singleton_append, hmembers, Option.map_some]

theorem parse?_render {v : Json} (h : Exact maxDepth v) : parse? v.render = some v := by
  have hend : EndsNumber [] := nofun
  have hread := readValue_renderChars h hend
  rw [List.append_nil] at hread
  rw [parse?, render, String.toList_ofList, hread]
  rfl

end AddressMask.Json
