import AddressMask.Mask.TextForm
import Mathlib.Algebra.Group.Nat.Defs
import Mathlib.Data.List.Induction

/-!
# Numerals as octets, as numbers and without superfluous zeros

The readers look at a field character by character and fold its digits into a number.  This module
says what they find without folding: a field is a numeral when each of its octets in UTF-8 is that
of a digit (`IsNumeral`), and it stands for the number in which every digit counts ten times what
the next place counts (`amount`).  `value?_eq_some_iff` ties the two sides together.

Writing is tied to reading by `decimal_amount`: the decimal numeral of what a numeral stands for is
that numeral without its superfluous zeros (`trimmed`).  So numerals of one number differ in leading
zeros only, and the written one is the shortest.
-/

namespace AddressMask

namespace Text

/-- The octets of a text in UTF-8. -/
def octets (text : List Char) : Bytes := text.flatMap String.utf8EncodeChar

@[simp] theorem octets_nil : octets [] = [] := rfl

@[simp] theorem octets_cons (c : Char) (text : List Char) :
    octets (c :: text) = String.utf8EncodeChar c ++ octets text := rfl

theorem length_octets (s : String) : (octets s.toList).length = s.utf8ByteSize := by
  rw [← String.size_toByteArray, ← String.utf8Encode_toList, List.utf8Encode, List.size_toByteArray]
  rfl

theorem length_utf8EncodeChar_pos (c : Char) : 0 < (String.utf8EncodeChar c).length := by
  rw [String.length_utf8EncodeChar]
  exact c.utf8Size_pos

/-- **Fewer characters are fewer octets**, and as many octets are all of the characters. -/
theorem length_octets_of_sublist {xs ys : List Char} (h : xs.Sublist ys) :
    (octets xs).length ≤ (octets ys).length ∧
      ((octets xs).length = (octets ys).length → xs = ys) := by
  induction h with
  | slnil => exact ⟨Nat.le_refl _, fun _ => rfl⟩
  | cons c _ ih =>
    have hc := length_utf8EncodeChar_pos c
    rw [octets_cons, List.length_append]
    exact ⟨by omega, fun he => absurd ih.1 (by omega)⟩
  | cons_cons c _ ih =>
    rw [octets_cons, octets_cons, List.length_append, List.length_append]
    exact ⟨by omega, fun he => congrArg (c :: ·) (ih.2 (by omega))⟩

end Text

namespace Numeral

/-! ## Digits by their octets -/

/-- A row of one or more ASCII digits: there are octets, and each is that of a digit. -/
def IsNumeral (text : List Char) : Prop :=
  text ≠ [] ∧ ∀ b ∈ Text.octets text, '0'.toNat ≤ b.toNat ∧ b.toNat ≤ '9'.toNat

instance (text : List Char) : Decidable (IsNumeral text) := inferInstanceAs (Decidable (_ ∧ _))

theorem utf8EncodeChar_of_isDigit {c : Char} (h : c.isDigit = true) :
    String.utf8EncodeChar c = [c.val.toUInt8] := by
  apply String.utf8EncodeChar_eq_singleton
  rw [Char.utf8Size_eq_one_iff, UInt32.le_iff_toNat_le]
  exact Nat.le_trans (Char.isDigit_iff_toNat.mp h).2 (by decide)

/-- A character that takes more than one octet has one beyond ASCII, the second. -/
theorem exists_octet_of_one_lt {c : Char} (h : 1 < c.utf8Size) :
    ∃ b ∈ String.utf8EncodeChar c, 0x80 ≤ b := by
  have hle := c.utf8Size_le_four
  rcases (by omega : c.utf8Size = 2 ∨ c.utf8Size = 3 ∨ c.utf8Size = 4) with h2 | h3 | h4
  · rw [String.utf8EncodeChar_eq_cons_cons h2]
    exact ⟨_, List.mem_cons_of_mem _ (List.mem_singleton_self _), UInt8.right_le_or⟩
  · rw [String.utf8EncodeChar_eq_cons_cons_cons h3]
    exact ⟨_, List.mem_cons_of_mem _ (List.mem_cons_self ..), UInt8.right_le_or⟩
  · rw [String.utf8EncodeChar_eq_cons_cons_cons_cons h4]
    exact ⟨_, List.mem_cons_of_mem _ (List.mem_cons_self ..), UInt8.right_le_or⟩

/-- A character is a digit iff all of its octets are. -/
theorem isDigit_iff_octets (c : Char) :
    c.isDigit = true ↔
      ∀ b ∈ String.utf8EncodeChar c, '0'.toNat ≤ b.toNat ∧ b.toNat ≤ '9'.toNat := by
  have hlow (hc : c.toNat ≤ 127) : c.val.toUInt8.toNat = c.toNat := by
    show c.val.toNat % 256 = c.toNat
    exact Nat.mod_eq_of_lt (Nat.lt_of_le_of_lt hc (by decide))
  constructor
  · intro h b hb
    rw [utf8EncodeChar_of_isDigit h, List.mem_singleton] at hb
    subst hb
    have hd := Char.isDigit_iff_toNat.mp h
    rw [hlow (Nat.le_trans hd.2 (by decide))]
    exact hd
  · intro h
    by_cases hone : c.utf8Size = 1
    · have hc : c.toNat ≤ 127 := UInt32.le_iff_toNat_le.mp (Char.utf8Size_eq_one_iff.mp hone)
      have hb := h c.val.toUInt8 (by rw [String.utf8EncodeChar_eq_singleton hone]; simp)
      rw [hlow hc] at hb
      exact Char.isDigit_iff_toNat.mpr hb
    · -- of several octets the second is above those of all digits
      have hpos := c.utf8Size_pos
      obtain ⟨b, hb, hge⟩ := exists_octet_of_one_lt (c := c) (by omega)
      have hle : b.toNat ≤ 57 := (h b hb).2
      have hge : 128 ≤ b.toNat := UInt8.le_iff_toNat_le.mp hge
      omega

theorem isNumeral_iff {text : List Char} :
    IsNumeral text ↔ text ≠ [] ∧ ∀ c ∈ text, c.isDigit = true := by
  refine and_congr_right fun _ => ?_
  constructor
  · intro h c hc
    exact (isDigit_iff_octets c).mpr fun b hb => h b (List.mem_flatMap.mpr ⟨c, hc, hb⟩)
  · intro h b hb
    obtain ⟨c, hc, hbc⟩ := List.mem_flatMap.mp hb
    exact (isDigit_iff_octets c).mp (h c hc) b hbc

theorem IsNumeral.isDigit {text : List Char} (h : IsNumeral text) :
    ∀ c ∈ text, c.isDigit = true := (isNumeral_iff.mp h).2

theorem IsNumeral.not_mem_point {text : List Char} (h : IsNumeral text) : '.' ∉ text :=
  fun hp => absurd (h.isDigit '.' hp) (by decide)

theorem length_octets_of_isDigit {text : List Char} (h : ∀ c ∈ text, c.isDigit = true) :
    (Text.octets text).length = text.length := by
  induction text with
  | nil => rfl
  | cons c text ih =>
    rw [Text.octets_cons, utf8EncodeChar_of_isDigit (h c (List.mem_cons_self ..)),
      List.singleton_append, List.length_cons, List.length_cons,
      ih fun d hd => h d (List.mem_cons_of_mem _ hd)]

/-! ## The number a numeral stands for -/

/-- What the digits of a text count for, each ten times what the place after it counts. -/
def amount : List Char → Nat
  | [] => 0
  | c :: rest => (c.toNat - '0'.toNat) * 10 ^ rest.length + amount rest

@[simp] theorem amount_nil : amount [] = 0 := rfl

@[simp] theorem amount_cons (c : Char) (rest : List Char) :
    amount (c :: rest) = (c.toNat - '0'.toNat) * 10 ^ rest.length + amount rest := rfl

theorem ofDigitChars_eq_amount (text : List Char) : Nat.ofDigitChars 10 text 0 = amount text := by
  induction text with
  | nil => rfl
  | cons c rest ih =>
    rw [Nat.ofDigitChars_cons, Nat.ofDigitChars_eq_ofDigitChars_zero, ih, amount_cons, Nat.mul_zero,
      Nat.zero_add, Nat.mul_comm]

theorem amount_concat (text : List Char) (c : Char) :
    amount (text ++ [c]) = 10 * amount text + (c.toNat - '0'.toNat) := by
  rw [← ofDigitChars_eq_amount, ← ofDigitChars_eq_amount, Nat.ofDigitChars_append,
    Nat.ofDigitChars_cons, Nat.ofDigitChars_nil]

/-- A row of digits counts for less than the next place to its left would. -/
theorem amount_lt {text : List Char} (h : ∀ c ∈ text, c.isDigit = true) :
    amount text < 10 ^ text.length := by
  induction text with
  | nil => exact Nat.one_pos
  | cons c rest ih =>
    have hrest := ih fun d hd => h d (List.mem_cons_of_mem _ hd)
    have hc : c.toNat ≤ 57 := (Char.isDigit_iff_toNat.mp (h c (List.mem_cons_self ..))).2
    have hle : (c.toNat - '0'.toNat) * 10 ^ rest.length ≤ 9 * 10 ^ rest.length :=
      Nat.mul_le_mul_right _ (show c.toNat - 48 ≤ 9 by omega)
    rw [amount_cons, List.length_cons, Nat.pow_succ]
    omega

/-- **The readers fold a field into what its digits count for**, if it is a numeral. -/
theorem value?_eq (text : List Char) :
    value? text = if IsNumeral text then some (amount text) else none := by
  have hdigits : (text ≠ [] ∧ text.all Char.isDigit = true) ↔ IsNumeral text := by
    rw [isNumeral_iff, List.all_eq_true]
  rw [value?, ofDigitChars_eq_amount]
  exact if_congr hdigits rfl rfl

theorem value?_eq_some_iff {text : List Char} {n : Nat} :
    value? text = some n ↔ IsNumeral text ∧ amount text = n := by
  rw [value?_eq]
  split <;> simp_all

theorem isNumeral_decimal (n : Nat) : IsNumeral (decimal n) :=
  (value?_eq_some_iff.mp (value?_decimal n)).1

@[simp] theorem amount_decimal (n : Nat) : amount (decimal n) = n :=
  (value?_eq_some_iff.mp (value?_decimal n)).2

/-! ## Superfluous zeros -/

/-- A numeral without its superfluous zeros: a zero at the front goes as long as something follows
it. -/
def trimmed : List Char → List Char
  | '0' :: c :: rest => trimmed (c :: rest)
  | text => text

theorem trimmed_suffix (text : List Char) : trimmed text <:+ text := by
  induction text using trimmed.induct with
  | case1 c rest ih => exact ih.trans (List.suffix_cons _ _)
  | case2 text h => exact ⟨[], trimmed.eq_2 text h⟩

/-- The digit of a number below ten, from the character. -/
theorem digitChar_sub {c : Char} (h : c.isDigit = true) :
    Nat.digitChar (c.toNat - '0'.toNat) = c := by
  obtain ⟨hlo, hhi⟩ := Char.isDigit_iff_toNat.mp h
  change 48 ≤ c.toNat at hlo
  change c.toNat ≤ 57 at hhi
  apply Char.toNat_inj.mp
  change (Nat.digitChar (c.toNat - 48)).toNat = c.toNat
  rw [Nat.toNat_digitChar_of_lt_ten (by omega)]
  omega

theorem amount_pos_of_head_ne_zero {c : Char} {rest : List Char} (h : c.isDigit = true)
    (hc : c ≠ '0') : 0 < amount (c :: rest) := by
  have hd : 0 < c.toNat - '0'.toNat := by
    apply Nat.pos_of_ne_zero
    intro h0
    rw [← digitChar_sub h, h0] at hc
    exact hc rfl
  rw [amount_cons]
  exact Nat.lt_of_lt_of_le (Nat.mul_pos hd (Nat.pow_pos (by decide))) (Nat.le_add_right _ _)

/-- **A row of digits that starts with no superfluous zero is the written form of its number.**
The last digit is split off, as writing splits off the last digit of a number. -/
theorem decimal_of_head_ne_zero {text : List Char} (hdigits : ∀ c ∈ text, c.isDigit = true)
    (hne : text ≠ []) (hhead : 1 < text.length → text.head? ≠ some '0') :
    decimal (amount text) = text := by
  induction text using List.reverseRecOn with
  | nil => exact absurd rfl hne
  | append_singleton init d ih =>
    have hd : d.isDigit = true := hdigits d (by simp)
    have hlt : d.toNat - '0'.toNat < 10 := by
      have hle : d.toNat ≤ 57 := (Char.isDigit_iff_toNat.mp hd).2
      change d.toNat - 48 < 10
      omega
    rw [amount_concat]
    -- a digit alone is written as it is, a digit after others is the remainder by ten
    cases init with
    | nil =>
      rw [amount_nil, Nat.mul_zero, Nat.zero_add, decimal, Nat.toDigits_of_lt_base hlt,
        digitChar_sub hd]
      rfl
    | cons c rest =>
      have hc : c ≠ '0' := fun he => hhead (by simp) (by rw [he]; rfl)
      have hpos : 0 < amount (c :: rest) := amount_pos_of_head_ne_zero (hdigits c (by simp)) hc
      rw [decimal, ← Nat.toDigits_append_toDigits (by decide) hpos hlt, Nat.toDigits_of_lt_base hlt,
        digitChar_sub hd]
      have hinit : ∀ x ∈ c :: rest, x.isDigit = true :=
        fun x hx => hdigits x (List.mem_append_left _ hx)
      refine congrArg (· ++ [d]) (ih hinit (by simp) ?_)
      intro _ he
      exact hc (Option.some.inj he)

/-- **Reading a numeral and writing its number takes the superfluous zeros away**, and nothing
else. -/
theorem decimal_amount {text : List Char} (h : IsNumeral text) :
    decimal (amount text) = trimmed text := by
  induction text using trimmed.induct with
  | case1 c rest ih =>
    have hrest : IsNumeral (c :: rest) :=
      isNumeral_iff.mpr ⟨by simp, fun d hd => h.isDigit d (List.mem_cons_of_mem _ hd)⟩
    rw [amount_cons '0', Nat.sub_self, Nat.zero_mul, Nat.zero_add, ih hrest]
    rfl
  | case2 text hlead =>
    rw [trimmed.eq_2 text hlead]
    refine decimal_of_head_ne_zero h.isDigit h.1 fun hlen hhead => ?_
    match text, hlen, hhead with
    | c :: d :: rest, _, hhead =>
      rw [List.head?_cons, Option.some.injEq] at hhead
      exact hlead d rest (by rw [hhead])

/-! ## The numeral of an octet -/

/-- The digits of an octet, written one by one, are its decimal numeral. -/
theorem octetDecimal_eq_decimal (b : UInt8) : octetDecimal b = decimal b.toNat := by
  have hlt : b.toNat < 256 := b.toNat_lt
  have h100 : 100 ≤ b ↔ 100 ≤ b.toNat := UInt8.le_iff_toNat_le
  have h10 : 10 ≤ b ↔ 10 ≤ b.toNat := UInt8.le_iff_toNat_le
  have hd100 : (b / 100).toNat = b.toNat / 100 := UInt8.toNat_div b 100
  have hd10 : (b / 10 % 10).toNat = b.toNat / 10 % 10 := rfl
  have hd1 : (b % 10).toNat = b.toNat % 10 := rfl
  simp only [octetDecimal, decimal, h100, h10, hd100, hd10, hd1]
  -- one digit, two digits, three digits
  by_cases hones : b.toNat < 10
  · rw [if_neg (by omega), if_neg (by omega), Nat.toDigits_of_lt_base hones, Nat.mod_eq_of_lt hones]
    rfl
  · rw [if_pos (by omega : 10 ≤ b.toNat), Nat.toDigits_of_base_le (by decide) (by omega)]
    by_cases htens : b.toNat < 100
    · rw [if_neg (by omega), Nat.toDigits_of_lt_base (by omega),
        Nat.mod_eq_of_lt (by omega : b.toNat / 10 < 10)]
      rfl
    · rw [if_pos (by omega : 100 ≤ b.toNat), Nat.toDigits_of_base_le (by decide) (by omega),
        Nat.toDigits_of_lt_base (by omega), Nat.div_div_eq_div_mul]

theorem length_octetDecimal (b : UInt8) :
    1 ≤ (octetDecimal b).length ∧ (octetDecimal b).length ≤ 3 := by
  have hlt : b.toNat < 10 ^ 3 := Nat.lt_trans b.toNat_lt (by decide)
  rw [octetDecimal_eq_decimal, decimal]
  exact ⟨Nat.length_toDigits_pos, (Nat.length_toDigits_le_iff (by decide) (by decide)).mpr hlt⟩

theorem isNumeral_octetDecimal (b : UInt8) : IsNumeral (octetDecimal b) := by
  rw [octetDecimal_eq_decimal]
  exact isNumeral_decimal _

@[simp] theorem amount_octetDecimal (b : UInt8) : amount (octetDecimal b) = b.toNat := by
  rw [octetDecimal_eq_decimal, amount_decimal]

end Numeral

end AddressMask
