/-!
# Numerals

Numbers are written in decimal without superfluous zeros and read in decimal with any number of
them, so reading undoes writing and writing gives the shortest numeral of a value. Only the ten
ASCII digits are digits here: a sign, a blank or a digit of another script makes a text no numeral.
-/

namespace AddressMask.Numeral

/-- The decimal numeral of a number, without superfluous zeros. -/
def decimal (n : Nat) : List Char := Nat.toDigits 10 n

/-- The decimal numeral of an octet, digit by digit. The hundreds are written from 100 on and the
tens from 10 on, so that a zero within the numeral stays. -/
def octetDecimal (b : UInt8) : List Char :=
  (if 100 ≤ b then [Nat.digitChar (b / 100).toNat] else []) ++
    (if 10 ≤ b then [Nat.digitChar (b / 10 % 10).toNat] else []) ++
    [Nat.digitChar (b % 10).toNat]

/-- The decimal digit of a number below ten. -/
def digit (n : UInt8) : Char := Char.ofUInt8 ('0'.toUInt8 + n)

/-- Puts the decimal numeral of an octet behind a text, one digit after the other
(`push_decimal`). -/
def pushOctet (buffer : String) (b : UInt8) : String :=
  let buffer := if 100 ≤ b then buffer.push (digit (b / 100)) else buffer
  let buffer := if 10 ≤ b then buffer.push (digit (b / 10 % 10)) else buffer
  buffer.push (digit (b % 10))

/-- The hexadecimal numeral of a number, in lower case and without superfluous zeros. -/
def hex (n : Nat) : List Char := Nat.toDigits 16 n

/-- The hexadecimal numeral of an octet, always two digits wide. -/
def hexOctet (b : UInt8) : List Char :=
  [Nat.digitChar (b.toNat / 16), Nat.digitChar (b.toNat % 16)]

/-- The number that a text of one or more decimal digits stands for. Leading zeros are allowed and
there is no upper bound. -/
def value? (text : List Char) : Option Nat :=
  if text ≠ [] ∧ text.all Char.isDigit then some (Nat.ofDigitChars 10 text 0) else none

/-- The number that one hexadecimal digit of either case stands for. -/
def hexValue? (c : Char) : Option Nat :=
  if c.isDigit then some (c.toNat - '0'.toNat)
  else if 'a' ≤ c ∧ c ≤ 'f' then some (c.toNat - 'a'.toNat + 10)
  else if 'A' ≤ c ∧ c ≤ 'F' then some (c.toNat - 'A'.toNat + 10)
  else none

theorem digit_eq {n : UInt8} (h : n < 10) : digit n = Nat.digitChar n.toNat := by
  have table : ∀ k < 10, digit (UInt8.ofNat k) = Nat.digitChar k := by decide
  have hn := table n.toNat (UInt8.lt_iff_toNat_lt.mp h)
  rwa [UInt8.ofNat_toNat] at hn

/-- What is pushed is the numeral, and what was there stays in front of it. -/
theorem pushOctet_eq (buffer : String) (b : UInt8) :
    pushOctet buffer b = buffer ++ String.ofList (octetDecimal b) := by
  have hhundreds : b / 100 < 10 := UInt8.lt_iff_toNat_lt.mpr <|
    Nat.div_lt_of_lt_mul (Nat.lt_trans b.toNat_lt (by decide))
  have htens : b / 10 % 10 < 10 := UInt8.mod_lt _ (by decide)
  have hones : b % 10 < 10 := UInt8.mod_lt _ (by decide)
  rw [← String.toList_inj, String.toList_append, String.toList_ofList, octetDecimal, pushOctet,
    digit_eq hhundreds, digit_eq htens, digit_eq hones]
  split <;> split <;> simp

@[simp] theorem value?_nil : value? [] = none := rfl

theorem value?_decimal (n : Nat) : value? (decimal n) = some n := by
  have digits : ∀ c ∈ Nat.toDigits 10 n, c.isDigit = true := fun c hc =>
    Nat.isDigit_of_mem_toDigits (by decide) (by decide) hc
  have nonempty : Nat.toDigits 10 n ≠ [] := by
    have := @Nat.length_toDigits_pos 10 n
    intro h
    simp [h] at this
  unfold value? decimal
  rw [if_pos ⟨nonempty, List.all_eq_true.2 digits⟩, Nat.ofDigitChars_toDigits (by decide) (by decide)]

example : octetDecimal 101 = "101".toList := by decide
example : value? "0255".toList = some 255 := by decide

end AddressMask.Numeral
