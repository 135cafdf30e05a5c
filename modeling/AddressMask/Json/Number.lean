import AddressMask.Json.Value

/-!
# JSON numbers

A number without point and exponent is an integer as long as it fits 64 bits, signed if it is
negative and unsigned otherwise. Every other number is a real in double precision, and so is `-0`.

A real is read in two steps. The digits are collected into a significand of at most 64 bits: once
the next digit of the integer part no longer fits, it and the digits after it only raise the
decimal exponent, and digits of the fraction that no longer fit are dropped. Then the significand is
rounded to double precision and scaled by the power of ten in double precision, one multiplication
or division up to `10 ^ 308`. The result is within a few units in the last place of the written
number, and exact where significand and power are small. A real that is too large is no number.
-/

namespace AddressMask.Json

/-- The digits read so far: `significand · 10 ^ exponent`. -/
structure Magnitude where
  significand : Nat
  exponent : Int
  deriving DecidableEq, Repr

namespace Magnitude

/-- One more digit, if the significand still fits 64 bits with it. -/
def push? (m : Magnitude) (digit : Char) : Option Nat :=
  let grown := 10 * m.significand + (digit.toNat - '0'.toNat)
  if grown < UInt64.size then some grown else none

/-- Collects the digits of the integer part. From the first digit that does not fit, all the
remaining ones count as powers of ten. -/
def pushWhole (m : Magnitude) : List Char → Magnitude
  | [] => m
  | c :: digits =>
    match m.push? c with
    | some grown => pushWhole ⟨grown, m.exponent⟩ digits
    | none => ⟨m.significand, m.exponent + (digits.length + 1)⟩

/-- Collects the digits of the fraction. From the first digit that does not fit, all the remaining
ones are dropped. -/
def pushFraction (m : Magnitude) : List Char → Magnitude
  | [] => m
  | c :: digits =>
    match m.push? c with
    | some grown => pushFraction ⟨grown, m.exponent - 1⟩ digits
    | none => m

/-- The power of ten in double precision. -/
def tenTo (n : Nat) : Float := Float.ofScientific 1 false n

/-- Divides by a power of ten in steps of at most `10 ^ 308`, until nothing is left. -/
def shrink (x : Float) (n : Nat) : Float :=
  if n ≤ 308 then x / tenTo n
  else if x == 0 then x
  else shrink (x / tenTo 308) (n - 308)
  termination_by n

/-- The magnitude in double precision, if it is not too large. -/
def toFloat? (m : Magnitude) : Option Float :=
  let x := m.significand.toUInt64.toFloat
  if m.exponent < 0 then some (shrink x m.exponent.natAbs)
  else if m.exponent ≤ 308 then
    let scaled := x * tenTo m.exponent.natAbs
    if scaled.isFinite then some scaled else none
  else if x == 0 then some x
  else none

end Magnitude

/-- A text split where its leading digits end. -/
def spanDigits (text : List Char) : List Char × List Char :=
  (text.takeWhile Char.isDigit, text.dropWhile Char.isDigit)

/-- The digits of a fraction, if the text goes on with a point. At least one must follow it. -/
def readFraction : List Char → Option (List Char × List Char)
  | '.' :: rest =>
    match spanDigits rest with
    | ([], _) => none
    | found => some found
  | rest => some ([], rest)

/-- The exponent, if the text goes on with one: a letter, perhaps a sign, and at least one digit. -/
def readExponent : List Char → Option (Option Int × List Char)
  | c :: rest =>
    if c = 'e' ∨ c = 'E' then
      let (sign, rest) : Int × List Char :=
        match rest with
        | '+' :: rest => (1, rest)
        | '-' :: rest => (-1, rest)
        | rest => (1, rest)
      match spanDigits rest with
      | ([], _) => none
      | (digits, rest) => some (some (sign * Nat.ofDigitChars 10 digits 0), rest)
    else some (none, c :: rest)
  | [] => some (none, [])

/-- A number without point and exponent, as an integer where it fits one. -/
def wholeNumber? (negative : Bool) (digits : List Char) : Option Json :=
  let n := Nat.ofDigitChars 10 digits 0
  if ¬ negative ∧ n < UInt64.size then some (.integer n)
  else if negative ∧ 0 < n ∧ n ≤ UInt64.size / 2 then some (.integer (-n))
  else
    (Magnitude.toFloat? (Magnitude.pushWhole ⟨0, 0⟩ digits)).map fun x =>
      .real (if negative then -x else x)

/-- The number at the start of a text, and the rest of the text. Its integer part is a single zero
or starts with another digit. -/
def readNumber (text : List Char) : Option (Json × List Char) :=
  let (negative, text) :=
    match text with
    | '-' :: rest => (true, rest)
    | _ => (false, text)
  let (whole, rest) := spanDigits text
  if whole = [] ∨ (whole.head? = some '0' ∧ whole ≠ ['0']) then none
  else do
    let (fraction, rest) ← readFraction rest
    let (exponent?, rest) ← readExponent rest
    match fraction, exponent? with
    | [], none => (wholeNumber? negative whole).map (·, rest)
    | _, _ =>
      let read := ((Magnitude.mk 0 0).pushWhole whole).pushFraction fraction
      let x ← Magnitude.toFloat? ⟨read.significand, read.exponent + exponent?.getD 0⟩
      some (.real (if negative then -x else x), rest)

example : (Magnitude.mk 0 0).pushWhole "18446744073709551616".toList = ⟨1844674407370955161, 1⟩ := by
  decide +kernel
example : ((Magnitude.mk 0 0).pushWhole "12".toList).pushFraction "50".toList = ⟨1250, -2⟩ := by
  decide +kernel

end AddressMask.Json
