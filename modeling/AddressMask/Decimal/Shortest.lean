import AddressMask.Numeral

/-!
# Shortest decimals

A double is stored as `significand · 2 ^ exponent`, and all the reals that round to it form an
interval around that value. Its *shortest decimal* is the decimal of fewest digits in the interval
and, of several such, the one nearest to the value. It is found with exact arithmetic on natural
numbers: for one digit, two digits and so on, only the two points of the decimal grid next to the
value have to be tried, for if any point of the grid lies in the interval then one of these does.
An exact tie between the two goes to the one with the even last digit.
-/

namespace AddressMask

/-- The magnitude `digits · 10 ^ exponent`. -/
structure Decimal where
  digits : Nat
  exponent : Int
  deriving DecidableEq, Repr

namespace Decimal

/-- The magnitude `significand · 2 ^ exponent`. -/
structure Binary where
  significand : Nat
  exponent : Int
  deriving DecidableEq, Repr

/-- The place of the one that a stored fraction continues. -/
def leadingOne : Nat := 1 <<< 52

/-- A power of ten. -/
def tenTo (n : Nat) : Nat := Nat.pow 10 n

/-- The magnitude of a finite double, from its 64 stored bits: 52 bits of fraction below 11 bits of
exponent. Where the stored exponent is zero there is no leading one. -/
def Binary.ofBits (bits : UInt64) : Binary :=
  let fraction := (bits &&& 0xfffffffffffff).toNat
  let stored := (bits >>> 52 &&& 0x7ff).toNat
  if stored = 0 then ⟨fraction, -1074⟩ else ⟨leadingOne + fraction, stored - 1075⟩

/-- The reals that round to a magnitude, as numerators over one denominator. -/
structure Interval where
  low : Nat
  value : Nat
  high : Nat
  denominator : Nat
  /-- Whether the two ends belong to the interval. -/
  closed : Bool
  deriving DecidableEq, Repr

/-- The interval reaches half way to each neighbour. Below a power of two the neighbour is half as
far away, unless the spacing is already the smallest. An end is a tie between two doubles and
rounds to the even significand. -/
def Binary.interval (x : Binary) : Interval :=
  let below := if x.significand = leadingOne ∧ -1074 < x.exponent then 1 else 2
  let unit := 1 <<< (x.exponent - 2).toNat
  { low := (4 * x.significand - below) * unit
    value := 4 * x.significand * unit
    high := (4 * x.significand + 2) * unit
    denominator := 1 <<< (2 - x.exponent).toNat
    closed := x.significand % 2 = 0 }

namespace Interval

variable (i : Interval)

/-- The number of digits the value has before its point; for a value below one, zero or less, by
the number of zeros after the point. -/
def order : Int :=
  if i.denominator ≤ i.value then
    (Numeral.decimal (i.value / i.denominator)).length
  else 1 - ((Numeral.decimal ((i.denominator - 1) / i.value)).length : Int)

/-- Whether `digits · 10 ^ exponent` lies in the interval. -/
def contains (d : Decimal) : Bool :=
  let point := d.digits * tenTo d.exponent.toNat * i.denominator
  let unit := tenTo (-d.exponent).toNat
  (i.low * unit < point && point < i.high * unit) ||
    (i.closed && (i.low * unit == point || point == i.high * unit))

/-- Of the two multiples of `10 ^ exponent` next to the value, the one in the interval; of both,
the nearer, and at an exact tie the even one. -/
def onGrid? (exponent : Int) : Option Decimal :=
  let value := i.value * tenTo (-exponent).toNat
  let unit := tenTo exponent.toNat * i.denominator
  let below : Decimal := ⟨value / unit, exponent⟩
  let above : Decimal := ⟨value / unit + 1, exponent⟩
  match i.contains below, i.contains above with
  | true, true =>
    match compare (2 * (value % unit)) unit with
    | .lt => some below
    | .gt => some above
    | .eq => some (if below.digits % 2 = 0 then below else above)
  | true, false => some below
  | false, true => some above
  | false, false => none

end Interval

/-- The shortest decimal in the rounding interval of a magnitude. Seventeen digits always reach
into the interval. The multiple above a row of nines is a power of ten and loses its zero. -/
def shortest (x : Binary) : Decimal :=
  if x.significand = 0 then ⟨0, 0⟩
  else
    let i := x.interval
    let found := (List.range 17).findSome? fun (k : Nat) => i.onGrid? (i.order - (k + 1))
    match found with
    | some d => if d.digits % 10 = 0 then ⟨d.digits / 10, d.exponent + 1⟩ else d
    | none => ⟨0, 0⟩

/-- The shortest decimal of the magnitude of a finite double. -/
def ofFloat (x : Float) : Decimal := shortest (Binary.ofBits x.toBits)

example : shortest (Binary.ofBits 0x3fb999999999999a) = ⟨1, -1⟩ := by decide +kernel
example : shortest (Binary.ofBits 0x3e60000000000000) = ⟨29802322387695312, -24⟩ := by
  decide +kernel

end Decimal

end AddressMask
