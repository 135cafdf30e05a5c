import AddressMask.Decimal.Shortest

/-!
# Decimals as text

A decimal is written in one of two ways: positionally, with a point and at least one digit on each
side of it, or scientifically, with one digit before the point, no point if there is no digit after
it, and the power of ten with its sign after an `e`. Which of the two depends on the *order* of the
decimal, the power of ten of its first digit, and a `Layout` says for which orders it is which.
-/

namespace AddressMask.Decimal

/-- The power of ten of the first digit. -/
def order (d : Decimal) : Int := d.exponent + (Numeral.decimal d.digits).length - 1

/-- A decimal with its point in its place. -/
def positional (d : Decimal) : List Char :=
  let places := (-d.exponent).toNat
  let scaled := d.digits * tenTo d.exponent.toNat
  let fraction := Numeral.decimal (scaled % tenTo places)
  Numeral.decimal (scaled / tenTo places) ++ '.' ::
    (List.replicate (places - fraction.length) '0' ++ fraction)

/-- A decimal with its point after the first digit, and the power of ten that this calls for. -/
def scientific (d : Decimal) : List Char :=
  let digits := Numeral.decimal d.digits
  let fraction := if digits.length ≤ 1 then [] else '.' :: digits.drop 1
  let sign := if d.order < 0 then '-' else '+'
  digits.take 1 ++ fraction ++ 'e' :: sign :: Numeral.decimal d.order.natAbs

/-- Which decimals are written positionally: those whose order is at least `plainFrom` and below
`plainBelow`. -/
structure Layout where
  plainFrom : Int
  plainBelow : Int
  deriving DecidableEq, Repr

namespace Layout

variable (layout : Layout)

/-- The text of a decimal. -/
def write (d : Decimal) : List Char :=
  if layout.plainFrom ≤ d.order ∧ d.order < layout.plainBelow then d.positional else d.scientific

/-- The text of a finite double, with as few digits as tell it from its neighbours. Zero keeps its
sign. -/
def writeFloat (x : Float) : List Char :=
  let magnitude := layout.write (ofFloat x)
  if x.toBits >>> 63 = 0 then magnitude else '-' :: magnitude

end Layout

example : positional ⟨25, -4⟩ = "0.0025".toList := by decide +kernel
example : scientific ⟨25, -11⟩ = "2.5e-10".toList := by decide +kernel

end AddressMask.Decimal
