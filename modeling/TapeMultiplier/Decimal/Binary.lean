/-
Module: TapeMultiplier.Decimal.Binary
Layer: Text
Purpose: Floating-point numbers as exact values: a sign and a natural number times a power of two.
Main exports: Binary, Magnitude, Magnitude.ofFloat, Decimal, Decimal.toFloat
-/

namespace TapeMultiplier

/-- A finite non-negative number `mantissa * 2 ^ exponent` as a 64-bit float holds it. -/
structure Binary where
  mantissa : Nat
  exponent : Int
  /-- The gap to the float below is half the gap to the float above. -/
  narrowBelow : Bool
deriving Repr, DecidableEq

/-- The size of a float, apart from its sign. -/
inductive Magnitude where
  | undefined
  | infinite
  | finite (value : Binary)
deriving Repr, DecidableEq

namespace Magnitude

/-- The place of the exponent in the bits: the fraction takes the 52 bits below it. -/
def fractionUnit : Nat := 0x10000000000000

/-- The place of the sign in the bits. -/
def signUnit : Nat := 0x8000000000000000

/-- Sign and size of a float, from its bits. -/
def ofFloat (x : Float) : Bool × Magnitude :=
  let bits := x.toBits.toNat
  let negative := bits / signUnit == 1
  let biased : Nat := bits / fractionUnit % 2048
  let fraction := bits % fractionUnit
  if biased == 2047 then
    (negative, if fraction == 0 then .infinite else .undefined)
  else if biased == 0 then
    (negative, .finite { mantissa := fraction, exponent := -1074, narrowBelow := false })
  else
    (negative, .finite {
      mantissa := fractionUnit + fraction
      exponent := (biased : Int) - 1075
      narrowBelow := fraction == 0 && 1 < biased })

end Magnitude

/-- The number `digits * 10 ^ exponent`. -/
structure Decimal where
  digits : Nat
  exponent : Int
deriving Repr, DecidableEq

namespace Decimal

/-- The number of digits of the digit string. -/
def width (value : Decimal) : Nat :=
  (Nat.toDigits 10 value.digits).length

/-- The float nearest to a decimal number.  Numbers far beyond the range of floats are decided by
their size alone. -/
def toFloat (negative : Bool) (value : Decimal) : Float :=
  let size : Int := value.exponent + value.width
  let magnitude :=
    if value.digits = 0 ∨ size < -400 then Float.ofBits 0
    else if 400 < size then Float.ofBits 0x7FF0000000000000
    else Float.ofScientific value.digits (value.exponent < 0) value.exponent.natAbs
  if negative then -magnitude else magnitude

end Decimal

end TapeMultiplier
