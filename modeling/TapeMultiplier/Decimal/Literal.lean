/-
Module: TapeMultiplier.Decimal.Literal
Layer: Text
Purpose: Floating-point literals as they may be typed.
Main exports: readFloat?
-/
import TapeMultiplier.Decimal.Binary
import TapeMultiplier.Text.Integer

namespace TapeMultiplier

/-- The characters up to an exponent mark, and what follows the mark if there is one. -/
def splitExponent : List Char → List Char × Option (List Char)
  | [] => ([], none)
  | c :: rest =>
      if c == 'e' || c == 'E' then ([], some rest)
      else
        let (mantissa, exponent) := splitExponent rest
        (c :: mantissa, exponent)

/-- The characters up to a point, and what follows the point if there is one. -/
def splitPoint : List Char → List Char × Option (List Char)
  | [] => ([], none)
  | c :: rest =>
      if c == '.' then ([], some rest)
      else
        let (whole, fraction) := splitPoint rest
        (c :: whole, fraction)

/-- The digits of a part that may be absent. -/
def optionalDigits : List Char → Option (List Nat)
  | [] => some []
  | part => Text.numeralDigits part

/-- The digits of a mantissa and the number of them behind the point; at least one digit is
needed. -/
def readMantissa? (text : List Char) : Option (List Nat × Nat) := do
  let (whole, fraction) := splitPoint text
  let whole ← optionalDigits whole
  let fraction ← optionalDigits (fraction.getD [])
  if whole.isEmpty && fraction.isEmpty then none
  else return (whole ++ fraction, fraction.length)

/-- The value of an exponent part with an optional sign. -/
def readExponent? (text : List Char) : Option Int := do
  let (negative, numeral) := Text.splitSign text
  let digits ← Text.numeralDigits numeral
  let value : Int := Text.ofDigits digits
  return if negative then -value else value

/-- Lower case for the letters of the alphabet. -/
def lowerText (text : List Char) : String :=
  String.ofList (text.map Char.toLower)

/-- Read a floating-point literal: padding around it, an optional sign, then digits with an
optional point and exponent, or one of the words `inf`, `infinity` and `nan` in any case. -/
def readFloat? (text : String) : Option Float := do
  let (negative, body) := Text.splitSign (Text.trimPadding text.toList)
  let word := lowerText body
  if word == "inf" || word == "infinity" then
    return if negative then Float.ofBits 0xFFF0000000000000 else Float.ofBits 0x7FF0000000000000
  if word == "nan" then
    return Float.ofBits 0x7FF8000000000000
  let (mantissa, exponent) := splitExponent body
  let (digits, places) ← readMantissa? mantissa
  let exponent ←
    match exponent with
    | none => some 0
    | some part => readExponent? part
  return Decimal.toFloat negative ⟨Text.ofDigits digits, exponent - places⟩

end TapeMultiplier
