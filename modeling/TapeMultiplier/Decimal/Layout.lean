/-
Module: TapeMultiplier.Decimal.Layout
Layer: Text
Purpose: How decimal numbers are laid out as text, and rounding to a number of places.
Main exports: Layout, Layout.render, roundPlaces
-/
import TapeMultiplier.Decimal.Shortest
import TapeMultiplier.Text.Integer

namespace TapeMultiplier

/-- The decisions of a number format. -/
structure Layout where
  /-- The least exponent of the leading digit that is written positionally. -/
  plainFrom : Int
  /-- The least exponent from there on that is written with an exponent part again. -/
  plainBelow : Int
  /-- The least number of digits of an exponent part. -/
  exponentWidth : Nat
  /-- The text of the undefined number. -/
  undefined : String
  /-- The text of the infinite number. -/
  infinite : String
deriving Repr, DecidableEq

namespace Layout

/-- The digits around the point when the leading digit has a given exponent. -/
def positional (digits : List Char) (leading : Int) : List Char :=
  if leading < 0 then
    '0' :: '.' :: List.replicate (-leading - 1).toNat '0' ++ digits
  else
    let whole := leading.toNat + 1
    if digits.length ≤ whole then
      digits ++ List.replicate (whole - digits.length) '0' ++ ['.', '0']
    else digits.take whole ++ '.' :: digits.drop whole

/-- The digits with the point after the first one, and an exponent part. -/
def scientific (layout : Layout) (digits : List Char) (leading : Int) : List Char :=
  let fraction :=
    match digits.drop 1 with
    | [] => []
    | rest => '.' :: rest
  let sign := if leading < 0 then '-' else '+'
  digits.take 1 ++ fraction ++ 'e' :: sign ::
    (Text.padded layout.exponentWidth leading.natAbs).toList

/-- A decimal number without its sign. -/
def renderDecimal (layout : Layout) (value : Decimal) : List Char :=
  let digits := Text.decimalDigits value.digits
  let leading : Int := value.exponent + digits.length - 1
  if value.digits = 0 then ['0', '.', '0']
  else if layout.plainFrom ≤ leading ∧ leading < layout.plainBelow then
    positional digits leading
  else layout.scientific digits leading

/-- The text of a float: the fewest digits that identify it. -/
def render (layout : Layout) (x : Float) : String :=
  match Magnitude.ofFloat x with
  | (_, .undefined) => layout.undefined
  | (negative, .infinite) => (if negative then "-" else "") ++ layout.infinite
  | (negative, .finite value) =>
      (if negative then "-" else "") ++ String.ofList (layout.renderDecimal value.shortest)

end Layout

/-- The integer nearest to a quotient; a half goes to the even neighbour. -/
def roundHalfEven (numerator denominator : Nat) : Nat :=
  let below := numerator / denominator
  match compare (2 * (numerator % denominator)) denominator with
  | .lt => below
  | .gt => below + 1
  | .eq => if below % 2 = 0 then below else below + 1

/-- A float rounded to a number of decimal places.  The exact value is rounded, a half goes to the
even neighbour, and the sign stays. -/
def roundPlaces (places : Nat) (x : Float) : Float :=
  match Magnitude.ofFloat x with
  | (negative, .finite value) =>
      let (numerator, denominator) := value.inUnits (-(places : Int))
      Decimal.toFloat negative ⟨roundHalfEven numerator denominator, -(places : Int)⟩
  | _ => x

end TapeMultiplier
