/-
Module: TapeMultiplier.Decimal.Shortest
Layer: Text
Purpose: The fewest decimal digits that identify a float among its neighbours.
Main exports: Binary.readsBack, Binary.shortest
-/
import TapeMultiplier.Decimal.Binary

namespace TapeMultiplier

/-!
The decimals that read back as a given float fill the interval between the midpoints to its two
neighbours; the ends belong to it if the mantissa is even.  The search goes through decimal grids
from coarse to fine and tests, on each, the two points next to the value.  Everything is exact
arithmetic on naturals.
-/

namespace Binary

/-- Compare `digits * 10 ^ exponent` with `count * 2 ^ power`. -/
def compareScaled (digits : Nat) (exponent : Int) (count : Nat) (power : Int) : Ordering :=
  compare (digits * Nat.pow 10 exponent.toNat * Nat.pow 2 (-power).toNat)
    (count * Nat.pow 2 power.toNat * Nat.pow 10 (-exponent).toNat)

/-- Whether a decimal lies in the interval of reals that round to the float. -/
def readsBack (value : Binary) (candidate : Decimal) : Bool :=
  let lower := if value.narrowBelow then 4 * value.mantissa - 1 else 4 * value.mantissa - 2
  let upper := 4 * value.mantissa + 2
  let closed := value.mantissa % 2 == 0
  let fromLower := compareScaled candidate.digits candidate.exponent lower (value.exponent - 2)
  let fromUpper := compareScaled candidate.digits candidate.exponent upper (value.exponent - 2)
  (fromLower == .gt || (closed && fromLower == .eq)) &&
    (fromUpper == .lt || (closed && fromUpper == .eq))

/-- The least power of ten above a positive value, from an estimate that is off by little. -/
def scale (value : Binary) : Int :=
  let estimate := ((value.mantissa.log2 : Int) + value.exponent) * 30103 / 100000
  let above (k : Int) : Bool :=
    compareScaled 1 k value.mantissa value.exponent == .gt
  (([-1, 0, 1, 2] : List Int).map (estimate + ·)).find? above |>.getD (estimate + 3)

/-- The value in units of `10 ^ grid`, as a fraction. -/
def inUnits (value : Binary) (grid : Int) : Nat × Nat :=
  (value.mantissa * Nat.pow 2 value.exponent.toNat * Nat.pow 10 (-grid).toNat,
    Nat.pow 2 (-value.exponent).toNat * Nat.pow 10 grid.toNat)

/-- The point of a decimal grid that reads back, if there is one: of two such points the nearer, and
of two equally near the even one. -/
def onGrid? (value : Binary) (grid : Int) : Option Decimal :=
  let (numerator, denominator) := value.inUnits grid
  let below := numerator / denominator
  let lower : Decimal := ⟨below, grid⟩
  let upper : Decimal := ⟨below + 1, grid⟩
  match value.readsBack lower, value.readsBack upper with
  | false, false => none
  | true, false => some lower
  | false, true => some upper
  | true, true =>
      match compare (2 * (numerator % denominator)) denominator with
      | .lt => some lower
      | .gt => some upper
      | .eq => some (if below % 2 = 0 then lower else upper)

/-- Move zeros at the end of the digits into the exponent. -/
def stripZeros : Nat → Decimal → Decimal
  | 0, value => value
  | fuel + 1, value =>
      if value.digits ≠ 0 ∧ value.digits % 10 = 0 then
        stripZeros fuel ⟨value.digits / 10, value.exponent + 1⟩
      else value

/-- The exact decimal value. -/
def exact (value : Binary) : Decimal :=
  if 0 ≤ value.exponent then ⟨value.mantissa * Nat.pow 2 value.exponent.toNat, 0⟩
  else ⟨value.mantissa * Nat.pow 5 (-value.exponent).toNat, value.exponent⟩

/-- The shortest decimal that reads back, without zeros at its end. -/
def shortest (value : Binary) : Decimal :=
  if value.mantissa = 0 then ⟨0, 0⟩
  else
    let top := value.scale
    let found := (List.range 17).findSome? fun (n : Nat) => value.onGrid? (top - (n + 1))
    stripZeros 400 (found.getD value.exact)

end Binary

end TapeMultiplier
