/-
Module: TapeMultiplier.Proofs.Decimal.Shortest
Layer: Proofs
Purpose: The decimal found for a float is read as this float.
Main exports: Binary.takes_of_readsBack, Binary.takes_shortest, Decimal.toFloat_of_same
-/
import TapeMultiplier.Proofs.Decimal.Scientific

namespace TapeMultiplier

namespace Binary

/-! ### Comparing powers of ten with powers of two -/

section

variable (digits count : Nat) (exponent power : Int)

theorem toRat_eq_scaled : (digits : ℚ) * 10 ^ exponent =
    (digits * 10 ^ exponent.toNat * 2 ^ (-power).toNat : Nat) /
      (10 ^ (-exponent).toNat * 2 ^ (-power).toNat) := by
  rw [zpow_eq_div 10 exponent]
  push_cast
  field_simp

theorem binary_eq_scaled : (count : ℚ) * 2 ^ power =
    (count * 2 ^ power.toNat * 10 ^ (-exponent).toNat : Nat) /
      (10 ^ (-exponent).toNat * 2 ^ (-power).toNat) := by
  rw [zpow_eq_div 2 power]
  push_cast
  field_simp

theorem compareScaled_eq_lt : compareScaled digits exponent count power = .lt ↔
    (digits : ℚ) * 10 ^ exponent < count * 2 ^ power := by
  rw [toRat_eq_scaled digits exponent power, binary_eq_scaled count exponent power,
    div_lt_div_iff_of_pos_right (by positivity), Nat.cast_lt]
  exact Nat.compare_eq_lt

theorem compareScaled_eq_gt : compareScaled digits exponent count power = .gt ↔
    (count : ℚ) * 2 ^ power < digits * 10 ^ exponent := by
  rw [toRat_eq_scaled digits exponent power, binary_eq_scaled count exponent power,
    div_lt_div_iff_of_pos_right (by positivity), Nat.cast_lt]
  exact Nat.compare_eq_gt

theorem compareScaled_eq_eq : compareScaled digits exponent count power = .eq ↔
    (digits : ℚ) * 10 ^ exponent = count * 2 ^ power := by
  rw [toRat_eq_scaled digits exponent power, binary_eq_scaled count exponent power,
    div_left_inj' (by positivity), Nat.cast_inj]
  exact Nat.compare_eq_eq

end

/-! ### What reads back -/

variable {value : Binary}

theorem quarter_zpow (exponent : Int) : (2 : ℚ) ^ (exponent - 2) = 2 ^ exponent / 4 := by
  rw [zpow_sub₀ two_ne_zero]
  norm_num

theorem takes_of_readsBack (canonical : value.Canonical) {candidate : Decimal}
    (reads : value.readsBack candidate = true) : value.Takes candidate.toRat := by
  have positive := canonical.positive
  have lower : ((if value.narrowBelow then 4 * value.mantissa - 1 else 4 * value.mantissa - 2 : Nat) : ℚ) *
      2 ^ (value.exponent - 2) = (value.mantissa - value.gapBelow) * 2 ^ value.exponent := by
    rw [quarter_zpow, gapBelow]
    split
    · rw [Nat.cast_sub (by omega)]
      push_cast
      ring
    · rw [Nat.cast_sub (by omega)]
      push_cast
      ring
  have upper : ((4 * value.mantissa + 2 : Nat) : ℚ) * 2 ^ (value.exponent - 2) =
      (value.mantissa + 1 / 2) * 2 ^ value.exponent := by
    rw [quarter_zpow]
    push_cast
    ring
  simp only [readsBack, Bool.and_eq_true, Bool.or_eq_true, beq_iff_eq, compareScaled_eq_lt,
    compareScaled_eq_gt, compareScaled_eq_eq] at reads
  rw [lower, upper] at reads
  obtain ⟨above, below⟩ := reads
  exact {
    lower := above.elim le_of_lt fun same => same.2.ge
    upper := below.elim le_of_lt fun same => same.2.le
    inside := fun odd => ⟨
      above.elim ne_of_gt fun same => by omega,
      below.elim ne_of_lt fun same => by omega⟩ }

/-- The number itself is well inside. -/
theorem takes_self (value : Binary) : value.Takes (value.mantissa * 2 ^ value.exponent) := by
  have unit : (0 : ℚ) < 2 ^ value.exponent := by positivity
  have gap : 0 < value.gapBelow := by
    rw [gapBelow]
    split <;> norm_num
  have above : (value.mantissa - value.gapBelow) * 2 ^ value.exponent < value.mantissa * 2 ^ value.exponent :=
    mul_lt_mul_of_pos_right (by linarith) unit
  have below : (value.mantissa : ℚ) * 2 ^ value.exponent < (value.mantissa + 1 / 2) * 2 ^ value.exponent :=
    mul_lt_mul_of_pos_right (by linarith) unit
  exact ⟨above.le, below.le, fun _ => ⟨above.ne', below.ne⟩⟩

theorem toRat_exact (value : Binary) : value.exact.toRat = value.mantissa * 2 ^ value.exponent := by
  rw [exact, Decimal.toRat]
  split
  case isTrue nonneg =>
    obtain ⟨count, isNat⟩ := Int.eq_ofNat_of_zero_le nonneg
    rw [isNat, Int.toNat_natCast, zpow_zero, mul_one, zpow_natCast, Nat.pow_eq]
    push_cast
    rfl
  case isFalse negative =>
    obtain ⟨count, isNeg⟩ : ∃ count : Nat, value.exponent = -(count : Int) :=
      ⟨(-value.exponent).toNat, by omega⟩
    have tens : (10 : ℚ) ^ count = 5 ^ count * 2 ^ count := by
      rw [← mul_pow]
      norm_num
    simp only [isNeg, neg_neg, Int.toNat_natCast, zpow_neg, zpow_natCast, tens, Nat.pow_eq]
    push_cast
    field_simp

theorem toRat_stripZeros (fuel : Nat) (number : Decimal) :
    (stripZeros fuel number).toRat = number.toRat := by
  induction fuel generalizing number with
  | zero => rfl
  | succ fuel ih =>
      rw [stripZeros]
      split
      case isTrue zero =>
        have tenth : (number.digits : ℚ) = (number.digits / 10 : Nat) * 10 := by
          exact_mod_cast (Nat.div_mul_cancel (Nat.dvd_of_mod_eq_zero zero.2)).symm
        rw [ih, Decimal.toRat, Decimal.toRat, tenth, zpow_add₀ (by norm_num), zpow_one]
        ring
      case isFalse => rfl

theorem readsBack_of_onGrid? {grid : Int} {found : Decimal} (onGrid : value.onGrid? grid = some found) :
    value.readsBack found = true := by
  simp only [onGrid?] at onGrid
  split at onGrid
  · contradiction
  · obtain rfl := Option.some.inj onGrid
    assumption
  · obtain rfl := Option.some.inj onGrid
    assumption
  · split at onGrid
    · obtain rfl := Option.some.inj onGrid
      assumption
    · obtain rfl := Option.some.inj onGrid
      assumption
    · obtain rfl := Option.some.inj onGrid
      split <;> assumption

/-- The shortest decimal of a positive float is taken by the float. -/
theorem takes_shortest (canonical : value.Canonical) : value.Takes value.shortest.toRat := by
  rw [shortest, if_neg (Nat.ne_of_gt canonical.positive)]
  simp only [toRat_stripZeros]
  cases found : (List.range 17).findSome? fun (n : Nat) => value.onGrid? (value.scale - (n + 1)) with
  | none =>
      rw [Option.getD_none, toRat_exact]
      exact takes_self value
  | some number =>
      obtain ⟨count, -, onGrid⟩ := List.exists_of_findSome?_eq_some found
      exact takes_of_readsBack canonical (readsBack_of_onGrid? onGrid)

end Binary

/-! ### Reading back -/

namespace Decimal

open Magnitude

/-- Every decimal with the value of the shortest one is read as the float. -/
theorem toFloat_of_same {x : Float} {negative : Bool} {value : Binary}
    (size : ofFloat x = (negative, .finite value)) {number : Decimal}
    (same : number.toRat = value.shortest.toRat) : toFloat negative number = x := by
  by_cases zero : value.mantissa = 0
  · have none : number.digits = 0 := by
      rw [Binary.shortest, if_pos zero] at same
      have unit : (10 : ℚ) ^ number.exponent ≠ 0 := by positivity
      rw [toRat, toRat, Nat.cast_zero, zero_mul, mul_eq_zero] at same
      exact Nat.cast_eq_zero.mp (same.resolve_right unit)
    rw [toFloat_of_zero none, ← eq_zero size zero]
  · have canonical := Magnitude.canonical size zero
    have takes := Binary.takes_shortest canonical
    rw [← same] at takes
    rw [toFloat_of_takes canonical takes]
    exact (eq_pack size zero).symm

end Decimal

end TapeMultiplier
