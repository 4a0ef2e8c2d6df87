/-
Module: TapeMultiplier.Proofs.Decimal.Rounding
Layer: Proofs
Purpose: Rounding to floats.  A positive number between the midpoints to the neighbours of a float is rounded
  to that float, in whatever form with enough bits it is given.
Main exports: Binary.Canonical, Binary.Takes, Rounding.Shows, Rounding.Describes,
  Rounding.roundWithAccuracy_of_takes
-/
import Mathlib
import TapeMultiplier.Decimal.Shortest

namespace TapeMultiplier

open Float.Model Float.Model.UnpackedFloat

namespace Binary

/-- A positive number as a float holds it: all bits of the mantissa are used unless the exponent is the
least one. -/
structure Canonical (value : Binary) : Prop where
  positive : 0 < value.mantissa
  fits : value.mantissa < 2 ^ 53
  above : -1074 ≤ value.exponent
  below : value.exponent ≤ 971
  full : value.mantissa < 2 ^ 52 → value.exponent = -1074
  narrow : value.narrowBelow = true ↔ value.mantissa = 2 ^ 52 ∧ -1074 < value.exponent

/-- The gap down to the midpoint to the float below, in units of the last bit. -/
def gapBelow (value : Binary) : ℚ :=
  if value.narrowBelow then 1 / 4 else 1 / 2

/-- A number lies between the midpoints to the neighbours of a float; at a midpoint the float with the even
mantissa takes it. -/
structure Takes (value : Binary) (number : ℚ) : Prop where
  lower : (value.mantissa - value.gapBelow) * 2 ^ value.exponent ≤ number
  upper : number ≤ (value.mantissa + 1 / 2) * 2 ^ value.exponent
  inside : value.mantissa % 2 = 1 →
    number ≠ (value.mantissa - value.gapBelow) * 2 ^ value.exponent ∧
      number ≠ (value.mantissa + 1 / 2) * 2 ^ value.exponent

variable {value : Binary} {number : ℚ}

theorem gapBelow_le (value : Binary) : value.gapBelow ≤ 1 / 2 := by
  rw [gapBelow]
  split <;> norm_num

theorem two_zpow_add (bits : Nat) (exponent : Int) : (2 : ℚ) ^ (bits + exponent) = 2 ^ bits * 2 ^ exponent := by
  rw [zpow_add₀ two_ne_zero, zpow_natCast]

theorem Takes.lt_next (canonical : value.Canonical) (takes : value.Takes number) :
    number < 2 ^ ((53 : Nat) + value.exponent) := by
  have fits : ((value.mantissa + 1 : Nat) : ℚ) ≤ (2 ^ 53 : Nat) := Nat.cast_le.mpr canonical.fits
  push_cast at fits
  rw [two_zpow_add]
  exact lt_of_le_of_lt takes.upper (mul_lt_mul_of_pos_right (by linarith) (by positivity))

/-- Of the full mantissas only the least one takes numbers below it. -/
theorem Takes.mantissa_le (takes : value.Takes number) (low : number < 2 ^ ((52 : Nat) + value.exponent)) :
    value.mantissa ≤ 2 ^ 52 := by
  have unit : (0 : ℚ) < 2 ^ value.exponent := by positivity
  have gap := value.gapBelow_le
  have less := lt_of_le_of_lt takes.lower low
  rw [two_zpow_add, mul_lt_mul_iff_left₀ unit] at less
  have bound : (value.mantissa : ℚ) < (2 ^ 52 + 1 : Nat) := by
    push_cast
    linarith
  exact Nat.lt_succ_iff.mp (Nat.cast_lt.mp bound)

theorem Takes.half_le (takes : value.Takes number) (full : 2 ^ 52 ≤ value.mantissa) :
    2 ^ ((51 : Nat) + value.exponent) ≤ number := by
  have gap := value.gapBelow_le
  have bits : ((2 ^ 52 : Nat) : ℚ) ≤ value.mantissa := Nat.cast_le.mpr full
  push_cast at bits
  rw [two_zpow_add]
  exact le_trans (mul_le_mul_of_nonneg_right (by linarith) (by positivity)) takes.lower

end Binary

namespace Rounding

/-- The format of 64-bit floats. -/
abbrev double : Format :=
  Format.binary64

/-! ### Mantissas with two more bits -/

/-- An extended mantissa shows an amount: where it lies between two whole numbers. -/
def Shows (amount : ℚ) (shown : ExtendedMantissa) : Prop :=
  match shown.roundBit, shown.stickyBit with
  | false, false => amount = shown.mantissa
  | false, true => shown.mantissa < amount ∧ amount < shown.mantissa + 1 / 2
  | true, false => amount = shown.mantissa + 1 / 2
  | true, true => shown.mantissa + 1 / 2 < amount ∧ amount < shown.mantissa + 1

/-- A mantissa with its accuracy describes an amount. -/
def Describes (amount : ℚ) (mantissa : Nat) (accuracy : Accuracy) : Prop :=
  Shows amount (.ofMantissaAndAccuracy mantissa accuracy)

theorem Shows.bounds {amount : ℚ} {shown : ExtendedMantissa} (shows : Shows amount shown) :
    shown.mantissa ≤ amount ∧ amount < shown.mantissa + 1 := by
  obtain ⟨mantissa, round, sticky⟩ := shown
  cases round <;> cases sticky <;> simp only [Shows] at shows ⊢
  · exact ⟨by linarith, by linarith⟩
  · exact ⟨by linarith, by linarith⟩
  · exact ⟨by linarith, by linarith⟩
  · exact ⟨by linarith, by linarith⟩

theorem Shows.shiftRightOne {amount : ℚ} {shown : ExtendedMantissa} (shows : Shows amount shown) :
    Shows (amount / 2) shown.shiftRightOne := by
  obtain ⟨mantissa, round, sticky⟩ := shown
  obtain ⟨half, even | odd⟩ : ∃ half, mantissa = 2 * half ∨ mantissa = 2 * half + 1 :=
    ⟨mantissa / 2, by omega⟩
  · subst even
    have whole : 2 * half / 2 = half := by omega
    cases round <;> cases sticky <;>
      simp only [Shows, ExtendedMantissa.shiftRightOne, Nat.mul_mod_right, whole, bne_self_eq_false,
        Bool.or_self, Bool.or_true, Bool.true_or, Nat.cast_mul, Nat.cast_ofNat] at shows ⊢
    · linarith
    · exact ⟨by linarith, by linarith⟩
    · exact ⟨by linarith, by linarith⟩
    · exact ⟨by linarith, by linarith⟩
  · subst odd
    have whole : (2 * half + 1) / 2 = half := by omega
    have rest : ((2 * half + 1) % 2 != 0) = true := by
      rw [bne_iff_ne]
      omega
    cases round <;> cases sticky <;>
      simp only [Shows, ExtendedMantissa.shiftRightOne, rest, whole,
        Bool.or_self, Bool.or_true, Bool.true_or, Nat.cast_mul, Nat.cast_add, Nat.cast_ofNat,
        Nat.cast_one] at shows ⊢
    · linarith
    · exact ⟨by linarith, by linarith⟩
    · exact ⟨by linarith, by linarith⟩
    · exact ⟨by linarith, by linarith⟩

theorem Shows.shiftRight {amount : ℚ} {shown : ExtendedMantissa} (shows : Shows amount shown)
    (count : Nat) : Shows (amount / 2 ^ count) (shown >>> count) := by
  induction count with
  | zero =>
      rw [pow_zero, div_one]
      exact shows
  | succ count ih =>
      have step := ih.shiftRightOne
      rw [div_div, ← pow_succ] at step
      exact step

/-- A number within half a unit of a whole number is rounded to it; half a unit away, only to an even one. -/
theorem Shows.roundedMantissa_eq {amount : ℚ} {shown : ExtendedMantissa} (shows : Shows amount shown)
    {nearest : Nat} (lower : nearest - 1 / 2 ≤ amount) (upper : amount ≤ nearest + 1 / 2)
    (inside : nearest % 2 = 1 → amount ≠ nearest - 1 / 2 ∧ amount ≠ nearest + 1 / 2) :
    shown.roundedMantissa = nearest := by
  obtain ⟨mantissa, round, sticky⟩ := shown
  cases round <;> cases sticky <;>
    simp only [Shows, ExtendedMantissa.roundedMantissa, ExtendedMantissa.accuracy,
      Accuracy.roundToNearestEven] at shows ⊢
  · have above : (mantissa : ℚ) < (nearest + 1 : Nat) := by push_cast; linarith
    have below : (nearest : ℚ) < (mantissa + 1 : Nat) := by push_cast; linarith
    rw [Nat.cast_lt] at above below
    omega
  · have above : (mantissa : ℚ) < (nearest + 1 : Nat) := by push_cast; linarith
    have below : (nearest : ℚ) < (mantissa + 1 : Nat) := by push_cast; linarith
    rw [Nat.cast_lt] at above below
    omega
  · have above : (mantissa : ℚ) ≤ nearest := by linarith
    have below : (nearest : ℚ) ≤ (mantissa + 1 : Nat) := by push_cast; linarith
    rw [Nat.cast_le] at above below
    -- Half way between two whole numbers, the nearest is the even one.
    have even : nearest % 2 ≠ 1 := by
      intro odd
      obtain ⟨notBelow, notAbove⟩ := inside odd
      rcases Nat.lt_or_ge mantissa nearest with less | equal
      · obtain rfl : nearest = mantissa + 1 := by omega
        exact notBelow (by push_cast; linarith)
      · obtain rfl : nearest = mantissa := by omega
        exact notAbove shows
    omega
  · have above : (mantissa : ℚ) < nearest := by linarith
    have below : (nearest : ℚ) < (mantissa + 2 : Nat) := by push_cast; linarith
    rw [Nat.cast_lt] at above below
    omega

/-! ### Shifting to the exponent of a float -/

theorem targetExponent_eq (total : Int) : double.targetExponent total = max (total - 53) (-1074) := by
  simp [Format.targetExponent, Format.mantissaBits, Format.minExponent]

theorem shiftToExponent_eq (mantissa : Nat) (accuracy : Accuracy) {exponent target : Int} {count : Nat}
    (distance : target = exponent + count) :
    shiftToExponent mantissa exponent accuracy target =
      (ExtendedMantissa.ofMantissaAndAccuracy mantissa accuracy >>> count, target) := by
  have shift : (target - exponent).toNat = count := by omega
  rw [shiftToExponent, shift, distance]

/-- The first shift, the rounding and the second shift, which is needed where rounding carries. -/
theorem roundWithAccuracy_eq (sign : Sign) {mantissa rounded final : Nat} {exponent target settled : Int}
    {accuracy : Accuracy} {shown : ExtendedMantissa}
    (first : shiftToTargetExponent double mantissa exponent accuracy = (shown, target))
    (roundedIs : shown.roundedMantissa = rounded) {last : ExtendedMantissa}
    (second : shiftToTargetExponent double rounded target .exact = (last, settled))
    (finalIs : last.mantissa = final) (positive : 0 < final) :
    roundWithAccuracy double sign mantissa exponent accuracy = .finite sign final settled positive := by
  subst roundedIs finalIs
  rw [roundWithAccuracy, first]
  simp only [second]
  rw [dif_neg (Nat.ne_of_gt positive)]

/-- A mantissa that fits stays where it is. -/
theorem shiftToTargetExponent_of_fits {mantissa : Nat} {exponent : Int} (fits : mantissa < 2 ^ 53)
    (above : -1074 ≤ exponent) :
    shiftToTargetExponent double mantissa exponent .exact = (⟨mantissa, false, false⟩, exponent) := by
  have bits : mantissa.log2 ≤ 52 := by
    rcases Nat.eq_zero_or_pos mantissa with rfl | positive
    · decide
    · have less := (Nat.log2_lt (Nat.ne_of_gt positive)).mpr fits
      omega
  have none : (double.targetExponent (totalExponent mantissa exponent) - exponent).toNat = 0 := by
    rw [targetExponent_eq, totalExponent]
    omega
  rw [shiftToTargetExponent, shiftToExponent, none]
  simp only [Nat.cast_zero, add_zero]
  rfl

/-- A mantissa that rounding has carried into one more bit gives up its last bit. -/
theorem shiftToTargetExponent_of_carried {exponent : Int} (above : -1074 ≤ exponent) :
    shiftToTargetExponent double (2 ^ 53) exponent .exact =
      (⟨2 ^ 52, false, false⟩, exponent + 1) := by
  have one : double.targetExponent (totalExponent (2 ^ 53) exponent) = exponent + (1 : Nat) := by
    rw [targetExponent_eq, totalExponent, Nat.log2_two_pow]
    push_cast
    omega
  rw [shiftToTargetExponent, one]
  exact shiftToExponent_eq _ _ rfl

/-! ### The exponent of a number -/

section

variable {number : ℚ} {mantissa : Nat} {exponent : Int} {accuracy : Accuracy}

theorem mantissa_ofMantissaAndAccuracy (mantissa : Nat) (accuracy : Accuracy) :
    (ExtendedMantissa.ofMantissaAndAccuracy mantissa accuracy).mantissa = mantissa := by
  rcases accuracy with _ | order
  · rfl
  · cases order <;> rfl

theorem Describes.bounds (describes : Describes (number / 2 ^ exponent) mantissa accuracy) :
    mantissa * 2 ^ exponent ≤ number ∧ number < (mantissa + 1) * 2 ^ exponent := by
  have unit : (0 : ℚ) < 2 ^ exponent := by positivity
  obtain ⟨low, high⟩ := Shows.bounds describes
  rw [mantissa_ofMantissaAndAccuracy] at low high
  exact ⟨(le_div_iff₀ unit).mp low, (div_lt_iff₀ unit).mp high⟩

theorem Describes.lt_total (describes : Describes (number / 2 ^ exponent) mantissa accuracy) :
    number < 2 ^ totalExponent mantissa exponent := by
  have unit : (0 : ℚ) < 2 ^ exponent := by positivity
  have bits : ((mantissa + 1 : Nat) : ℚ) ≤ (2 ^ (mantissa.log2 + 1) : Nat) :=
    Nat.cast_le.mpr Nat.lt_log2_self
  calc
    number < (mantissa + 1) * 2 ^ exponent := describes.bounds.2
    _ ≤ 2 ^ (mantissa.log2 + 1) * 2 ^ exponent := by
      refine mul_le_mul_of_nonneg_right ?_ unit.le
      exact_mod_cast bits
    _ = 2 ^ totalExponent mantissa exponent := by
      rw [totalExponent, zpow_add₀ two_ne_zero]
      norm_cast

theorem Describes.total_le (describes : Describes (number / 2 ^ exponent) mantissa accuracy)
    (positive : mantissa ≠ 0) : 2 ^ (totalExponent mantissa exponent - 1) ≤ number := by
  have unit : (0 : ℚ) < 2 ^ exponent := by positivity
  have bits : ((2 ^ mantissa.log2 : Nat) : ℚ) ≤ mantissa := Nat.cast_le.mpr (Nat.log2_self_le positive)
  calc
    (2 : ℚ) ^ (totalExponent mantissa exponent - 1) = 2 ^ mantissa.log2 * 2 ^ exponent := by
      rw [totalExponent, add_right_comm, add_sub_cancel_right, zpow_add₀ two_ne_zero, zpow_natCast]
    _ ≤ mantissa * 2 ^ exponent := by
      refine mul_le_mul_of_nonneg_right ?_ unit.le
      exact_mod_cast bits
    _ ≤ number := describes.bounds.1

theorem two_zpow_lt_iff {first second : Int} : (2 : ℚ) ^ first < 2 ^ second ↔ first < second :=
  zpow_lt_zpow_iff_right₀ one_lt_two

/-- Without bits in front of the last place, a number given finely enough has the least exponent. -/
theorem total_of_zero (fine : exponent ≤ double.targetExponent (totalExponent 0 exponent)) :
    totalExponent 0 exponent ≤ -1073 := by
  rw [targetExponent_eq] at fine
  rw [totalExponent, Nat.log2_zero] at fine ⊢
  omega

/-- A power of two over a number bounds the exponent of the number. -/
theorem Describes.total_le_of_lt (describes : Describes (number / 2 ^ exponent) mantissa accuracy)
    (fine : exponent ≤ double.targetExponent (totalExponent mantissa exponent)) {power : Int}
    (least : -1073 ≤ power) (less : number < 2 ^ power) : totalExponent mantissa exponent ≤ power := by
  rcases Nat.eq_zero_or_pos mantissa with rfl | positive
  · exact (total_of_zero fine).trans least
  · have low := describes.total_le (Nat.ne_of_gt positive)
    have powers := two_zpow_lt_iff.mp (lt_of_le_of_lt low less)
    omega

theorem Describes.lt_total_of_le (describes : Describes (number / 2 ^ exponent) mantissa accuracy)
    {power : Int} (low : 2 ^ power ≤ number) : power < totalExponent mantissa exponent :=
  two_zpow_lt_iff.mp (lt_of_le_of_lt low describes.lt_total)

/-- A number that a float takes has the exponent of the float; only just below a power of two it has the one
below. -/
theorem target_of_takes {value : Binary} (canonical : value.Canonical) (takes : value.Takes number)
    (describes : Describes (number / 2 ^ exponent) mantissa accuracy)
    (fine : exponent ≤ double.targetExponent (totalExponent mantissa exponent)) :
    double.targetExponent (totalExponent mantissa exponent) = value.exponent ∨
      value.narrowBelow = true ∧ totalExponent mantissa exponent = 52 + value.exponent := by
  have above := canonical.above
  have most := describes.total_le_of_lt fine (by omega) (takes.lt_next canonical)
  rw [targetExponent_eq]
  rcases Nat.lt_or_ge value.mantissa (2 ^ 52) with small | full
  · have least := canonical.full small
    omega
  rcases le_or_gt (2 ^ ((52 : Nat) + value.exponent)) number with high | low
  · have more := describes.lt_total_of_le high
    omega
  · have least : value.mantissa = 2 ^ 52 := Nat.le_antisymm (takes.mantissa_le low) full
    have more := describes.lt_total_of_le (takes.half_le full)
    have less := describes.total_le_of_lt fine (by omega) low
    rcases eq_or_lt_of_le above with equal | greater
    · omega
    · refine .inr ⟨canonical.narrow.mpr ⟨least, greater⟩, ?_⟩
      omega

theorem Describes.shifted (describes : Describes (number / 2 ^ exponent) mantissa accuracy)
    {target : Int} {count : Nat} (distance : target = exponent + count) :
    Shows (number / 2 ^ target) (ExtendedMantissa.ofMantissaAndAccuracy mantissa accuracy >>> count) := by
  have shifted := Shows.shiftRight describes count
  rwa [div_div, ← zpow_natCast, ← zpow_add₀ two_ne_zero, ← distance] at shifted

theorem rounded_of_takes {value : Binary} (canonical : value.Canonical) (takes : value.Takes number)
    {shown : ExtendedMantissa} (shows : Shows (number / 2 ^ value.exponent) shown) :
    shown.roundedMantissa = value.mantissa := by
  have unit : (0 : ℚ) < 2 ^ value.exponent := by positivity
  have gap := value.gapBelow_le
  refine shows.roundedMantissa_eq ?_ ?_ fun odd => ?_
  · rw [le_div_iff₀ unit]
    exact le_trans (mul_le_mul_of_nonneg_right (by linarith) unit.le) takes.lower
  · rw [div_le_iff₀ unit]
    exact takes.upper
  · have half : value.gapBelow = 1 / 2 := by
      rw [Binary.gapBelow, if_neg]
      intro narrow
      have even := (canonical.narrow.mp narrow).1
      omega
    obtain ⟨notBelow, notAbove⟩ := takes.inside odd
    rw [half] at notBelow
    rw [Ne, Ne, div_eq_iff unit.ne', div_eq_iff unit.ne']
    exact ⟨notBelow, notAbove⟩

/-- Just below a power of two, the mantissa is rounded up to one bit more. -/
theorem rounded_of_narrow {value : Binary} (canonical : value.Canonical) (takes : value.Takes number)
    (narrow : value.narrowBelow = true) (below : number < 2 ^ (52 + value.exponent))
    {shown : ExtendedMantissa} (shows : Shows (number / 2 ^ (value.exponent - 1)) shown) :
    shown.roundedMantissa = 2 ^ 53 := by
  have unit : (0 : ℚ) < 2 ^ (value.exponent - 1) := by positivity
  have twice : (2 : ℚ) ^ value.exponent = 2 * 2 ^ (value.exponent - 1) := by
    rw [← zpow_one_add₀ two_ne_zero, add_sub_cancel]
  have gap : value.gapBelow = 1 / 4 := if_pos narrow
  have least := (canonical.narrow.mp narrow).1
  refine shows.roundedMantissa_eq ?_ ?_ fun odd => by omega
  · rw [le_div_iff₀ unit]
    refine le_trans (le_of_eq ?_) takes.lower
    rw [gap, least, twice]
    push_cast
    ring
  · rw [div_le_iff₀ unit]
    rw [zpow_add₀ two_ne_zero, twice] at below
    refine le_trans below.le ?_
    have power : (2 : ℚ) ^ (52 : Int) = 2 ^ 52 := by norm_cast
    rw [power]
    push_cast
    linarith

/-- A number is rounded to the float that takes it. -/
theorem roundWithAccuracy_of_takes {value : Binary} (canonical : value.Canonical)
    (takes : value.Takes number) (sign : Sign)
    (describes : Describes (number / 2 ^ exponent) mantissa accuracy)
    (fine : exponent ≤ double.targetExponent (totalExponent mantissa exponent)) :
    roundWithAccuracy double sign mantissa exponent accuracy =
      .finite sign value.mantissa value.exponent canonical.positive := by
  obtain ⟨count, distance⟩ : ∃ count : Nat,
      double.targetExponent (totalExponent mantissa exponent) = exponent + count :=
    ⟨(double.targetExponent (totalExponent mantissa exponent) - exponent).toNat, by omega⟩
  have first : shiftToTargetExponent double mantissa exponent accuracy =
      (ExtendedMantissa.ofMantissaAndAccuracy mantissa accuracy >>> count,
        double.targetExponent (totalExponent mantissa exponent)) :=
    shiftToExponent_eq mantissa accuracy distance
  have shows := describes.shifted distance
  rcases target_of_takes canonical takes describes fine with same | ⟨narrow, total⟩
  · rw [same] at first shows
    exact roundWithAccuracy_eq sign first (rounded_of_takes canonical takes shows)
      (shiftToTargetExponent_of_fits canonical.fits canonical.above) rfl canonical.positive
  · obtain ⟨least, greater⟩ := canonical.narrow.mp narrow
    have below := describes.lt_total
    have less : double.targetExponent (totalExponent mantissa exponent) = value.exponent - 1 := by
      rw [targetExponent_eq]
      omega
    rw [total] at below
    rw [less] at first shows
    have carried := shiftToTargetExponent_of_carried (show -1074 ≤ value.exponent - 1 by omega)
    rw [sub_add_cancel] at carried
    exact roundWithAccuracy_eq sign first (rounded_of_narrow canonical takes narrow below shows)
      carried least.symm canonical.positive

end

end Rounding

end TapeMultiplier
