/-
Module: TapeMultiplier.Proofs.Decimal.Scientific
Layer: Proofs
Purpose: A decimal between the midpoints to the neighbours of a float is read as this float.
Main exports: Decimal.toRat, Rounding.mul_of_takes, Rounding.div_of_takes, Rounding.holds_toFloat,
  Decimal.toFloat_of_takes
-/
import TapeMultiplier.Proofs.Decimal.Bits

namespace TapeMultiplier

open Float.Model Float.Model.UnpackedFloat

/-- A power as a quotient of powers with natural exponents, of which one is zero. -/
theorem zpow_eq_div (base : ℚ) (exponent : Int) :
    base ^ exponent = base ^ exponent.toNat / base ^ (-exponent).toNat := by
  rcases le_total 0 exponent with nonneg | nonpos
  · obtain ⟨count, rfl⟩ := Int.eq_ofNat_of_zero_le nonneg
    simp
  · obtain ⟨count, isNeg⟩ := Int.eq_ofNat_of_zero_le (Int.neg_nonneg_of_nonpos nonpos)
    obtain rfl : exponent = -(count : Int) := by omega
    simp

namespace Rounding

variable {value : Binary} {first second : Nat} {left right : Int}

/-! ### Products and quotients -/

theorem describes_exact (number : ℚ) (mantissa : Nat) (exponent : Int)
    (is : number = mantissa * 2 ^ exponent) :
    Describes (number / 2 ^ exponent) mantissa .exact := by
  have unit : (0 : ℚ) < 2 ^ exponent := by positivity
  change _ = (mantissa : ℚ)
  rw [is, mul_div_cancel_right₀ _ unit.ne']

/-- A mantissa of 53 bits is fine enough. -/
theorem fine_of_full {mantissa : Nat} (full : 2 ^ 52 ≤ mantissa) (exponent : Int) :
    exponent ≤ double.targetExponent (totalExponent mantissa exponent) := by
  have bits : 52 ≤ mantissa.log2 :=
    (Nat.le_log2 (by have := Nat.two_pow_pos 52; omega)).mpr full
  rw [targetExponent_eq, totalExponent]
  omega

theorem mul_of_takes (canonical : value.Canonical)
    (takes : value.Takes (first * 2 ^ left * (second * 2 ^ right)))
    (full : 2 ^ 52 ≤ first * second) (firstPositive : 0 < first) (secondPositive : 0 < second) :
    UnpackedFloat.mul double (.finite .positive first left firstPositive)
        (.finite .positive second right secondPositive) =
      .finite .positive value.mantissa value.exponent canonical.positive := by
  refine roundWithAccuracy_of_takes canonical takes .positive ?_ (fine_of_full full _)
  refine describes_exact _ _ _ ?_
  rw [zpow_add₀ two_ne_zero]
  push_cast
  ring

theorem describes_quotient (numerator : Nat) {denominator : Nat} (positive : 0 < denominator) :
    Describes (numerator / denominator) (numerator / denominator)
      (accuracyOfFraction (numerator % denominator) denominator) := by
  have unit : (0 : ℚ) < denominator := Nat.cast_pos.mpr positive
  have parts : (numerator : ℚ) / denominator =
      (numerator / denominator : Nat) + (numerator % denominator : Nat) / denominator := by
    rw [div_eq_iff unit.ne', add_mul, div_mul_cancel₀ _ unit.ne']
    exact_mod_cast (Nat.div_add_mod' numerator denominator).symm
  have less : ((numerator % denominator : Nat) : ℚ) / denominator < 1 := by
    rw [div_lt_one₀ unit]
    exact_mod_cast Nat.mod_lt _ positive
  rw [parts]
  generalize numerator / denominator = whole
  generalize numerator % denominator = rest at less
  rw [accuracyOfFraction]
  split
  case isTrue zero =>
    rw [zero, Nat.cast_zero, zero_div, add_zero]
    rfl
  case isFalse some =>
    have more : (0 : ℚ) < rest / denominator :=
      div_pos (Nat.cast_pos.mpr (Nat.pos_of_ne_zero some)) unit
    cases order : compare (2 * rest) denominator with
    | lt =>
        have half : (rest : ℚ) / denominator < 1 / 2 := by
          rw [div_lt_div_iff₀ unit two_pos, one_mul, mul_comm]
          exact_mod_cast Nat.compare_eq_lt.mp order
        change (whole : ℚ) < _ ∧ _ < (whole : ℚ) + 1 / 2
        exact ⟨by linarith, by linarith⟩
    | eq =>
        have half : (rest : ℚ) / denominator = 1 / 2 := by
          rw [div_eq_div_iff unit.ne' two_ne_zero, one_mul, mul_comm]
          exact_mod_cast Nat.compare_eq_eq.mp order
        exact congrArg _ half
    | gt =>
        have half : 1 / 2 < (rest : ℚ) / denominator := by
          rw [div_lt_div_iff₀ two_pos unit, one_mul, mul_comm]
          exact_mod_cast Nat.compare_eq_gt.mp order
        change (whole : ℚ) + 1 / 2 < _ ∧ _ < (whole : ℚ) + 1
        exact ⟨by linarith, by linarith⟩

theorem targetExponent_mono {low high : Int} (le : low ≤ high) :
    double.targetExponent low ≤ double.targetExponent high := by
  rw [targetExponent_eq, targetExponent_eq]
  omega

/-- A quotient in units of its own: the dividend is shifted up first. -/
theorem quotient_shiftLeft (positive : 0 < second) {target : Int} {count : Nat}
    (distance : left - right = target + count) :
    ((first <<< count : Nat) : ℚ) / second = first * 2 ^ left / (second * 2 ^ right) / 2 ^ target := by
  have unit : (0 : ℚ) < second := Nat.cast_pos.mpr positive
  have powers : (2 : ℚ) ^ left = 2 ^ count * 2 ^ right * 2 ^ target := by
    rw [← zpow_natCast, ← zpow_add₀ two_ne_zero, ← zpow_add₀ two_ne_zero]
    congr 1
    omega
  rw [Nat.shiftLeft_eq, div_div, div_eq_div_iff unit.ne' (by positivity), powers]
  push_cast
  ring

/-- A quotient has at least as many bits as its dividend has more than its divisor. -/
theorem Describes.sub_le_total {mantissa : Nat} {target : Int} {accuracy : Accuracy}
    (describes : Describes (first * 2 ^ left / (second * 2 ^ right) / 2 ^ target) mantissa accuracy)
    (firstPositive : 0 < first) (secondPositive : 0 < second) :
    totalExponent first left - totalExponent second right ≤ totalExponent mantissa target := by
  have unit : (0 : ℚ) < second := Nat.cast_pos.mpr secondPositive
  have above := (describes_exact _ first left rfl).total_le (Nat.ne_of_gt firstPositive)
  have below := (describes_exact _ second right rfl).lt_total
  have less := describes.lt_total
  rw [div_lt_iff₀ (by positivity)] at less
  have bound : (2 : ℚ) ^ (totalExponent first left - 1) <
      2 ^ (totalExponent mantissa target + totalExponent second right) := by
    rw [zpow_add₀ two_ne_zero]
    refine lt_of_le_of_lt above (lt_of_lt_of_le less ?_)
    exact mul_le_mul_of_nonneg_left below.le (by positivity)
  have exponents := two_zpow_lt_iff.mp bound
  omega

theorem div_of_takes (canonical : value.Canonical)
    (takes : value.Takes (first * 2 ^ left / (second * 2 ^ right)))
    (firstPositive : 0 < first) (secondPositive : 0 < second) :
    UnpackedFloat.div double (.finite .positive first left firstPositive)
        (.finite .positive second right secondPositive) =
      .finite .positive value.mantissa value.exponent canonical.positive := by
  -- The quotient is taken in units small enough for its size.
  obtain ⟨target, targetIs⟩ : ∃ target, target = min (left - right)
    (double.targetExponent (totalExponent first left - totalExponent second right)) := ⟨_, rfl⟩
  obtain ⟨count, distance⟩ : ∃ count : Nat, left - right = target + count :=
    ⟨(left - right - target).toNat, by omega⟩
  have shift : (left - right - target).toNat = count := by omega
  have core : divCore double first left second right =
      ((first <<< count) / second, target, accuracyOfFraction ((first <<< count) % second) second) := by
    rw [divCore, ← targetIs, shift]
  have describes := describes_quotient (first <<< count) secondPositive
  rw [quotient_shiftLeft secondPositive distance] at describes
  have fine := targetExponent_mono (describes.sub_le_total firstPositive secondPositive)
  change (let (m, e, acc) := divCore double first left second right
    roundWithAccuracy double (Sign.positive / Sign.positive) m e acc) = _
  rw [core]
  exact roundWithAccuracy_of_takes canonical takes .positive describes (by omega)

end Rounding

/-! ### The size of a decimal -/

namespace Decimal

variable {value : Binary} {number : Decimal}

/-- The number that a decimal stands for. -/
def toRat (number : Decimal) : ℚ :=
  number.digits * 10 ^ number.exponent

theorem toRat_lt (number : Decimal) : number.toRat < 10 ^ (number.exponent + number.width) := by
  have unit : (0 : ℚ) < 10 ^ number.exponent := by positivity
  have digits : number.digits < 10 ^ number.width :=
    (Nat.length_toDigits_le_iff (by decide) Nat.length_toDigits_pos).mp le_rfl
  rw [toRat, add_comm, zpow_add₀ (by norm_num), zpow_natCast]
  refine mul_lt_mul_of_pos_right ?_ unit
  exact_mod_cast digits

theorem le_toRat (positive : number.digits ≠ 0) :
    10 ^ (number.exponent + number.width - 1) ≤ number.toRat := by
  have unit : (0 : ℚ) < 10 ^ number.exponent := by positivity
  have digits : 10 ^ (number.width - 1) ≤ number.digits := by
    rcases Nat.eq_zero_or_pos (number.width - 1) with none | some
    · rw [none]
      exact Nat.pos_of_ne_zero positive
    · refine Nat.not_lt.mp fun less => ?_
      have shorter : number.width ≤ number.width - 1 :=
        (Nat.length_toDigits_le_iff (by decide) some).mpr less
      omega
  have width : 0 < number.width := Nat.length_toDigits_pos
  have exponent : number.exponent + number.width - 1 = (number.width - 1 : Nat) + number.exponent := by omega
  rw [toRat, exponent, zpow_add₀ (by norm_num), zpow_natCast]
  refine mul_le_mul_of_nonneg_right ?_ unit.le
  exact_mod_cast digits

theorem width_le (number : Decimal) : number.width ≤ number.digits.log2 + 1 := by
  refine (Nat.length_toDigits_le_iff (by decide) (Nat.succ_pos _)).mpr ?_
  exact lt_of_lt_of_le Nat.lt_log2_self (Nat.pow_le_pow_left (by decide) _)

end Decimal

namespace Binary

variable {value : Binary} {number : ℚ}

theorem Takes.least_le (canonical : value.Canonical) (takes : value.Takes number) :
    2 ^ (-1075 : Int) ≤ number := by
  have gap := value.gapBelow_le
  have one : (1 : ℚ) ≤ value.mantissa := Nat.one_le_cast.mpr canonical.positive
  refine le_trans ?_ takes.lower
  calc
    (2 : ℚ) ^ (-1075 : Int) = 1 / 2 * 2 ^ (-1074 : Int) := by
      rw [show (-1075 : Int) = -1 + -1074 from rfl, zpow_add₀ two_ne_zero]
      norm_num
    _ ≤ 1 / 2 * 2 ^ value.exponent := by
      refine mul_le_mul_of_nonneg_left ?_ (by norm_num)
      exact zpow_le_zpow_right₀ one_le_two canonical.above
    _ ≤ (value.mantissa - value.gapBelow) * 2 ^ value.exponent := by
      refine mul_le_mul_of_nonneg_right (by linarith) (by positivity)

theorem Takes.lt_most (canonical : value.Canonical) (takes : value.Takes number) :
    number < 2 ^ (1024 : Int) := by
  have below := canonical.below
  exact lt_of_lt_of_le (takes.lt_next canonical) (zpow_le_zpow_right₀ one_le_two (by omega))

end Binary

namespace Decimal

open Rounding

variable {value : Binary} {number : Decimal}

theorem digits_ne_zero (canonical : value.Canonical) (takes : value.Takes number.toRat) :
    number.digits ≠ 0 := by
  intro zero
  have least := takes.least_le canonical
  rw [Decimal.toRat, zero, Nat.cast_zero, zero_mul] at least
  exact absurd least (not_le.mpr (by positivity))

theorem two_pow_le_ten_pow (count : Nat) : (2 : ℚ) ^ (3 * count) ≤ 10 ^ count := by
  rw [pow_mul]
  exact pow_le_pow_left₀ (by norm_num) (by norm_num) count

/-- A decimal that rounds to a positive float is neither far too small nor far too large for floats. -/
theorem size_bounds (canonical : value.Canonical) (takes : value.Takes number.toRat) :
    -400 ≤ number.exponent + number.width ∧ number.exponent + number.width ≤ 400 := by
  constructor
  · by_contra tiny
    have less : (10 : ℚ) ^ (number.exponent + number.width) ≤ 10 ^ (-401 : Int) :=
      zpow_le_zpow_right₀ (by norm_num) (by omega)
    have least : (10 : ℚ) ^ (-401 : Int) < 2 ^ (-1075 : Int) := by
      refine lt_of_le_of_lt ?_ (two_zpow_lt_iff.mpr (show -((3 * 401 : Nat) : Int) < -1075 by decide))
      rw [show (-401 : Int) = -((401 : Nat) : Int) from rfl, zpow_neg, zpow_neg, zpow_natCast, zpow_natCast]
      exact inv_anti₀ (by positivity) (two_pow_le_ten_pow 401)
    exact absurd (takes.least_le canonical) (not_le.mpr (lt_trans (lt_of_lt_of_le number.toRat_lt less) least))
  · by_contra huge
    have more : (10 : ℚ) ^ (400 : Int) ≤ 10 ^ (number.exponent + number.width - 1) :=
      zpow_le_zpow_right₀ (by norm_num) (by omega)
    have most : (2 : ℚ) ^ (1024 : Int) < 10 ^ (400 : Int) := by
      refine lt_of_lt_of_le (two_zpow_lt_iff.mpr (show (1024 : Int) < (3 * 400 : Nat) by decide)) ?_
      rw [show (400 : Int) = (400 : Nat) from rfl, zpow_natCast, zpow_natCast]
      exact two_pow_le_ten_pow 400
    exact absurd (takes.lt_most canonical)
      (not_lt.mpr (le_trans (le_trans most.le more) (le_toRat (digits_ne_zero canonical takes))))

theorem ofScientific_of_takes (canonical : value.Canonical) (takes : value.Takes number.toRat) :
    UnpackedFloat.ofScientific double number.digits number.exponent =
      .finite .positive value.mantissa value.exponent canonical.positive := by
  have positive := digits_ne_zero canonical takes
  obtain ⟨notTiny, notHuge⟩ := size_bounds canonical takes
  have short := number.width_le
  rw [UnpackedFloat.ofScientific, dif_neg positive, if_neg (by simp only; omega),
    if_neg (by simp only; omega)]
  split
  case isTrue nonneg =>
    have exact_eq : ((number.digits <<< double.mantissaBits : Nat) : ℚ) * 2 ^ (-(double.mantissaBits : Int)) *
        ((10 ^ number.exponent.toNat : Nat) * 2 ^ (0 : Int)) = number.toRat := by
      have power : (10 : ℚ) ^ number.exponent = 10 ^ number.exponent.toNat := by
        rw [← zpow_natCast, Int.toNat_of_nonneg nonneg]
      rw [toRat, power, Nat.shiftLeft_eq, zpow_neg, zpow_natCast, zpow_zero]
      push_cast
      field_simp
    rw [← exact_eq] at takes
    refine mul_of_takes canonical takes ?_ _ _
    rw [Nat.shiftLeft_eq]
    calc
      2 ^ 52 ≤ number.digits * 2 ^ double.mantissaBits := by
        rw [show double.mantissaBits = 53 from rfl]
        omega
      _ ≤ number.digits * 2 ^ double.mantissaBits * 10 ^ number.exponent.toNat :=
        Nat.le_mul_of_pos_right _ (by positivity)
  case isFalse negative =>
    have exact_eq : (number.digits : ℚ) * 2 ^ (0 : Int) /
        ((10 ^ (-number.exponent).toNat : Nat) * 2 ^ (0 : Int)) = number.toRat := by
      have none : number.exponent.toNat = 0 := by omega
      rw [toRat, zpow_eq_div 10 number.exponent, none, zpow_zero]
      push_cast
      field_simp
    rw [← exact_eq] at takes
    exact div_of_takes canonical takes _ _

end Decimal

/-! ### Small decimals -/

namespace Rounding

variable {value : Binary} {x y : Float} {first second : ℚ}

/-- A float that holds a positive number in all bits of its mantissa. -/
def Holds (x : Float) (number : ℚ) : Prop :=
  ∃ mantissa exponent, ∃ positive : 0 < mantissa,
    x.toModel.unpack = .finite .positive mantissa exponent positive ∧
      2 ^ 52 ≤ mantissa ∧ number = mantissa * 2 ^ exponent

theorem mul_of_holds (canonical : value.Canonical) (left : Holds x first) (right : Holds y second)
    (takes : value.Takes (first * second)) :
    x * y = Float.ofModel (.pack (.finite .positive value.mantissa value.exponent canonical.positive)) := by
  obtain ⟨mantissa, exponent, positive, unpacked, full, rfl⟩ := left
  obtain ⟨factor, power, factorPositive, factorUnpacked, factorFull, rfl⟩ := right
  change Float.ofModel (.pack (UnpackedFloat.mul double x.toModel.unpack y.toModel.unpack)) = _
  rw [unpacked, factorUnpacked]
  rw [mul_of_takes canonical takes (by nlinarith) positive factorPositive]

theorem div_of_holds (canonical : value.Canonical) (left : Holds x first) (right : Holds y second)
    (takes : value.Takes (first / second)) :
    x / y = Float.ofModel (.pack (.finite .positive value.mantissa value.exponent canonical.positive)) := by
  obtain ⟨mantissa, exponent, positive, unpacked, full, rfl⟩ := left
  obtain ⟨factor, power, factorPositive, factorUnpacked, factorFull, rfl⟩ := right
  change Float.ofModel (.pack (UnpackedFloat.div double x.toModel.unpack y.toModel.unpack)) = _
  rw [unpacked, factorUnpacked]
  rw [div_of_takes canonical takes positive factorPositive]

/-- How far the leading bit of a number is from the first bit of a mantissa. -/
def headroom (number : Nat) : Nat :=
  52 - number.log2

/-- A number shifted up to the first bit of the mantissa. -/
def spread (number : Nat) : Binary :=
  ⟨number * 2 ^ headroom number, -(headroom number : Int), number * 2 ^ headroom number == 2 ^ 52⟩

section

variable {number : Nat} (positive : 0 < number) (small : number < 2 ^ 53)

include positive small

theorem log2_add_headroom : number.log2 + headroom number = 52 := by
  have bits := (Nat.log2_lt (Nat.ne_of_gt positive)).mpr small
  rw [headroom]
  omega

theorem full_spread : 2 ^ 52 ≤ (spread number).mantissa := by
  rw [← log2_add_headroom positive small, pow_add]
  exact Nat.mul_le_mul_right _ (Nat.log2_self_le (Nat.ne_of_gt positive))

theorem canonical_spread : (spread number).Canonical := by
  have bits := log2_add_headroom positive small
  have full := full_spread positive small
  have fits : (spread number).mantissa < 2 ^ 53 := by
    rw [show 53 = number.log2 + 1 + headroom number by omega, pow_add]
    exact Nat.mul_lt_mul_of_pos_right Nat.lt_log2_self (Nat.two_pow_pos _)
  have exponent : (spread number).exponent = -(headroom number : Int) := rfl
  exact {
    positive := by omega
    fits := fits
    above := by omega
    below := by omega
    full := fun less => by omega
    narrow := beq_iff_eq.trans (iff_self_and.mpr fun _ => by omega) }

theorem ofUInt64_eq_spread :
    UnpackedFloat.ofUInt64 double number.toUInt64 =
      .finite .positive (spread number).mantissa (spread number).exponent
        (canonical_spread positive small).positive := by
  have canonical := canonical_spread positive small
  have bits := log2_add_headroom positive small
  have wide : number.toUInt64.toNat = number := Nat.mod_eq_of_lt (by omega)
  have greater : compare (number : Int) 0 = .gt := by
    rw [Int.compare_eq_gt]
    omega
  have target : double.targetExponent (totalExponent number 0) = -(headroom number : Int) := by
    rw [targetExponent_eq, totalExponent]
    omega
  have shift : (0 - -(headroom number : Int)).toNat = headroom number := by omega
  rw [UnpackedFloat.ofUInt64, wide, UnpackedFloat.ofNat, UnpackedFloat.ofInt, UnpackedFloat.normalize, greater]
  simp only [UnpackedFloat.round, decreaseExponent, target, shift, Int.toNat_natCast, Nat.shiftLeft_eq]
  rw [zero_sub]
  have fit := shiftToTargetExponent_of_fits canonical.fits canonical.above
  exact roundWithAccuracy_eq .positive fit rfl fit rfl canonical.positive

/-- A whole number that fits in the mantissa becomes a float exactly. -/
theorem holds_toFloat : Holds number.toUInt64.toFloat number := by
  have canonical := canonical_spread positive small
  refine ⟨(spread number).mantissa, (spread number).exponent, canonical.positive, ?_,
    full_spread positive small, ?_⟩
  · change UnpackedFloat.unpack double
      (UnpackedFloat.pack double (UnpackedFloat.ofUInt64 double number.toUInt64)) = _
    rw [ofUInt64_eq_spread positive small]
    exact unpack_pack canonical false
  · simp only [spread]
    push_cast
    rw [zpow_neg, zpow_natCast, mul_assoc, mul_inv_cancel₀ (by positivity), mul_one]

end

/-- Whether an unpacked float is a power of ten in all bits of its mantissa. -/
def isPowerOfTen (power : Nat) : UnpackedFloat → Bool
  | .finite .positive mantissa exponent _ =>
      decide (2 ^ 52 ≤ mantissa) && mantissa * 2 ^ exponent.toNat == 10 ^ power * 2 ^ (-exponent).toNat
  | _ => false

theorem isPowerOfTen_table : ∀ power : Fin Float.exactlyRepresentablePowersOfTen.size,
    isPowerOfTen power Float.exactlyRepresentablePowersOfTen[power].toModel.unpack = true := by
  decide +kernel

theorem holds_power {power : Nat} (known : power < Float.exactlyRepresentablePowersOfTen.size) :
    Holds Float.exactlyRepresentablePowersOfTen[power] (10 ^ power) := by
  have listed := isPowerOfTen_table ⟨power, known⟩
  simp only [Fin.getElem_fin] at listed
  generalize Float.exactlyRepresentablePowersOfTen[power] = x at listed
  rw [isPowerOfTen.eq_def] at listed
  split at listed
  · rename_i mantissa exponent positive unpacked
    rw [Bool.and_eq_true, decide_eq_true_eq, beq_iff_eq] at listed
    refine ⟨mantissa, exponent, positive, unpacked, listed.1, ?_⟩
    rw [zpow_eq_div 2, ← mul_div_assoc, eq_div_iff (by positivity)]
    exact_mod_cast listed.2.symm
  · contradiction

end Rounding

namespace Decimal

open Rounding

variable {value : Binary} {number : Decimal}

theorem floatOfScientific_of_takes (canonical : value.Canonical) (takes : value.Takes number.toRat) :
    Float.ofScientific number.digits (number.exponent < 0) number.exponent.natAbs =
      Float.ofModel (.pack (.finite .positive value.mantissa value.exponent canonical.positive)) := by
  rw [Float.ofScientific]
  split
  case isTrue fast =>
    have known : number.exponent.natAbs < Float.exactlyRepresentablePowersOfTen.size := Nat.lt_succ_of_le fast.2
    have whole := holds_toFloat (Nat.pos_of_ne_zero (digits_ne_zero canonical takes)) fast.1
    have power := holds_power known
    simp only [decide_eq_true_eq]
    split
    case isTrue negative =>
      refine div_of_holds canonical whole power ?_
      convert takes using 1
      obtain ⟨count, isNeg⟩ : ∃ count : Nat, number.exponent = -(count : Int) :=
        ⟨number.exponent.natAbs, by omega⟩
      rw [toRat, isNeg, Int.natAbs_neg, Int.natAbs_natCast, zpow_neg, zpow_natCast, div_eq_mul_inv]
    case isFalse nonneg =>
      refine mul_of_holds canonical whole power ?_
      convert takes using 1
      obtain ⟨count, isNat⟩ := Int.eq_ofNat_of_zero_le (Int.not_lt.mp nonneg)
      rw [toRat, isNat, Int.natAbs_natCast, zpow_natCast]
  case isFalse =>
    have exponent : (if (decide (number.exponent < 0)) = true then Int.negOfNat number.exponent.natAbs
        else Int.ofNat number.exponent.natAbs) = number.exponent := by
      split
      case isTrue negative =>
        rw [decide_eq_true_eq] at negative
        rw [Int.negOfNat_eq, Int.ofNat_eq_natCast]
        omega
      case isFalse nonneg =>
        rw [decide_eq_true_eq] at nonneg
        exact Int.natAbs_of_nonneg (Int.not_lt.mp nonneg)
    simp only [exponent]
    rw [Float.Model.ofScientific, ofScientific_of_takes canonical takes]

/-- A decimal is read as the float that takes it. -/
theorem toFloat_of_takes (canonical : value.Canonical) (takes : value.Takes number.toRat)
    (negative : Bool) :
    toFloat negative number = Float.ofModel
      (.pack (.finite (signOf negative) value.mantissa value.exponent canonical.positive)) := by
  obtain ⟨notTiny, notHuge⟩ := size_bounds canonical takes
  have magnitude := floatOfScientific_of_takes canonical takes
  have notZero : ¬ (number.digits = 0 ∨ number.exponent + number.width < -400) :=
    not_or.mpr ⟨digits_ne_zero canonical takes, by omega⟩
  have notInfinite : ¬ 400 < number.exponent + number.width := by omega
  simp only [toFloat, if_neg notZero, if_neg notInfinite, magnitude]
  cases negative
  · rfl
  · exact neg_pack canonical

theorem toFloat_of_zero (zero : number.digits = 0) (negative : Bool) :
    toFloat negative number = if negative then -Float.ofBits 0 else Float.ofBits 0 := by
  simp only [toFloat, zero, true_or, if_true]

end Decimal

end TapeMultiplier
