/-
Module: TapeMultiplier.Proofs.Decimal.Bits
Layer: Proofs
Purpose: A float is determined by its sign and its size: the undefined number, an infinite number, a zero, or
  the packed form of a canonical positive number.
Main exports: Magnitude.eq_of_undefined, Magnitude.eq_of_infinite, Magnitude.eq_zero, Magnitude.eq_pack,
  Rounding.unpack_pack, Rounding.neg_pack
-/
import TapeMultiplier.Proofs.Decimal.Rounding

namespace TapeMultiplier

open Float.Model Float.Model.UnpackedFloat

namespace Rounding

/-! ### The three parts of a packed float -/

theorem toNat_unpackMantissa (bits : BitVec 64) :
    (@unpackMantissa double bits).toNat = bits.toNat % 2 ^ 52 := by
  simp [unpackMantissa]

theorem toNat_unpackExponent (bits : BitVec 64) :
    (@unpackExponent double bits).toNat = bits.toNat / 2 ^ 52 % 2048 := by
  simp [unpackExponent, Nat.shiftRight_eq_div_pow]

theorem toNat_unpackSign (bits : BitVec 64) :
    (@unpackSign double bits).toNat = bits.toNat / 2 ^ 63 := by
  have below := bits.isLt
  simp [unpackSign, Nat.shiftRight_eq_div_pow]
  omega

theorem toNat_packComponents (sign : Sign) (exponent : BitVec 11) (fraction : BitVec 52) :
    (packComponents double sign exponent fraction).toNat =
      sign.toBitVec.toNat * 2 ^ 63 + exponent.toNat * 2 ^ 52 + fraction.toNat := by
  have low := toNat_unpackMantissa (packComponents double sign exponent fraction)
  have middle := toNat_unpackExponent (packComponents double sign exponent fraction)
  have high := toNat_unpackSign (packComponents double sign exponent fraction)
  rw [unpackMantissa_packComponents] at low
  rw [unpackExponent_packComponents] at middle
  rw [unpackSign_packComponents] at high
  omega

/-- The sign of a number that may be negative. -/
def signOf (negative : Bool) : Sign :=
  if negative then .negative else .positive

theorem toNat_signOf (negative : Bool) : (signOf negative).toBitVec.toNat = negative.toNat := by
  cases negative <;> rfl

/-- The bits of a packed number: the leading bit of a full mantissa is left out. -/
theorem toNat_pack {value : Binary} (canonical : value.Canonical) (negative : Bool) :
    (UnpackedFloat.pack double
        (.finite (signOf negative) value.mantissa value.exponent canonical.positive)).toNat =
      negative.toNat * 2 ^ 63 +
        (if value.mantissa < 2 ^ 52 then 0 else (value.exponent + 1075).toNat) * 2 ^ 52 +
          value.mantissa % 2 ^ 52 := by
  have above := canonical.above
  have below := canonical.below
  have biased : (value.exponent + double.exponentBias + (52 : Nat)).toNat =
      (value.exponent + 1075).toNat := by
    have bias : double.exponentBias = 1023 := rfl
    omega
  rw [UnpackedFloat.pack]
  simp only [biased]
  rw [if_neg (by omega)]
  by_cases small : value.mantissa < 2 ^ 52
  · have bits := (Nat.log2_lt (Nat.ne_of_gt canonical.positive)).mpr small
    rw [if_neg (by simp only [Format.mantissaBits]; omega), if_pos small, toNat_packComponents,
      toNat_signOf, BitVec.toNat_ofNat, BitVec.toNat_ofNat, Nat.zero_mod]
  · have bits : value.mantissa.log2 = 52 :=
      (Nat.log2_eq_iff (Nat.ne_of_gt canonical.positive)).mpr ⟨by omega, canonical.fits⟩
    rw [if_pos (by simp only [Format.mantissaBits]; omega), if_neg small, toNat_packComponents,
      toNat_signOf, BitVec.toNat_ofNat, BitVec.toNat_ofNat,
      Nat.mod_eq_of_lt (show (value.exponent + 1075).toNat < 2 ^ 11 by omega)]

theorem ofBitVec_unpackSign {bits : BitVec 64} {negative : Bool} (high : bits.toNat / 2 ^ 63 = negative.toNat) :
    Sign.ofBitVec (@unpackSign double bits) = signOf negative := by
  rw [← toNat_unpackSign, ← toNat_signOf] at high
  rw [BitVec.eq_of_toNat_eq high]
  cases negative <;> rfl

theorem toNat_full (fraction : BitVec 52) : (1#1 ++ fraction).toNat = 2 ^ 52 + fraction.toNat := by
  have below := fraction.isLt
  rw [BitVec.toNat_append, ← Nat.shiftLeft_add_eq_or_of_lt below]
  rfl

/-- Without an exponent, the fraction is the whole mantissa. -/
theorem unpack_of_fraction {packed : BitVec 64} {mantissa : Nat} (biased : packed.toNat / 2 ^ 52 % 2048 = 0)
    (fraction : packed.toNat % 2 ^ 52 = mantissa) (positive : 0 < mantissa) :
    UnpackedFloat.unpack double packed =
      .finite (.ofBitVec (@unpackSign double packed)) mantissa (-1074) positive := by
  have none : @unpackExponent double packed = 0#11 := by
    rw [← BitVec.toNat_inj, toNat_unpackExponent, biased]
    rfl
  rw [← toNat_unpackMantissa] at fraction
  have some : @unpackMantissa double packed ≠ 0#52 := by
    intro zero
    rw [zero] at fraction
    exact Nat.ne_of_lt positive fraction
  rw [UnpackedFloat.unpack]
  simp only [none]
  rw [if_neg (by decide), if_pos trivial, dif_neg some]
  simp only [fraction]
  rfl

/-- With an exponent, the mantissa has one more bit in front of the fraction. -/
theorem unpack_of_full {packed : BitVec 64} {biased mantissa : Nat} {exponent : Int}
    (biasedIs : packed.toNat / 2 ^ 52 % 2048 = biased) (some : biased ≠ 0) (notAll : biased ≠ 2047)
    (mantissaIs : 2 ^ 52 + packed.toNat % 2 ^ 52 = mantissa) (exponentIs : exponent + 1075 = biased)
    (positive : 0 < mantissa) :
    UnpackedFloat.unpack double packed =
      .finite (.ofBitVec (@unpackSign double packed)) mantissa exponent positive := by
  rw [← toNat_unpackExponent] at biasedIs
  rw [← toNat_unpackMantissa, ← toNat_full] at mantissaIs
  have notTop : @unpackExponent double packed ≠ -1#11 := by
    rw [Ne, ← BitVec.toNat_inj, biasedIs]
    exact notAll
  have notZero : @unpackExponent double packed ≠ 0#11 := by
    rw [Ne, ← BitVec.toNat_inj, biasedIs]
    exact some
  have bias : double.exponentBias = 1023 := rfl
  rw [UnpackedFloat.unpack]
  simp only [biasedIs, mantissaIs]
  rw [if_neg notTop, if_neg notZero]
  congr 1
  omega

theorem unpack_pack {value : Binary} (canonical : value.Canonical) (negative : Bool) :
    UnpackedFloat.unpack double (UnpackedFloat.pack double
        (.finite (signOf negative) value.mantissa value.exponent canonical.positive)) =
      .finite (signOf negative) value.mantissa value.exponent canonical.positive := by
  have bits := toNat_pack canonical negative
  generalize UnpackedFloat.pack double
    (.finite (signOf negative) value.mantissa value.exponent canonical.positive) = packed at bits
  have sign := Bool.toNat_lt negative
  have above := canonical.above
  have below := canonical.below
  have fits := canonical.fits
  have high : packed.toNat / 2 ^ 63 = negative.toNat := by
    split at bits <;> omega
  rw [← ofBitVec_unpackSign high]
  by_cases small : value.mantissa < 2 ^ 52
  · have least := canonical.full small
    rw [if_pos small] at bits
    rw [unpack_of_fraction (by omega) (show packed.toNat % 2 ^ 52 = value.mantissa by omega) canonical.positive]
    simp only [least]
  · rw [if_neg small] at bits
    exact unpack_of_full (show _ = (value.exponent + 1075).toNat by omega) (by omega) (by omega) (by omega)
      (by omega) canonical.positive

/-! ### Floats from their bits -/

theorem neg_pack {value : Binary} (canonical : value.Canonical) :
    -Float.ofModel (.pack (.finite .positive value.mantissa value.exponent canonical.positive)) =
      Float.ofModel (.pack (.finite .negative value.mantissa value.exponent canonical.positive)) := by
  change Float.ofModel (.pack (UnpackedFloat.neg (UnpackedFloat.unpack double (UnpackedFloat.pack double
    (.finite (signOf false) value.mantissa value.exponent canonical.positive))))) = _
  rw [unpack_pack canonical]
  rfl

end Rounding

namespace Magnitude

open Rounding

variable {x : Float} {negative : Bool} {value : Binary}

/-- Which bits a size is read from: the exponent with its offset, and the fraction. -/
def ReadFrom (biased fraction : Nat) : Magnitude → Prop
  | .undefined => biased = 2047 ∧ fraction ≠ 0
  | .infinite => biased = 2047 ∧ fraction = 0
  | .finite value =>
      biased ≠ 2047 ∧
        value =
          if biased = 0 then ⟨fraction, -1074, false⟩
          else ⟨2 ^ 52 + fraction, (biased : Int) - 1075, fraction == 0 && 1 < biased⟩

theorem ofFloat_bits {size : Magnitude} (read : ofFloat x = (negative, size)) :
    x.toBits.toNat / 2 ^ 63 = negative.toNat ∧
      ReadFrom (x.toBits.toNat / 2 ^ 52 % 2048) (x.toBits.toNat % 2 ^ 52) size := by
  have below := x.toBits.toNat_lt
  have sign : x.toBits.toNat / 2 ^ 63 = (x.toBits.toNat / signUnit == 1).toNat := by
    change _ = (x.toBits.toNat / 2 ^ 63 == 1).toNat
    obtain zero | one : x.toBits.toNat / 2 ^ 63 = 0 ∨ x.toBits.toNat / 2 ^ 63 = 1 := by omega
    · rw [zero]
      rfl
    · rw [one]
      rfl
  simp only [ofFloat] at read
  split at read
  · obtain ⟨rfl, rfl⟩ := Prod.mk.inj read
    refine ⟨sign, ?_⟩
    rename_i top
    split
    · exact ⟨beq_iff_eq.mp top, beq_iff_eq.mp ‹_›⟩
    · exact ⟨beq_iff_eq.mp top, fun zero => ‹¬ _› (beq_iff_eq.mpr zero)⟩
  · rename_i notTop
    have notTop : x.toBits.toNat / 2 ^ 52 % 2048 ≠ 2047 := fun top => notTop (beq_iff_eq.mpr top)
    split at read
    · obtain ⟨rfl, rfl⟩ := Prod.mk.inj read
      exact ⟨sign, notTop, (if_pos (beq_iff_eq.mp ‹_›)).symm⟩
    · obtain ⟨rfl, rfl⟩ := Prod.mk.inj read
      exact ⟨sign, notTop, (if_neg fun zero => ‹¬ _› (beq_iff_eq.mpr zero)).symm⟩

theorem eq_of_undefined (read : ofFloat x = (negative, .undefined)) :
    x = Float.ofBits 0x7FF8000000000000 := by
  obtain ⟨-, top, some⟩ := ofFloat_bits read
  obtain ⟨⟨bits, valid⟩⟩ := x
  have packed := valid.eq_packedNaN
    (by rw [← BitVec.toNat_inj, toNat_unpackExponent]; exact top)
    (by rw [Ne, ← BitVec.toNat_inj, toNat_unpackMantissa]; exact some)
  refine Float.toBits_inj.mp (UInt64.toNat_inj.mp ?_)
  exact congrArg BitVec.toNat packed

theorem eq_of_infinite (read : ofFloat x = (negative, .infinite)) :
    x = if negative then Float.ofBits 0xFFF0000000000000 else Float.ofBits 0x7FF0000000000000 := by
  obtain ⟨sign, top, none⟩ := ofFloat_bits read
  refine Float.toBits_inj.mp (UInt64.toNat_inj.mp ?_)
  cases negative
  · change x.toBits.toNat = 0x7FF0000000000000
    rw [Bool.toNat_false] at sign
    omega
  · change x.toBits.toNat = 0xFFF0000000000000
    rw [Bool.toNat_true] at sign
    omega

theorem eq_zero (read : ofFloat x = (negative, .finite value)) (zero : value.mantissa = 0) :
    x = if negative then -Float.ofBits 0 else Float.ofBits 0 := by
  obtain ⟨sign, notTop, valueIs⟩ := ofFloat_bits read
  have none : x.toBits.toNat / 2 ^ 52 % 2048 = 0 ∧ x.toBits.toNat % 2 ^ 52 = 0 := by
    split at valueIs
    · subst valueIs
      exact ⟨‹_›, zero⟩
    · subst valueIs
      simp only at zero
      omega
  refine Float.toBits_inj.mp (UInt64.toNat_inj.mp ?_)
  cases negative
  · change x.toBits.toNat = 0
    rw [Bool.toNat_false] at sign
    omega
  · change x.toBits.toNat = 0x8000000000000000
    rw [Bool.toNat_true] at sign
    omega

theorem canonical (read : ofFloat x = (negative, .finite value)) (positive : value.mantissa ≠ 0) :
    value.Canonical := by
  obtain ⟨-, notTop, valueIs⟩ := ofFloat_bits read
  have fraction : x.toBits.toNat % 2 ^ 52 < 2 ^ 52 := Nat.mod_lt _ (by decide)
  have biased : x.toBits.toNat / 2 ^ 52 % 2048 < 2048 := Nat.mod_lt _ (by decide)
  generalize x.toBits.toNat % 2 ^ 52 = rest at *
  generalize x.toBits.toNat / 2 ^ 52 % 2048 = power at *
  split at valueIs
  · subst valueIs
    exact {
      positive := Nat.pos_of_ne_zero positive
      fits := by simp only; omega
      above := by simp only; omega
      below := by simp only; omega
      full := fun _ => rfl
      narrow := by
        simp only [Bool.false_eq_true, false_iff]
        omega }
  · subst valueIs
    exact {
      positive := Nat.pos_of_ne_zero positive
      fits := by simp only; omega
      above := by simp only; omega
      below := by simp only; omega
      full := fun small => by simp only at small; omega
      narrow := by
        rw [Bool.and_eq_true, beq_iff_eq, decide_eq_true_eq]
        simp only
        omega }

theorem eq_pack (read : ofFloat x = (negative, .finite value)) (positive : value.mantissa ≠ 0) :
    x = Float.ofModel (.pack (.finite (signOf negative) value.mantissa value.exponent
      (Nat.pos_of_ne_zero positive))) := by
  refine Float.toBits_inj.mp (UInt64.toNat_inj.mp ?_)
  have packed := toNat_pack (canonical read positive) negative
  refine Eq.trans ?_ packed.symm
  obtain ⟨sign, -, valueIs⟩ := ofFloat_bits read
  have fraction : x.toBits.toNat % 2 ^ 52 < 2 ^ 52 := Nat.mod_lt _ (by decide)
  split at valueIs
  · subst valueIs
    rw [if_pos fraction]
    simp only
    omega
  · subst valueIs
    rw [if_neg (by simp only; omega)]
    simp only
    omega

end Magnitude

end TapeMultiplier
