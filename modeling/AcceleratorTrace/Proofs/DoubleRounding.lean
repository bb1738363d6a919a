import AcceleratorTrace.Json.Number
import Mathlib

/-!
# Rounding in doubles

A double that comes out of an operation has all of its 53 digits and is within one place of
the exact result, unless the result is too large or too small.  Distances are counted in
factors, so that they add up along products and quotients.
-/

namespace AcceleratorTrace

open Float.Model (Format UnpackedFloat totalExponent)
open Float.Model.UnpackedFloat

/-- The factor between neighbouring doubles where they are sparsest. -/
def placeFactor : ℚ := 2 ^ 52 / (2 ^ 52 - 1)

theorem one_le_placeFactor : 1 ≤ placeFactor := by
  rw [placeFactor]
  norm_num

theorem placeFactor_pos : 0 < placeFactor := one_pos.trans_le one_le_placeFactor

/-- Two numbers are so many places apart, or less. -/
structure Within (places : Nat) (first second : ℚ) : Prop where
  le : first ≤ second * placeFactor ^ places
  ge : second ≤ first * placeFactor ^ places

namespace Within

variable {places others : Nat} {first second third fourth : ℚ}

theorem refl (nonneg : 0 ≤ first) (places : Nat) : Within places first first :=
  ⟨le_mul_of_one_le_right nonneg (one_le_pow₀ one_le_placeFactor),
    le_mul_of_one_le_right nonneg (one_le_pow₀ one_le_placeFactor)⟩

theorem symm (within : Within places first second) : Within places second first :=
  ⟨within.ge, within.le⟩

theorem pos (within : Within places first second) (positive : 0 < first) : 0 < second :=
  pos_of_mul_pos_left (positive.trans_le within.le) (pow_pos placeFactor_pos _).le

theorem trans (one : Within places first second) (two : Within others second third) :
    Within (places + others) first third := by
  have positive := fun count => (pow_pos placeFactor_pos count).le
  constructor
  · calc first ≤ second * placeFactor ^ places := one.le
      _ ≤ third * placeFactor ^ others * placeFactor ^ places :=
          mul_le_mul_of_nonneg_right two.le (positive _)
      _ = third * placeFactor ^ (places + others) := by rw [pow_add]; ring
  · calc third ≤ second * placeFactor ^ others := two.ge
      _ ≤ first * placeFactor ^ places * placeFactor ^ others :=
          mul_le_mul_of_nonneg_right one.ge (positive _)
      _ = first * placeFactor ^ (places + others) := by rw [pow_add]; ring

theorem mul (one : Within places first second) (two : Within others third fourth)
    (firstPositive : 0 < first) (thirdPositive : 0 < third) :
    Within (places + others) (first * third) (second * fourth) := by
  have secondPositive := one.pos firstPositive
  have fourthPositive := two.pos thirdPositive
  constructor
  · calc first * third ≤ second * placeFactor ^ places * (fourth * placeFactor ^ others) :=
          mul_le_mul one.le two.le thirdPositive.le (firstPositive.le.trans one.le)
      _ = second * fourth * placeFactor ^ (places + others) := by rw [pow_add]; ring
  · calc second * fourth ≤ first * placeFactor ^ places * (third * placeFactor ^ others) :=
          mul_le_mul one.ge two.ge fourthPositive.le (secondPositive.le.trans one.ge)
      _ = first * third * placeFactor ^ (places + others) := by rw [pow_add]; ring

theorem mul_right (within : Within places first second) {factor : ℚ} (nonneg : 0 ≤ factor) :
    Within places (first * factor) (second * factor) := by
  constructor
  · rw [mul_right_comm]
    exact mul_le_mul_of_nonneg_right within.le nonneg
  · rw [mul_right_comm]
    exact mul_le_mul_of_nonneg_right within.ge nonneg

theorem inv (within : Within places first second) (positive : 0 < first) :
    Within places first⁻¹ second⁻¹ := by
  have secondPositive := within.pos positive
  constructor
  · rw [← div_eq_inv_mul, le_div_iff₀ secondPositive, inv_mul_le_iff₀ positive]
    exact within.ge
  · rw [← div_eq_inv_mul, le_div_iff₀ positive, inv_mul_le_iff₀ secondPositive]
    exact within.le

theorem div (one : Within places first second) (two : Within others third fourth)
    (firstPositive : 0 < first) (thirdPositive : 0 < third) :
    Within (places + others) (first / third) (second / fourth) := by
  rw [div_eq_mul_inv, div_eq_mul_inv]
  exact one.mul (two.inv thirdPositive) firstPositive (inv_pos.mpr thirdPositive)

theorem one_iff : Within 1 first second ↔
    first * (2 ^ 52 - 1) ≤ second * 2 ^ 52 ∧ second * (2 ^ 52 - 1) ≤ first * 2 ^ 52 := by
  have divisor : (0 : ℚ) < 2 ^ 52 - 1 := by norm_num
  rw [← le_div_iff₀ divisor, ← le_div_iff₀ divisor, mul_div_assoc, mul_div_assoc, ← placeFactor,
    ← pow_one placeFactor]
  exact ⟨fun within => ⟨within.le, within.ge⟩, fun bounds => ⟨bounds.1, bounds.2⟩⟩

theorem nonneg (within : Within places first second) (nonneg : 0 ≤ first) : 0 ≤ second :=
  nonneg_of_mul_nonneg_left (nonneg.trans within.le) (pow_pos placeFactor_pos _)

theorem abs_sub_le (within : Within places first second) (nonneg : 0 ≤ first) {error : ℚ}
    (factor : placeFactor ^ places ≤ 1 + error) : |first - second| ≤ second * error := by
  have secondNonneg := within.nonneg nonneg
  have least := (one_le_pow₀ one_le_placeFactor).trans factor
  have up : first ≤ second * (1 + error) :=
    within.le.trans (mul_le_mul_of_nonneg_left factor secondNonneg)
  have down : second ≤ first * (1 + error) :=
    within.ge.trans (mul_le_mul_of_nonneg_left factor nonneg)
  rw [abs_le]
  constructor
  · rcases le_total first second with less | more
    · have errors : first * error ≤ second * error :=
        mul_le_mul_of_nonneg_right less (by linarith)
      linarith
    · have errors : 0 ≤ second * error := mul_nonneg secondNonneg (by linarith)
      linarith
  · linarith

end Within

theorem mantissa_shiftRight (extended : ExtendedMantissa) (count : Nat) :
    (extended >>> count).mantissa = extended.mantissa / 2 ^ count := by
  induction count with
  | zero => exact (Nat.div_one _).symm
  | succ count induction =>
      have step : (extended >>> (count + 1)).mantissa = (extended >>> count).mantissa / 2 := rfl
      rw [step, induction, Nat.div_div_eq_div_mul, Nat.pow_succ]

theorem roundedMantissa_bounds (extended : ExtendedMantissa) :
    extended.mantissa ≤ extended.roundedMantissa ∧
      extended.roundedMantissa ≤ extended.mantissa + 1 := by
  obtain ⟨mantissa, roundBit, stickyBit⟩ := extended
  cases roundBit <;> cases stickyBit
  all_goals simp only [ExtendedMantissa.roundedMantissa, ExtendedMantissa.accuracy,
    Accuracy.roundToNearestEven]
  all_goals omega

theorem shiftToTargetExponent_of_target {mantissa count : Nat} {exponent : Int}
    (target : Format.binary64.targetExponent (totalExponent mantissa exponent) = exponent + count)
    (accuracy : Accuracy) :
    (shiftToTargetExponent .binary64 mantissa exponent accuracy).1.mantissa =
        mantissa / 2 ^ count ∧
      (shiftToTargetExponent .binary64 mantissa exponent accuracy).2 = exponent + count := by
  have amount : (exponent + count - exponent).toNat = count := by omega
  have start : (ExtendedMantissa.ofMantissaAndAccuracy mantissa accuracy).mantissa = mantissa := by
    cases accuracy with
    | exact => rfl
    | inexact order => cases order <;> rfl
  rw [shiftToTargetExponent, target]
  simp only [shiftToExponent, amount, mantissa_shiftRight, start, and_true]

theorem shiftToTargetExponent_eq {mantissa count : Nat} {exponent : Int}
    (digits : mantissa.log2 = 52 + count) (least : -1074 ≤ exponent + count)
    (accuracy : Accuracy) :
    (shiftToTargetExponent .binary64 mantissa exponent accuracy).1.mantissa =
        mantissa / 2 ^ count ∧
      (shiftToTargetExponent .binary64 mantissa exponent accuracy).2 = exponent + count := by
  apply shiftToTargetExponent_of_target
  simp only [Format.targetExponent, totalExponent, Format.mantissaBits, Format.minExponent, digits]
  omega

/-- Rounding keeps 53 digits, up or down, and may carry into one more place. -/
theorem roundWithAccuracy_eq {mantissa count : Nat} {exponent : Int}
    (digits : mantissa.log2 = 52 + count) (least : -1074 ≤ exponent + count)
    (accuracy : Accuracy) :
    ∃ (kept more : Nat) (positive : 0 < kept),
      roundWithAccuracy .binary64 .positive mantissa exponent accuracy =
        .finite .positive kept (exponent + more) positive ∧
      2 ^ 52 ≤ kept ∧ kept < 2 ^ 53 ∧ count ≤ more ∧
      (kept - 1) * 2 ^ more ≤ mantissa ∧ mantissa + 1 ≤ (kept + 1) * 2 ^ more := by
  have nonzero : mantissa ≠ 0 := by
    rintro rfl
    rw [Nat.log2_zero] at digits
    omega
  obtain ⟨above, below⟩ := (Nat.log2_eq_iff nonzero).mp digits
  have least53 : 2 ^ 52 ≤ mantissa / 2 ^ count := by
    rw [Nat.le_div_iff_mul_le (Nat.two_pow_pos _), ← Nat.pow_add]
    exact above
  have most53 : mantissa / 2 ^ count < 2 ^ 53 := by
    rw [Nat.div_lt_iff_lt_mul (Nat.two_pow_pos _), ← Nat.pow_add]
    exact below.trans_le (Nat.pow_le_pow_right (by decide) (by omega))
  have down : mantissa / 2 ^ count * 2 ^ count ≤ mantissa := Nat.div_mul_le_self _ _
  have up : mantissa + 1 ≤ (mantissa / 2 ^ count + 1) * 2 ^ count :=
    Nat.lt_mul_of_div_lt (Nat.lt_succ_self _) (Nat.two_pow_pos _)
  obtain ⟨cut, cutExponent⟩ := shiftToTargetExponent_eq digits least accuracy
  have bounds := roundedMantissa_bounds
    (shiftToTargetExponent .binary64 mantissa exponent accuracy).1
  rw [cut] at bounds
  simp only [roundWithAccuracy, cutExponent]
  generalize (shiftToTargetExponent .binary64 mantissa exponent accuracy).1.roundedMantissa =
    rounded at bounds ⊢
  have positive : rounded ≠ 0 := by omega
  by_cases small : rounded < 2 ^ 53
  · have short : rounded.log2 = 52 + 0 := by
      rw [Nat.log2_eq_iff positive]
      omega
    obtain ⟨same, sameExponent⟩ := shiftToTargetExponent_eq short
      (show -1074 ≤ exponent + count + (0 : Nat) by omega) .exact
    rw [pow_zero, Nat.div_one] at same
    refine ⟨rounded, count, by omega, ?_, by omega, small, le_rfl, ?_, ?_⟩
    · simp only [same, sameExponent, dif_neg positive, Nat.cast_zero, add_zero]
    · exact (Nat.mul_le_mul_right _ (by omega)).trans down
    · exact up.trans (Nat.mul_le_mul_right _ (by omega))
  · have carried : rounded.log2 = 52 + 1 := by
      rw [Nat.log2_eq_iff positive]
      omega
    obtain ⟨half, halfExponent⟩ := shiftToTargetExponent_eq carried
      (show -1074 ≤ exponent + count + (1 : Nat) by omega) .exact
    rw [pow_one] at half
    have halfPositive : rounded / 2 ≠ 0 := by omega
    have twice : ∀ value, value * 2 ^ (count + 1) = value * 2 * 2 ^ count := by
      intro value
      rw [Nat.pow_succ]
      ring
    refine ⟨rounded / 2, count + 1, by omega, ?_, by omega, by omega, by omega, ?_, ?_⟩
    · simp only [half, halfExponent, dif_neg halfPositive, Nat.cast_one, Nat.cast_add, add_assoc]
    · rw [twice]
      exact (Nat.mul_le_mul_right _ (by omega)).trans down
    · rw [twice]
      exact up.trans (Nat.mul_le_mul_right _ (by omega))

/-- The double is `± mantissa · 2 ^ exponent`, with a mantissa of 53 digits. -/
structure Normal (x : Float) (sign : Sign) (mantissa : Nat) (exponent : Int) : Prop where
  positive : 0 < mantissa
  unpack : x.toModel.unpack = .finite sign mantissa exponent positive
  above : 2 ^ 52 ≤ mantissa
  below : mantissa < 2 ^ 53
  least : -1074 ≤ exponent
  greatest : exponent ≤ 971

section Packing

variable {sign : Sign} {mantissa : Nat} {exponent : Int} {positive : 0 < mantissa}
  (above : 2 ^ 52 ≤ mantissa) (below : mantissa < 2 ^ 53) (least : -1074 ≤ exponent)
  (greatest : exponent ≤ 971)
include above below least greatest

theorem pack_finite :
    UnpackedFloat.pack .binary64 (.finite sign mantissa exponent positive) =
      packComponents .binary64 sign (BitVec.ofNat 11 (exponent + 1075).toNat)
        (BitVec.ofNat 52 mantissa) := by
  have bias : Format.binary64.exponentBias = 1023 := rfl
  have width : Format.binary64.mantissaBits = 53 := rfl
  have digits : mantissa.log2 + 1 = 53 := by
    rw [(Nat.log2_eq_iff positive.ne').mpr ⟨above, below⟩]
  simp only [UnpackedFloat.pack, bias, width, digits, if_true]
  rw [if_neg (by omega)]
  congr 2
  omega

theorem unpack_pack_finite :
    (Float.Model.pack (.finite sign mantissa exponent positive)).unpack =
      .finite sign mantissa exponent positive := by
  have biased : (BitVec.ofNat 11 (exponent + 1075).toNat).toNat = (exponent + 1075).toNat := by
    rw [BitVec.toNat_ofNat]
    omega
  have notAll : BitVec.ofNat 11 (exponent + 1075).toNat ≠ -1#11 := by
    intro same
    rw [same] at biased
    have ones : (-1#11).toNat = 2047 := rfl
    omega
  have notNone : BitVec.ofNat 11 (exponent + 1075).toNat ≠ 0#11 := by
    intro same
    rw [same] at biased
    have zeros : (0#11).toNat = 0 := rfl
    omega
  have leading : (1#1 ++ BitVec.ofNat 52 mantissa).toNat = mantissa := by
    rw [BitVec.toNat_append, ← Nat.shiftLeft_add_eq_or_of_lt (BitVec.isLt _)]
    have low : (BitVec.ofNat 52 mantissa).toNat = mantissa % 2 ^ 52 := BitVec.toNat_ofNat _ _
    have one : (1#1).toNat <<< 52 = 2 ^ 52 := rfl
    omega
  have bias : Format.binary64.exponentBias = 1023 := rfl
  have packed := @pack_finite sign mantissa exponent positive above below least greatest
  have bits : (Float.Model.pack (.finite sign mantissa exponent positive)).toBits.toBitVec =
      UnpackedFloat.pack .binary64 (.finite sign mantissa exponent positive) := rfl
  rw [Float.Model.unpack, bits, packed]
  simp only [UnpackedFloat.unpack, unpackExponent_packComponents, unpackMantissa_packComponents,
    unpackSign_packComponents, if_neg notAll, if_neg notNone, leading, biased, bias,
    Sign.ofBitVec_toBitVec, UnpackedFloat.finite.injEq, true_and]
  omega

theorem normal_of_pack {x : Float}
    (packed : x.toModel = Float.Model.pack (.finite sign mantissa exponent positive)) :
    Normal x sign mantissa exponent := by
  refine ⟨positive, ?_, above, below, least, greatest⟩
  rw [packed]
  exact unpack_pack_finite above below least greatest

end Packing

theorem exponentBits_eq (x : Float) :
    Binary64.exponentBits x = (@unpackExponent .binary64 x.toModel.toBits.toBitVec).toNat := by
  have bits : x.toBits.toNat = x.toModel.toBits.toBitVec.toNat := rfl
  have width : (UInt64.toNat 52) % 64 = 52 := rfl
  have ones : (UInt64.toNat 0x7ff) = 2 ^ 11 - 1 := rfl
  rw [unpackExponent_def, BitVec.extractLsb'_toNat, Binary64.exponentBits, UInt64.toNat_and,
    UInt64.toNat_shiftRight, bits, width, ones, Nat.and_two_pow_sub_one_eq_mod]

theorem fractionBits_eq (x : Float) :
    Binary64.fractionBits x = (@unpackMantissa .binary64 x.toModel.toBits.toBitVec).toNat := by
  have bits : x.toBits.toNat = x.toModel.toBits.toBitVec.toNat := rfl
  have ones : (UInt64.toNat 0xfffffffffffff) = 2 ^ 52 - 1 := rfl
  rw [unpackMantissa_def, BitVec.extractLsb'_toNat, Binary64.fractionBits, UInt64.toNat_and, bits,
    ones, Nat.and_two_pow_sub_one_eq_mod, Nat.shiftRight_zero]

theorem signOf_eq (x : Float) :
    Binary64.signOf x = (@unpackSign .binary64 x.toModel.toBits.toBitVec == 1#1) := by
  have bits : x.toBits.toNat = x.toModel.toBits.toBitVec.toNat := rfl
  have width : (UInt64.toNat 63) % 64 = 63 := rfl
  have place : Format.binary64.mantissaBitsWithoutImplicit + Format.binary64.exponentBits = 63 :=
    rfl
  have one : (1 : UInt64).toNat = 1 := rfl
  have range : x.toModel.toBits.toBitVec.toNat < 2 ^ 64 := BitVec.isLt _
  have single : x.toModel.toBits.toBitVec.toNat >>> 63 < 2 ^ 1 := by
    rw [Nat.shiftRight_eq_div_pow]
    omega
  rw [Binary64.signOf, Bool.eq_iff_iff, beq_iff_eq, beq_iff_eq, ← UInt64.toNat_inj,
    ← BitVec.toNat_inj, UInt64.toNat_shiftRight, bits, width, one, unpackSign_def,
    BitVec.extractLsb'_toNat, place, Nat.mod_eq_of_lt single]
  rfl

namespace Normal

variable {x : Float} {sign : Sign} {mantissa : Nat} {exponent : Int}

theorem toBits (normal : Normal x sign mantissa exponent) :
    x.toModel.toBits.toBitVec =
      packComponents .binary64 sign (BitVec.ofNat 11 (exponent + 1075).toNat)
        (BitVec.ofNat 52 mantissa) := by
  obtain ⟨positive, unpack, above, below, least, greatest⟩ := normal
  rw [← @pack_finite sign mantissa exponent positive above below least greatest, ← unpack]
  exact (pack_unpack_of_valid x.toModel.valid).symm

theorem exponentBits (normal : Normal x sign mantissa exponent) :
    Binary64.exponentBits x = (exponent + 1075).toNat := by
  have width : 2 ^ Format.binary64.exponentBits = 2048 := rfl
  have least := normal.least
  have greatest := normal.greatest
  rw [exponentBits_eq, normal.toBits, unpackExponent_packComponents, BitVec.toNat_ofNat, width]
  omega

theorem ofFloat? (normal : Normal x sign mantissa exponent) :
    Binary64.ofFloat? x = some ⟨sign == .negative, mantissa, exponent⟩ := by
  have bits := normal.toBits
  have biased := normal.exponentBits
  obtain ⟨-, -, above, below, least, greatest⟩ := normal
  have fraction : Binary64.fractionBits x = mantissa - 2 ^ 52 := by
    have width : 2 ^ Format.binary64.mantissaBitsWithoutImplicit = 2 ^ 52 := rfl
    rw [fractionBits_eq, bits, unpackMantissa_packComponents, BitVec.toNat_ofNat, width]
    omega
  have isNegative : Binary64.signOf x = (sign == .negative) := by
    rw [signOf_eq, bits, unpackSign_packComponents]
    cases sign <;> rfl
  have hidden : Binary64.hiddenBit = 2 ^ 52 := rfl
  have smallest : Binary64.leastExponent = -1074 := rfl
  simp only [Binary64.ofFloat?, biased, fraction, isNegative, hidden, smallest]
  rw [if_neg (by omega), if_neg (by omega), Option.some.injEq, Binary64.mk.injEq]
  exact ⟨rfl, by omega, by omega⟩

theorem neg (normal : Normal x .positive mantissa exponent) :
    Normal (-x) .negative mantissa exponent := by
  obtain ⟨positive, unpack, above, below, least, greatest⟩ := normal
  have model : (-x).toModel = Float.Model.pack x.toModel.unpack.neg := rfl
  apply normal_of_pack above below least greatest
  rw [model, unpack]
  rfl

end Normal

/-- A positive double that is so many places from a number. -/
def Near (places : Nat) (x : Float) (number : ℚ) : Prop :=
  ∃ mantissa exponent, Normal x .positive mantissa exponent ∧
    Within places (mantissa * 2 ^ exponent) number

/-- The double without its sign. -/
def Binary64.magnitude (x : Binary64) : ℚ := x.mantissa * 2 ^ x.exponent

theorem Near.trans {places others : Nat} {x : Float} {first second : ℚ}
    (near : Near places x first) (within : Within others first second) :
    Near (places + others) x second := by
  obtain ⟨mantissa, exponent, normal, isNear⟩ := near
  exact ⟨mantissa, exponent, normal, isNear.trans within⟩

/-- Numbers below this are rounded to doubles. -/
def doubleLimit : Nat := (2 ^ 52 - 1) * 2 ^ 972

theorem cast_doubleLimit : (doubleLimit : ℚ) = (2 ^ 52 - 1) * 2 ^ 972 := by
  rw [doubleLimit, Nat.cast_mul, Nat.cast_sub Nat.one_le_two_pow, Nat.cast_pow, Nat.cast_pow,
    Nat.cast_one, Nat.cast_ofNat]

theorem mul_zpow_add (cut count : Nat) (exponent : Int) :
    (cut : ℚ) * 2 ^ (exponent + count) = (cut * 2 ^ count : Nat) * 2 ^ exponent := by
  rw [zpow_add₀ two_ne_zero, zpow_natCast, Nat.cast_mul, Nat.cast_pow, Nat.cast_ofNat]
  ring

theorem within_of_neighbours {mantissa : Nat} (above : 2 ^ 52 ≤ mantissa) {power number : ℚ}
    (positive : 0 < power) (low : ((mantissa - 1 : Nat) : ℚ) * power ≤ number)
    (high : number ≤ ((mantissa + 1 : Nat) : ℚ) * power) : Within 1 (mantissa * power) number := by
  have least : (2 : ℚ) ^ 52 ≤ mantissa := by exact_mod_cast above
  have divisor : (0 : ℚ) < 2 ^ 52 - 1 := by norm_num
  rw [Nat.cast_pred (by omega)] at low
  rw [Nat.cast_succ] at high
  rw [Within.one_iff]
  constructor
  · calc mantissa * power * (2 ^ 52 - 1) = (mantissa * (2 ^ 52 - 1)) * power := by ring
      _ ≤ ((mantissa - 1) * 2 ^ 52) * power :=
          mul_le_mul_of_nonneg_right (by linarith) positive.le
      _ = (mantissa - 1) * power * 2 ^ 52 := by ring
      _ ≤ number * 2 ^ 52 := mul_le_mul_of_nonneg_right low (by positivity)
  · calc number * (2 ^ 52 - 1) ≤ (mantissa + 1) * power * (2 ^ 52 - 1) :=
          mul_le_mul_of_nonneg_right high divisor.le
      _ = ((mantissa + 1) * (2 ^ 52 - 1)) * power := by ring
      _ ≤ (mantissa * 2 ^ 52) * power := mul_le_mul_of_nonneg_right (by linarith) positive.le
      _ = mantissa * power * 2 ^ 52 := by ring

theorem near_round {x : Float} {mantissa count : Nat} {exponent : Int} {accuracy : Accuracy}
    {number : ℚ}
    (rounded : x.toModel = Float.Model.pack
      (roundWithAccuracy .binary64 .positive mantissa exponent accuracy))
    (digits : mantissa.log2 = 52 + count) (least : -1074 ≤ exponent + count)
    (low : mantissa * 2 ^ exponent ≤ number) (high : number ≤ (mantissa + 1 : Nat) * 2 ^ exponent)
    (below : number < doubleLimit) : Near 1 x number := by
  rw [cast_doubleLimit] at below
  obtain ⟨kept, more, positive, result, above, under, long, down, up⟩ :=
    roundWithAccuracy_eq digits least accuracy
  have power : (0 : ℚ) < 2 ^ exponent := by positivity
  have lower : ((kept - 1 : Nat) : ℚ) * 2 ^ (exponent + more) ≤ number := by
    rw [mul_zpow_add]
    exact (mul_le_mul_of_nonneg_right (by exact_mod_cast down) power.le).trans low
  have upper : number ≤ ((kept + 1 : Nat) : ℚ) * 2 ^ (exponent + more) := by
    rw [mul_zpow_add]
    exact high.trans (mul_le_mul_of_nonneg_right (by exact_mod_cast up) power.le)
  have short : exponent + more < 972 := by
    have least : (2 ^ 52 - 1 : ℚ) ≤ ((kept - 1 : Nat) : ℚ) := by
      rw [Nat.cast_pred positive]
      exact sub_le_sub_right (by exact_mod_cast above) 1
    have powers : (2 ^ 52 - 1 : ℚ) * 2 ^ (exponent + more) < (2 ^ 52 - 1) * 2 ^ (972 : Int) :=
      calc (2 ^ 52 - 1 : ℚ) * 2 ^ (exponent + more)
          ≤ ((kept - 1 : Nat) : ℚ) * 2 ^ (exponent + more) :=
            mul_le_mul_of_nonneg_right least (by positivity)
        _ ≤ number := lower
        _ < (2 ^ 52 - 1) * 2 ^ (972 : Int) := below
    exact (zpow_lt_zpow_iff_right₀ one_lt_two).mp (lt_of_mul_lt_mul_left powers (by norm_num))
  refine ⟨kept, exponent + more, ?_, within_of_neighbours above (by positivity) lower upper⟩
  rw [result] at rounded
  exact normal_of_pack above under (by omega) (by omega) rounded

theorem near_round_exact {x : Float} {mantissa count : Nat} {exponent : Int}
    (rounded : x.toModel = Float.Model.pack
      (roundWithAccuracy .binary64 .positive mantissa exponent .exact))
    (digits : mantissa.log2 = 52 + count) (least : -1074 ≤ exponent + count)
    (below : (mantissa * 2 ^ exponent : ℚ) < doubleLimit) : Near 1 x (mantissa * 2 ^ exponent) := by
  apply near_round rounded digits least le_rfl ?_ below
  exact mul_le_mul_of_nonneg_right (by exact_mod_cast Nat.le_succ _) (by positivity)

theorem log2_shiftLeft {value : Nat} (positive : 0 < value) (shift : Nat) :
    (value <<< shift).log2 = value.log2 + shift := by
  obtain ⟨above, below⟩ := (Nat.log2_eq_iff positive.ne').mp rfl
  rw [Nat.shiftLeft_eq, Nat.log2_eq_iff (Nat.mul_pos positive (Nat.two_pow_pos _)).ne',
    Nat.pow_add, Nat.add_right_comm, Nat.pow_add]
  exact ⟨Nat.mul_le_mul_right _ above, Nat.mul_lt_mul_of_pos_right below (Nat.two_pow_pos _)⟩

theorem near_toFloat {value : Nat} (positive : 0 < value) (fits : value < 2 ^ 64) :
    Near 1 (UInt64.ofNat value).toFloat value := by
  have count : (UInt64.ofNat value).toNat = value := UInt64.toNat_ofNat_of_lt' fits
  have short : value.log2 < 64 := (Nat.log2_lt positive.ne').mpr fits
  have converted : (UInt64.ofNat value).toFloat.toModel =
      Float.Model.pack (normalize .binary64 (UInt64.ofNat value).toNat 0 .positive) := rfl
  have greater : compare (value : Int) 0 = .gt := by
    rw [compare_gt_iff_gt]
    omega
  have target : Format.binary64.targetExponent (totalExponent value 0) = value.log2 - 52 := by
    simp only [Format.targetExponent, totalExponent, Format.mantissaBits, Format.minExponent]
    omega
  -- A short integer is made longer first, so that there are 53 digits to keep.
  obtain ⟨shift, shifted⟩ : ∃ shift : Nat, (0 - ((value.log2 : Int) - 52)).toNat = shift := ⟨_, rfl⟩
  have digits : (value <<< shift).log2 = 52 + (value.log2 + shift - 52) := by
    rw [log2_shiftLeft positive]
    omega
  have same : ((value <<< shift : Nat) : ℚ) * 2 ^ (0 - shift : Int) = value := by
    rw [zero_sub, zpow_neg, zpow_natCast, Nat.shiftLeft_eq, Nat.cast_mul, Nat.cast_pow,
      Nat.cast_ofNat]
    exact mul_inv_cancel_right₀ (by positivity) _
  rw [count] at converted
  simp only [UnpackedFloat.normalize, greater, Int.toNat_natCast, UnpackedFloat.round, target,
    decreaseExponent, shifted] at converted
  have below : ((value <<< shift : Nat) : ℚ) * 2 ^ (0 - shift : Int) < doubleLimit := by
    rw [same, Nat.cast_lt]
    exact fits.trans (by decide +kernel)
  have near := near_round_exact converted digits (by omega) below
  rwa [same] at near

/-- Whether a double has all of its digits and is the number. -/
def isExactly (x : UnpackedFloat) (number : Nat) : Bool :=
  match x with
  | .finite .positive mantissa exponent _ =>
      decide (2 ^ 52 ≤ mantissa ∧ mantissa < 2 ^ 53 ∧ -1074 ≤ exponent ∧ exponent ≤ 971 ∧
        mantissa * 2 ^ exponent.toNat = number * 2 ^ (-exponent).toNat)
  | _ => false

theorem near_of_isExactly {x : Float} {number : Nat}
    (found : isExactly x.toModel.unpack number = true) : Near 1 x number := by
  unfold isExactly at found
  split at found
  · next mantissa exponent positive unpack =>
      obtain ⟨above, below, least, greatest, same⟩ := of_decide_eq_true found
      refine ⟨mantissa, exponent, ⟨positive, unpack, above, below, least, greatest⟩, ?_⟩
      have cast : (mantissa : ℚ) * 2 ^ exponent.toNat = number * 2 ^ (-exponent).toNat := by
        exact_mod_cast same
      have power : (2 : ℚ) ^ exponent = 2 ^ exponent.toNat / 2 ^ (-exponent).toNat := by
        rw [← zpow_natCast, ← zpow_natCast, ← zpow_sub₀ two_ne_zero]
        congr 1
        omega
      have value : (mantissa : ℚ) * 2 ^ exponent = number := by
        rw [power, ← mul_div_assoc, div_eq_iff (by positivity)]
        exact cast
      rw [value]
      exact .refl (Nat.cast_nonneg number) 1
  · contradiction

theorem small_powers_are_exact :
    ∀ power < 23, isExactly (Json.powerOfTen power).toModel.unpack (10 ^ power) = true := by
  decide +kernel

theorem toModel_powerOfTen {power : Nat} (large : 23 ≤ power) (small : power ≤ 308) :
    (Json.powerOfTen power).toModel =
      Float.Model.pack
        (roundWithAccuracy .binary64 .positive ((1 <<< 53) * 10 ^ power) (-53) .exact) := by
  have inexact : ¬ (1 < 2 ^ 53 ∧ power ≤ 22) := by omega
  rw [Json.powerOfTen, Float.ofScientific, dif_neg inexact]
  simp only [Bool.false_eq_true, if_false, Float.Model.ofScientific, UnpackedFloat.ofScientific,
    Int.ofNat_eq_natCast]
  rw [dif_neg Nat.one_ne_zero, if_neg (by omega), if_neg (by omega), if_pos (by omega)]
  rfl

theorem near_powerOfTen {power : Nat} (small : power ≤ 308) :
    Near 1 (Json.powerOfTen power) (10 ^ power : Nat) := by
  by_cases exactly : power < 23
  · exact near_of_isExactly (small_powers_are_exact power exactly)
  · have positive : 0 < 10 ^ power := Nat.pow_pos (by decide)
    have digits : ((1 <<< 53) * 10 ^ power).log2 = 52 + ((10 ^ power).log2 + 1) := by
      rw [Nat.shiftLeft_eq, Nat.one_mul, Nat.mul_comm, ← Nat.shiftLeft_eq, log2_shiftLeft positive]
      omega
    have same : (((1 <<< 53) * 10 ^ power : Nat) : ℚ) * 2 ^ (-53 : Int) = (10 ^ power : Nat) := by
      rw [Nat.cast_mul, mul_right_comm, show (1 <<< 53 : Nat) = 2 ^ 53 from rfl]
      norm_num
    have below : (((1 <<< 53) * 10 ^ power : Nat) : ℚ) * 2 ^ (-53 : Int) < doubleLimit := by
      rw [same, Nat.cast_lt]
      calc 10 ^ power ≤ 10 ^ 308 := Nat.pow_le_pow_right (by decide) small
        _ < doubleLimit := by decide +kernel
    have near := near_round_exact (toModel_powerOfTen (by omega) small) digits (by omega) below
    rwa [same] at near

theorem log2_mul {first second : Nat} (firstAbove : 2 ^ 52 ≤ first) (firstBelow : first < 2 ^ 53)
    (secondAbove : 2 ^ 52 ≤ second) (secondBelow : second < 2 ^ 53) :
    (first * second).log2 = 104 ∨ (first * second).log2 = 105 := by
  have least : 2 ^ 104 ≤ first * second :=
    calc 2 ^ 104 = 2 ^ 52 * 2 ^ 52 := rfl
      _ ≤ first * second := Nat.mul_le_mul firstAbove secondAbove
  have greatest : first * second < 2 ^ 106 :=
    calc first * second < 2 ^ 53 * 2 ^ 53 := Nat.mul_lt_mul'' firstBelow secondBelow
      _ = 2 ^ 106 := rfl
  rw [Nat.log2_eq_iff (by omega), Nat.log2_eq_iff (by omega)]
  omega

/-- Results below this are rounded to doubles, also if both arguments were rounded up. -/
def productLimit : Nat := (2 ^ 52 - 1) ^ 3 * 2 ^ 868

theorem cast_productLimit : (productLimit : ℚ) = (2 ^ 52 - 1) ^ 3 * 2 ^ 868 := by
  rw [productLimit, Nat.cast_mul, Nat.cast_pow, Nat.cast_pow, Nat.cast_sub Nat.one_le_two_pow,
    Nat.cast_pow, Nat.cast_one, Nat.cast_ofNat]

theorem productLimit_mul : (productLimit : ℚ) * placeFactor ^ 2 = doubleLimit := by
  have powers : (2 : ℚ) ^ 972 = 2 ^ 868 * 2 ^ 104 := by rw [← pow_add]
  rw [cast_productLimit, cast_doubleLimit, powers, placeFactor, mul_right_comm]
  generalize (2 : ℚ) ^ 868 = scale
  norm_num
  ring

theorem Within.exact_bounds {exact number : ℚ} (within : Within 2 exact number)
    (low : 2 ^ (-1000 : Int) ≤ number) (high : number < productLimit) :
    2 ^ (-1001 : Int) ≤ exact ∧ exact < doubleLimit := by
  have positive : 0 < exact := within.symm.pos (low.trans_lt' (by positivity))
  constructor
  · have split : (2 : ℚ) ^ (-1001 : Int) * 2 = 2 ^ (-1000 : Int) := by
      rw [← zpow_add_one₀ two_ne_zero]
      rfl
    have factor : placeFactor ^ 2 ≤ 2 := by
      rw [placeFactor]
      norm_num
    have twice : (2 : ℚ) ^ (-1001 : Int) * 2 ≤ exact * 2 :=
      calc (2 : ℚ) ^ (-1001 : Int) * 2 = 2 ^ (-1000 : Int) := split
        _ ≤ number := low
        _ ≤ exact * placeFactor ^ 2 := within.ge
        _ ≤ exact * 2 := mul_le_mul_of_nonneg_left factor positive.le
    exact le_of_mul_le_mul_right twice two_pos
  · calc exact ≤ number * placeFactor ^ 2 := within.le
      _ < productLimit * placeFactor ^ 2 :=
          mul_lt_mul_of_pos_right high (pow_pos placeFactor_pos 2)
      _ = doubleLimit := productLimit_mul

theorem lt_of_mul_zpow_ge {mantissa count : Nat} {exponent least : Int}
    (short : mantissa < 2 ^ count) (bound : (2 : ℚ) ^ least ≤ mantissa * 2 ^ exponent) :
    least < count + exponent := by
  have powers : (2 : ℚ) ^ least < 2 ^ (count + exponent) :=
    calc (2 : ℚ) ^ least ≤ mantissa * 2 ^ exponent := bound
      _ < 2 ^ count * 2 ^ exponent := by
          apply mul_lt_mul_of_pos_right _ (by positivity)
          exact_mod_cast short
      _ = 2 ^ (count + exponent) := by rw [zpow_add₀ two_ne_zero, zpow_natCast]
  exact (zpow_lt_zpow_iff_right₀ one_lt_two).mp powers

section Operations

variable {x y : Float} {first second : ℚ}

theorem Near.mul (one : Near 1 x first) (two : Near 1 y second)
    (low : 2 ^ (-1000 : Int) ≤ first * second) (high : first * second < productLimit) :
    Near 3 (x * y) (first * second) := by
  obtain ⟨xMantissa, xExponent, xNormal, xWithin⟩ := one
  obtain ⟨yMantissa, yExponent, yNormal, yWithin⟩ := two
  have xPositive := xNormal.positive
  have yPositive := yNormal.positive
  have model : (x * y).toModel = Float.Model.mul x.toModel y.toModel := rfl
  have product : (x * y).toModel = Float.Model.pack (roundWithAccuracy .binary64 .positive
      (xMantissa * yMantissa) (xExponent + yExponent) .exact) := by
    rw [model, Float.Model.mul, xNormal.unpack, yNormal.unpack]
    rfl
  have value : (xMantissa * 2 ^ xExponent * (yMantissa * 2 ^ yExponent) : ℚ) =
      (xMantissa * yMantissa : Nat) * 2 ^ (xExponent + yExponent) := by
    rw [mul_mul_mul_comm, ← zpow_add₀ two_ne_zero, Nat.cast_mul]
  have within := xWithin.mul yWithin (by positivity) (by positivity)
  rw [value] at within
  obtain ⟨above, below⟩ := within.exact_bounds low high
  have digits := log2_mul xNormal.above xNormal.below yNormal.above yNormal.below
  obtain ⟨count, digits, few, many⟩ : ∃ count,
      (xMantissa * yMantissa).log2 = 52 + count ∧ 52 ≤ count ∧ count ≤ 53 := by
    rcases digits with shorter | longer
    · exact ⟨52, shorter, by decide, by decide⟩
    · exact ⟨53, longer, by decide, by decide⟩
  have long := lt_of_mul_zpow_ge Nat.lt_log2_self above
  exact (near_round_exact product digits (by omega) below).trans within

/-- The quotient of two mantissas has 53 digits or one more. -/
theorem divCore_eq {first second : Nat} {xExponent yExponent : Int}
    (firstAbove : 2 ^ 52 ≤ first) (firstBelow : first < 2 ^ 53) (secondAbove : 2 ^ 52 ≤ second)
    (secondBelow : second < 2 ^ 53) (least : -1021 ≤ xExponent - yExponent) :
    divCore .binary64 first xExponent second yExponent =
      (first <<< 53 / second, xExponent - yExponent - 53,
        accuracyOfFraction (first <<< 53 % second) second) := by
  have firstDigits : first.log2 = 52 := (Nat.log2_eq_iff (by omega)).mpr ⟨firstAbove, firstBelow⟩
  have secondDigits : second.log2 = 52 :=
    (Nat.log2_eq_iff (by omega)).mpr ⟨secondAbove, secondBelow⟩
  have target : min (xExponent - yExponent) (Format.binary64.targetExponent
      (totalExponent first xExponent - totalExponent second yExponent)) =
        xExponent - yExponent - 53 := by
    simp only [Format.targetExponent, totalExponent, Format.mantissaBits, Format.minExponent,
      firstDigits, secondDigits]
    omega
  have shift : (xExponent - yExponent - (xExponent - yExponent - 53)).toNat = 53 := by omega
  simp only [divCore, target, shift]

theorem log2_div {first second : Nat} (firstAbove : 2 ^ 52 ≤ first) (firstBelow : first < 2 ^ 53)
    (secondAbove : 2 ^ 52 ≤ second) (secondBelow : second < 2 ^ 53) :
    (first <<< 53 / second).log2 = 52 ∨ (first <<< 53 / second).log2 = 53 := by
  have positive : 0 < second := by omega
  rw [Nat.shiftLeft_eq]
  have least : 2 ^ 52 ≤ first * 2 ^ 53 / second := by
    rw [Nat.le_div_iff_mul_le positive]
    omega
  have greatest : first * 2 ^ 53 / second < 2 ^ 54 := by
    rw [Nat.div_lt_iff_lt_mul positive]
    omega
  rw [Nat.log2_eq_iff (by omega), Nat.log2_eq_iff (by omega)]
  omega

theorem quotient_bounds (first : Nat) {second : Nat} (positive : 0 < second)
    (xExponent yExponent : Int) (shift : Nat) :
    ((first <<< shift / second : Nat) : ℚ) * 2 ^ (xExponent - yExponent - shift) ≤
        first * 2 ^ xExponent / (second * 2 ^ yExponent) ∧
      (first * 2 ^ xExponent / (second * 2 ^ yExponent) : ℚ) ≤
        ((first <<< shift / second + 1 : Nat) : ℚ) * 2 ^ (xExponent - yExponent - shift) := by
  have divisor : (0 : ℚ) < second := by exact_mod_cast positive
  have value : (first * 2 ^ xExponent / (second * 2 ^ yExponent) : ℚ) =
      (first <<< shift : Nat) / second * 2 ^ (xExponent - yExponent - shift) := by
    rw [zpow_sub₀ two_ne_zero, zpow_sub₀ two_ne_zero, Nat.shiftLeft_eq, Nat.cast_mul, Nat.cast_pow,
      Nat.cast_ofNat, zpow_natCast]
    field_simp
  have down := Nat.div_mul_le_self (first <<< shift) second
  have up : first <<< shift ≤ (first <<< shift / second + 1) * second :=
    (Nat.lt_mul_of_div_lt (Nat.lt_succ_self _) positive).le
  rw [value]
  constructor
  · apply mul_le_mul_of_nonneg_right _ (by positivity)
    rw [le_div_iff₀ divisor]
    exact_mod_cast down
  · apply mul_le_mul_of_nonneg_right _ (by positivity)
    rw [div_le_iff₀ divisor]
    exact_mod_cast up

theorem Near.div (one : Near 1 x first) (two : Near 1 y second)
    (low : 2 ^ (-1000 : Int) ≤ first / second) (high : first / second < productLimit) :
    Near 3 (x / y) (first / second) := by
  obtain ⟨xMantissa, xExponent, xNormal, xWithin⟩ := one
  obtain ⟨yMantissa, yExponent, yNormal, yWithin⟩ := two
  have xPositive := xNormal.positive
  have yPositive := yNormal.positive
  have within := xWithin.div yWithin (by positivity) (by positivity)
  obtain ⟨above, below⟩ := within.exact_bounds low high
  obtain ⟨down, up⟩ := quotient_bounds xMantissa yPositive xExponent yExponent 53
  have digits := log2_div xNormal.above xNormal.below yNormal.above yNormal.below
  have few : xMantissa <<< 53 / yMantissa + 1 < 2 ^ 55 := by
    have short : xMantissa <<< 53 / yMantissa < 2 ^ 54 := by
      rcases digits with shorter | longer
      · exact Nat.lt_log2_self.trans_le (by rw [shorter]; decide)
      · exact Nat.lt_log2_self.trans_le (by rw [longer])
    omega
  have long := lt_of_mul_zpow_ge few (above.trans up)
  have model : (x / y).toModel = Float.Model.div x.toModel y.toModel := rfl
  have quotient : (x / y).toModel = Float.Model.pack (roundWithAccuracy .binary64 .positive
      (xMantissa <<< 53 / yMantissa) (xExponent - yExponent - 53)
      (accuracyOfFraction (xMantissa <<< 53 % yMantissa) yMantissa)) := by
    rw [model, Float.Model.div, xNormal.unpack, yNormal.unpack]
    simp only [UnpackedFloat.div, divCore_eq xNormal.above xNormal.below yNormal.above
      yNormal.below (show -1021 ≤ xExponent - yExponent by omega)]
    rfl
  obtain ⟨count, digits⟩ : ∃ count, (xMantissa <<< 53 / yMantissa).log2 = 52 + count := by
    rcases digits with shorter | longer
    · exact ⟨0, shorter⟩
    · exact ⟨1, longer⟩
  exact (near_round quotient digits (by omega) down up below).trans within

end Operations

end AcceleratorTrace
