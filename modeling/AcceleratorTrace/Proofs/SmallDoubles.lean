import AcceleratorTrace.Proofs.DoubleRounding

/-!
# Small doubles

Close to zero a double has fewer than 53 digits, and a quotient may come out as zero.  It is
then no longer within one place of the exact quotient, but within the least double of it.
Dividing by a power of ten in steps adds little to that, because every step but the last
makes the errors before it vanish.
-/

namespace AcceleratorTrace

open Float.Model (Format UnpackedFloat totalExponent)
open Float.Model.UnpackedFloat

/-- The least double above zero. -/
def leastDouble : ℚ := 2 ^ (-1074 : Int)

theorem leastDouble_pos : 0 < leastDouble := by
  rw [leastDouble]
  positivity

/-- A finite double without a minus sign, and the number that it is. -/
inductive Amount : UnpackedFloat → ℚ → Prop where
  | zero : Amount (.zero .positive) 0
  | full {mantissa : Nat} {exponent : Int} {positive : 0 < mantissa} (above : 2 ^ 52 ≤ mantissa)
      (below : mantissa < 2 ^ 53) (least : -1074 ≤ exponent) (greatest : exponent ≤ 971) :
      Amount (.finite .positive mantissa exponent positive) (mantissa * 2 ^ exponent)
  | short {mantissa : Nat} {positive : 0 < mantissa} (below : mantissa < 2 ^ 52) :
      Amount (.finite .positive mantissa (-1074) positive) (mantissa * leastDouble)

/-- The double is this number, and it has no minus sign. -/
def Holds (x : Float) (number : ℚ) : Prop := Amount x.toModel.unpack number

section Packing

variable {sign : Sign} {mantissa : Nat} {positive : 0 < mantissa}

theorem pack_short (below : mantissa < 2 ^ 52) :
    UnpackedFloat.pack .binary64 (.finite sign mantissa (-1074) positive) =
      packComponents .binary64 sign 0#11 (BitVec.ofNat 52 mantissa) := by
  have bias : Format.binary64.exponentBias = 1023 := rfl
  have width : Format.binary64.mantissaBits = 53 := rfl
  have digits : mantissa.log2 + 1 ≠ 53 := by
    have few := (Nat.log2_lt positive.ne').mpr below
    omega
  simp only [UnpackedFloat.pack, bias, width, if_neg digits]
  rw [if_neg (by decide)]

theorem unpack_pack_short (below : mantissa < 2 ^ 52) :
    (Float.Model.pack (.finite sign mantissa (-1074) positive)).unpack =
      .finite sign mantissa (-1074) positive := by
  have low : (BitVec.ofNat 52 mantissa).toNat = mantissa := by
    rw [BitVec.toNat_ofNat]
    exact Nat.mod_eq_of_lt below
  have some : BitVec.ofNat 52 mantissa ≠ 0#52 := by
    intro none
    rw [none] at low
    have zeros : (0#52).toNat = 0 := rfl
    omega
  have notAll : (0#11) ≠ -1#11 := by decide
  have bits : (Float.Model.pack (.finite sign mantissa (-1074) positive)).toBits.toBitVec =
      UnpackedFloat.pack .binary64 (.finite sign mantissa (-1074) positive) := rfl
  rw [Float.Model.unpack, bits, pack_short below]
  simp only [UnpackedFloat.unpack, unpackExponent_packComponents, unpackMantissa_packComponents,
    unpackSign_packComponents, if_neg notAll, if_true, dif_neg some, low, Sign.ofBitVec_toBitVec]
  rfl

theorem ofFloat?_short {x : Float} (below : mantissa < 2 ^ 52)
    (packed : x.toModel = Float.Model.pack (.finite sign mantissa (-1074) positive)) :
    Binary64.ofFloat? x = some ⟨sign == .negative, mantissa, -1074⟩ := by
  have bits : x.toModel.toBits.toBitVec =
      packComponents .binary64 sign 0#11 (BitVec.ofNat 52 mantissa) := by
    rw [packed]
    exact @pack_short _ _ positive below
  have biased : Binary64.exponentBits x = 0 := by
    rw [exponentBits_eq, bits, unpackExponent_packComponents]
    rfl
  have fraction : Binary64.fractionBits x = mantissa := by
    have width : 2 ^ Format.binary64.mantissaBitsWithoutImplicit = 2 ^ 52 := rfl
    rw [fractionBits_eq, bits, unpackMantissa_packComponents, BitVec.toNat_ofNat, width]
    exact Nat.mod_eq_of_lt below
  have isNegative : Binary64.signOf x = (sign == .negative) := by
    rw [signOf_eq, bits, unpackSign_packComponents]
    cases sign <;> rfl
  simp only [Binary64.ofFloat?, biased, fraction, isNegative, Binary64.leastExponent]
  rfl

end Packing

theorem toModel_eq_pack_unpack (x : Float) : x.toModel = Float.Model.pack x.toModel.unpack := by
  have bits := pack_unpack_of_valid x.toModel.valid
  cases model : x.toModel with
  | mk bits' valid =>
      rw [model] at bits
      simp only [Float.Model.pack, Float.Model.unpack, Float.Model.mk.injEq]
      exact congrArg UInt64.ofBitVec bits.symm

theorem Amount.unpack_pack {x : UnpackedFloat} {number : ℚ} (amount : Amount x number) :
    (Float.Model.pack x).unpack = x := by
  cases amount with
  | zero => rfl
  | full above below least greatest => exact unpack_pack_finite above below least greatest
  | short below => exact unpack_pack_short below

theorem Amount.nonneg {x : UnpackedFloat} {number : ℚ} (amount : Amount x number) :
    0 ≤ number := by
  have least := leastDouble_pos
  cases amount <;> positivity

namespace Holds

variable {x : Float} {number : ℚ}

theorem cases (holds : Holds x number) :
    x.toModel.unpack = .zero .positive ∧ number = 0 ∨
      ∃ mantissa exponent positive,
        x.toModel.unpack = .finite .positive mantissa exponent positive ∧
          number = mantissa * 2 ^ exponent := by
  rw [Holds] at holds
  generalize x.toModel.unpack = unpacked at holds
  cases holds with
  | zero => exact .inl ⟨rfl, rfl⟩
  | full => exact .inr ⟨_, _, _, rfl, rfl⟩
  | short => exact .inr ⟨_, _, _, rfl, rfl⟩

theorem of_pack {unpacked : UnpackedFloat} (packed : x.toModel = Float.Model.pack unpacked)
    (amount : Amount unpacked number) : Holds x number := by
  rw [Holds, packed, amount.unpack_pack]
  exact amount

theorem of_normal {mantissa : Nat} {exponent : Int}
    (normal : Normal x .positive mantissa exponent) : Holds x (mantissa * 2 ^ exponent) := by
  rw [Holds, normal.unpack]
  exact .full normal.above normal.below normal.least normal.greatest

theorem of_near {places : Nat} (near : Near places x number) :
    ∃ value, Holds x value ∧ Within places value number := by
  obtain ⟨mantissa, exponent, normal, within⟩ := near
  exact ⟨_, of_normal normal, within⟩

theorem ofFloat?_negate (holds : Holds x number) (negative : Bool) :
    ∃ parts, Binary64.ofFloat? (Json.negate negative x) = some parts ∧
      parts.negative = negative ∧ parts.magnitude = number := by
  have packed := toModel_eq_pack_unpack x
  have negated : (-x).toModel = Float.Model.pack x.toModel.unpack.neg := rfl
  rw [Holds] at holds
  generalize unpacked : x.toModel.unpack = parts at holds packed negated
  cases holds with
  | zero =>
      have plus : x = ⟨Float.Model.pack (.zero .positive)⟩ := by
        rw [← packed]
      subst plus
      cases negative with
      | false => exact ⟨⟨false, 0, -1074⟩, rfl, rfl, by simp [Binary64.magnitude]⟩
      | true => exact ⟨⟨true, 0, -1074⟩, rfl, rfl, by simp [Binary64.magnitude]⟩
  | full above below least greatest =>
      have normal := normal_of_pack above below least greatest packed
      cases negative with
      | false => exact ⟨_, normal.ofFloat?, rfl, rfl⟩
      | true => exact ⟨_, normal.neg.ofFloat?, rfl, rfl⟩
  | short below =>
      cases negative with
      | false => exact ⟨_, ofFloat?_short below packed, rfl, rfl⟩
      | true => exact ⟨_, ofFloat?_short below negated, rfl, rfl⟩

end Holds

/-- Rounding to a multiple of the least double, up or down. -/
theorem roundWithAccuracy_small {mantissa shift : Nat} {exponent : Int}
    (low : exponent = -1074 - shift) (few : mantissa < 2 ^ (52 + shift)) (accuracy : Accuracy) :
    ∃ kept : Nat,
      Amount (roundWithAccuracy .binary64 .positive mantissa exponent accuracy)
        (kept * leastDouble) ∧
      mantissa / 2 ^ shift ≤ kept ∧ kept ≤ mantissa / 2 ^ shift + 1 := by
  have short : ∀ {value : Nat}, value ≤ 2 ^ 52 → value.log2 ≤ 52 := by
    intro value least
    by_cases none : value = 0
    · rw [none]
      decide
    · have digits := (Nat.log2_lt none).mpr (show value < 2 ^ 53 by omega)
      omega
  have cutShort : mantissa / 2 ^ shift < 2 ^ 52 := by
    rw [Nat.div_lt_iff_lt_mul (Nat.two_pow_pos _), ← Nat.pow_add]
    exact few
  have digits : mantissa.log2 < 52 + shift := by
    by_cases none : mantissa = 0
    · rw [none, Nat.log2_zero]
      omega
    · exact (Nat.log2_lt none).mpr few
  have target : Format.binary64.targetExponent (totalExponent mantissa exponent) =
      exponent + shift := by
    simp only [Format.targetExponent, totalExponent, Format.mantissaBits, Format.minExponent]
    omega
  obtain ⟨cut, cutExponent⟩ := shiftToTargetExponent_of_target target accuracy
  have bounds := roundedMantissa_bounds
    (shiftToTargetExponent .binary64 mantissa exponent accuracy).1
  rw [cut] at bounds
  simp only [roundWithAccuracy, cutExponent]
  generalize (shiftToTargetExponent .binary64 mantissa exponent accuracy).1.roundedMantissa =
    rounded at bounds ⊢
  have stays : Format.binary64.targetExponent (totalExponent rounded (exponent + shift)) =
      exponent + shift + (0 : Nat) := by
    have few := short (show rounded ≤ 2 ^ 52 by omega)
    simp only [Format.targetExponent, totalExponent, Format.mantissaBits, Format.minExponent]
    omega
  obtain ⟨same, sameExponent⟩ := shiftToTargetExponent_of_target stays .exact
  have least : exponent + shift + (0 : Nat) = -1074 := by omega
  rw [pow_zero, Nat.div_one] at same
  rw [least] at sameExponent
  refine ⟨rounded, ?_, bounds⟩
  simp only [same, sameExponent]
  by_cases none : rounded = 0
  · rw [dif_pos none, none, Nat.cast_zero, zero_mul]
    exact .zero
  · rw [dif_neg none]
    by_cases full : 2 ^ 52 ≤ rounded
    · exact .full full (by omega) le_rfl (by decide)
    · exact .short (by omega)

/-- The result of rounding is the exact result but for one place or the least double. -/
theorem holds_round {x : Float} {mantissa : Nat} {exponent : Int} {accuracy : Accuracy}
    {number : ℚ}
    (rounded : x.toModel = Float.Model.pack
      (roundWithAccuracy .binary64 .positive mantissa exponent accuracy))
    (enough : 52 ≤ mantissa.log2 ∨ exponent ≤ -1074)
    (low : mantissa * 2 ^ exponent ≤ number) (high : number ≤ (mantissa + 1 : Nat) * 2 ^ exponent)
    (below : number < doubleLimit) :
    ∃ value, Holds x value ∧ |value - number| ≤ number / 2 ^ 51 + leastDouble := by
  have least := leastDouble_pos
  have nonneg : 0 ≤ number :=
    (mul_nonneg (Nat.cast_nonneg _) (zpow_nonneg zero_le_two _)).trans low
  by_cases full : -1022 ≤ (mantissa.log2 : Int) + exponent
  · have digits : mantissa.log2 = 52 + (mantissa.log2 - 52) := by omega
    obtain ⟨kept, power, normal, within⟩ := near_round rounded digits (by omega) low high below
    have positive := normal.positive
    refine ⟨_, .of_normal normal, ?_⟩
    have factor : placeFactor ^ 1 ≤ 1 + 1 / 2 ^ 51 := by
      rw [placeFactor]
      norm_num
    have error := within.abs_sub_le (by positivity) factor
    rw [mul_one_div] at error
    linarith
  · obtain ⟨shift, isShift⟩ : ∃ shift : Nat, exponent = -1074 - shift :=
      ⟨(-1074 - exponent).toNat, by omega⟩
    have few : mantissa < 2 ^ (52 + shift) :=
      Nat.lt_log2_self.trans_le (Nat.pow_le_pow_right (by decide) (by omega))
    obtain ⟨kept, amount, down, up⟩ := roundWithAccuracy_small isShift few accuracy
    refine ⟨_, .of_pack rounded amount, ?_⟩
    have scaled : ∀ count : Nat,
        (count : ℚ) * leastDouble = (count * 2 ^ shift : Nat) * 2 ^ exponent := by
      intro count
      rw [← mul_zpow_add, leastDouble]
      congr 2
      omega
    have power : (0 : ℚ) < 2 ^ exponent := by positivity
    have cutLow : ((mantissa / 2 ^ shift : Nat) : ℚ) * leastDouble ≤ number := by
      rw [scaled]
      refine (mul_le_mul_of_nonneg_right ?_ power.le).trans low
      exact_mod_cast Nat.div_mul_le_self _ _
    have cutHigh : number ≤ ((mantissa / 2 ^ shift + 1 : Nat) : ℚ) * leastDouble := by
      rw [scaled]
      refine high.trans (mul_le_mul_of_nonneg_right ?_ power.le)
      exact_mod_cast Nat.lt_mul_of_div_lt (Nat.lt_succ_self _) (Nat.two_pow_pos _)
    have keptLow : ((mantissa / 2 ^ shift : Nat) : ℚ) * leastDouble ≤ kept * leastDouble :=
      mul_le_mul_of_nonneg_right (by exact_mod_cast down) least.le
    have keptHigh :
        (kept : ℚ) * leastDouble ≤ ((mantissa / 2 ^ shift + 1 : Nat) : ℚ) * leastDouble :=
      mul_le_mul_of_nonneg_right (by exact_mod_cast up) least.le
    have place : 0 ≤ number / 2 ^ 51 := by positivity
    rw [Nat.cast_succ] at cutHigh keptHigh
    rw [abs_le]
    constructor <;> linarith

/-- A quotient is cut so late that 53 digits are left, unless it is small. -/
theorem enough_digits {first second shift : Nat} {target : Int} (firstPositive : 0 < first)
    (secondPositive : 0 < second)
    (cut : target ≤ max (target + shift + first.log2 - second.log2 - 53) (-1074)) :
    52 ≤ (first <<< shift / second).log2 ∨ target ≤ -1074 := by
  by_cases small : target ≤ -1074
  · exact .inr small
  · left
    have long : 53 + second.log2 ≤ first.log2 + shift := by omega
    have above : 2 ^ (53 + second.log2) ≤ first <<< shift := by
      rw [Nat.shiftLeft_eq]
      calc 2 ^ (53 + second.log2) ≤ 2 ^ (first.log2 + shift) :=
            Nat.pow_le_pow_right (by decide) long
        _ = 2 ^ first.log2 * 2 ^ shift := Nat.pow_add ..
        _ ≤ first * 2 ^ shift := Nat.mul_le_mul_right _ (Nat.log2_self_le firstPositive.ne')
    have quotient : 2 ^ 52 ≤ first <<< shift / second := by
      rw [Nat.le_div_iff_mul_le secondPositive]
      calc 2 ^ 52 * second ≤ 2 ^ 52 * 2 ^ (second.log2 + 1) :=
            Nat.mul_le_mul_left _ Nat.lt_log2_self.le
        _ = 2 ^ (53 + second.log2) := by
            rw [← Nat.pow_add]
            congr 1
            omega
        _ ≤ first <<< shift := above
    rw [Nat.le_log2 (by omega)]
    exact quotient

section Division

variable {x y : Float} {number : ℚ} {mantissa : Nat} {exponent : Int}

theorem Holds.unpack_zero (holds : Holds x 0) : x.toModel.unpack = .zero .positive := by
  rcases holds.cases with ⟨zero, -⟩ | ⟨first, power, positive, -, same⟩
  · exact zero
  · exact absurd same (by positivity)

theorem Holds.zero_div (holds : Holds x 0) (normal : Normal y .positive mantissa exponent) :
    Holds (x / y) 0 := by
  have model : (x / y).toModel = Float.Model.div x.toModel y.toModel := rfl
  apply of_pack _ .zero
  rw [model, Float.Model.div, holds.unpack_zero, normal.unpack]
  rfl

theorem Holds.zero_mul (holds : Holds x 0) (normal : Normal y .positive mantissa exponent) :
    Holds (x * y) 0 := by
  have model : (x * y).toModel = Float.Model.mul x.toModel y.toModel := rfl
  apply of_pack _ .zero
  rw [model, Float.Model.mul, holds.unpack_zero, normal.unpack]
  rfl

theorem Holds.div (holds : Holds x number) (normal : Normal y .positive mantissa exponent)
    (below : number / (mantissa * 2 ^ exponent) < doubleLimit) :
    ∃ value, Holds (x / y) value ∧
      |value - number / (mantissa * 2 ^ exponent)| ≤
        number / (mantissa * 2 ^ exponent) / 2 ^ 51 + leastDouble := by
  have positive := normal.positive
  rcases holds.cases with ⟨-, rfl⟩ | ⟨first, power, firstPositive, unpack, rfl⟩
  · exact ⟨0, holds.zero_div normal, by simpa using leastDouble_pos.le⟩
  · have model : (x / y).toModel = Float.Model.div x.toModel y.toModel := rfl
    obtain ⟨target, isTarget⟩ : ∃ target, min (power - exponent)
        (Format.binary64.targetExponent
          (totalExponent first power - totalExponent mantissa exponent)) = target := ⟨_, rfl⟩
    obtain ⟨shift, isShift⟩ : ∃ shift : Nat, target = power - exponent - shift :=
      ⟨(power - exponent - target).toNat, by omega⟩
    have shifted : (power - exponent - target).toNat = shift := by omega
    have quotient : (x / y).toModel = Float.Model.pack (roundWithAccuracy .binary64 .positive
        (first <<< shift / mantissa) target
        (accuracyOfFraction (first <<< shift % mantissa) mantissa)) := by
      rw [model, Float.Model.div, unpack, normal.unpack]
      simp only [UnpackedFloat.div, divCore, isTarget, shifted]
      rfl
    have cut : target ≤ max (target + shift + first.log2 - mantissa.log2 - 53) (-1074) := by
      simp only [Format.targetExponent, totalExponent, Format.mantissaBits,
        Format.minExponent] at isTarget
      omega
    obtain ⟨down, up⟩ := quotient_bounds first positive power exponent shift
    rw [← isShift] at down up
    exact holds_round quotient (enough_digits firstPositive positive cut) down up below

end Division

section Powers

variable {x : Float} {number : ℚ}

theorem Holds.nonneg (holds : Holds x number) : 0 ≤ number := Amount.nonneg holds

theorem Holds.eq_zero_of_beq (holds : Holds x number) (zero : (x == 0.0) = true) : number = 0 := by
  have none : (0.0 : Float).toModel.unpack = .zero .positive := rfl
  rcases holds.cases with ⟨-, isZero⟩ | ⟨mantissa, exponent, positive, unpack, -⟩
  · exact isZero
  · have compared : (x == 0.0) =
        (x.toModel.unpack.compare (0.0 : Float).toModel.unpack == some .eq) := rfl
    rw [compared, none, unpack] at zero
    exact absurd zero Bool.false_ne_true

theorem Holds.div_powerOfTen (holds : Holds x number) (small : number ≤ 2 ^ 65) {places : Nat}
    (reach : places ≤ 308) :
    ∃ value, Holds (x / Json.powerOfTen places) value ∧
      |value - number / 10 ^ places| ≤ number / 10 ^ places / 2 ^ 50 + leastDouble := by
  have nonneg := holds.nonneg
  obtain ⟨mantissa, exponent, normal, within⟩ := near_powerOfTen reach
  have positive := normal.positive
  have quotients : Within 1 (number / (mantissa * 2 ^ exponent)) (number / 10 ^ places) := by
    rw [Nat.cast_pow, Nat.cast_ofNat] at within
    rw [div_eq_inv_mul, div_eq_inv_mul]
    exact (within.inv (by positivity)).mul_right nonneg
  have factor : placeFactor ^ 1 ≤ 1 + 3 / 2 ^ 53 := by
    rw [placeFactor]
    norm_num
  have nearly := quotients.abs_sub_le (by positivity) factor
  have below : number / (mantissa * 2 ^ exponent) < doubleLimit := by
    have whole : (2 : ℚ) ^ 66 < doubleLimit := by
      have digits : 2 ^ 66 < doubleLimit := by decide +kernel
      exact_mod_cast digits
    have quotient : number / 10 ^ places ≤ number := div_le_self nonneg (one_le_pow₀ (by norm_num))
    rw [abs_le] at nearly
    linarith
  obtain ⟨value, isValue, error⟩ := holds.div normal below
  refine ⟨value, isValue, ?_⟩
  have exact : 0 ≤ number / 10 ^ places := by positivity
  generalize number / (mantissa * 2 ^ exponent) = quotient at nearly error
  generalize number / 10 ^ places = wanted at nearly exact ⊢
  rw [abs_le] at nearly error ⊢
  constructor <;> linarith

end Powers

namespace Json

variable {x : Float} {number : ℚ}

theorem divideByPower_zero (holds : Holds x 0) (places : Nat) :
    Holds (divideByPower x places) 0 := by
  induction places using Nat.strong_induction_on generalizing x with
  | _ places induction =>
      have greatest : greatestPower = 308 := rfl
      rw [divideByPower]
      split
      · next reach =>
          obtain ⟨mantissa, exponent, normal, -⟩ := near_powerOfTen reach
          exact holds.zero_div normal
      · split
        · exact holds
        · obtain ⟨mantissa, exponent, normal, -⟩ :=
            near_powerOfTen (show greatestPower ≤ 308 from le_rfl)
          exact induction _ (by omega) (holds.zero_div normal)

theorem leastDouble_le_one : leastDouble ≤ 1 := zpow_le_one_of_nonpos₀ one_le_two (by decide)

/-- What is hardly more than the least double stays so small. -/
theorem divideByPower_least (holds : Holds x number) (small : number ≤ 2 * leastDouble)
    {places : Nat} (some : 0 < places) :
    ∃ value, Holds (divideByPower x places) value ∧ value ≤ 2 * leastDouble := by
  have least := leastDouble_pos
  have one := leastDouble_le_one
  -- One division makes a tenth of the number and adds the least double at most.
  have step : ∀ {x : Float} {number : ℚ} {places : Nat}, Holds x number →
      number ≤ 2 * leastDouble → 0 < places → places ≤ 308 →
      ∃ value, Holds (x / powerOfTen places) value ∧ value ≤ 2 * leastDouble := by
    intro x number places holds small some reach
    have nonneg := holds.nonneg
    obtain ⟨value, isValue, error⟩ := holds.div_powerOfTen (by linarith) reach
    refine ⟨value, isValue, ?_⟩
    have tenth : number / 10 ^ places ≤ number / 10 := by
      apply div_le_div_of_nonneg_left nonneg (by norm_num)
      exact le_self_pow₀ (by norm_num) some.ne'
    generalize number / 10 ^ places = quotient at error tenth
    rw [abs_le] at error
    linarith
  induction places using Nat.strong_induction_on generalizing x number with
  | _ places induction =>
      have greatest : greatestPower = 308 := rfl
      rw [divideByPower]
      split
      · next reach => exact step holds small some reach
      · split
        · exact ⟨number, holds, small⟩
        · obtain ⟨value, isValue, still⟩ :=
            step holds small (by decide) (show greatestPower ≤ 308 from le_rfl)
          exact induction _ (by omega) isValue still (by omega)

/-- A small number divided by more than one double is almost nothing. -/
theorem divideByPower_small (holds : Holds x number) (small : number ≤ 1 / 10 ^ 18)
    {places : Nat} (some : 0 < places) :
    ∃ value, Holds (divideByPower x places) value ∧
      |value - number / 10 ^ places| ≤ number / 10 ^ places / 2 ^ 50 + 2 * leastDouble := by
  have least := leastDouble_pos
  have nonneg := holds.nonneg
  have greatest : greatestPower = 308 := rfl
  have bound : number ≤ 2 ^ 65 := small.trans (by norm_num)
  rw [divideByPower]
  split
  · next reach =>
      obtain ⟨value, isValue, error⟩ := holds.div_powerOfTen bound reach
      exact ⟨value, isValue, by linarith⟩
  · next far =>
      split
      · next zero =>
          obtain rfl := holds.eq_zero_of_beq zero
          exact ⟨0, holds, by simpa using least.le⟩
      · have little : number / 10 ^ 308 ≤ leastDouble / 10 := by
          have powers : (1 : ℚ) / 10 ^ 18 / 10 ^ 308 ≤ leastDouble / 10 := by
            have whole : 2 ^ 1074 * 10 ≤ 10 ^ 326 := by decide +kernel
            have cast : (2 : ℚ) ^ 1074 * 10 ≤ 10 ^ 326 := by exact_mod_cast whole
            rw [div_div, ← pow_add, leastDouble, zpow_neg, one_div, div_eq_mul_inv, ← mul_inv]
            exact inv_anti₀ (by positivity) cast
          exact (div_le_div_of_nonneg_right small (by positivity)).trans powers
        have less : number / 10 ^ places ≤ number / 10 ^ 308 := by
          apply div_le_div_of_nonneg_left nonneg (by positivity)
          exact pow_le_pow_right₀ (by norm_num) (by omega)
        have rest : 0 ≤ number / 10 ^ places := by positivity
        obtain ⟨first, isFirst, error⟩ := holds.div_powerOfTen bound greatest.le
        rw [greatest, abs_le] at error
        generalize number / 10 ^ 308 = part at little less error
        obtain ⟨value, isValue, still⟩ :=
          divideByPower_least isFirst (by linarith) (show 0 < places - greatestPower by omega)
        refine ⟨value, isValue, ?_⟩
        have valueNonneg := isValue.nonneg
        rw [abs_le]
        constructor <;> linarith

theorem abs_div_sub_div_le {value wanted divisor : ℚ} (one : 1 ≤ divisor)
    (error : |value - wanted| ≤ wanted / 2 ^ 50 + leastDouble) :
    |value / divisor - wanted / divisor| ≤ wanted / divisor / 2 ^ 50 + leastDouble := by
  have positive : 0 < divisor := one_pos.trans_le one
  have more : leastDouble ≤ leastDouble * divisor := le_mul_of_one_le_right leastDouble_pos.le one
  have scaled : wanted / divisor / 2 ^ 50 * divisor = wanted / 2 ^ 50 := by field_simp
  rw [← sub_div, abs_div, abs_of_pos positive, div_le_iff₀ positive, add_mul, scaled]
  linarith

/-- A quotient by any power of ten is the exact one but for a few places and a few times the
least double. -/
theorem divideByPower_error (holds : Holds x number) (bound : number ≤ 2 ^ 65) (places : Nat) :
    ∃ value, Holds (divideByPower x places) value ∧
      |value - number / 10 ^ places| ≤ number / 10 ^ places / 2 ^ 48 + 4 * leastDouble := by
  have least := leastDouble_pos
  have nonneg := holds.nonneg
  have greatest : greatestPower = 308 := rfl
  have rest : 0 ≤ number / 10 ^ places := by positivity
  by_cases reach : places ≤ greatestPower
  · obtain ⟨value, isValue, error⟩ := holds.div_powerOfTen bound reach
    rw [divideByPower, if_pos reach]
    exact ⟨value, isValue, by linarith⟩
  by_cases zero : (x == 0.0) = true
  · obtain rfl := holds.eq_zero_of_beq zero
    exact ⟨0, divideByPower_zero holds places, by simpa using least.le⟩
  obtain ⟨first, isFirst, firstError⟩ := holds.div_powerOfTen bound greatest.le
  have firstSmall : first ≤ 1 / 10 ^ 18 := by
    have part : number / 10 ^ greatestPower ≤ 1 / 10 ^ 20 := by
      have whole : 2 ^ 65 * 10 ^ 20 ≤ 10 ^ greatestPower := by decide +kernel
      have cast : (2 : ℚ) ^ 65 * 10 ^ 20 ≤ 10 ^ greatestPower := by exact_mod_cast whole
      rw [div_le_div_iff₀ (by positivity) (by positivity), one_mul]
      exact (mul_le_mul_of_nonneg_right bound (by positivity)).trans cast
    have tiny : leastDouble ≤ 1 / 10 ^ 20 := by
      have whole : 10 ^ 20 ≤ 2 ^ 1074 := by decide +kernel
      have cast : (10 : ℚ) ^ 20 ≤ 2 ^ 1074 := by exact_mod_cast whole
      rw [leastDouble, zpow_neg, one_div]
      exact inv_anti₀ (by positivity) cast
    have sum : (1 / 10 ^ 20 : ℚ) + 1 / 10 ^ 20 / 2 ^ 50 + 1 / 10 ^ 20 ≤ 1 / 10 ^ 18 := by norm_num
    rw [abs_le] at firstError
    linarith
  obtain ⟨value, isValue, error⟩ :=
    divideByPower_small isFirst firstSmall (show 0 < places - greatestPower by omega)
  have carried := abs_div_sub_div_le
    (show (1 : ℚ) ≤ 10 ^ (places - greatestPower) from one_le_pow₀ (by norm_num)) firstError
  rw [div_div, ← pow_add, Nat.add_sub_cancel' (Nat.le_of_not_le reach)] at carried
  rw [divideByPower, if_neg reach, if_neg zero]
  refine ⟨value, isValue, ?_⟩
  generalize number / 10 ^ places = wanted at carried rest ⊢
  generalize first / 10 ^ (places - greatestPower) = quotient at carried error
  rw [abs_le] at carried error ⊢
  constructor <;> linarith

end Json

end AcceleratorTrace
