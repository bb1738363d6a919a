import AcceleratorTrace.Proofs.JsonNumbers
import AcceleratorTrace.Proofs.SmallDoubles

/-!
# Doubles of JSON numbers

A number that is no integer goes through the product or the quotient of two doubles: its
first digits and one power of ten.  The result is finite, has the sign of the number and is
within a few places of it, or within a few times the least double if the number is that
small.  A product beyond all doubles is refused, and as both factors are rounded this happens
a little before the number itself is too large.  Every number below `2 ^ 1024 - 2 ^ 974` is
safe from it; the greatest double is `2 ^ 1024 - 2 ^ 971`.
-/

namespace AcceleratorTrace

namespace Json

theorem holds_toFloat_zero : Holds (UInt64.ofNat 0).toFloat 0 := .of_pack rfl .zero

theorem exists_toFloat_holds {value : Nat} (fits : value < UInt64.size) :
    ∃ amount, Holds (UInt64.ofNat value).toFloat amount ∧ (value = 0 → amount = 0) ∧
      Within 1 amount value := by
  by_cases zero : value = 0
  · subst zero
    refine ⟨0, holds_toFloat_zero, fun _ => rfl, ?_⟩
    rw [Nat.cast_zero]
    exact .refl le_rfl 1
  · obtain ⟨amount, holds, within⟩ :=
      Holds.of_near (near_toFloat (Nat.pos_of_ne_zero zero) fits)
    exact ⟨amount, holds, fun none => absurd none zero, within⟩

theorem scale_up {value : Nat} {exponent : Int} {amount : ℚ} (upward : 0 ≤ exponent)
    (reach : exponent ≤ 308)
    (holds : Holds ((UInt64.ofNat value).toFloat * powerOfTen exponent.natAbs) amount) :
    scale value exponent = .ok ((UInt64.ofNat value).toFloat * powerOfTen exponent.natAbs) := by
  have small : exponent.natAbs ≤ greatestPower := by
    show exponent.natAbs ≤ 308
    omega
  obtain ⟨parts, finite, -⟩ := holds.ofFloat?_negate false
  rw [negate, if_neg Bool.false_ne_true] at finite
  simp only [scale]
  rw [if_neg (by omega), if_pos small, finite, Option.isNone_some, if_neg Bool.false_ne_true]

theorem power_lt_of_lt {value power : Nat} (positive : 0 < value)
    (below : value * 10 ^ power < productLimit) : power < 309 := by
  by_contra large
  have reached : productLimit < value * 10 ^ power :=
    calc productLimit < 10 ^ 309 := by decide +kernel
      _ ≤ 10 ^ power := Nat.pow_le_pow_right (by decide) (Nat.le_of_not_lt large)
      _ ≤ value * 10 ^ power := Nat.le_mul_of_pos_left _ positive
  exact absurd below reached.not_gt

section Scaling

variable {value : Nat} {exponent : Int} (positive : 0 < value) (fits : value < UInt64.size)
include positive fits

theorem scale_up_near (upward : 0 ≤ exponent)
    (below : value * 10 ^ exponent.toNat < productLimit) :
    ∃ double, scale value exponent = .ok double ∧ Near 3 double (value * 10 ^ exponent) := by
  have short := power_lt_of_lt positive below
  have power : (10 : ℚ) ^ exponent = (10 ^ exponent.natAbs : Nat) := by
    rw [Nat.cast_pow, Nat.cast_ofNat, ← zpow_natCast, Int.natAbs_of_nonneg upward]
  have same : exponent.toNat = exponent.natAbs := by omega
  rw [same] at below
  have least : (2 : ℚ) ^ (-1000 : Int) ≤ value * (10 ^ exponent.natAbs : Nat) := by
    have whole : (1 : ℚ) ≤ value * (10 ^ exponent.natAbs : Nat) := by
      exact_mod_cast Nat.mul_pos positive (Nat.pow_pos (by decide))
    exact (zpow_le_one_of_nonpos₀ one_le_two (by decide)).trans whole
  have near := (near_toFloat positive fits).mul (near_powerOfTen (by omega)) least
    (by exact_mod_cast below)
  obtain ⟨amount, holds, -⟩ := Holds.of_near near
  rw [power]
  exact ⟨_, scale_up upward (by omega) holds, near⟩

theorem scale_down_near (downward : exponent < 0) (reach : -308 ≤ exponent)
    (least : (2 : ℚ) ^ (-1000 : Int) ≤ value * 10 ^ exponent) :
    ∃ double, scale value exponent = .ok double ∧ Near 3 double (value * 10 ^ exponent) := by
  have power : (value : ℚ) * 10 ^ exponent = value / (10 ^ exponent.natAbs : Nat) := by
    have inverse : exponent = -(exponent.natAbs : Int) := by omega
    rw [Nat.cast_pow, Nat.cast_ofNat, div_eq_mul_inv, ← zpow_natCast, ← zpow_neg, ← inverse]
  have small : exponent.natAbs ≤ greatestPower := by
    show exponent.natAbs ≤ 308
    omega
  rw [power] at least ⊢
  have below : (value : ℚ) / (10 ^ exponent.natAbs : Nat) < productLimit :=
    calc (value : ℚ) / (10 ^ exponent.natAbs : Nat) ≤ value :=
          div_le_self (Nat.cast_nonneg _) (by exact_mod_cast Nat.one_le_pow _ _ (by decide))
      _ < productLimit := by
          rw [Nat.cast_lt]
          exact fits.trans (by decide +kernel)
  have near := (near_toFloat positive fits).div (near_powerOfTen small) least below
  refine ⟨_, ?_, near⟩
  rw [scale, if_pos downward, divideByPower, if_pos small]

end Scaling

theorem exists_scale_zero (exponent : Int) :
    ∃ double, scale 0 exponent = .ok double ∧ Holds double 0 := by
  by_cases downward : exponent < 0
  · exact ⟨_, if_pos downward, divideByPower_zero holds_toFloat_zero _⟩
  by_cases reach : exponent ≤ 308
  · obtain ⟨mantissa, power, normal, -⟩ := near_powerOfTen (show exponent.natAbs ≤ 308 by omega)
    have holds := holds_toFloat_zero.zero_mul normal
    exact ⟨_, scale_up (by omega) reach holds, holds⟩
  · have large : ¬ exponent.natAbs ≤ greatestPower := by
      show ¬ exponent.natAbs ≤ 308
      omega
    refine ⟨_, ?_, holds_toFloat_zero⟩
    simp only [scale]
    rw [if_neg downward, if_neg large, if_pos trivial]

theorem exists_scale_holds {value : Nat} {exponent : Int} (fits : value < UInt64.size)
    (below : value * 10 ^ exponent.toNat < productLimit) :
    ∃ double amount, scale value exponent = .ok double ∧ Holds double amount ∧
      (value = 0 → amount = 0) ∧
      |amount - value * 10 ^ exponent| ≤ value * 10 ^ exponent / 2 ^ 47 + 4 * leastDouble := by
  have least := leastDouble_pos
  by_cases zero : value = 0
  · subst zero
    obtain ⟨double, scaled, holds⟩ := exists_scale_zero exponent
    exact ⟨double, 0, scaled, holds, fun _ => rfl, by simpa using least.le⟩
  have positive := Nat.pos_of_ne_zero zero
  have wanted : 0 < (value : ℚ) * 10 ^ exponent :=
    mul_pos (Nat.cast_pos.mpr positive) (zpow_pos (by norm_num) _)
  by_cases downward : exponent < 0
  · obtain ⟨whole, holds, within⟩ := Holds.of_near (near_toFloat positive fits)
    have factor : placeFactor ^ 1 ≤ 1 + 3 / 2 ^ 53 := by
      rw [placeFactor]
      norm_num
    have bound : whole ≤ 2 ^ 65 := by
      have most : (value : ℚ) ≤ 2 ^ 64 := by exact_mod_cast fits.le
      have near := within.abs_sub_le holds.nonneg factor
      rw [abs_le] at near
      linarith
    obtain ⟨amount, quotient, error⟩ := divideByPower_error holds bound exponent.natAbs
    refine ⟨_, amount, if_pos downward, quotient, fun none => absurd none zero, ?_⟩
    have power : ∀ number : ℚ, number / 10 ^ exponent.natAbs = number * 10 ^ exponent := by
      intro number
      have inverse : exponent = -(exponent.natAbs : Int) := by omega
      rw [div_eq_mul_inv, ← zpow_natCast, ← zpow_neg, ← inverse]
    rw [power] at error
    have near := (within.mul_right (show (0 : ℚ) ≤ 10 ^ exponent by positivity)).abs_sub_le
      (mul_nonneg holds.nonneg (by positivity)) factor
    generalize (value : ℚ) * 10 ^ exponent = exact at near wanted ⊢
    generalize whole * 10 ^ exponent = rounded at near error
    rw [abs_le] at near error ⊢
    constructor <;> linarith
  · obtain ⟨double, scaled, near⟩ := scale_up_near positive fits (by omega) below
    obtain ⟨amount, holds, within⟩ := Holds.of_near near
    refine ⟨double, amount, scaled, holds, fun none => absurd none zero, ?_⟩
    have factor : placeFactor ^ 3 ≤ 1 + 1 / 2 ^ 47 := by
      rw [placeFactor]
      norm_num
    have error := within.abs_sub_le holds.nonneg factor
    rw [mul_one_div] at error
    linarith

theorem digitsValue_append_digits (front back : List Char) :
    digitsValue (front ++ back) = digitsValue front * 10 ^ back.length + digitsValue back := by
  induction back using List.reverseRecOn with
  | nil => simp [digitsValue]
  | append_singleton back last induction =>
      rw [← List.append_assoc, digitsValue_append, digitsValue_append, induction,
        List.length_append, List.length_singleton, Nat.pow_succ]
      ring

theorem digitsValue_lt {chars : List Char} (all : ∀ char ∈ chars, char.isDigit = true) :
    digitsValue chars < 10 ^ chars.length := by
  induction chars using List.reverseRecOn with
  | nil => decide
  | append_singleton front last induction =>
      have digit := (exists_digitChar (all last (by simp))).1
      have before := induction fun char member => all char (by simp [member])
      rw [digitsValue_append, List.length_append, List.length_singleton, Nat.pow_succ]
      omega

/-- The significand holds the first of these digits, all of them or many. -/
structure Significand.Keeps (kept : Significand) (chars : List Char) : Prop where
  low : kept.value * 10 ^ kept.dropped ≤ digitsValue chars
  high : digitsValue chars < (kept.value + 1) * 10 ^ kept.dropped
  fits : kept.value < UInt64.size
  many : kept.dropped ≠ 0 → 2 ^ 52 ≤ kept.value
  short : kept.dropped ≤ chars.length

theorem Significand.Keeps.push {kept : Significand} {chars : List Char} (keeps : kept.Keeps chars)
    {char : Char} (isDigit : char.isDigit = true) : (kept.push char).Keeps (chars ++ [char]) := by
  have size : UInt64.size = 2 ^ 64 := rfl
  have digit := (exists_digitChar isDigit).1
  obtain ⟨low, high, fits, many, short⟩ := keeps
  rw [Significand.push]
  split
  · next small =>
      obtain ⟨none, small⟩ := small
      rw [none, pow_zero, Nat.mul_one] at low high
      refine ⟨?_, ?_, small, fun dropped => absurd none dropped, ?_⟩
      · simp only [none, pow_zero, digitsValue_append]
        omega
      · simp only [none, pow_zero, digitsValue_append]
        omega
      · simp only [none]
        omega
  · next large =>
      have longer : ∀ value,
          value * 10 ^ (kept.dropped + 1) = 10 * (value * 10 ^ kept.dropped) := by
        intro value
        rw [Nat.pow_succ]
        ring
      refine ⟨?_, ?_, fits, fun _ => ?_, ?_⟩
      · simp only [digitsValue_append, longer]
        omega
      · simp only [digitsValue_append, longer]
        omega
      · show 2 ^ 52 ≤ kept.value
        by_cases none : kept.dropped = 0
        · have beyond : ¬ kept.value * 10 + digitValue char < UInt64.size :=
            fun small => large ⟨none, small⟩
          omega
        · exact many none
      · rw [List.length_append]
        exact Nat.succ_le_succ short

theorem keeps_digits {chars : List Char} (all : ∀ char ∈ chars, char.isDigit = true) :
    (chars.foldl Significand.push ⟨0, 0⟩).Keeps chars := by
  induction chars using List.reverseRecOn with
  | nil => exact ⟨by decide, by decide, by decide, fun dropped => absurd rfl dropped, le_rfl⟩
  | append_singleton front last induction =>
      rw [List.foldl_append]
      exact (induction fun char member => all char (by simp [member])).push (all last (by simp))

/-- Of a fraction some first digits are kept, all of them or many. -/
theorem pushFraction_eq {value : Nat} (fits : value < UInt64.size) (places : Nat)
    {chars : List Char} (all : ∀ char ∈ chars, char.isDigit = true) :
    ∃ front back, chars = front ++ back ∧
      pushFraction value places chars =
        (value * 10 ^ front.length + digitsValue front, places + front.length) ∧
      value * 10 ^ front.length + digitsValue front < UInt64.size ∧
      (back ≠ [] → 2 ^ 52 ≤ value * 10 ^ front.length + digitsValue front) := by
  induction chars generalizing value places with
  | nil =>
      exact ⟨[], [], rfl, by simp [pushFraction, digitsValue], by simpa [digitsValue] using fits,
        fun some => absurd rfl some⟩
  | cons char chars induction =>
      rw [List.forall_mem_cons] at all
      rw [pushFraction]
      split
      · next small =>
          obtain ⟨front, back, rfl, pushed, bound, many⟩ := induction small (places + 1) all.2
          have longer : value * 10 ^ (char :: front).length + digitsValue (char :: front) =
              (value * 10 + digitValue char) * 10 ^ front.length + digitsValue front := by
            have alone : digitsValue [char] = digitValue char := by simp [digitsValue]
            rw [← List.singleton_append, digitsValue_append_digits, alone, List.length_append,
              List.length_singleton, Nat.pow_add]
            ring
          refine ⟨char :: front, back, rfl, ?_, ?_, ?_⟩
          · rw [pushed, longer, List.length_cons]
            congr 1
            omega
          · rw [longer]
            exact bound
          · rw [longer]
            exact many
      · next large =>
          have size : UInt64.size = 2 ^ 64 := rfl
          have digit := (exists_digitChar all.1).1
          refine ⟨[], char :: chars, rfl, by simp [digitsValue], by simpa [digitsValue] using fits,
            fun _ => ?_⟩
          have value : value * 10 ^ ([] : List Char).length + digitsValue [] = value := by
            simp [digitsValue]
          omega

/-- A whole number of powers with many digits in front is almost all of the next. -/
theorem mul_le_of_lt_succ {number kept power : Nat} (many : 2 ^ 52 ≤ kept)
    (high : number < (kept + 1) * power) : number * (2 ^ 52 - 1) ≤ kept * power * 2 ^ 52 := by
  have factor : (kept + 1) * (2 ^ 52 - 1) ≤ kept * 2 ^ 52 := by omega
  calc number * (2 ^ 52 - 1) ≤ (kept + 1) * power * (2 ^ 52 - 1) := Nat.mul_le_mul_right _ high.le
    _ = (kept + 1) * (2 ^ 52 - 1) * power := Nat.mul_right_comm ..
    _ ≤ kept * 2 ^ 52 * power := Nat.mul_le_mul_right _ factor
    _ = kept * power * 2 ^ 52 := Nat.mul_right_comm ..

section Splitting

variable {value dropped whole digits length more last : Nat}

/-- Digits appended to a whole part that does not fit stand too high, but they count little
beside it. -/
theorem append_le (low : value * 10 ^ dropped ≤ whole) (many : dropped ≠ 0 → 2 ^ 52 ≤ value)
    (small : digits < 10 ^ length) :
    (value * 10 ^ length + digits) * 10 ^ (dropped + more) * (2 ^ 52 - 1) ≤
      ((whole * 10 ^ length + digits) * 10 ^ more + last) * 2 ^ 52 := by
  by_cases none : dropped = 0
  · rw [none, pow_zero, Nat.mul_one] at low
    rw [none, Nat.zero_add]
    apply Nat.mul_le_mul _ (by decide)
    have scaled := Nat.mul_le_mul_right (10 ^ length) low
    exact (Nat.mul_le_mul_right _ (by omega)).trans (Nat.le_add_right _ _)
  · have little : (value * 10 ^ length + digits) * (2 ^ 52 - 1) ≤ value * 10 ^ length * 2 ^ 52 := by
      have product := Nat.mul_le_mul (many none) small.le
      omega
    calc (value * 10 ^ length + digits) * 10 ^ (dropped + more) * (2 ^ 52 - 1)
        = (value * 10 ^ length + digits) * (2 ^ 52 - 1) * 10 ^ (dropped + more) :=
          Nat.mul_right_comm ..
      _ ≤ value * 10 ^ length * 2 ^ 52 * 10 ^ (dropped + more) := Nat.mul_le_mul_right _ little
      _ = value * 10 ^ dropped * 10 ^ length * 10 ^ more * 2 ^ 52 := by
          rw [Nat.pow_add]
          ring
      _ ≤ (whole * 10 ^ length + digits) * 10 ^ more * 2 ^ 52 := by
          apply Nat.mul_le_mul_right
          apply Nat.mul_le_mul_right
          exact (Nat.mul_le_mul_right _ low).trans (Nat.le_add_right _ _)
      _ ≤ ((whole * 10 ^ length + digits) * 10 ^ more + last) * 2 ^ 52 :=
          Nat.mul_le_mul_right _ (Nat.le_add_right _ _)

theorem le_append (low : value * 10 ^ dropped ≤ whole) (high : whole < (value + 1) * 10 ^ dropped)
    (many : dropped ≠ 0 → 2 ^ 52 ≤ value) (small : digits < 10 ^ length) (rest : last < 10 ^ more)
    (long : more ≠ 0 → 2 ^ 52 ≤ value * 10 ^ length + digits) :
    ((whole * 10 ^ length + digits) * 10 ^ more + last) * (2 ^ 52 - 1) ≤
      (value * 10 ^ length + digits) * 10 ^ (dropped + more) * 2 ^ 52 := by
  by_cases none : dropped = 0
  · rw [none, pow_zero, Nat.mul_one] at low high
    obtain rfl : whole = value := by omega
    rw [none, Nat.zero_add]
    by_cases all : more = 0
    · rw [all, pow_zero] at rest ⊢
      omega
    · apply mul_le_of_lt_succ (long all)
      rw [Nat.succ_mul]
      omega
  · have below : (whole * 10 ^ length + digits) * 10 ^ more + last <
        (value + 1) * (10 ^ dropped * 10 ^ length * 10 ^ more) :=
      calc (whole * 10 ^ length + digits) * 10 ^ more + last
          < (whole * 10 ^ length + digits + 1) * 10 ^ more := by
            rw [Nat.succ_mul]
            omega
        _ ≤ (whole + 1) * 10 ^ length * 10 ^ more := by
            apply Nat.mul_le_mul_right
            rw [Nat.succ_mul]
            omega
        _ ≤ (value + 1) * 10 ^ dropped * 10 ^ length * 10 ^ more :=
            Nat.mul_le_mul_right _ (Nat.mul_le_mul_right _ high)
        _ = (value + 1) * (10 ^ dropped * 10 ^ length * 10 ^ more) := by ring
    calc ((whole * 10 ^ length + digits) * 10 ^ more + last) * (2 ^ 52 - 1)
        ≤ value * (10 ^ dropped * 10 ^ length * 10 ^ more) * 2 ^ 52 :=
          mul_le_of_lt_succ (many none) below
      _ = value * 10 ^ length * 10 ^ (dropped + more) * 2 ^ 52 := by
          rw [Nat.pow_add]
          ring
      _ ≤ (value * 10 ^ length + digits) * 10 ^ (dropped + more) * 2 ^ 52 := by
          apply Nat.mul_le_mul_right
          apply Nat.mul_le_mul_right
          exact Nat.le_add_right _ _

end Splitting

namespace NumberText

variable (number : NumberText)

/-- The digits after the point. -/
def fractionDigits : List Char :=
  match number.fraction with
  | none => []
  | some digits => digits.chars

/-- The power of ten that the number is written with. -/
def tens : Int :=
  match number.exponent with
  | none => 0
  | some exponent => if exponent.negative then -exponent.size else exponent.size

/-- The number itself, without its sign. -/
def size : ℚ :=
  digitsValue (number.whole.chars ++ number.fractionDigits) *
    10 ^ (number.tens - number.fractionDigits.length)

theorem fractionDigits_isDigit : ∀ char ∈ number.fractionDigits, char.isDigit = true := by
  rw [fractionDigits]
  split
  · exact nofun
  · next digits _ => exact digits.all

theorem kept_eq :
    ∃ front back, number.fractionDigits = front ++ back ∧
      number.kept =
        (number.wholeKept.value * 10 ^ front.length + digitsValue front,
          (number.wholeKept.dropped : Int) - front.length) ∧
      number.kept.1 < UInt64.size ∧ (back ≠ [] → 2 ^ 52 ≤ number.kept.1) := by
  have fits := (keeps_digits number.whole.all).fits
  rw [fractionDigits, kept]
  cases number.fraction with
  | none => exact ⟨[], [], rfl, by simp [digitsValue], fits, fun some => absurd rfl some⟩
  | some digits =>
      obtain ⟨front, back, split, pushed, bound, many⟩ := pushFraction_eq fits 0 digits.all
      refine ⟨front, back, split, ?_, ?_, ?_⟩
      · rw [← wholeKept] at pushed
        simp only [pushed, Nat.zero_add]
      · rw [← wholeKept] at pushed bound
        simpa only [pushed] using bound
      · rw [← wholeKept] at pushed many
        simpa only [pushed] using many

theorem kept_bounds :
    -(number.fractionDigits.length : Int) ≤ number.kept.2 ∧
      number.kept.2 ≤ number.whole.chars.length ∧
      number.kept.1 * 10 ^ (number.kept.2 + number.fractionDigits.length).toNat * (2 ^ 52 - 1) ≤
        digitsValue (number.whole.chars ++ number.fractionDigits) * 2 ^ 52 ∧
      digitsValue (number.whole.chars ++ number.fractionDigits) * (2 ^ 52 - 1) ≤
        number.kept.1 * 10 ^ (number.kept.2 + number.fractionDigits.length).toNat * 2 ^ 52 := by
  obtain ⟨front, back, split, kept, -, long⟩ := number.kept_eq
  obtain ⟨low, high, -, many, short⟩ := keeps_digits number.whole.all
  have isDigits := number.fractionDigits_isDigit
  rw [split, List.forall_mem_append] at isDigits
  have small := digitsValue_lt isDigits.1
  have rest := digitsValue_lt isDigits.2
  have power : ((number.wholeKept.dropped : Int) - front.length +
      (front.length + back.length : Nat)).toNat = number.wholeKept.dropped + back.length := by
    omega
  rw [← wholeKept] at low high many short
  rw [kept, split, ← List.append_assoc, digitsValue_append_digits, digitsValue_append_digits,
    List.length_append]
  rw [kept, ← List.length_pos_iff, Nat.pos_iff_ne_zero] at long
  simp only [power]
  exact ⟨by omega, by omega, append_le low many small, le_append low high many small rest long⟩

theorem kept_within :
    Within 1 (number.kept.1 * 10 ^ (number.kept.2 + number.tens)) number.size := by
  obtain ⟨least, -, up, down⟩ := number.kept_bounds
  have cast : ((2 ^ 52 - 1 : Nat) : ℚ) = 2 ^ 52 - 1 := by norm_num
  generalize value : number.kept.1 * 10 ^ (number.kept.2 + number.fractionDigits.length).toNat =
    kept at up down
  have digits : Within 1 (kept : ℚ)
      (digitsValue (number.whole.chars ++ number.fractionDigits) : ℚ) := by
    rw [Within.one_iff, ← cast]
    exact ⟨by exact_mod_cast up, by exact_mod_cast down⟩
  have same : (number.kept.1 : ℚ) * 10 ^ (number.kept.2 + number.tens) =
      kept * 10 ^ (number.tens - number.fractionDigits.length) := by
    have ten : (10 : ℚ) ≠ 0 := by norm_num
    have total : number.kept.2 + number.tens =
        ((number.kept.2 + number.fractionDigits.length).toNat : Int) +
          (number.tens - number.fractionDigits.length) := by omega
    rw [← value, Nat.cast_mul, Nat.cast_pow, Nat.cast_ofNat, total, zpow_add₀ ten, zpow_natCast,
      mul_assoc]
  rw [same, size]
  exact digits.mul_right (by positivity)

theorem range_mul_le_productLimit :
    (2 ^ 1024 - 2 ^ 974 : ℚ) * placeFactor ^ 1 ≤ productLimit := by
  have first : (2 : ℚ) ^ 1024 = 2 ^ 156 * 2 ^ 868 := by rw [← pow_add]
  have second : (2 : ℚ) ^ 974 = 2 ^ 106 * 2 ^ 868 := by rw [← pow_add]
  have factors : ((2 : ℚ) ^ 156 - 2 ^ 106) * placeFactor ^ 1 ≤ (2 ^ 52 - 1) ^ 3 := by
    rw [placeFactor]
    norm_num
  rw [first, second, cast_productLimit, ← sub_mul, mul_right_comm]
  exact mul_le_mul_of_nonneg_right factors (by positivity)

section Range

variable {number} (below : number.size < 2 ^ 1024 - 2 ^ 974)

include below in
theorem kept_lt : number.kept.1 * 10 ^ (number.kept.2 + number.tens).toNat < productLimit := by
  by_cases whole : 0 ≤ number.kept.2 + number.tens
  · have limit : (number.kept.1 : ℚ) * 10 ^ (number.kept.2 + number.tens) < productLimit :=
      calc (number.kept.1 : ℚ) * 10 ^ (number.kept.2 + number.tens)
          ≤ number.size * placeFactor ^ 1 := number.kept_within.le
        _ < (2 ^ 1024 - 2 ^ 974) * placeFactor ^ 1 :=
            mul_lt_mul_of_pos_right below (pow_pos placeFactor_pos 1)
        _ ≤ productLimit := range_mul_le_productLimit
    rw [← Int.toNat_of_nonneg whole, zpow_natCast] at limit
    exact_mod_cast limit
  · obtain ⟨-, -, -, -, fits, -⟩ := number.kept_eq
    rw [Int.toNat_of_nonpos (by omega), pow_zero, Nat.mul_one]
    exact fits.trans (by decide +kernel)

variable (low : 10 ^ (-280 : Int) ≤ number.size)

include low in
theorem kept_pos : 0 < number.kept.1 := by
  have positive : 0 < (number.kept.1 : ℚ) * 10 ^ (number.kept.2 + number.tens) :=
    number.kept_within.symm.pos (low.trans_lt' (by positivity))
  exact_mod_cast pos_of_mul_pos_left positive (by positivity)

include low in
theorem least_power : -300 ≤ number.kept.2 + number.tens := by
  obtain ⟨-, -, -, -, fits, -⟩ := number.kept_eq
  have factor : (number.kept.1 : ℚ) * placeFactor ^ 1 ≤ 10 ^ (20 : Int) :=
    calc (number.kept.1 : ℚ) * placeFactor ^ 1 ≤ 2 ^ 64 * placeFactor ^ 1 := by
          apply mul_le_mul_of_nonneg_right _ (pow_pos placeFactor_pos 1).le
          exact_mod_cast fits.le
      _ ≤ 10 ^ (20 : Int) := by
          rw [placeFactor]
          norm_num
  have powers : (10 : ℚ) ^ (-280 : Int) ≤ 10 ^ (20 + (number.kept.2 + number.tens)) :=
    calc (10 : ℚ) ^ (-280 : Int) ≤ number.size := low
      _ ≤ number.kept.1 * 10 ^ (number.kept.2 + number.tens) * placeFactor ^ 1 :=
          number.kept_within.ge
      _ = number.kept.1 * placeFactor ^ 1 * 10 ^ (number.kept.2 + number.tens) :=
          mul_right_comm ..
      _ ≤ 10 ^ (20 : Int) * 10 ^ (number.kept.2 + number.tens) :=
          mul_le_mul_of_nonneg_right factor (by positivity)
      _ = 10 ^ (20 + (number.kept.2 + number.tens)) := (zpow_add₀ (by norm_num) _ _).symm
  have exponents := (zpow_le_zpow_iff_right₀ (by norm_num)).mp powers
  omega

include below low in
theorem exists_scale_near :
    ∃ double, scale number.kept.1 (number.kept.2 + number.tens) = .ok double ∧
      Near 4 double number.size := by
  obtain ⟨-, -, -, -, fits, -⟩ := number.kept_eq
  have positive := kept_pos low
  have reach := least_power low
  have least : (2 : ℚ) ^ (-1000 : Int) ≤
      number.kept.1 * 10 ^ (number.kept.2 + number.tens) := by
    have power : (2 : ℚ) ^ (-1000 : Int) ≤ 10 ^ (-300 : Int) := by
      rw [zpow_neg, zpow_neg, inv_le_inv₀ (by positivity) (by positivity)]
      have whole : 10 ^ 300 ≤ 2 ^ 1000 := by decide +kernel
      exact_mod_cast whole
    calc (2 : ℚ) ^ (-1000 : Int) ≤ 10 ^ (-300 : Int) := power
      _ ≤ 10 ^ (number.kept.2 + number.tens) := zpow_le_zpow_right₀ (by norm_num) reach
      _ ≤ number.kept.1 * 10 ^ (number.kept.2 + number.tens) :=
          le_mul_of_one_le_left (by positivity) (by exact_mod_cast positive)
  obtain ⟨double, scaled, near⟩ : ∃ double,
      scale number.kept.1 (number.kept.2 + number.tens) = .ok double ∧
        Near 3 double (number.kept.1 * 10 ^ (number.kept.2 + number.tens)) := by
    by_cases upward : 0 ≤ number.kept.2 + number.tens
    · exact scale_up_near positive fits upward (kept_lt below)
    · exact scale_down_near positive fits (by omega) (by omega) least
  exact ⟨double, scaled, near.trans number.kept_within⟩

end Range

theorem length_digits_le :
    number.whole.chars.length + number.fractionDigits.length ≤ number.text.length := by
  have parts : number.whole.chars.length + number.fractionDigits.length ≤
      number.magnitude.length := by
    rw [magnitude, fractionText, fractionDigits, List.length_append, List.length_append]
    cases number.fraction with
    | none => simp
    | some digits =>
        simp only [List.length_cons]
        omega
  rw [text]
  split
  · rw [List.length_cons]
    omega
  · exact parts

theorem tens_of_exponent {exponent : Exponent} (isExponent : number.exponent = some exponent) :
    number.tens = if exponent.negative then -(exponent.size : Int) else exponent.size := by
  rw [tens, isExponent]

/-- A number is an integer, or its kept digits are scaled once. -/
theorem reading_eq (near : ∀ exponent ∈ number.exponent, exponent.size ≤ exponentLimit) :
    number.reading =
      if number.exponent.isNone ∧ number.fraction.isNone ∧ number.kept.2 = 0 then
        .ok (signed number.negative number.kept.1)
      else scaled number.negative number.kept.1 (number.kept.2 + number.tens) := by
  cases isExponent : number.exponent with
  | none =>
      have noTens : number.tens = 0 := by rw [tens, isExponent]
      rw [reading, isExponent, noTens, add_zero]
      simp only [Option.isNone_none, true_and]
  | some exponent =>
      have total : (if exponent.negative then number.kept.2 - exponent.size
          else number.kept.2 + exponent.size) = number.kept.2 + number.tens := by
        rw [number.tens_of_exponent isExponent]
        split
        · rw [Int.sub_eq_add_neg]
        · rfl
      rw [reading, isExponent]
      simp only [Exponent.apply, Option.isNone_some, Bool.false_eq_true, false_and, if_false]
      rw [if_neg (near exponent isExponent).not_gt, total]

/-- The double is finite, has the sign of the number and is near it. -/
structure Approximates (value : Float) (parts : Binary64) : Prop where
  isParts : Binary64.ofFloat? value = some parts
  sign : parts.negative = number.negative
  zero : number.size = 0 → parts.magnitude = 0
  error : |parts.magnitude - number.size| ≤ number.size / 2 ^ 46 + 2 ^ (-1072 : Int)
  /-- A number that is not very small keeps all but the last digits. -/
  places : 10 ^ (-280 : Int) ≤ number.size →
    |parts.magnitude - number.size| ≤ number.size / 2 ^ 49

/-- The number is read as this double, but for its sign.  The double has this amount, which
is off by little. -/
structure ReadAs (double : Float) (amount : ℚ) : Prop where
  read : number.double? = some (negate number.negative double)
  holds : Holds double amount
  zero : number.size = 0 → amount = 0
  error : |amount - number.size| ≤ number.size / 2 ^ 46 + 4 * leastDouble

variable {number}

theorem double?_of_signed {value : Nat}
    (read : number.reading = .ok (signed number.negative value)) :
    number.double? = some (negate number.negative (UInt64.ofNat value).toFloat) := by
  rw [double?, read, signed]
  cases number.negative with
  | false => rfl
  | true =>
      rw [if_neg (by decide)]
      by_cases small : value ≠ 0 ∧ value ≤ Nat.pow 2 63
      · have negated : -(value : Int) < 0 := by omega
        rw [if_pos small]
        simp only [Reading.doubleOfInteger, Int.natAbs_neg, Int.natAbs_natCast, if_pos negated]
        rfl
      · rw [if_neg small]
        rfl

theorem double?_of_scaled {value : Nat} {power : Int} {double : Float}
    (read : number.reading = scaled number.negative value power)
    (scale : scale value power = .ok double) :
    number.double? = some (negate number.negative double) := by
  rw [double?, read, scaled, scale]
  rfl

theorem kept_eq_zero_iff : number.kept.1 = 0 ↔ number.size = 0 := by
  have within := number.kept_within
  constructor
  · intro none
    rw [none, Nat.cast_zero, zero_mul] at within
    exact le_antisymm (by simpa using within.ge) (within.nonneg le_rfl)
  · intro none
    by_contra some
    have positive : 0 < (number.kept.1 : ℚ) * 10 ^ (number.kept.2 + number.tens) := by
      have digits := Nat.pos_of_ne_zero some
      positivity
    exact absurd none (within.pos positive).ne'

section Doubles

variable (below : number.size < 2 ^ 1024 - 2 ^ 974) (short : number.text.length < 2 ^ 30)

include short in
theorem size_le_of_far {exponent : Exponent} (isExponent : number.exponent = some exponent)
    (far : exponentLimit < exponent.size) (downward : exponent.negative = true) :
    number.size ≤ 4 * leastDouble := by
  have limit : exponentLimit = 2 ^ 31 - 1 := rfl
  have digits := number.length_digits_le
  have power := number.tens_of_exponent isExponent
  rw [downward, if_pos rfl] at power
  obtain ⟨-, -, -, -, fits, -⟩ := number.kept_eq
  obtain ⟨-, most, -⟩ := number.kept_bounds
  have factor : placeFactor ^ 1 ≤ 2 := by
    rw [placeFactor]
    norm_num
  have powers : (2 : ℚ) ^ 64 * 10 ^ (-400 : Int) * 2 ≤ 4 * leastDouble := by
    have whole : 2 ^ 64 * 2 * 2 ^ 1074 ≤ 4 * 10 ^ 400 := by decide +kernel
    have cast : (2 : ℚ) ^ 64 * 2 * 2 ^ 1074 ≤ 4 * 10 ^ 400 := by exact_mod_cast whole
    rw [leastDouble, zpow_neg, zpow_neg, mul_right_comm, ← div_eq_mul_inv, ← div_eq_mul_inv,
      div_le_div_iff₀ (by positivity) (by positivity)]
    exact cast
  calc number.size ≤ number.kept.1 * 10 ^ (number.kept.2 + number.tens) * placeFactor ^ 1 :=
        number.kept_within.ge
    _ ≤ 2 ^ 64 * 10 ^ (-400 : Int) * 2 := by
        have digits : (number.kept.1 : ℚ) ≤ 2 ^ 64 := by exact_mod_cast fits.le
        have tens : (10 : ℚ) ^ (number.kept.2 + number.tens) ≤ 10 ^ (-400 : Int) :=
          zpow_le_zpow_right₀ (by norm_num) (by omega)
        exact mul_le_mul (mul_le_mul digits tens (by positivity) (by positivity)) factor
          (pow_pos placeFactor_pos 1).le (by positivity)
    _ ≤ 4 * leastDouble := powers

/-- The digits that are left off count little. -/
theorem error_of_kept {amount : ℚ}
    (error : |amount - number.kept.1 * 10 ^ (number.kept.2 + number.tens)| ≤
      number.kept.1 * 10 ^ (number.kept.2 + number.tens) / 2 ^ 47 + 4 * leastDouble) :
    |amount - number.size| ≤ number.size / 2 ^ 46 + 4 * leastDouble := by
  have factor : placeFactor ^ 1 ≤ 1 + 3 / 2 ^ 53 := by
    rw [placeFactor]
    norm_num
  have nonneg : 0 ≤ (number.kept.1 : ℚ) * 10 ^ (number.kept.2 + number.tens) := by positivity
  have within := number.kept_within
  have close := within.abs_sub_le nonneg factor
  have sizeNonneg := within.nonneg nonneg
  generalize (number.kept.1 : ℚ) * 10 ^ (number.kept.2 + number.tens) = kept at error close
  rw [abs_le] at error close ⊢
  constructor <;> linarith

include below in
theorem exists_readAs_of_near
    (near : ∀ exponent ∈ number.exponent, exponent.size ≤ exponentLimit) :
    ∃ double amount, number.ReadAs double amount := by
  have noDigit : number.size = 0 → number.kept.1 = 0 := kept_eq_zero_iff.mpr
  obtain ⟨-, -, -, -, fits, -⟩ := number.kept_eq
  have read := number.reading_eq near
  split at read
  · next whole =>
      obtain ⟨amount, holds, zero, within⟩ := exists_toFloat_holds fits
      refine ⟨_, amount, double?_of_signed read, holds, zero ∘ noDigit, error_of_kept ?_⟩
      have noTens : number.tens = 0 := by
        rw [tens, Option.isNone_iff_eq_none.mp whole.1]
      have factor : placeFactor ^ 1 ≤ 1 + 1 / 2 ^ 47 := by
        rw [placeFactor]
        norm_num
      have error := within.abs_sub_le holds.nonneg factor
      have least := leastDouble_pos
      rw [mul_one_div] at error
      rw [noTens, whole.2.2, add_zero, zpow_zero, mul_one]
      linarith
  · obtain ⟨double, amount, scaled, holds, zero, error⟩ := exists_scale_holds fits (kept_lt below)
    exact ⟨double, amount, double?_of_scaled read scaled, holds, zero ∘ noDigit,
      error_of_kept error⟩

include below short in
/-- With an exponent beyond the limit the number is zero or next to nothing. -/
theorem exists_readAs_of_far {exponent : Exponent} (isExponent : number.exponent = some exponent)
    (far : exponentLimit < exponent.size) : ∃ double amount, number.ReadAs double amount := by
  have limit : exponentLimit = 2 ^ 31 - 1 := rfl
  have digits := number.length_digits_le
  have least := leastDouble_pos
  have applied : number.reading =
      exponent.apply number.negative number.kept.1 number.kept.2 := by
    rw [reading, isExponent]
  -- The exponent outweighs all places, so a digit before it would be above the limit.
  have nothing : ¬ (number.kept.1 ≠ 0 ∧ exponent.negative = false) := by
    rintro ⟨nonzero, upward⟩
    have power := number.tens_of_exponent isExponent
    rw [upward, if_neg Bool.false_ne_true] at power
    have least := number.kept_bounds.1
    have reach := power_lt_of_lt (Nat.pos_of_ne_zero nonzero) (kept_lt below)
    omega
  have tiny : number.size ≤ 4 * leastDouble := by
    by_cases zero : number.kept.1 = 0
    · rw [kept_eq_zero_iff.mp zero]
      positivity
    · cases downward : exponent.negative with
      | false => exact absurd ⟨zero, downward⟩ nothing
      | true => exact size_le_of_far short isExponent far downward
  have nonneg : 0 ≤ number.size := number.kept_within.nonneg (by positivity)
  refine ⟨0.0, 0, ?_, .of_pack rfl .zero, fun _ => rfl, ?_⟩
  · rw [double?, applied, Exponent.apply, if_pos far, if_neg nothing]
  · rw [zero_sub, abs_neg, abs_of_nonneg nonneg]
    exact tiny.trans (le_add_of_nonneg_left (by positivity))

include below short in
/-- Every number below the limit has a double. -/
theorem exists_readAs : ∃ double amount, number.ReadAs double amount := by
  by_cases near : ∀ exponent ∈ number.exponent, exponent.size ≤ exponentLimit
  · exact exists_readAs_of_near below near
  · push Not at near
    obtain ⟨exponent, isExponent, far⟩ := near
    exact exists_readAs_of_far below short isExponent far

include below short in
theorem exists_double_near (low : 10 ^ (-280 : Int) ≤ number.size) :
    ∃ double, number.double? = some (negate number.negative double) ∧
      Near 4 double number.size := by
  have limit : exponentLimit = 2 ^ 31 - 1 := rfl
  have digits := number.length_digits_le
  obtain ⟨-, -, -, -, fits, -⟩ := number.kept_eq
  have positive := kept_pos low
  have near : ∀ exponent ∈ number.exponent, exponent.size ≤ exponentLimit := by
    intro exponent isExponent
    have power := number.tens_of_exponent isExponent
    obtain ⟨least, most, -⟩ := number.kept_bounds
    have low := least_power low
    have high := power_lt_of_lt positive (kept_lt below)
    split at power <;> omega
  have read := number.reading_eq near
  split at read
  · next whole =>
      have noTens : number.tens = 0 := by
        rw [tens, Option.isNone_iff_eq_none.mp whole.1]
      have kept := number.kept_within
      rw [noTens, whole.2.2, add_zero, zpow_zero, mul_one] at kept
      have near := ((near_toFloat positive fits).trans kept).trans
        (.refl (low.trans' (by positivity)) 2)
      exact ⟨_, double?_of_signed read, near⟩
  · obtain ⟨double, scaled, near⟩ := exists_scale_near below low
    exact ⟨double, double?_of_scaled read scaled, near⟩

include below short in
theorem exists_double_approximates :
    ∃ value parts, number.double? = some value ∧ number.Approximates value parts := by
  obtain ⟨double, amount, read, holds, zero, error⟩ := exists_readAs below short
  obtain ⟨parts, isParts, sign, magnitude⟩ := holds.ofFloat?_negate number.negative
  refine ⟨_, parts, read, isParts, sign, ?_, ?_, ?_⟩
  · rw [magnitude]
    exact zero
  · have four : 4 * leastDouble = 2 ^ (-1072 : Int) := by
      rw [leastDouble, show (-1072 : Int) = 2 + -1074 from rfl, zpow_add₀ two_ne_zero]
      norm_num
    rw [magnitude, ← four]
    exact error
  · intro low
    obtain ⟨other, readOther, near⟩ := exists_double_near below short low
    obtain ⟨otherAmount, otherHolds, within⟩ := Holds.of_near near
    obtain ⟨otherParts, isOther, -, otherMagnitude⟩ := otherHolds.ofFloat?_negate number.negative
    rw [read, Option.some.injEq] at readOther
    rw [readOther, isOther, Option.some.injEq] at isParts
    have factor : placeFactor ^ 4 ≤ 1 + 1 / 2 ^ 49 := by
      rw [placeFactor]
      norm_num
    have close := within.abs_sub_le otherHolds.nonneg factor
    rwa [mul_one_div, ← otherMagnitude, isParts] at close

end Doubles

end NumberText

end Json

end AcceleratorTrace
