import AcceleratorTrace.Clock
import Mathlib

/-!
# Cycle counts and wall times

A wall time is the reference time moved by a truncated quotient and then clamped.
Truncation goes toward zero, so an offset never passes the exact one on either side
of the reference, and it is off by less than a nanosecond.  The order of the cycle
counts survives both the truncation and the clamp.

The numbers on the way need more than 64 bits.  The same conversions are written
out here in 128 bits with every step checked, and no check ever fails.
-/

namespace AcceleratorTrace

theorem toInt_clampInt64 (value : Int) :
    (clampInt64 value).toInt = max Int64.minValue.toInt (min value Int64.maxValue.toInt) := by
  have least := Int64.toInt_minValue
  have greatest := Int64.toInt_maxValue
  apply Int64.toInt_ofInt_of_le
  · omega
  · omega

theorem clampInt64_toInt (value : Int64) : clampInt64 value.toInt = value := by
  have above := value.minValue_le_toInt
  have below := value.toInt_le
  rw [← Int64.toInt_inj, toInt_clampInt64]
  omega

theorem clampInt64_mono {first second : Int} (order : first ≤ second) :
    clampInt64 first ≤ clampInt64 second := by
  rw [Int64.le_iff_toInt_le, toInt_clampInt64, toInt_clampInt64]
  omega

/-- Truncating two numbers and then taking their distance, or truncating the
distance, makes a difference of one at most. -/
theorem tdiv_sub_tdiv_near {first second divisor : Int} (positive : 0 < divisor)
    (order : first ≤ second) :
    (second - first).tdiv divisor - 1 ≤ second.tdiv divisor - first.tdiv divisor ∧
      second.tdiv divisor - first.tdiv divisor ≤ (second - first).tdiv divisor + 1 := by
  have firstParts := Int.mul_tdiv_add_tmod first divisor
  have secondParts := Int.mul_tdiv_add_tmod second divisor
  have distanceParts := Int.mul_tdiv_add_tmod (second - first) divisor
  let excess := second.tdiv divisor - first.tdiv divisor - (second - first).tdiv divisor
  have remainders : divisor * excess =
      first.tmod divisor + (second - first).tmod divisor - second.tmod divisor := by
    simp only [excess, Int.mul_sub]
    omega
  have distanceNonneg := Int.tmod_nonneg divisor (Int.sub_nonneg_of_le order)
  have distanceLt := Int.tmod_lt_of_pos (second - first) positive
  have firstLt := Int.tmod_lt_of_pos first positive
  have firstGt := Int.lt_tmod_of_pos first positive
  have secondLt := Int.tmod_lt_of_pos second positive
  have secondGt := Int.lt_tmod_of_pos second positive
  -- A remainder has the sign of its number, so only the sides of zero matter.
  have bounds : divisor * -2 < divisor * excess ∧ divisor * excess < divisor * 2 := by
    rcases Int.le_total 0 first with firstNonneg | firstNonpos
    · have firstRemainder := Int.tmod_nonneg divisor firstNonneg
      have secondRemainder := Int.tmod_nonneg divisor (Int.le_trans firstNonneg order)
      omega
    · have firstRemainder := Int.tmod_nonneg divisor (Int.neg_nonneg_of_nonpos firstNonpos)
      rw [Int.neg_tmod] at firstRemainder
      rcases Int.le_total 0 second with secondNonneg | secondNonpos
      · have secondRemainder := Int.tmod_nonneg divisor secondNonneg
        omega
      · have secondRemainder := Int.tmod_nonneg divisor (Int.neg_nonneg_of_nonpos secondNonpos)
        rw [Int.neg_tmod] at secondRemainder
        omega
  have above := Int.lt_of_mul_lt_mul_left bounds.1 (Int.le_of_lt positive)
  have below := Int.lt_of_mul_lt_mul_left bounds.2 (Int.le_of_lt positive)
  simp only [excess] at above below
  omega

namespace Clock

/-- The signed length of a number of cycles in whole nanoseconds. -/
def offsetNs (clock : Clock) (cycles : Int) : Int :=
  (cycles * nanosPerSecond).tdiv clock.cyclesPerSecond

/-- The cycles that a count is past the reference. -/
def cyclesPast (clock : Clock) (cycle : UInt64) : Int :=
  (cycle.toNat : Int) - (clock.reference.cycle.toNat : Int)

/-- The wall time of a cycle count before it is clamped. -/
def unclampedNs (clock : Clock) (cycle : UInt64) : Int :=
  clock.reference.wallNs.toInt + clock.offsetNs (clock.cyclesPast cycle)

/-- The wall time of a cycle count does not fit 64 bits. -/
def Saturates (clock : Clock) (cycle : UInt64) : Prop :=
  clock.unclampedNs cycle < Int64.minValue.toInt ∨
    Int64.maxValue.toInt < clock.unclampedNs cycle

instance (clock : Clock) (cycle : UInt64) : Decidable (clock.Saturates cycle) :=
  inferInstanceAs (Decidable (_ ∨ _))

section Laws

variable (clock : Clock)

theorem wallNs_eq_clamp (cycle : UInt64) :
    clock.wallNs cycle = clampInt64 (clock.unclampedNs cycle) := rfl

theorem spanNs_eq_clamp (cycles : UInt64) :
    clock.spanNs cycles = clampInt64 (clock.offsetNs cycles.toNat) := rfl

theorem toInt_wallNs {cycle : UInt64} (fits : ¬ clock.Saturates cycle) :
    (clock.wallNs cycle).toInt = clock.unclampedNs cycle := by
  rw [Saturates] at fits
  rw [wallNs_eq_clamp, toInt_clampInt64]
  omega

theorem cyclesPerSecond_int_pos : (0 : Int) < clock.cyclesPerSecond :=
  Int.natCast_pos.mpr clock.cyclesPerSecond_pos

theorem cyclesPast_mono {first second : UInt64} (order : first ≤ second) :
    clock.cyclesPast first ≤ clock.cyclesPast second := by
  rw [UInt64.le_iff_toNat_le] at order
  simp only [cyclesPast]
  omega

theorem cyclesPast_inj {first second : UInt64}
    (same : clock.cyclesPast first = clock.cyclesPast second) : first = second := by
  simp only [cyclesPast] at same
  apply UInt64.toNat_inj.mp
  omega

theorem offsetNs_mono {first second : Int} (order : first ≤ second) :
    clock.offsetNs first ≤ clock.offsetNs second := by
  apply Int.tdiv_le_tdiv clock.cyclesPerSecond_int_pos
  exact Int.mul_le_mul_of_nonneg_right order (by decide)

@[simp] theorem offsetNs_zero : clock.offsetNs 0 = 0 := by
  simp [offsetNs]

theorem offsetNs_nonneg {cycles : Int} (nonneg : 0 ≤ cycles) : 0 ≤ clock.offsetNs cycles := by
  have order := clock.offsetNs_mono nonneg
  rwa [offsetNs_zero] at order

theorem offsetNs_neg (cycles : Int) : clock.offsetNs (-cycles) = -clock.offsetNs cycles := by
  rw [offsetNs, Int.neg_mul, Int.neg_tdiv, offsetNs]

theorem natAbs_offsetNs (cycles : Int) :
    (clock.offsetNs cycles).natAbs = cycles.natAbs * 1000000000 / clock.cyclesPerSecond := by
  rw [offsetNs, Int.natAbs_tdiv, Int.natAbs_mul]
  rfl

theorem offsetNs_bounds (cycles : Int) :
    (clock.offsetNs cycles).natAbs * clock.cyclesPerSecond ≤ cycles.natAbs * 1000000000 ∧
      cycles.natAbs * 1000000000 <
        ((clock.offsetNs cycles).natAbs + 1) * clock.cyclesPerSecond := by
  rw [natAbs_offsetNs]
  constructor
  · exact Nat.div_mul_le_self _ _
  · rw [Nat.mul_comm (_ + 1)]
    exact Nat.lt_mul_div_succ _ clock.cyclesPerSecond_pos

/-- Moving from one count to another takes as long as the cycles between them, give
or take a nanosecond. -/
theorem offsetNs_sub_near {first second : Int} (order : first ≤ second) :
    clock.offsetNs (second - first) - 1 ≤ clock.offsetNs second - clock.offsetNs first ∧
      clock.offsetNs second - clock.offsetNs first ≤ clock.offsetNs (second - first) + 1 := by
  have near := tdiv_sub_tdiv_near clock.cyclesPerSecond_int_pos
    (Int.mul_le_mul_of_nonneg_right order (show 0 ≤ nanosPerSecond by decide))
  rw [← Int.sub_mul] at near
  exact near

section Slow

variable (slow : clock.cyclesPerSecond ≤ 1000000000)
include slow

theorem natAbs_le_of_offsetNs_eq {first second : Int}
    (same : clock.offsetNs first = clock.offsetNs second) : first.natAbs ≤ second.natAbs := by
  have upper := (clock.offsetNs_bounds first).2
  have lower := (clock.offsetNs_bounds second).1
  rw [same, Nat.add_mul, Nat.one_mul] at upper
  omega

theorem offsetNs_inj {first second : Int}
    (same : clock.offsetNs first = clock.offsetNs second) : first = second := by
  have magnitude : first.natAbs = second.natAbs :=
    Nat.le_antisymm (clock.natAbs_le_of_offsetNs_eq slow same)
      (clock.natAbs_le_of_offsetNs_eq slow same.symm)
  rcases Int.natAbs_eq_natAbs_iff.mp magnitude with equal | opposite
  · exact equal
  · -- Opposite counts have opposite offsets, so theirs are zero, which is that of no cycles.
    rw [opposite, offsetNs_neg] at same
    have none : clock.offsetNs second = clock.offsetNs 0 := by
      rw [offsetNs_zero]
      omega
    have atZero := clock.natAbs_le_of_offsetNs_eq slow none
    omega

theorem wallNs_inj {first second : UInt64} (firstFits : ¬ clock.Saturates first)
    (secondFits : ¬ clock.Saturates second)
    (same : clock.wallNs first = clock.wallNs second) : first = second := by
  have times := congrArg Int64.toInt same
  rw [clock.toInt_wallNs firstFits, clock.toInt_wallNs secondFits] at times
  apply clock.cyclesPast_inj
  exact clock.offsetNs_inj slow (Int.add_left_cancel times)

end Slow

theorem wallNs_reference : clock.wallNs clock.reference.cycle = clock.reference.wallNs := by
  rw [wallNs_eq_clamp, unclampedNs, cyclesPast, Int.sub_self, offsetNs_zero, Int.add_zero,
    clampInt64_toInt]

theorem toInt_spanNs (cycles : UInt64) :
    (clock.spanNs cycles).toInt =
      min (clock.offsetNs cycles.toNat) Int64.maxValue.toInt := by
  -- A length is never negative, so it can only be too great.
  have nonneg := clock.offsetNs_nonneg (Int.natCast_nonneg cycles.toNat)
  have least := Int64.toInt_minValue
  have greatest := Int64.toInt_maxValue
  rw [spanNs_eq_clamp, toInt_clampInt64]
  omega

theorem wallNs_mono {first second : UInt64} (order : first ≤ second) :
    clock.wallNs first ≤ clock.wallNs second := by
  apply clampInt64_mono
  exact Int.add_le_add_left (clock.offsetNs_mono (clock.cyclesPast_mono order)) _

theorem observe_inside_of_between {low middle high : UInt64} (above : low ≤ middle)
    (below : middle ≤ high) (lowInside : (clock.observe low).2 = none)
    (highInside : (clock.observe high).2 = none) : (clock.observe middle).2 = none := by
  simp only [observe, warning?] at lowInside highInside ⊢
  cases declared : clock.window with
  | none => rfl
  | some window =>
      simp only [declared, ite_eq_left_iff, reduceCtorEq, imp_false, Decidable.not_not,
        Window.contains, Bool.and_eq_true, decide_eq_true_eq] at lowInside highInside ⊢
      constructor
      · exact Int64.le_trans lowInside.1 (clock.wallNs_mono above)
      · exact Int64.le_trans (clock.wallNs_mono below) highInside.2

end Laws

end Clock

namespace Int128

def Fits (value : Int) : Prop := -2 ^ 127 ≤ value ∧ value < 2 ^ 127

instance : DecidablePred Fits := fun value =>
  inferInstanceAs (Decidable (-2 ^ 127 ≤ value ∧ value < 2 ^ 127))

/-- The result of a step, unless it overflows. -/
def checked (value : Int) : Option Int := if Fits value then some value else none

/-- A truncated quotient, unless it overflows or the divisor is zero. -/
def quotient (value divisor : Int) : Option Int :=
  if divisor = 0 then none else checked (value.tdiv divisor)

theorem checked_of_fits {value : Int} (fits : Fits value) : checked value = some value :=
  if_pos fits

theorem quotient_of_natAbs_lt {value divisor : Int} (nonzero : divisor ≠ 0)
    (small : value.natAbs < 2 ^ 127) : quotient value divisor = some (value.tdiv divisor) := by
  -- Only the least number has a quotient that overflows, and it is not small.
  have shrinks := Int.natAbs_tdiv_le_natAbs value divisor
  rw [quotient, if_neg nonzero]
  apply checked_of_fits
  constructor
  · omega
  · omega

end Int128

namespace Clock

open Int128

/-- The wall time of a cycle count by arithmetic in 128 bits. -/
def wallNs128? (clock : Clock) (cycle : UInt64) : Option Int64 := do
  let cyclesPerSecond ← checked clock.cyclesPerSecond
  let delta ← checked (clock.cyclesPast cycle)
  let scaled ← checked (delta * nanosPerSecond)
  let offset ← quotient scaled cyclesPerSecond
  let wall ← checked (clock.reference.wallNs.toInt + offset)
  return clampInt64 wall

/-- The length of a number of cycles by arithmetic in 128 bits.  It has only an
upper end to be cut at. -/
def spanNs128? (clock : Clock) (cycles : UInt64) : Option Int64 := do
  let cyclesPerSecond ← checked clock.cyclesPerSecond
  let scaled ← checked ((cycles.toNat : Int) * nanosPerSecond)
  let length ← quotient scaled cyclesPerSecond
  return Int64.ofInt (min length Int64.maxValue.toInt)

theorem roundedCycles_le (frequency : Float) : roundedCycles frequency ≤ cyclesLimit := by
  unfold roundedCycles
  split
  · exact Nat.min_le_right _ _
  · exact Nat.le_refl _

theorem create_eq_ok {reference : ClockReference} {window : Option Window} {clock : Clock}
    (accepted : create reference window = .ok clock) :
    clock.reference = reference ∧ clock.window = window ∧ clock.cyclesPerSecond ≤ cyclesLimit := by
  simp only [create] at accepted
  split at accepted
  · split at accepted
    · cases accepted
      exact ⟨rfl, rfl, roundedCycles_le reference.frequency⟩
    · cases accepted
  · cases accepted

section InRange

variable (clock : Clock)

theorem cyclesPast_small (cycle : UInt64) : (clock.cyclesPast cycle).natAbs < 2 ^ 64 := by
  have above := cycle.toNat_lt
  have below := clock.reference.cycle.toNat_lt
  simp only [cyclesPast]
  omega

theorem scaled_small {cycles : Int} (small : cycles.natAbs < 2 ^ 64) :
    (cycles * nanosPerSecond).natAbs < 2 ^ 94 := by
  simp only [nanosPerSecond]
  omega

theorem checked_scaled {cycles : Int} (small : cycles.natAbs < 2 ^ 64) :
    checked (cycles * nanosPerSecond) = some (cycles * nanosPerSecond) := by
  have bound := scaled_small small
  apply checked_of_fits
  constructor
  · omega
  · omega

theorem quotient_scaled {cycles : Int} (small : cycles.natAbs < 2 ^ 64) :
    quotient (cycles * nanosPerSecond) clock.cyclesPerSecond = some (clock.offsetNs cycles) := by
  apply quotient_of_natAbs_lt
  · exact Int.ne_of_gt clock.cyclesPerSecond_int_pos
  · exact Nat.lt_trans (scaled_small small) (by decide)

theorem offsetNs_small {cycles : Int} (small : cycles.natAbs < 2 ^ 64) :
    (clock.offsetNs cycles).natAbs < 2 ^ 94 :=
  Nat.lt_of_le_of_lt (Int.natAbs_tdiv_le_natAbs _ _) (scaled_small small)

variable {clock} (bounded : clock.cyclesPerSecond ≤ cyclesLimit)
include bounded

theorem checked_cyclesPerSecond :
    checked clock.cyclesPerSecond = some (clock.cyclesPerSecond : Int) := by
  have limit : cyclesLimit = 2 ^ 127 - 1 := rfl
  apply checked_of_fits
  constructor
  · omega
  · omega

theorem wallNs128?_eq (cycle : UInt64) : clock.wallNs128? cycle = some (clock.wallNs cycle) := by
  have small := clock.cyclesPast_small cycle
  have delta : checked (clock.cyclesPast cycle) = some (clock.cyclesPast cycle) := by
    apply checked_of_fits
    constructor
    · omega
    · omega
  have wall : checked (clock.unclampedNs cycle) = some (clock.unclampedNs cycle) := by
    have offset := clock.offsetNs_small small
    have above := clock.reference.wallNs.le_toInt
    have below := clock.reference.wallNs.toInt_lt
    apply checked_of_fits
    simp only [unclampedNs]
    constructor
    · omega
    · omega
  simp only [unclampedNs] at wall
  simp only [wallNs128?, checked_cyclesPerSecond bounded, delta, checked_scaled small,
    clock.quotient_scaled small, wall, Option.bind_eq_bind, Option.bind_some]
  rfl

theorem spanNs128?_eq (cycles : UInt64) : clock.spanNs128? cycles = some (clock.spanNs cycles) := by
  have small : (cycles.toNat : Int).natAbs < 2 ^ 64 := cycles.toNat_lt
  have cut : Int64.ofInt (min (clock.offsetNs cycles.toNat) Int64.maxValue.toInt) =
      clock.spanNs cycles := by
    rw [← toInt_spanNs, Int64.ofInt_toInt]
  simp only [spanNs128?, checked_cyclesPerSecond bounded, checked_scaled small,
    clock.quotient_scaled small, cut, Option.bind_eq_bind, Option.bind_some]
  rfl

end InRange

end Clock

/-- A clock converts without overflow in 128 bits.  Its reference sample is exact,
later counts have later or equal times even where these saturate, a time is off by
less than a nanosecond and never away from the reference, and a counter of at most
one cycle per nanosecond gives different counts different times. -/
theorem clock_is_exact_and_ordered {reference : ClockReference} {window : Option Window}
    {clock : Clock} (accepted : Clock.create reference window = .ok clock) :
    (1 ≤ clock.cyclesPerSecond ∧ clock.cyclesPerSecond ≤ 2 ^ 127 - 1) ∧
      (∀ cycle, clock.wallNs128? cycle = some (clock.wallNs cycle)) ∧
      (∀ cycles, clock.spanNs128? cycles = some (clock.spanNs cycles)) ∧
      clock.wallNs reference.cycle = reference.wallNs ∧
      (∀ first second, first ≤ second → clock.wallNs first ≤ clock.wallNs second) ∧
      (∀ low middle high, low ≤ middle → middle ≤ high → (clock.observe low).2 = none →
        (clock.observe high).2 = none → (clock.observe middle).2 = none) ∧
      (∀ cycle, ¬ clock.Saturates cycle →
        let offset := ((clock.wallNs cycle).toInt - reference.wallNs.toInt).natAbs
        let distance := ((cycle.toNat : Int) - (reference.cycle.toNat : Int)).natAbs
        offset * clock.cyclesPerSecond ≤ distance * 10 ^ 9 ∧
          distance * 10 ^ 9 < (offset + 1) * clock.cyclesPerSecond) ∧
      (∀ cycle, (reference.cycle ≤ cycle → reference.wallNs ≤ clock.wallNs cycle) ∧
        (cycle ≤ reference.cycle → clock.wallNs cycle ≤ reference.wallNs)) ∧
      (clock.cyclesPerSecond ≤ 10 ^ 9 → ∀ first second, ¬ clock.Saturates first →
        ¬ clock.Saturates second → clock.wallNs first = clock.wallNs second →
        first = second) := by
  obtain ⟨rfl, rfl, bounded⟩ := Clock.create_eq_ok accepted
  have atReference := clock.wallNs_reference
  refine ⟨⟨clock.cyclesPerSecond_pos, bounded⟩, Clock.wallNs128?_eq bounded,
    Clock.spanNs128?_eq bounded, atReference, fun _ _ => clock.wallNs_mono,
    fun _ _ _ => clock.observe_inside_of_between, ?_, ?_, fun slow _ _ => clock.wallNs_inj slow⟩
  · intro cycle fits
    have moved : (clock.wallNs cycle).toInt - clock.reference.wallNs.toInt =
        clock.offsetNs (clock.cyclesPast cycle) := by
      rw [clock.toInt_wallNs fits, Clock.unclampedNs]
      omega
    rw [moved]
    exact clock.offsetNs_bounds (clock.cyclesPast cycle)
  · intro cycle
    constructor
    · intro later
      have ordered := clock.wallNs_mono later
      rwa [atReference] at ordered
    · intro earlier
      have ordered := clock.wallNs_mono earlier
      rwa [atReference] at ordered

/-- At 38.4 cycles per microsecond, 385 cycles before the reference are 10026.04
nanoseconds, and the greatest count has a time that does not fit. -/
theorem clock_is_exact_and_ordered_before_reference :
    ∃ clock, Clock.create ⟨1000, 5000000000, 38.4⟩ none = .ok clock ∧
      clock.cyclesPerSecond = 38400000 ∧ clock.wallNs 615 = 4999989974 ∧
      ¬ clock.Saturates 615 ∧ clock.Saturates 18446744073709551615 ∧
      let offset := ((clock.wallNs 615).toInt - (5000000000 : Int64).toInt).natAbs
      let distance := (((615 : UInt64).toNat : Int) - ((1000 : UInt64).toNat : Int)).natAbs
      offset * clock.cyclesPerSecond ≤ distance * 10 ^ 9 ∧
        distance * 10 ^ 9 < (offset + 1) * clock.cyclesPerSecond := by
  let clock : Clock := ⟨⟨1000, 5000000000, 38.4⟩, 38400000, none, by decide⟩
  have accepted : Clock.create ⟨1000, 5000000000, 38.4⟩ none = .ok clock := by rfl
  have fits : ¬ clock.Saturates 615 := by decide
  have laws := clock_is_exact_and_ordered accepted
  exact ⟨clock, accepted, rfl, by decide, fits, by decide, laws.2.2.2.2.2.2.1 615 fits⟩

end AcceleratorTrace
