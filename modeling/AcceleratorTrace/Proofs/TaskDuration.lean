import AcceleratorTrace.Pairing
import AcceleratorTrace.Proofs.ClockArithmetic
import AcceleratorTrace.Row

/-!
# How long a task took

The length of a task is known in two ways: as the distance of its two wall times,
which is what is stored, and as its number of cycles converted at once.  The first
is truncated and clamped at both ends, the second only once.  They agree to a
nanosecond as long as both times fit, and where a time saturates the stored length
is not the greater of the two by more than that.
-/

namespace AcceleratorTrace

/-- The value of a record in a column of its table. -/
def TimedRecord.column? (timed : TimedRecord) (name : String) : Option Value :=
  (timed.record.table.columnNames.zip timed.row).lookup name

theorem toInt_max_zero (value : Int64) : (max value 0).toInt = max value.toInt 0 := by
  have zero := Int64.toInt_zero
  by_cases order : value ≤ 0
  · have chosen : max value 0 = 0 := if_pos order
    rw [Int64.le_iff_toInt_le] at order
    rw [chosen]
    omega
  · have chosen : max value 0 = value := if_neg order
    rw [Int64.le_iff_toInt_le] at order
    rw [chosen]
    omega

theorem TaskSpan.durationCycles_of_le {span : TaskSpan}
    (forward : span.startCycle ≤ span.endCycle) :
    span.durationCycles.toNat = span.endCycle.toNat - span.startCycle.toNat := by
  rw [durationCycles, if_pos forward, UInt64.toNat_sub_of_le _ _ forward]

theorem TaskSpan.durationCycles_eq_zero_iff {span : TaskSpan} :
    span.durationCycles = 0 ↔ span.endCycle ≤ span.startCycle := by
  rw [UInt64.le_iff_toNat_le]
  by_cases forward : span.startCycle ≤ span.endCycle
  · rw [← UInt64.toNat_inj, durationCycles_of_le forward]
    rw [UInt64.le_iff_toNat_le] at forward
    rw [UInt64.toNat_zero]
    omega
  · rw [durationCycles, if_neg forward]
    rw [UInt64.le_iff_toNat_le] at forward
    simp only [true_iff]
    omega

namespace Clock

variable (clock : Clock) (span : TaskSpan)

/-- The stored length of a span: the distance of its wall times, if it is not
negative. -/
def lengthNs : Int64 :=
  max (clampInt64 ((clock.wallNs span.endCycle).toInt - (clock.wallNs span.startCycle).toInt)) 0

theorem timeRecord_taskTime (device : UInt32) :
    (clock.timeRecord device (.taskTime span)).1 =
      ⟨device, .taskTime span, some (clock.wallNs span.startCycle),
        some (clock.wallNs span.endCycle)⟩ := rfl

theorem column_duration (device : UInt32) :
    (clock.timeRecord device (.taskTime span)).1.column? "duration_ns" =
      some (.integer (clock.lengthNs span)) := by
  simp [timeRecord_taskTime, TimedRecord.column?, Record.table, Table.columnNames,
    TimedRecord.row, TimedRecord.fieldValues, TimedRecord.durationValue, List.lookup, lengthNs]

theorem toInt_lengthNs :
    (clock.lengthNs span).toInt =
      max (min ((clock.wallNs span.endCycle).toInt - (clock.wallNs span.startCycle).toInt)
        Int64.maxValue.toInt) 0 := by
  -- What is below the least number is below zero, so only the upper end is seen.
  have least := Int64.toInt_minValue
  have greatest := Int64.toInt_maxValue
  rw [lengthNs, toInt_max_zero, toInt_clampInt64]
  omega

theorem lengthNs_nonneg : 0 ≤ clock.lengthNs span := by
  rw [Int64.le_iff_toInt_le, toInt_lengthNs, Int64.toInt_zero]
  omega

variable {span}

theorem lengthNs_of_backward (backward : span.endCycle ≤ span.startCycle) :
    clock.lengthNs span = 0 := by
  have ordered := clock.wallNs_mono backward
  rw [Int64.le_iff_toInt_le] at ordered
  rw [← Int64.toInt_inj, toInt_lengthNs, Int64.toInt_zero]
  omega

/-- The times of a span before they are clamped are as far apart as its cycles take,
give or take a nanosecond. -/
theorem unclampedNs_sub_near (forward : span.startCycle ≤ span.endCycle) :
    clock.offsetNs span.durationCycles.toNat - 1 ≤
        clock.unclampedNs span.endCycle - clock.unclampedNs span.startCycle ∧
      clock.unclampedNs span.endCycle - clock.unclampedNs span.startCycle ≤
        clock.offsetNs span.durationCycles.toNat + 1 := by
  have near := clock.offsetNs_sub_near (clock.cyclesPast_mono forward)
  have cycles : clock.cyclesPast span.endCycle - clock.cyclesPast span.startCycle =
      (span.durationCycles.toNat : Int) := by
    rw [TaskSpan.durationCycles_of_le forward]
    rw [UInt64.le_iff_toNat_le] at forward
    simp only [cyclesPast]
    omega
  rw [cycles] at near
  simp only [unclampedNs]
  omega

theorem lengthNs_le_of_forward (forward : span.startCycle ≤ span.endCycle) :
    (clock.lengthNs span).toInt ≤ (clock.spanNs span.durationCycles).toInt + 1 := by
  have near := (clock.unclampedNs_sub_near forward).2
  have nonneg := clock.offsetNs_nonneg (Int.natCast_nonneg span.durationCycles.toNat)
  have greatest := Int64.toInt_maxValue
  -- Clamping brings the two times nearer to each other, never further apart.
  have closer : (clock.wallNs span.endCycle).toInt - (clock.wallNs span.startCycle).toInt ≤
      max (clock.unclampedNs span.endCycle - clock.unclampedNs span.startCycle) 0 := by
    rw [wallNs_eq_clamp, wallNs_eq_clamp, toInt_clampInt64, toInt_clampInt64]
    omega
  rw [toInt_lengthNs, toInt_spanNs]
  omega

theorem lengthNs_ge_of_forward (forward : span.startCycle ≤ span.endCycle)
    (startFits : ¬ clock.Saturates span.startCycle) (endFits : ¬ clock.Saturates span.endCycle) :
    (clock.spanNs span.durationCycles).toInt - 1 ≤ (clock.lengthNs span).toInt := by
  have near := (clock.unclampedNs_sub_near forward).1
  rw [toInt_lengthNs, toInt_spanNs, clock.toInt_wallNs startFits, clock.toInt_wallNs endFits]
  omega

theorem spanNs_zero : clock.spanNs 0 = 0 :=
  congrArg clampInt64 clock.offsetNs_zero

end Clock

/-- The length that is stored with a span is never negative and is zero for a span
that ends no later than it starts.  It is at most a nanosecond more than its cycles
take, and at most a nanosecond less if both of its times fit. -/
theorem stored_duration_agrees_with_cycles (clock : Clock) (pairing : Pairing) {index : Nat}
    {device : UInt32} {span : TaskSpan} (paired : pairing.spans[index]? = some (device, span)) :
    ∃ timed duration, (pairing.finish clock).records[index]? = some timed ∧
      timed.device = device ∧ timed.record = .taskTime span ∧
      timed.column? "duration_ns" = some (.integer duration) ∧
      0 ≤ duration ∧
      (span.durationCycles = 0 ↔ span.endCycle ≤ span.startCycle) ∧
      (span.endCycle ≤ span.startCycle → duration = 0) ∧
      duration.toInt ≤ (clock.spanNs span.durationCycles).toInt + 1 ∧
      (¬ clock.Saturates span.startCycle → ¬ clock.Saturates span.endCycle →
        (duration.toInt - (clock.spanNs span.durationCycles).toInt).natAbs ≤ 1) := by
  have stamped : (pairing.finish clock).records[index]? =
      some (clock.timeRecord device (.taskTime span)).1 := by
    simp [Pairing.finish, paired]
  refine ⟨_, clock.lengthNs span, stamped, rfl, rfl, clock.column_duration span device,
    clock.lengthNs_nonneg span, TaskSpan.durationCycles_eq_zero_iff,
    clock.lengthNs_of_backward, ?_⟩
  by_cases forward : span.startCycle ≤ span.endCycle
  · have upper := clock.lengthNs_le_of_forward forward
    refine ⟨upper, ?_⟩
    intro startFits endFits
    have lower := clock.lengthNs_ge_of_forward forward startFits endFits
    omega
  · have backward : span.endCycle ≤ span.startCycle := UInt64.le_of_lt (UInt64.not_le.mp forward)
    rw [clock.lengthNs_of_backward backward, TaskSpan.durationCycles_eq_zero_iff.mpr backward,
      clock.spanNs_zero]
    exact ⟨by decide, fun _ _ => by decide⟩

/-- Five cycles take 130.2 nanoseconds, and their ends are stored 131 apart. -/
theorem stored_duration_agrees_with_cycles_five_cycles :
    let clock : Clock := ⟨⟨1000, 5000000000, 38.4⟩, 38400000, none, by decide⟩
    let span : TaskSpan := ⟨1, 5, 12, 1019, 1024⟩
    let pairing : Pairing := { spans := [(0, span)] }
    pairing.spans[0]? = some (0, span) ∧ clock.lengthNs span = 131 ∧
      clock.spanNs span.durationCycles = 130 ∧
      ¬ clock.Saturates span.startCycle ∧ ¬ clock.Saturates span.endCycle ∧
      ∃ timed duration, (pairing.finish clock).records[0]? = some timed ∧
        timed.column? "duration_ns" = some (.integer duration) ∧
        duration.toInt ≤ (clock.spanNs span.durationCycles).toInt + 1 ∧
        (duration.toInt - (clock.spanNs span.durationCycles).toInt).natAbs ≤ 1 := by
  intro clock span pairing
  have startFits : ¬ clock.Saturates span.startCycle := by decide
  have endFits : ¬ clock.Saturates span.endCycle := by decide
  have paired : pairing.spans[0]? = some (0, span) := rfl
  obtain ⟨timed, duration, stored, -, -, column, -, -, -, upper, near⟩ :=
    stored_duration_agrees_with_cycles clock pairing paired
  exact ⟨paired, by decide, by decide, startFits, endFits, timed, duration, stored, column, upper,
    near startFits endFits⟩

end AcceleratorTrace
