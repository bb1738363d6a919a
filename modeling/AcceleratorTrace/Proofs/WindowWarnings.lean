import AcceleratorTrace.Proofs.SucceededTask

/-!
# What the window of a run changes

The window of a run is for warnings alone.  Everything else that is read, paired,
written or reported comes out as if the clock had no window, and the warnings are one
for each time of a record that lies outside, in the order of the records.
-/

namespace AcceleratorTrace

/-- The clock with no window. -/
def Clock.unbounded (clock : Clock) : Clock := { clock with window := none }

def Context.unbounded (context : Context) : Context :=
  { context with clock := context.clock.unbounded }

def SliceReading.unwarned (reading : SliceReading) : SliceReading := { reading with warnings := [] }

def SliceFailure.unwarned (failure : SliceFailure) : SliceFailure := { failure with warnings := [] }

/-- What reading a slice gives, but for its warnings. -/
def unwarnedSlice : Except SliceFailure SliceReading → Except SliceFailure SliceReading
  | .error failure => .error failure.unwarned
  | .ok reading => .ok reading.unwarned

def Totals.unwarned (totals : Totals) : Totals := { totals with warnings := 0 }

def TaskFailure.unwarned : TaskFailure → TaskFailure
  | .undecodable path failure => .undecodable path failure.unwarned
  | failure => failure

def TaskStatus.unwarned : TaskStatus → TaskStatus
  | .failed failure => .failed failure.unwarned
  | status => status

/-- A report but for its number of warnings, and for those that came before a record
that does not decode. -/
def Report.unwarned (report : Report) : Report :=
  { report with status := report.status.unwarned, totals := report.totals.unwarned }

/-- What was read, but for its warnings and its log. -/
def FilesReading.unwarned (reading : FilesReading) : FilesReading :=
  { totals := reading.totals.unwarned
    records := reading.records
    error := reading.error.map TaskFailure.unwarned }

def PairingSummary.unwarned (summary : PairingSummary) : PairingSummary :=
  { summary with warnings := [] }

theorem Totals.unwarned_add (first second : Totals) :
    (first.add second).unwarned = first.unwarned.add second.unwarned := rfl

theorem TaskStatus.reason?_unwarned (status : TaskStatus) :
    status.unwarned.reason? = status.reason? := by
  cases status with
  | failed failure => cases failure <;> rfl
  | _ => rfl

namespace Clock

theorem timeRecord_unbounded (clock : Clock) (device : UInt32) (record : Record) :
    clock.unbounded.timeRecord device record = ((clock.timeRecord device record).1, []) := by
  cases ends : record.endCycle? with
  | none => simp only [timeRecord, ends]; rfl
  | some endCycle => simp only [timeRecord, ends]; rfl

end Clock

section Reading

variable {decoder : Decoder} {clock : Clock} {device : UInt32}

theorem readChunks_unbounded (index : Nat) (raws : List (List UInt8)) :
    readChunks decoder clock.unbounded device index raws =
      match readChunks decoder clock device index raws with
      | .error failure => .error failure.unwarned
      | .ok (records, _) => .ok (records, []) := by
  induction raws generalizing index with
  | nil => rfl
  | cons raw rest induction =>
      cases decoded : decoder.decode raw with
      | error error => simp only [readChunks, decoded]; rfl
      | ok record =>
          simp only [readChunks, decoded, clock.timeRecord_unbounded, induction (index + 1)]
          cases later : readChunks decoder clock device (index + 1) rest <;> rfl

theorem readSlice_unbounded (bytes : List UInt8) :
    readSlice decoder clock.unbounded device bytes =
      unwarnedSlice (readSlice decoder clock device bytes) := by
  simp only [readSlice, readChunks_unbounded]
  cases readChunks decoder clock device 0 (chunks decoder.recordSize bytes) <;> rfl

theorem readFiles_unbounded {read : FilePath → Except FileFault (List UInt8)}
    (files : List SliceFile) :
    (readFiles read decoder clock.unbounded files).unwarned =
      (readFiles read decoder clock files).unwarned := by
  induction files with
  | nil => rfl
  | cons file rest induction =>
      cases readable : read file.path with
      | error fault => simp only [readFiles, readable]
      | ok bytes =>
          simp only [readFiles, readable, readSlice_unbounded]
          cases slice : readSlice decoder clock file.device bytes with
          | error failure => rfl
          | ok reading =>
              have totals := congrArg FilesReading.totals induction
              have records := congrArg FilesReading.records induction
              have error := congrArg FilesReading.error induction
              simp only [FilesReading.unwarned] at totals records error
              simp only [FilesReading.unwarned, unwarnedSlice, SliceReading.unwarned,
                Totals.unwarned_add, totals, records, error]
              rfl

theorem finish_unbounded (pairing : Pairing) :
    pairing.finish clock.unbounded = (pairing.finish clock).unwarned := by
  simp [Pairing.finish, PairingSummary.unwarned, clock.timeRecord_unbounded]

theorem taskSpans_unbounded (engine : Engine) (records : List TimedRecord) :
    taskSpans engine clock.unbounded records =
      (taskSpans engine clock records).map PairingSummary.unwarned := by
  unfold taskSpans
  split
  · exact congrArg some (finish_unbounded _)
  · rfl

end Reading

section Task

variable {context : Context} {sink : Sink} {obstacles : Obstacles} {engine : Engine}
  {store : Store}

theorem taskBatch_unwarned (spans : Option PairingSummary) (records : List TimedRecord) :
    taskBatch (spans.map PairingSummary.unwarned) records = taskBatch spans records := by
  cases spans <;> rfl

theorem fullReport_unwarned (reading : FilesReading) (spans : Option PairingSummary) :
    fullReport engine reading.unwarned (spans.map PairingSummary.unwarned) =
      (fullReport engine reading spans).unwarned := by
  cases spans <;> rfl

theorem afterWrite_unwarned (report : Report) (result : Except StoreError (List (Table × Nat))) :
    report.unwarned.afterWrite result = (report.afterWrite result).unwarned := by
  cases result <;> rfl

theorem writeReading_unwarned (reading : FilesReading) :
    let outcome := writeReading context sink obstacles engine reading store
    let plain := writeReading context.unbounded sink obstacles engine reading.unwarned store
    outcome.store = plain.store ∧ outcome.report.unwarned = plain.report := by
  intro outcome plain
  cases sound : reading.error with
  | some error =>
      have failed : reading.unwarned.error = some error.unwarned := by
        simp only [FilesReading.unwarned, sound, Option.map_some]
      have left : outcome = _ := writeReading_of_error sound
      have right : plain = _ := writeReading_of_error failed
      rw [left, right]
      exact ⟨rfl, rfl⟩
  | none =>
      have good : reading.unwarned.error = none := by
        simp only [FilesReading.unwarned, sound, Option.map_none]
      have spans : taskSpans engine context.unbounded.clock reading.unwarned.records =
          (taskSpans engine context.clock reading.records).map PairingSummary.unwarned :=
        taskSpans_unbounded engine reading.records
      have batch : taskBatch (taskSpans engine context.unbounded.clock reading.unwarned.records)
          reading.unwarned.records =
            taskBatch (taskSpans engine context.clock reading.records) reading.records := by
        rw [spans]
        exact taskBatch_unwarned _ _
      have report : fullReport engine reading.unwarned
          (taskSpans engine context.unbounded.clock reading.unwarned.records) =
            (fullReport engine reading
              (taskSpans engine context.clock reading.records)).unwarned := by
        rw [spans, fullReport_unwarned]
      simp only [outcome, plain, writeReading, sound, good, batch, report]
      split
      · exact ⟨rfl, rfl⟩
      · exact ⟨rfl, (afterWrite_unwarned _ _).symm⟩

variable {dispatcher : Dispatcher} {read : FilePath → Except FileFault (List UInt8)}
  {cancelled : Bool} {files : List SliceFile}

/-- A task leaves the store, and all of its report but the warnings, as it would with no
window at all. -/
theorem runTask_unwarned :
    let outcome := runTask dispatcher context sink read obstacles cancelled engine files store
    let plain :=
      runTask dispatcher context.unbounded sink read obstacles cancelled engine files store
    outcome.store = plain.store ∧ outcome.report.unwarned = plain.report.unwarned := by
  intro outcome plain
  cases cancelled with
  | true => exact ⟨rfl, rfl⟩
  | false =>
      cases supported : dispatcher.decoderFor context.chip engine with
      | error pair =>
          have skipped : ∀ context : Context,
              dispatcher.decoderFor context.chip engine = .error pair →
              runTask dispatcher context sink read obstacles false engine files store =
                ⟨{ engine, status := .skipped (.unsupported pair) }, store, []⟩ := by
            intro context unsupported
            simp only [runTask, unsupported]
            rfl
          rw [show outcome = _ from skipped context supported,
            show plain = _ from skipped context.unbounded supported]
          exact ⟨rfl, rfl⟩
      | ok decoder =>
          have ran : outcome = _ := runTask_of_supported supported
          have ranPlain : plain = writeReading context.unbounded sink obstacles engine
              (readFiles read decoder context.unbounded.clock files) store :=
            runTask_of_supported supported
          have left := @writeReading_unwarned context sink obstacles engine store
            (readFiles read decoder context.clock files)
          have right := @writeReading_unwarned context.unbounded sink obstacles engine store
            (readFiles read decoder context.unbounded.clock files)
          have readings : (readFiles read decoder context.unbounded.clock files).unwarned =
              (readFiles read decoder context.clock files).unwarned := readFiles_unbounded files
          rw [ran, ranPlain, left.1, left.2, right.1, right.2, readings]
          exact ⟨rfl, rfl⟩

end Task

/-- The cycle counts of a record that are given wall times, the start first. -/
def Record.cycles (record : Record) : List UInt64 :=
  record.startCycle :: record.endCycle?.toList

/-- The time lies before the window or after it. -/
def Window.Excludes (window : Window) (wallNs : Int64) : Prop :=
  wallNs.toInt < window.startNs.toInt ∨ window.endNs.toInt < wallNs.toInt

instance (window : Window) (wallNs : Int64) : Decidable (window.Excludes wallNs) :=
  inferInstanceAs (Decidable (_ ∨ _))

namespace Clock

/-- One warning for each time of the records outside the window, in order. -/
def violations (clock : Clock) (records : List Record) : List TimeWarning :=
  match clock.window with
  | none => []
  | some window =>
      ((records.flatMap Record.cycles).filter fun cycle =>
        decide (window.Excludes (clock.wallNs cycle))).map fun cycle =>
          ⟨cycle, clock.wallNs cycle, window⟩

theorem contains_eq_false_iff (window : Window) (wallNs : Int64) :
    window.contains wallNs = false ↔ window.Excludes wallNs := by
  simp only [Window.contains, Window.Excludes, Bool.and_eq_false_iff, decide_eq_false_iff_not,
    Int64.le_iff_toInt_le]
  omega

theorem violations_append (clock : Clock) (first second : List Record) :
    clock.violations (first ++ second) = clock.violations first ++ clock.violations second := by
  unfold violations
  split
  · rfl
  · rw [List.flatMap_append, List.filter_append, List.map_append]

theorem violations_eq_flatMap (clock : Clock) (records : List Record) :
    clock.violations records = (records.flatMap Record.cycles).flatMap fun cycle =>
      (clock.observe cycle).2.toList := by
  unfold violations
  cases bounded : clock.window with
  | none => simp [observe, warning?, bounded]
  | some window =>
      induction records.flatMap Record.cycles with
      | nil => rfl
      | cons cycle cycles induction =>
          rw [List.flatMap_cons, ← induction]
          simp only [observe, warning?, bounded]
          cases inside : window.contains (clock.wallNs cycle) with
          | true =>
              have notOutside : ¬ window.Excludes (clock.wallNs cycle) := by
                rw [← contains_eq_false_iff, inside]
                nofun
              simp [notOutside]
          | false => simp [(contains_eq_false_iff _ _).mp inside]

theorem timeRecord_warnings (clock : Clock) (device : UInt32) (record : Record) :
    (clock.timeRecord device record).2 = record.cycles.flatMap fun cycle =>
      (clock.observe cycle).2.toList := by
  cases ends : record.endCycle? with
  | none => simp [timeRecord, Record.cycles, ends]
  | some endCycle => simp [timeRecord, Record.cycles, ends]

theorem timeWarnings_eq_violations (clock : Clock) (device : UInt32) (records : List Record) :
    clock.timeWarnings device records = clock.violations records := by
  simp only [timeWarnings, timeRecord_warnings, violations_eq_flatMap, List.flatMap_assoc]

theorem timed_record (clock : Clock) (device : UInt32) (records : List Record) :
    (clock.timed device records).map TimedRecord.record = records := by
  simp [timed, timeRecord_eq, Function.comp_def]

end Clock

section Warnings

variable {decoder : Decoder} {clock : Clock} {device : UInt32}
  {read : FilePath → Except FileFault (List UInt8)}

theorem readSlice_violations {bytes : List UInt8} {reading : SliceReading}
    (sound : readSlice decoder clock device bytes = .ok reading) :
    (∀ timed ∈ reading.records, timed.startNs = some (clock.wallNs timed.record.startCycle) ∧
        timed.endNs = timed.record.endCycle?.map clock.wallNs) ∧
      reading.warnings = clock.violations (reading.records.map TimedRecord.record) := by
  obtain ⟨records, -, rfl⟩ := (readSlice_eq_ok_iff bytes reading).mp sound
  constructor
  · intro timed member
    obtain ⟨record, -, rfl⟩ := List.mem_map.mp member
    rw [clock.timeRecord_eq]
    exact ⟨rfl, rfl⟩
  · rw [clock.timed_record, clock.timeWarnings_eq_violations]

theorem finish_violations (pairing : Pairing) :
    (pairing.finish clock).warnings =
      clock.violations ((pairing.finish clock).records.map TimedRecord.record) := by
  have recorded : (pairing.finish clock).records.map TimedRecord.record =
      pairing.spans.map fun span => .taskTime span.2 := by
    simp [Pairing.finish, clock.timeRecord_eq, Function.comp_def]
  rw [recorded, clock.violations_eq_flatMap, List.flatMap_assoc, List.flatMap_map]
  simp [Pairing.finish, List.flatMap_map, Clock.timeRecord_warnings]

theorem readFiles_violations {files : List SliceFile}
    (sound : (readFiles read decoder clock files).error = none) :
    (readFiles read decoder clock files).totals.warnings =
      (clock.violations ((files.flatMap (fileRecords read decoder clock)).map
        TimedRecord.record)).length := by
  induction files with
  | nil => simp [readFiles, clock.violations_eq_flatMap]
  | cons file rest induction =>
      cases readable : read file.path with
      | error fault => simp [readFiles, readable] at sound
      | ok bytes =>
          cases slice : readSlice decoder clock file.device bytes with
          | error failure => simp [readFiles, readable, slice] at sound
          | ok reading =>
              rw [readFiles_cons_of_ok rest readable slice] at sound ⊢
              rw [List.flatMap_cons, List.map_append, clock.violations_append, List.length_append,
                fileRecords_of_sound readable slice, ← induction sound,
                ← (readSlice_violations slice).2]
              rfl

end Warnings

section Succeeded

variable {dispatcher : Dispatcher} {context : Context} {sink : Sink}
  {read : FilePath → Except FileFault (List UInt8)} {obstacles : Obstacles} {cancelled : Bool}
  {engine : Engine} {files : List SliceFile} {store : Store}

theorem writeReading_warnings {reading : FilesReading}
    (succeeded : (writeReading context sink obstacles engine reading store).report.status =
      .succeeded) :
    reading.error = none ∧
      (writeReading context sink obstacles engine reading store).report.totals.warnings =
        (fullReport engine reading
          (taskSpans engine context.clock reading.records)).totals.warnings := by
  cases sound : reading.error with
  | some error =>
      rw [writeReading_of_error sound] at succeeded
      cases succeeded
  | none =>
      refine ⟨rfl, ?_⟩
      simp only [writeReading, sound]
      split
      · rfl
      · cases (sink.openAndWrite obstacles (taskBatch
          (taskSpans engine context.clock reading.records) reading.records) store).result <;> rfl

/-- A task that succeeded reports one warning for each time outside the window, over all
records of its files and all spans made of them. -/
theorem runTask_warnings
    (succeeded : (runTask dispatcher context sink read obstacles cancelled engine files
      store).report.status = .succeeded) :
    ∃ decoder, dispatcher.decoderFor context.chip engine = .ok decoder ∧
      let records := files.flatMap (fileRecords read decoder context.clock)
      let spans := if engine = .starsLog then (pairRecords context.clock records).records else []
      (runTask dispatcher context sink read obstacles cancelled engine files
          store).report.totals.warnings =
        (context.clock.violations (records.map TimedRecord.record)).length +
          (context.clock.violations (spans.map TimedRecord.record)).length := by
  cases cancelled with
  | true => simp [runTask] at succeeded
  | false =>
      cases supported : dispatcher.decoderFor context.chip engine with
      | error pair => simp [runTask, supported] at succeeded
      | ok decoder =>
          rw [runTask_of_supported supported] at succeeded ⊢
          obtain ⟨sound, warnings⟩ := writeReading_warnings succeeded
          refine ⟨decoder, rfl, ?_⟩
          intro records spans
          have read := readFiles_records sound
          rw [warnings, read]
          by_cases scheduler : engine = .starsLog
          · have paired : spans = (pairRecords context.clock records).records := if_pos scheduler
            have counted := @finish_violations context.clock (Pairing.extend {} records)
            simp only [taskSpans, if_pos scheduler, fullReport, readFiles_violations sound, paired]
            exact congrArg (_ + List.length ·) counted
          · have none : spans = [] := if_neg scheduler
            simp only [taskSpans, if_neg scheduler, fullReport, readFiles_violations sound, none,
              List.map_nil, Clock.violations_eq_flatMap, List.flatMap_nil, List.length_nil,
              Nat.add_zero]
            rfl

end Succeeded

/-- The window of a run only ever makes warnings.  Under two clocks that differ in nothing
but the window, a slice reads the same and a task writes and reports the same but for
warnings.  A slice has exactly one warning for each start and end of its records whose
wall time lies outside the window, and a task that succeeded reports how many there are
among the records of its files and the spans made of them. -/
theorem window_only_warns {first second : Context} (same : first.unbounded = second.unbounded)
    (decoder : Decoder) (device : UInt32) (bytes : List UInt8) (dispatcher : Dispatcher)
    (sink : Sink) (read : FilePath → Except FileFault (List UInt8)) (obstacles : Obstacles)
    (cancelled : Bool) (engine : Engine) (files : List SliceFile) (store : Store) :
    let task := fun context =>
      runTask dispatcher context sink read obstacles cancelled engine files store
    unwarnedSlice (readSlice decoder first.clock device bytes) =
        unwarnedSlice (readSlice decoder second.clock device bytes) ∧
      (task first).store = (task second).store ∧
      (task first).report.unwarned = (task second).report.unwarned ∧
      (task first).report.status.reason? = (task second).report.status.reason? ∧
      (∀ reading, readSlice decoder first.clock device bytes = .ok reading →
        (∀ timed ∈ reading.records,
          timed.startNs = some (first.clock.wallNs timed.record.startCycle) ∧
            timed.endNs = timed.record.endCycle?.map first.clock.wallNs) ∧
        reading.warnings = first.clock.violations (reading.records.map TimedRecord.record)) ∧
      ((task first).report.status = .succeeded → ∃ decoder,
        dispatcher.decoderFor first.chip engine = .ok decoder ∧
          let records := files.flatMap (fileRecords read decoder first.clock)
          let spans := if engine = .starsLog then (pairRecords first.clock records).records else []
          (task first).report.totals.warnings =
            (first.clock.violations (records.map TimedRecord.record)).length +
              (first.clock.violations (spans.map TimedRecord.record)).length) := by
  intro task
  have clocks : first.clock.unbounded = second.clock.unbounded := congrArg Context.clock same
  have left := @runTask_unwarned first sink obstacles engine store dispatcher read cancelled files
  have right := @runTask_unwarned second sink obstacles engine store dispatcher read cancelled files
  have reports : (task first).report.unwarned = (task second).report.unwarned := by
    rw [left.2, right.2, same]
  refine ⟨?_, ?_, reports, ?_, fun reading sound => readSlice_violations sound, runTask_warnings⟩
  · rw [← readSlice_unbounded, ← readSlice_unbounded, clocks]
  · rw [left.1, right.1, same]
  · have reasons := congrArg (fun report => report.status.reason?) reports
    simpa only [Report.unwarned, TaskStatus.reason?_unwarned] using reasons

/-- A window that ends before it starts has every time outside: those of a start and an
end, and both times of the span that they make. -/
theorem window_only_warns_backward_window :
    let clock : Clock := ⟨⟨0, 0, 1.0⟩, 1000000, none, by decide⟩
    let free : Context := ⟨"run", .gen4, clock, "run/sqlite/device_trace.db"⟩
    let bounded : Context := { free with clock := { clock with window := some ⟨10, 5⟩ } }
    let read := fun _ : FilePath =>
      Except.ok (List.replicate 32 (0 : UInt8) ++ 1 :: List.replicate 31 0)
    let task := fun context => runTask ⟨Dispatcher.builtinRegistrations⟩ context
      ⟨context.storePath, 3⟩ read {} false .starsLog [⟨"stars_soc.data.0.slice_0", 0, 0⟩] {}
    bounded.unbounded = free.unbounded ∧ (task bounded).report.status = .succeeded ∧
      (task bounded).report.totals = ⟨1, 2, 0, 4⟩ ∧ (task free).report.totals = ⟨1, 2, 0, 0⟩ ∧
      (task bounded).store = (task free).store ∧
      (task bounded).report.unwarned = (task free).report.unwarned := by
  intro clock free bounded read task
  have same : bounded.unbounded = free.unbounded := rfl
  obtain ⟨-, stores, reports, -⟩ := window_only_warns same .starsLog 0 []
    ⟨Dispatcher.builtinRegistrations⟩ ⟨free.storePath, 3⟩ read {} false .starsLog
    [⟨"stars_soc.data.0.slice_0", 0, 0⟩] {}
  exact ⟨same, by decide +kernel, by decide +kernel, by decide +kernel, stores, reports⟩

end AcceleratorTrace
