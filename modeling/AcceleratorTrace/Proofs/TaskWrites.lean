import AcceleratorTrace.Proofs.BatchContents
import AcceleratorTrace.Proofs.FileContents
import AcceleratorTrace.Proofs.TableWrite

/-!
# What a task writes

The batch of a task has at most two parts: the records of its files, and for
scheduler logs the spans made of them, which are written last.  A task with a
bad file writes nothing; any other writes its parts in order, as far as the
store lets it.
-/

namespace AcceleratorTrace

theorem finish_table {pairing : Pairing} {clock : Clock} {record : TimedRecord}
    (member : record ∈ (pairing.finish clock).records) : record.record.table = .taskTime := by
  simp only [Pairing.finish, List.map_map, List.mem_map] at member
  obtain ⟨⟨device, span⟩, -, rfl⟩ := member
  simp only [Function.comp, timeRecord_record]
  rfl

theorem taskSpans_table {engine : Engine} {clock : Clock} {records : List TimedRecord}
    {summary : PairingSummary} (derived : taskSpans engine clock records = some summary)
    {record : TimedRecord} (member : record ∈ summary.records) :
    record.record.table = .taskTime := by
  unfold taskSpans at derived
  split at derived
  · cases derived
    exact finish_table member
  · cases derived

theorem get_taskBatch {table : Table} {spans : Option PairingSummary}
    {records : List TimedRecord} (raw : table ≠ .taskTime)
    (own : ∀ record ∈ records, record.record.table = table)
    (derived : ∀ summary ∈ spans, ∀ record ∈ summary.records, record.record.table = .taskTime)
    (other : Table) :
    (taskBatch spans records).tables.get other =
      if other = table then (if records = [] then none else some records)
      else if other = .taskTime then spans.map PairingSummary.records else none := by
  have added : ∀ batch : Batch, batch.tables.get table = none →
      (batch.extend records).tables.get other =
        if other = table then (if records = [] then none else some records)
        else batch.tables.get other := by
    intro batch absent
    rw [Batch.get_extend]
    by_cases here : other = table
    · subst here
      rw [ofTable_eq_self own, if_pos rfl]
      simp [Batch.records, absent]
    · rw [ofTable_eq_nil own here, if_pos rfl, if_neg here]
  cases spans with
  | none => simp [taskBatch, added {} (Batch.get_empty table)]
  | some summary =>
      have spansOwn := derived summary rfl
      have held : ∀ other, (((({} : Batch).withTable .taskTime).extend summary.records)).tables.get
          other = if other = .taskTime then some summary.records else none := by
        intro other
        rw [Batch.get_extend]
        by_cases here : other = .taskTime
        · subst here
          rw [ofTable_eq_self spansOwn, Batch.get_withTable_self, if_pos rfl]
          by_cases empty : summary.records = []
          · simp [empty, Batch.records]
          · simp [empty, Batch.records, Batch.get_withTable_self]
        · rw [ofTable_eq_nil spansOwn here, if_pos rfl, if_neg here,
            Batch.get_withTable_of_ne _ here, Batch.get_empty]
      have absent := held table
      rw [if_neg raw] at absent
      simp only [taskBatch, added _ absent, held, Option.map_some]

/-- The spans that a task writes, if it makes any. -/
def spanParts (engine : Engine) (clock : Clock) (records : List TimedRecord) :
    List (Table × List TimedRecord) :=
  (taskSpans engine clock records).toList.map fun summary => (.taskTime, summary.records)

/-- What the task of an engine writes, in order: its records, if there are any,
and then its spans. -/
def taskParts (engine : Engine) (clock : Clock) (records : List TimedRecord) :
    List (Table × List TimedRecord) :=
  (if records = [] then [] else [(engine.table, records)]) ++ spanParts engine clock records

section Parts

variable {engine : Engine} {clock : Clock} {records : List TimedRecord}

theorem taskParts_of_nil (empty : records = []) :
    taskParts engine clock records = spanParts engine clock records := by
  simp [taskParts, empty]

theorem taskParts_of_ne_nil (some : records ≠ []) :
    taskParts engine clock records = (engine.table, records) :: spanParts engine clock records := by
  simp [taskParts, some]

theorem spanParts_cases :
    engine ≠ .starsLog ∧ spanParts engine clock records = [] ∨
      engine = .starsLog ∧ spanParts engine clock records =
        [(.taskTime, (pairRecords clock records).records)] := by
  by_cases scheduler : engine = .starsLog
  · exact .inr ⟨scheduler, by simp [spanParts, taskSpans, scheduler]⟩
  · exact .inl ⟨scheduler, by simp [spanParts, taskSpans, scheduler]⟩

theorem present_taskBatch (clock : Clock)
    (own : ∀ record ∈ records, record.record.table = engine.table) :
    (taskBatch (taskSpans engine clock records) records).present =
      taskParts engine clock records := by
  have derived : ∀ summary ∈ taskSpans engine clock records, ∀ record ∈ summary.records,
      record.record.table = .taskTime :=
    fun summary made record member => taskSpans_table made member
  have held := get_taskBatch engine.table_ne_taskTime own derived
  simp only [Batch.present, taskParts, spanParts, held]
  generalize taskSpans engine clock records = spans
  -- With the engine known, both sides are lists of at most two parts.
  cases engine <;> by_cases empty : records = [] <;> cases spans <;>
    simp [Table.all, Engine.table, empty]

theorem mem_taskParts {part : Table × List TimedRecord}
    (member : part ∈ taskParts engine clock records) :
    records ≠ [] ∧ part = (engine.table, records) ∨
      engine = .starsLog ∧ part = (.taskTime, (pairRecords clock records).records) := by
  rcases List.mem_append.mp member with raw | derived
  · split at raw
    · cases raw
    · rename_i some
      exact .inl ⟨some, List.mem_singleton.mp raw⟩
  · rcases spanParts_cases with ⟨-, nothing⟩ | ⟨scheduler, spans⟩
    · rw [nothing] at derived
      cases derived
    · rw [spans] at derived
      exact .inr ⟨scheduler, List.mem_singleton.mp derived⟩

theorem taskParts_within :
    ∀ part ∈ taskParts engine clock records, part.1 ∈ engine.tables := by
  intro part member
  rcases mem_taskParts member with ⟨-, rfl⟩ | ⟨rfl, rfl⟩
  · exact engine.table_mem_tables
  · exact (by decide : Table.taskTime ∈ Engine.starsLog.tables)

theorem taskParts_own (own : ∀ record ∈ records, record.record.table = engine.table) :
    ∀ part ∈ taskParts engine clock records, ∀ record ∈ part.2,
      record.record.table = part.1 := by
  intro part member
  rcases mem_taskParts member with ⟨-, rfl⟩ | ⟨rfl, rfl⟩
  · exact own
  · exact fun record => finish_table

theorem nodup_taskParts (own : ∀ record ∈ records, record.record.table = engine.table) :
    ((taskParts engine clock records).map Prod.fst).Nodup := by
  rw [← present_taskBatch clock own]
  exact Batch.nodup_present _

end Parts

section Writing

variable {context : Context} {sink : Sink} {obstacles : Obstacles} {engine : Engine}
  {reading : FilesReading} {store : Store}

theorem runTask_of_supported {dispatcher : Dispatcher}
    {read : FilePath → Except FileFault (List UInt8)} {files : List SliceFile} {decoder : Decoder}
    (supported : dispatcher.decoderFor context.chip engine = .ok decoder) :
    runTask dispatcher context sink read obstacles false engine files store =
      writeReading context sink obstacles engine (readFiles read decoder context.clock files)
        store := by
  simp only [runTask, supported, ingestFiles]
  rfl

theorem writeReading_of_error {error : TaskFailure} (failed : reading.error = some error) :
    writeReading context sink obstacles engine reading store =
      ⟨{ engine, status := .failed error, totals := reading.totals }, store, reading.log⟩ := by
  simp only [writeReading, failed]

theorem fullReport_status (engine : Engine) (reading : FilesReading)
    (spans : Option PairingSummary) : (fullReport engine reading spans).status = .succeeded := by
  cases spans <;> rfl

theorem fullReport_afterWrite_nil (engine : Engine) (reading : FilesReading)
    (spans : Option PairingSummary) :
    (fullReport engine reading spans).afterWrite (.ok []) = fullReport engine reading spans := by
  unfold fullReport
  split <;> rfl

theorem writeReading_of_open (sound : reading.error = none)
    (own : ∀ record ∈ reading.records, record.record.table = engine.table)
    (opened : obstacles.opening = none) :
    let report := fullReport engine reading (taskSpans engine context.clock reading.records)
    let parts := taskParts engine context.clock reading.records
    (writeReading context sink obstacles engine reading store).report =
        report.afterWrite (sink.writeTables obstacles.writing parts store).result ∧
      (writeReading context sink obstacles engine reading store).store =
        (sink.writeTables obstacles.writing parts store).store := by
  intro report parts
  have present := present_taskBatch context.clock own
  simp only [writeReading, sound, Sink.openAndWrite, opened, Sink.writeBatch, present]
  split
  · rename_i empty
    have nothing : parts = [] := by
      rw [← (Batch.isEmpty_iff _).mp empty]
      exact present.symm
    rw [nothing]
    exact ⟨(fullReport_afterWrite_nil engine reading _).symm, rfl⟩
  · exact ⟨rfl, rfl⟩

/-- A task that cannot open the store fails if it has anything to write. -/
theorem writeReading_of_closed {error : StoreError} (sound : reading.error = none)
    (own : ∀ record ∈ reading.records, record.record.table = engine.table)
    (closed : obstacles.opening = some error) :
    let report := fullReport engine reading (taskSpans engine context.clock reading.records)
    (writeReading context sink obstacles engine reading store).report =
        (if taskParts engine context.clock reading.records = [] then report
          else report.afterWrite (.error error)) ∧
      (writeReading context sink obstacles engine reading store).store = store := by
  intro report
  have present := present_taskBatch context.clock own
  simp only [writeReading, sound, Sink.openAndWrite, closed]
  split
  · rename_i empty
    have nothing := (Batch.isEmpty_iff _).mp empty
    rw [present] at nothing
    rw [if_pos nothing]
    exact ⟨rfl, rfl⟩
  · rename_i written
    have something : taskParts engine context.clock reading.records ≠ [] := by
      intro nothing
      rw [← present] at nothing
      exact written ((Batch.isEmpty_iff _).mpr nothing)
    rw [if_neg something]
    exact ⟨rfl, rfl⟩

/-- What a task reports, and what it leaves in the tables of its engine, depends on
these tables alone. -/
theorem writeReading_congr {first second : Store}
    (own : ∀ record ∈ reading.records, record.record.table = engine.table)
    (same : Store.AgreeOn engine.tables first second) :
    (writeReading context sink obstacles engine reading first).report =
        (writeReading context sink obstacles engine reading second).report ∧
      Store.AgreeOn engine.tables (writeReading context sink obstacles engine reading first).store
        (writeReading context sink obstacles engine reading second).store := by
  cases sound : reading.error with
  | some error =>
      rw [writeReading_of_error sound, writeReading_of_error sound]
      exact ⟨rfl, same⟩
  | none =>
      cases opening : obstacles.opening with
      | some error =>
          have left := @writeReading_of_closed context sink obstacles engine reading first error
            sound own opening
          have right := @writeReading_of_closed context sink obstacles engine reading second error
            sound own opening
          rw [left.1, left.2, right.1, right.2]
          exact ⟨rfl, same⟩
      | none =>
          have left := @writeReading_of_open context sink obstacles engine reading first
            sound own opening
          have right := @writeReading_of_open context sink obstacles engine reading second
            sound own opening
          have written := @Sink.writeTables_congr sink obstacles.writing
            (taskParts engine context.clock reading.records) engine.tables first second
            taskParts_within same
          rw [left.1, left.2, right.1, right.2, written.1]
          exact ⟨rfl, written.2⟩

end Writing

end AcceleratorTrace
