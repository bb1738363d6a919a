import AcceleratorTrace.Proofs.Ingestion

/-!
# What a task that succeeded wrote

A task that succeeded has read all its files to the end and written all that came
of them: the records after the rows that were there, and for scheduler logs the
spans in place of them.
-/

namespace AcceleratorTrace

/-- The records of a file with their times: those of its chunks that decode.  A file
that cannot be read has none. -/
def fileRecords (read : FilePath → Except FileFault (List UInt8)) (decoder : Decoder)
    (clock : Clock) (file : SliceFile) : List TimedRecord :=
  match read file.path with
  | .error _ => []
  | .ok bytes =>
      clock.timed file.device
        ((List.range (bytes.length / decoder.recordSize)).filterMap fun index =>
          (decoder.decode (chunkAt decoder.recordSize bytes index)).toOption)

section Files

variable {read : FilePath → Except FileFault (List UInt8)} {decoder : Decoder} {clock : Clock}

theorem fileRecords_of_sound {file : SliceFile} {bytes : List UInt8} {reading : SliceReading}
    (readable : read file.path = .ok bytes)
    (sound : readSlice decoder clock file.device bytes = .ok reading) :
    fileRecords read decoder clock file = reading.records := by
  obtain ⟨records, decoded, rfl⟩ := (readSlice_eq_ok_iff bytes reading).mp sound
  rw [chunks_eq_map_range decoder.recordSize_pos, List.map_map] at decoded
  have kept := congrArg (List.filterMap Except.toOption) decoded
  rw [List.filterMap_map, List.filterMap_map] at kept
  have all : records.filterMap
      (Except.toOption ∘ (Except.ok : Record → Except DecodeError Record)) = records :=
    List.filterMap_some
  simp only [fileRecords, readable]
  rw [← all, ← kept]
  rfl

theorem readFiles_records {files : List SliceFile}
    (sound : (readFiles read decoder clock files).error = none) :
    (readFiles read decoder clock files).records =
      files.flatMap (fileRecords read decoder clock) := by
  induction files with
  | nil => rfl
  | cons file rest induction =>
      cases readable : read file.path with
      | error fault => simp [readFiles, readable] at sound
      | ok bytes =>
          cases slice : readSlice decoder clock file.device bytes with
          | error failure => simp [readFiles, readable, slice] at sound
          | ok reading =>
              rw [readFiles_cons_of_ok rest readable slice] at sound ⊢
              rw [List.flatMap_cons, fileRecords_of_sound readable slice, ← induction sound]

end Files

/-- Records have been put into the table of their engine, and those of scheduler
logs have been made into the spans. -/
structure Stored (clock : Clock) (engine : Engine) (records : List TimedRecord)
    (store after : Store) : Prop where
  rows : after.rows engine.table = store.rows engine.table ++ records.map TimedRecord.row
  spans : engine = .starsLog → after.tables.get .taskTime =
    some (.rows ((pairRecords clock records).records.map TimedRecord.row))

theorem Stored.of_agree {clock : Clock} {engine : Engine} {records : List TimedRecord}
    {store after other last : Store} (stored : Stored clock engine records store after)
    (first : Store.AgreeOn engine.tables other store)
    (second : Store.AgreeOn engine.tables last after) :
    Stored clock engine records other last := by
  constructor
  · rw [Store.rows_eq_of_get_eq (second _ engine.table_mem_tables), stored.rows,
      Store.rows_eq_of_get_eq (first _ engine.table_mem_tables)]
  · rintro rfl
    rw [second _ (by decide), stored.spans rfl]

theorem stored_of_writeTables {sink : Sink} {faults : Table → Faults} {engine : Engine}
    {clock : Clock} {records : List TimedRecord} {store : Store} {counts : List (Table × Nat)}
    (own : ∀ record ∈ records, record.record.table = engine.table)
    (success : (sink.writeTables faults (taskParts engine clock records) store).result =
      .ok counts) :
    Stored clock engine records store
      (sink.writeTables faults (taskParts engine clock records) store).store := by
  refine ⟨(writeTables_taskParts own success).1, ?_⟩
  intro scheduler
  have spansPart : (Table.taskTime, (pairRecords clock records).records) ∈
      taskParts engine clock records := by
    apply List.mem_append_right
    simp [spanParts, taskSpans, scheduler]
  have written := (Sink.writeTables_ok (nodup_taskParts own) success).2 _ spansPart
  simpa [Sink.keptRows, Table.policy] using written

section Task

variable {context : Context} {sink : Sink} {obstacles : Obstacles} {engine : Engine}
  {reading : FilesReading} {store : Store}

theorem writeReading_of_succeeded
    (own : ∀ record ∈ reading.records, record.record.table = engine.table)
    (succeeded : (writeReading context sink obstacles engine reading store).report.status =
      .succeeded) :
    let spans := taskSpans engine context.clock reading.records
    let outcome := writeReading context sink obstacles engine reading store
    reading.error = none ∧ Stored context.clock engine reading.records store outcome.store ∧
      ∃ counts, outcome.report = (fullReport engine reading spans).afterWrite (.ok counts) := by
  intro spans outcome
  cases sound : reading.error with
  | some error =>
      rw [writeReading_of_error sound] at succeeded
      cases succeeded
  | none =>
      have accepted : sink.Accepts obstacles (taskBatch spans reading.records) store := by
        intro some
        cases written : (sink.openAndWrite obstacles (taskBatch spans reading.records)
            store).result with
        | ok counts => exact ⟨counts, rfl⟩
        | error error =>
            simp only [writeReading, sound, some, spans] at succeeded written
            rw [written] at succeeded
            cases succeeded
      obtain ⟨counts, success, reported, left⟩ := writeReading_of_accepts sound own accepted
      refine ⟨rfl, ?_, counts, reported⟩
      rw [show outcome.store = _ from left]
      exact stored_of_writeTables own success

end Task

section Run

variable {declared : List Support} {registrations : List Registration} {dispatcher : Dispatcher}
  {context : Context} {sink : Sink} {read : FilePath → Except FileFault (List UInt8)}
  {obstacles : Obstacles} {cancelled : Bool} {engine : Engine} {files : List SliceFile}
  {store : Store}

/-- A task that succeeded has a decoder, and all records of its files are stored. -/
theorem runTask_of_succeeded (built : Dispatcher.build declared registrations = .ok dispatcher)
    (succeeded : (runTask dispatcher context sink read obstacles cancelled engine files
      store).report.status = .succeeded) :
    let outcome := runTask dispatcher context sink read obstacles cancelled engine files store
    ∃ decoder, dispatcher.decoderFor context.chip engine = .ok decoder ∧
      let records := files.flatMap (fileRecords read decoder context.clock)
      Stored context.clock engine records store outcome.store ∧
        (engine = .starsLog → outcome.report.unmatched =
          (pairRecords context.clock records).unmatchedStarts +
            (pairRecords context.clock records).unmatchedEnds) := by
  intro outcome
  cases cancelled with
  | true => simp [runTask] at succeeded
  | false =>
      cases supported : dispatcher.decoderFor context.chip engine with
      | error pair => simp [runTask, supported] at succeeded
      | ok decoder =>
          have own : ∀ record ∈ (readFiles read decoder context.clock files).records,
              record.record.table = engine.table := by
            rw [← Dispatcher.engine_of_decoderFor built supported]
            exact readFiles_table files
          rw [runTask_of_supported supported] at succeeded
          obtain ⟨sound, stored, counts, reported⟩ := writeReading_of_succeeded own succeeded
          have ran : outcome = writeReading context sink obstacles engine
              (readFiles read decoder context.clock files) store := runTask_of_supported supported
          refine ⟨decoder, rfl, ?_⟩
          rw [ran, ← readFiles_records sound]
          refine ⟨stored, ?_⟩
          intro scheduler
          rw [reported]
          simp [scheduler, taskSpans, fullReport, Report.afterWrite]

end Run

end AcceleratorTrace
