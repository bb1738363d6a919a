import AcceleratorTrace.Proofs.TaskWrites

/-!
# Nothing is lost on the way to the store

A task whose files are all good, and whose batch the store takes, adds to its
table one row for each whole record of each file, in the order in which the
records were written, and reports exactly that.
-/

namespace AcceleratorTrace

/-- The files of an engine as a task gets them: found in a directory or given as
paths. -/
inductive FileSet (engine : Engine) : List SliceFile → Prop where
  | found {directory : String} {entries : List DirectoryEntry} {files : List SliceFile}
      (member : (engine, files) ∈ groupSlices directory entries) : FileSet engine files
  | given (paths : List FilePath) : FileSet engine (filesOfPaths paths)

theorem FileSet.ordered {engine : Engine} {files : List SliceFile}
    (gathered : FileSet engine files) :
    files.Pairwise fun first second => first.device < second.device ∨
      first.device = second.device ∧ first.slice ≤ second.slice := by
  simp only [← SliceFile.before_iff]
  cases gathered with
  | found member =>
      obtain ⟨other, -, grouped⟩ := List.mem_filterMap.mp member
      split at grouped
      · cases grouped
      · cases grouped
        exact pairwise_sortFiles _
  | given paths => exact pairwise_sortFiles _

/-- The records of files with their times, files in order and records by index. -/
def timedRecords (clock : Clock) (size : Nat) (contents : SliceFile → List UInt8)
    (record : SliceFile → Nat → Record) (files : List SliceFile) : List TimedRecord :=
  files.flatMap fun file => (List.range ((contents file).length / size)).map fun index =>
    (clock.timeRecord file.device (record file index)).1

/-- Every byte is part of a record or of a fragment. -/
theorem timedRecords_bytes (clock : Clock) (size : Nat) (contents : SliceFile → List UInt8)
    (record : SliceFile → Nat → Record) (files : List SliceFile) :
    (timedRecords clock size contents record files).length * size +
        (files.map fun file => (contents file).length % size).sum =
      (files.map fun file => (contents file).length).sum := by
  induction files with
  | nil => simp [timedRecords]
  | cons file rest induction =>
      have bytes := Nat.div_add_mod' (contents file).length size
      simp only [timedRecords, List.flatMap_cons, List.length_append, List.length_map,
        List.length_range, List.map_cons, List.sum_cons, Nat.add_mul] at induction ⊢
      omega

section GoodFiles

variable {read : FilePath → Except FileFault (List UInt8)} {decoder : Decoder} {clock : Clock}

theorem readSlice_of_decodable {device : UInt32} {bytes : List UInt8} {record : Nat → Record}
    (decodable : ∀ index < bytes.length / decoder.recordSize,
      decoder.decode (chunkAt decoder.recordSize bytes index) = .ok (record index)) :
    let records := (List.range (bytes.length / decoder.recordSize)).map record
    readSlice decoder clock device bytes =
      .ok ⟨clock.timed device records, bytes.length % decoder.recordSize,
        clock.timeWarnings device records⟩ := by
  intro records
  refine (readSlice_eq_ok_iff bytes _).mpr ⟨records, ?_, rfl⟩
  rw [chunks_eq_map_range decoder.recordSize_pos, List.map_map, List.map_map]
  apply List.map_congr_left
  intro index member
  exact decodable index (List.mem_range.mp member)

theorem readFiles_of_good {files : List SliceFile} {contents : SliceFile → List UInt8}
    {record : SliceFile → Nat → Record}
    (readable : ∀ file ∈ files, read file.path = .ok (contents file))
    (decodable : ∀ file ∈ files, ∀ index < (contents file).length / decoder.recordSize,
      decoder.decode (chunkAt decoder.recordSize (contents file) index) =
        .ok (record file index)) :
    let reading := readFiles read decoder clock files
    reading.error = none ∧
      reading.records = timedRecords clock decoder.recordSize contents record files ∧
      reading.totals.files = files.length ∧
      reading.totals.records = reading.records.length ∧
      reading.totals.records * decoder.recordSize + reading.totals.fragmentBytes =
        (files.map fun file => (contents file).length).sum := by
  intro reading
  obtain ⟨unfailing, records, totals⟩ := readFiles_of_sound fun file member =>
    ⟨contents file, readable file member,
      @readSlice_of_decodable decoder clock file.device _ _ (decodable file member)⟩
  have joined : reading.records =
      timedRecords clock decoder.recordSize contents record files := by
    simp only [reading, records, timedRecords, Clock.timed, List.map_map, Function.comp_def]
  refine ⟨unfailing, joined, ?_, ?_, ?_⟩
  · simp only [reading, totals]
  · simp only [reading, totals, records]
  · rw [← timedRecords_bytes clock decoder.recordSize contents record files, ← joined]
    simp only [reading, totals, records]

end GoodFiles

theorem writeTables_taskParts {sink : Sink} {faults : Table → Faults} {engine : Engine}
    {clock : Clock} {records : List TimedRecord} {store : Store} {counts : List (Table × Nat)}
    (own : ∀ record ∈ records, record.record.table = engine.table)
    (success : (sink.writeTables faults (taskParts engine clock records) store).result =
      .ok counts) :
    let written := (sink.writeTables faults (taskParts engine clock records) store).store
    written.rows engine.table = store.rows engine.table ++ records.map TimedRecord.row ∧
      counts.lookup engine.table = (if records = [] then none else some records.length) ∧
      (records = [] → written.tables.get engine.table = store.tables.get engine.table) := by
  intro written
  obtain ⟨counted, held⟩ := Sink.writeTables_ok (nodup_taskParts own) success
  by_cases empty : records = []
  · have elsewhere : ∀ part ∈ taskParts engine clock records, part.1 ≠ engine.table := by
      intro part member
      rcases mem_taskParts member with ⟨some, -⟩ | ⟨-, rfl⟩
      · exact absurd empty some
      · exact engine.table_ne_taskTime.symm
    have untouched : written.tables.get engine.table = store.tables.get engine.table :=
      Sink.writeTables_frame _ store elsewhere
    have uncounted : counts.lookup engine.table = none := by
      rw [counted, List.lookup_eq_none_iff]
      intro count member
      obtain ⟨part, partMember, rfl⟩ := List.mem_map.mp member
      exact bne_iff_ne.mpr (elsewhere part partMember).symm
    refine ⟨?_, ?_, fun _ => untouched⟩
    · rw [Store.rows_eq_of_get_eq untouched, empty, List.map_nil, List.append_nil]
    · rw [uncounted, if_pos empty]
  · have first := @taskParts_of_ne_nil engine clock records empty
    have added := held (engine.table, records) (by rw [first]; exact List.mem_cons_self)
    refine ⟨?_, ?_, fun none => absurd none empty⟩
    · simp only [written, Store.rows, added, Sink.keptRows, engine.policy_table]
    · rw [counted, first, if_neg empty]
      simp

/-- The store takes a batch: if there is anything to write, it is written to the
end. -/
def Sink.Accepts (sink : Sink) (obstacles : Obstacles) (batch : Batch) (store : Store) : Prop :=
  batch.isEmpty = false → ∃ counts, (sink.openAndWrite obstacles batch store).result = .ok counts

section Task

variable {context : Context} {sink : Sink} {obstacles : Obstacles} {engine : Engine}
  {reading : FilesReading} {store : Store}

theorem writeReading_of_accepts (sound : reading.error = none)
    (own : ∀ record ∈ reading.records, record.record.table = engine.table)
    (accepted : sink.Accepts obstacles
      (taskBatch (taskSpans engine context.clock reading.records) reading.records) store) :
    let report := fullReport engine reading (taskSpans engine context.clock reading.records)
    let parts := taskParts engine context.clock reading.records
    let outcome := writeReading context sink obstacles engine reading store
    ∃ counts, (sink.writeTables obstacles.writing parts store).result = .ok counts ∧
      outcome.report = report.afterWrite (.ok counts) ∧
      outcome.store = (sink.writeTables obstacles.writing parts store).store := by
  intro report parts outcome
  have present : (taskBatch (taskSpans engine context.clock reading.records)
      reading.records).present = parts := present_taskBatch context.clock own
  cases empty : (taskBatch (taskSpans engine context.clock reading.records)
      reading.records).isEmpty with
  | true =>
      have nothing : parts = [] := by
        rw [← present]
        exact (Batch.isEmpty_iff _).mp empty
      rw [nothing]
      refine ⟨[], rfl, ?_, ?_⟩
      · rw [fullReport_afterWrite_nil]
        simp only [outcome, writeReading, sound, empty, if_true]
      · simp only [outcome, writeReading, sound, empty, if_true, Sink.writeTables]
  | false =>
      obtain ⟨counts, success⟩ := accepted empty
      cases opening : obstacles.opening with
      | some error => simp [Sink.openAndWrite, opening] at success
      | none =>
          simp only [Sink.openAndWrite, opening, Sink.writeBatch, present] at success
          obtain ⟨reported, left⟩ := @writeReading_of_open context sink obstacles engine reading
            store sound own opening
          refine ⟨counts, success, ?_, left⟩
          rw [reported, success]

theorem accepts_of_clear {clock : Clock} {records : List TimedRecord}
    (own : ∀ record ∈ records, record.record.table = engine.table)
    (opened : obstacles.opening = none) (countable : sink.limit < UInt32.size)
    (quiet : ∀ table step, obstacles.writing table 1 step = none)
    (usable : ∀ table ∈ engine.tables, store.tables.get table ≠ some .foreign) :
    sink.Accepts obstacles (taskBatch (taskSpans engine clock records) records) store := by
  intro _
  simp only [Sink.openAndWrite, opened, Sink.writeBatch, present_taskBatch clock own]
  apply Sink.writeTables_of_clear countable
  · exact fun part _ => quiet part.1
  · exact taskParts_own own
  · exact fun part member => usable part.1 (taskParts_within part member)

theorem fullReport_afterWrite_ok (engine : Engine) (reading : FilesReading)
    (spans : Option PairingSummary) (counts : List (Table × Nat)) :
    let report := (fullReport engine reading spans).afterWrite (.ok counts)
    report.status = .succeeded ∧ report.totals.files = reading.totals.files ∧
      report.totals.records = reading.totals.records ∧
      report.totals.fragmentBytes = reading.totals.fragmentBytes ∧ report.rows = counts := by
  cases spans with
  | none => exact ⟨rfl, rfl, rfl, rfl, rfl⟩
  | some summary => exact ⟨rfl, rfl, rfl, rfl, rfl⟩

end Task

/-- A task loses, repeats and reorders nothing: with good files and a store that
takes the batch, it succeeds, accounts for every byte, and adds one row for each
whole record of each file. -/
theorem runTask_keeps_every_record {declared : List Support} {registrations : List Registration}
    {dispatcher : Dispatcher} {context : Context} {sink : Sink}
    {read : FilePath → Except FileFault (List UInt8)} {obstacles : Obstacles} {engine : Engine}
    {files : List SliceFile} {decoder : Decoder} {contents : SliceFile → List UInt8}
    {record : SliceFile → Nat → Record} {store : Store}
    (built : Dispatcher.build declared registrations = .ok dispatcher)
    (supported : dispatcher.decoderFor context.chip engine = .ok decoder)
    (gathered : FileSet engine files)
    (readable : ∀ file ∈ files, read file.path = .ok (contents file))
    (decodable : ∀ file ∈ files, ∀ index < (contents file).length / decoder.recordSize,
      decoder.decode (chunkAt decoder.recordSize (contents file) index) = .ok (record file index))
    (accepted :
      let records := timedRecords context.clock decoder.recordSize contents record files
      sink.Accepts obstacles (taskBatch (taskSpans engine context.clock records) records) store) :
    let outcome := runTask dispatcher context sink read obstacles false engine files store
    let rows := (timedRecords context.clock decoder.recordSize contents record files).map
      TimedRecord.row
    files.Pairwise (fun first second => first.device < second.device ∨
        first.device = second.device ∧ first.slice ≤ second.slice) ∧
      outcome.report.status = .succeeded ∧
      outcome.report.totals.files = files.length ∧
      outcome.report.totals.records * decoder.recordSize + outcome.report.totals.fragmentBytes =
        (files.map fun file => (contents file).length).sum ∧
      outcome.report.totals.records = rows.length ∧
      outcome.store.rows engine.table = store.rows engine.table ++ rows ∧
      outcome.report.rows.lookup engine.table =
        (if rows = [] then none else some outcome.report.totals.records) ∧
      (rows = [] → outcome.store.tables.get engine.table = store.tables.get engine.table) := by
  intro outcome rows
  obtain ⟨sound, joined, fileCount, recordCount, bytes⟩ :=
    @readFiles_of_good read decoder context.clock files contents record readable decodable
  let reading := readFiles read decoder context.clock files
  have own : ∀ record ∈ reading.records, record.record.table = engine.table := by
    rw [← Dispatcher.engine_of_decoderFor built supported]
    exact readFiles_table files
  have taken : sink.Accepts obstacles
      (taskBatch (taskSpans engine context.clock reading.records) reading.records) store := by
    rw [joined]
    exact accepted
  obtain ⟨counts, success, reported, left⟩ := writeReading_of_accepts sound own taken
  obtain ⟨added, counted, untouched⟩ := writeTables_taskParts own success
  obtain ⟨status, reportedFiles, reportedRecords, reportedBytes, reportedRows⟩ :=
    fullReport_afterWrite_ok engine reading (taskSpans engine context.clock reading.records) counts
  have ran : outcome = writeReading context sink obstacles engine reading store :=
    runTask_of_supported supported
  have rowsOfRecords : rows = reading.records.map TimedRecord.row := by
    simp only [rows, reading, joined]
  rw [ran, reported, left, rowsOfRecords]
  refine ⟨gathered.ordered, status, ?_, ?_, ?_, added, ?_, ?_⟩
  · rw [reportedFiles, fileCount]
  · rw [reportedRecords, reportedBytes, bytes]
  · rw [reportedRecords, recordCount, List.length_map]
  · rw [reportedRows, counted, reportedRecords, recordCount]
    simp only [List.map_eq_nil_iff, reading]
  · exact fun none => untouched (List.map_eq_nil_iff.mp none)

/-- Two scheduler files, each with one record and a fragment of three bytes. -/
theorem runTask_keeps_every_record_two_files :
    let context : Context :=
      ⟨"run", .gen4, ⟨⟨0, 0, 1.0⟩, 1000000, none, by decide⟩, "run/sqlite/device_trace.db"⟩
    let files := filesOfPaths ["stars_soc.data.1.slice_0", "stars_soc.data.0.slice_2"]
    let outcome := runTask ⟨Dispatcher.builtinRegistrations⟩ context ⟨context.storePath, 3⟩
      (fun _ => .ok (List.replicate 35 1)) {} false .starsLog files {}
    outcome.report.status = .succeeded ∧ outcome.report.totals.files = 2 ∧
      outcome.report.totals.records * 32 + outcome.report.totals.fragmentBytes = 70 ∧
      outcome.report.totals.records = (outcome.store.rows .starsLog).length := by
  intro context files outcome
  let event : Record := .starsLog ⟨.taskEnd, 4, 257, 257, 1, 0x0101010101010101, 0x01010101⟩
  have own : ∀ record ∈ timedRecords context.clock 32 (fun _ => List.replicate 35 1)
      (fun _ _ => event) files, record.record.table = Engine.starsLog.table := by
    intro record member
    obtain ⟨file, -, made⟩ := List.mem_flatMap.mp member
    obtain ⟨index, -, rfl⟩ := List.mem_map.mp made
    exact congrArg Record.table (timeRecord_record _ _ event)
  obtain ⟨-, status, fileCount, bytes, recordCount, rows, -⟩ :=
    @runTask_keeps_every_record Dispatcher.builtinSupport Dispatcher.builtinRegistrations
      ⟨Dispatcher.builtinRegistrations⟩ context ⟨context.storePath, 3⟩
      (fun _ => .ok (List.replicate 35 1)) {} .starsLog files .starsLog
      (fun _ => List.replicate 35 1) (fun _ _ => event) {}
      rfl rfl (.given _) (fun _ _ => rfl)
      (fun _ _ index small => by
        have first : index = 0 := by
          simp [Decoder.recordSize, Decoder.layout, StarsLog.layout] at small
          omega
        rw [first]
        rfl)
      (accepts_of_clear own rfl (by decide) (fun _ _ => rfl) (by decide))
  have count : files.length = 2 := by
    simp [files, filesOfPaths, sortFiles]
  refine ⟨status, fileCount.trans count, ?_, ?_⟩
  · refine bytes.trans ?_
    rw [List.map_const', count]
    rfl
  · refine recordCount.trans ?_
    have appended := congrArg List.length rows
    rw [List.length_append] at appended
    exact (appended.trans (Nat.zero_add _)).symm

end AcceleratorTrace
