import AcceleratorTrace.Proofs.TaskWrites

/-!
# What a failed task leaves behind

A task with a bad file writes nothing, and a transaction that fails changes
nothing.  But each table has a transaction of its own, and the spans of a
scheduler log are written after its records: if only the spans fail, the records
stay.  Nothing else of a failed task is left in the store.
-/

namespace AcceleratorTrace

theorem Engine.table_name_ne_taskTime (engine : Engine) :
    engine.table.name ≠ Table.taskTime.name := by
  cases engine <;> decide

section Writes

variable {sink : Sink} {faults : Table → Faults} {engine : Engine} {clock : Clock}
  {records : List TimedRecord} {store : Store} {error : StoreError}

/-- If only the spans are to be written and this fails, nothing has changed. -/
theorem writeTables_spanParts_error
    (failure : (sink.writeTables faults (spanParts engine clock records) store).result =
      .error error) :
    (sink.writeTables faults (spanParts engine clock records) store).store = store ∧
      engine = .starsLog ∧
      (error.Names Table.taskTime.name ∨ error = .outOfRange ∧ ¬ sink.limit < UInt32.size) := by
  rcases @spanParts_cases engine clock records with ⟨-, nothing⟩ | ⟨scheduler, spans⟩
  · rw [nothing] at failure
    cases failure
  · rw [spans] at failure ⊢
    cases outcome : (sink.writeTable (faults .taskTime) .taskTime
        (pairRecords clock records).records store).result with
    | error found =>
        rw [(Sink.writeTables_cons_of_error outcome).1] at failure
        cases failure
        exact ⟨(Sink.writeTables_cons_of_error outcome).2, scheduler,
          Sink.writeTable_error_names (fun record => finish_table) outcome⟩
    | ok count =>
        rw [(Sink.writeTables_cons_of_ok outcome).1] at failure
        cases failure

/-- Writes of a task that fail leave the store as it was, unless it is the spans
that fail: then the records are in the store. -/
theorem writeTables_taskParts_error
    (own : ∀ record ∈ records, record.record.table = engine.table)
    (failure : (sink.writeTables faults (taskParts engine clock records) store).result =
      .error error) :
    let written := (sink.writeTables faults (taskParts engine clock records) store).store
    ¬ error.Names Table.taskTime.name ∧ written = store ∨
      error.Names Table.taskTime.name ∧ engine = .starsLog ∧
        (records = [] ∧ written = store ∨ written = Sink.stored engine.table records store) := by
  by_cases empty : records = []
  · rw [taskParts_of_nil empty] at failure ⊢
    obtain ⟨unchanged, scheduler, names | ⟨rfl, -⟩⟩ := writeTables_spanParts_error failure
    · exact .inr ⟨names, scheduler, .inl ⟨empty, unchanged⟩⟩
    · exact .inl ⟨StoreError.not_names_outOfRange _, unchanged⟩
  · rw [taskParts_of_ne_nil empty] at failure ⊢
    cases outcome : (sink.writeTable (faults engine.table) engine.table records store).result with
    | error found =>
        rw [(Sink.writeTables_cons_of_error outcome).1] at failure
        cases failure
        refine .inl ⟨?_, (Sink.writeTables_cons_of_error outcome).2⟩
        intro names
        rcases Sink.writeTable_error_names own outcome with ownName | ⟨rfl, -⟩
        · exact engine.table_name_ne_taskTime (ownName.unique names)
        · exact StoreError.not_names_outOfRange _ names
    | ok count =>
        rw [(Sink.writeTables_cons_of_ok outcome).1] at failure
        rw [(Sink.writeTables_cons_of_ok outcome).2]
        cases later : (sink.writeTables faults (spanParts engine clock records)
            (Sink.stored engine.table records store)).result with
        | ok counts =>
            rw [later] at failure
            cases failure
        | error found =>
            rw [later] at failure
            cases failure
            obtain ⟨unchanged, scheduler, names | ⟨-, uncountable⟩⟩ :=
              writeTables_spanParts_error later
            · exact .inr ⟨names, scheduler, .inr unchanged⟩
            · exact absurd (Sink.countable_of_writeTable_ok outcome) uncountable

end Writes

/-- The failure is that of writing the table of spans. -/
def TaskFailure.BlamesSpans (failure : TaskFailure) : Prop :=
  ∃ error, failure = .storage error ∧ error.Names Table.taskTime.name

theorem readFiles_not_blamesSpans {read : FilePath → Except FileFault (List UInt8)}
    {decoder : Decoder} {clock : Clock} {files : List SliceFile} {failure : TaskFailure}
    (failed : (readFiles read decoder clock files).error = some failure) :
    ¬ failure.BlamesSpans := by
  rintro ⟨error, rfl, -⟩
  induction files with
  | nil => cases failed
  | cons file rest induction =>
      simp only [readFiles] at failed
      split at failed
      · cases failed
      · split at failed
        · cases failed
        · exact induction failed

/-- What the failure of a task says about the store: only the table of scheduler
records can differ, it differs only if the spans could not be written, and then by
the records of the task. -/
structure LeavesOnlyRecords (failure : TaskFailure) (obstacles : Obstacles) (engine : Engine)
    (records : List TimedRecord) (store after : Store) : Prop where
  sameExcept : Store.SameExcept .starsLog after store
  unchanged : ¬ failure.BlamesSpans → after = store
  records : failure.BlamesSpans → obstacles.opening = none →
    engine = .starsLog ∧
      after.rows .starsLog = store.rows .starsLog ++ records.map TimedRecord.row

theorem LeavesOnlyRecords.of_unchanged {failure : TaskFailure} {obstacles : Obstacles}
    {engine : Engine} {records : List TimedRecord} {store : Store}
    (blameless : obstacles.opening = none → ¬ failure.BlamesSpans) :
    LeavesOnlyRecords failure obstacles engine records store store :=
  ⟨.refl _ store, fun _ => rfl, fun blames opened => absurd blames (blameless opened)⟩

theorem writeReading_leavesOnlyRecords {context : Context} {sink : Sink} {obstacles : Obstacles}
    {engine : Engine} {reading : FilesReading} {store : Store} {failure : TaskFailure}
    (own : ∀ record ∈ reading.records, record.record.table = engine.table)
    (bad : ∀ failure, reading.error = some failure → ¬ failure.BlamesSpans)
    (failed : (writeReading context sink obstacles engine reading store).report.status =
      .failed failure) :
    LeavesOnlyRecords failure obstacles engine reading.records store
      (writeReading context sink obstacles engine reading store).store := by
  cases sound : reading.error with
  | some error =>
      rw [writeReading_of_error sound] at failed ⊢
      cases failed
      exact .of_unchanged fun _ => bad _ sound
  | none =>
      have status := fullReport_status engine reading
        (taskSpans engine context.clock reading.records)
      cases opening : obstacles.opening with
      | some error =>
          rw [(writeReading_of_closed sound own opening).2]
          exact .of_unchanged fun opened => by rw [opening] at opened; cases opened
      | none =>
          obtain ⟨reported, left⟩ := @writeReading_of_open context sink obstacles engine reading
            store sound own opening
          rw [reported] at failed
          rw [left]
          cases outcome : (sink.writeTables obstacles.writing
              (taskParts engine context.clock reading.records) store).result with
          | ok counts =>
              rw [outcome] at failed
              exact absurd (status.symm.trans failed) (by simp)
          | error error =>
              rw [outcome] at failed
              cases failed
              rcases writeTables_taskParts_error own outcome with
                ⟨blameless, unchanged⟩ | ⟨names, rfl, written⟩
              · rw [unchanged]
                refine .of_unchanged fun _ => ?_
                rintro ⟨found, same, names⟩
                cases same
                exact blameless names
              · rcases written with ⟨empty, unchanged⟩ | holds
                · rw [unchanged, empty]
                  exact ⟨.refl _ store, fun _ => rfl, fun _ _ => ⟨rfl, by simp⟩⟩
                · rw [holds]
                  refine ⟨.setTable store _ _, ?_, fun _ _ => ⟨rfl, ?_⟩⟩
                  · exact fun blameless => absurd ⟨error, rfl, names⟩ blameless
                  · exact Store.rows_setTable_self store .starsLog _

/-- A failed task leaves the store as it was, unless it failed at writing spans:
then the records of the task stay in their own table, whole, and all else is as it
was. -/
theorem runTask_failed_leaves_only_records {declared : List Support}
    {registrations : List Registration} {dispatcher : Dispatcher} {context : Context} {sink : Sink}
    {read : FilePath → Except FileFault (List UInt8)} {obstacles : Obstacles} {cancelled : Bool}
    {engine : Engine} {files : List SliceFile} {store : Store} {failure : TaskFailure}
    (built : Dispatcher.build declared registrations = .ok dispatcher)
    (failed : (runTask dispatcher context sink read obstacles cancelled engine files
      store).report.status = .failed failure) :
    ∃ decoder, dispatcher.decoderFor context.chip engine = .ok decoder ∧
      LeavesOnlyRecords failure obstacles engine
        (readFiles read decoder context.clock files).records store
        (runTask dispatcher context sink read obstacles cancelled engine files store).store := by
  cases cancelled with
  | true => simp [runTask] at failed
  | false =>
      cases supported : dispatcher.decoderFor context.chip engine with
      | error pair => simp [runTask, supported] at failed
      | ok decoder =>
          have own : ∀ record ∈ (readFiles read decoder context.clock files).records,
              record.record.table = engine.table := by
            rw [← Dispatcher.engine_of_decoderFor built supported]
            exact readFiles_table files
          rw [runTask_of_supported supported] at failed ⊢
          exact ⟨decoder, rfl,
            writeReading_leavesOnlyRecords own (fun _ => readFiles_not_blamesSpans) failed⟩

/-- A failed task can change its tables: here a start is stored although the
spans could not be. -/
theorem runTask_failed_keeps_start :
    let context : Context :=
      ⟨"run", .gen4, ⟨⟨0, 0, 1.0⟩, 1000000, none, by decide⟩, "run/sqlite/device_trace.db"⟩
    let store := ({} : Store).occupy .taskTime
    let outcome := runTask ⟨Dispatcher.builtinRegistrations⟩ context ⟨context.storePath, 3⟩
      (fun _ => .ok (List.replicate 32 0)) {} false .starsLog
      [⟨"stars_soc.data.0.slice_0", 0, 0⟩] store
    outcome.report.status.isFailed = true ∧
      outcome.store.rows .starsLog ≠ store.rows .starsLog := by
  decide +kernel

/-- What that task leaves is its one record. -/
theorem runTask_failed_leaves_only_start :
    let context : Context :=
      ⟨"run", .gen4, ⟨⟨0, 0, 1.0⟩, 1000000, none, by decide⟩, "run/sqlite/device_trace.db"⟩
    let store := ({} : Store).occupy .taskTime
    let outcome := runTask ⟨Dispatcher.builtinRegistrations⟩ context ⟨context.storePath, 3⟩
      (fun _ => .ok (List.replicate 32 0)) {} false .starsLog
      [⟨"stars_soc.data.0.slice_0", 0, 0⟩] store
    let failure := TaskFailure.storage (.statementFailed "task_time"
      "table task_time has no column named device_id")
    outcome.report.status = .failed failure ∧
      ∃ decoder, (⟨Dispatcher.builtinRegistrations⟩ : Dispatcher).decoderFor .gen4 .starsLog =
          .ok decoder ∧
        LeavesOnlyRecords failure {} .starsLog
          (readFiles (fun _ => .ok (List.replicate 32 0)) decoder context.clock
            [⟨"stars_soc.data.0.slice_0", 0, 0⟩]).records store outcome.store := by
  intro context store outcome failure
  have failed : outcome.report.status = .failed failure := by decide +kernel
  exact ⟨failed, @runTask_failed_leaves_only_records Dispatcher.builtinSupport
    Dispatcher.builtinRegistrations ⟨Dispatcher.builtinRegistrations⟩ context
    ⟨context.storePath, 3⟩ (fun _ => .ok (List.replicate 32 0)) {} false .starsLog
    [⟨"stars_soc.data.0.slice_0", 0, 0⟩] store failure rfl failed⟩

end AcceleratorTrace
