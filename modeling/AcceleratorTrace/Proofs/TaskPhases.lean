import AcceleratorTrace.Proofs.TaskWrites
import AcceleratorTrace.Run.Pool

/-!
# Tasks step by step

At every step it is settled what a task will come to if nobody else touches its
tables: its report and the store it leaves.  No step of the task itself changes
this, and a step of another task can change it only through a table of this one.
-/

namespace AcceleratorTrace

namespace Sink

/-- Goes on writing tables, where the first of them has reached an attempt. -/
def resume (sink : Sink) (faults : Table → Faults) (left attempt : Nat) :
    List (Table × List TimedRecord) → Store → Except StoreError (List (Table × Nat)) × Store
  | [], store => (.ok [], store)
  | (table, records) :: rest, store =>
      match sink.refusal? table records with
      | some error => (.error error, store)
      | none =>
          match (sink.retry table.name
              (fun attempt => store.transaction (faults table attempt) (statements table records))
              left attempt).1 with
          | .error error => (.error error, store)
          | .ok written =>
              let others := sink.writeTables faults rest written
              (others.result.map fun counts => (table, records.length) :: counts, others.store)

section Resume

variable {sink : Sink} {table : Table} {records : List TimedRecord} {store : Store}

theorem writeTable_of_refused {faults : Faults} {error : StoreError}
    (refused : sink.refusal? table records = some error) :
    (sink.writeTable faults table records store).result = .error error ∧
      (sink.writeTable faults table records store).store = store := by
  cases strays : records.find? fun record => record.record.table != table with
  | some stray =>
      simp only [refusal?, strays, Option.some.injEq] at refused
      simp only [writeTable, strays, refused, and_self]
  | none =>
      by_cases countable : sink.limit < UInt32.size
      · simp [refusal?, strays, countable] at refused
      · simp only [refusal?, strays, countable, if_false, Option.some.injEq] at refused
        simp only [writeTable, strays, commit, countable, if_false, refused, and_self]

private theorem commit_of_accepted {faults : Faults}
    (accepted : sink.refusal? table records = none) :
    records.find? (fun record => record.record.table != table) = none ∧
      sink.commit table.name faults (statements table records) store =
        sink.retry table.name
          (fun attempt => store.transaction (faults attempt) (statements table records))
          sink.retries.toNat 1 := by
  unfold refusal? at accepted
  split at accepted
  · cases accepted
  · rename_i noStray
    split at accepted
    · rename_i countable
      exact ⟨noStray, if_pos countable⟩
    · cases accepted

theorem writeTable_of_attempts {faults : Faults} {written : Store}
    (accepted : sink.refusal? table records = none)
    (success : (sink.retry table.name
      (fun attempt => store.transaction (faults attempt) (statements table records))
      sink.retries.toNat 1).1 = .ok written) :
    (sink.writeTable faults table records store).result = .ok records.length ∧
      (sink.writeTable faults table records store).store = written := by
  obtain ⟨noStray, committed⟩ := @commit_of_accepted sink table records store faults accepted
  rw [← committed] at success
  exact writeTable_of_commit_ok noStray success

theorem writeTable_of_attempts_error {faults : Faults} {error : StoreError}
    (accepted : sink.refusal? table records = none)
    (failure : (sink.retry table.name
      (fun attempt => store.transaction (faults attempt) (statements table records))
      sink.retries.toNat 1).1 = .error error) :
    (sink.writeTable faults table records store).result = .error error ∧
      (sink.writeTable faults table records store).store = store := by
  obtain ⟨noStray, committed⟩ := @commit_of_accepted sink table records store faults accepted
  rw [← committed] at failure
  exact writeTable_of_commit_error noStray failure

variable {faults : Table → Faults} {rest : List (Table × List TimedRecord)}

theorem resume_first (parts : List (Table × List TimedRecord)) (store : Store) :
    sink.resume faults sink.retries.toNat 1 parts store =
      ((sink.writeTables faults parts store).result,
        (sink.writeTables faults parts store).store) := by
  cases parts with
  | nil => rfl
  | cons part rest =>
      obtain ⟨table, records⟩ := part
      cases answer : sink.refusal? table records with
      | some error =>
          have refused := @writeTable_of_refused sink table records store (faults table) error answer
          simp only [resume, writeTables, answer, refused]
      | none =>
          cases made : (sink.retry table.name
              (fun attempt => store.transaction (faults table attempt) (statements table records))
              sink.retries.toNat 1).1 with
          | error error =>
              have failed := writeTable_of_attempts_error answer made
              simp only [resume, writeTables, answer, made, failed]
          | ok written =>
              have succeeded := writeTable_of_attempts answer made
              simp only [resume, writeTables, answer, made, succeeded]

section Attempt

variable {left attempt : Nat} (accepted : sink.refusal? table records = none)
include accepted

theorem resume_of_ok {written : Store}
    (success : store.transaction (faults table attempt) (statements table records) =
      .ok written) :
    sink.resume faults left attempt ((table, records) :: rest) store =
      ((sink.resume faults sink.retries.toNat 1 rest written).1.map fun counts =>
          (table, records.length) :: counts,
        (sink.resume faults sink.retries.toNat 1 rest written).2) := by
  rw [resume_first rest written]
  simp only [resume, accepted]
  rw [retry_of_ok success]

theorem resume_of_permanent {cause : String}
    (failure : store.transaction (faults table attempt) (statements table records) =
      .error (.permanent cause)) :
    sink.resume faults left attempt ((table, records) :: rest) store =
      (.error (.statementFailed table.name cause), store) := by
  simp only [resume, accepted]
  rw [retry_of_permanent failure]

theorem resume_of_last {cause : String}
    (failure : store.transaction (faults table attempt) (statements table records) =
      .error (.transient cause)) :
    sink.resume faults 0 attempt ((table, records) :: rest) store =
      (.error (.commitFailed table.name attempt cause), store) := by
  simp only [resume, accepted]
  rw [retry_of_last failure]

theorem resume_of_transient {cause : String}
    (failure : store.transaction (faults table attempt) (statements table records) =
      .error (.transient cause)) :
    sink.resume faults (left + 1) attempt ((table, records) :: rest) store =
      sink.resume faults left (attempt + 1) ((table, records) :: rest) store := by
  simp only [resume, accepted]
  rw [retry_of_transient failure]

end Attempt

/-- What is left to do gives the same, and leaves the same in some tables, on
stores that agree on them. -/
theorem resume_congr {left attempt : Nat} {parts : List (Table × List TimedRecord)}
    {tables : List Table} {first second : Store}
    (within : ∀ part ∈ parts, part.1 ∈ tables) (same : Store.AgreeOn tables first second) :
    (sink.resume faults left attempt parts first).1 =
        (sink.resume faults left attempt parts second).1 ∧
      Store.AgreeOn tables (sink.resume faults left attempt parts first).2
        (sink.resume faults left attempt parts second).2 := by
  cases parts with
  | nil => exact ⟨rfl, same⟩
  | cons part rest =>
      obtain ⟨table, records⟩ := part
      cases answer : sink.refusal? table records with
      | some error =>
          simp only [resume, answer, true_and]
          exact same
      | none =>
          have here : first.tables.get table = second.tables.get table :=
            same table (within (table, records) List.mem_cons_self)
          have results := retry_transaction_congr sink (faults table) records left attempt here
          simp only [resume, answer]
          cases made : (sink.retry table.name
              (fun attempt => first.transaction (faults table attempt) (statements table records))
              left attempt).1 with
          | error error =>
              rw [made] at results
              cases remade : (sink.retry table.name
                  (fun attempt => second.transaction (faults table attempt)
                    (statements table records)) left attempt).1 with
              | error found =>
                  rw [remade] at results
                  cases results
                  exact ⟨rfl, same⟩
              | ok written =>
                  rw [remade] at results
                  cases results
          | ok written =>
              rw [made] at results
              cases remade : (sink.retry table.name
                  (fun attempt => second.transaction (faults table attempt)
                    (statements table records)) left attempt).1 with
              | error found =>
                  rw [remade] at results
                  cases results
              | ok rewritten =>
                  have stores : Store.AgreeOn tables written rewritten := by
                    rw [(retry_transaction_ok made).2, (retry_transaction_ok remade).2]
                    exact stored_agreeOn table records same here
                  have later := @writeTables_congr sink faults rest tables written rewritten
                    (fun part member => within part (List.mem_cons_of_mem _ member)) stores
                  simp only [later.1, true_and]
                  exact later.2

end Resume

end Sink

theorem readFiles_cons (read : FilePath → Except FileFault (List UInt8)) (decoder : Decoder)
    (clock : Clock) (file : SliceFile) (rest : List SliceFile) :
    readFiles read decoder clock (file :: rest) =
      if (readFiles read decoder clock [file]).error = none then
        (readFiles read decoder clock [file]).append (readFiles read decoder clock rest)
      else readFiles read decoder clock [file] := by
  cases contents : read file.path with
  | error fault => simp [readFiles, contents]
  | ok bytes =>
      cases sound : readSlice decoder clock file.device bytes with
      | error failure => simp [readFiles, contents, sound]
      | ok reading => simp [readFiles, contents, sound, FilesReading.append, Totals.add]

theorem FilesReading.append_assoc (first second third : FilesReading) :
    (first.append second).append third = first.append (second.append third) := by
  simp [append, Totals.add, Nat.add_assoc]

@[simp] theorem FilesReading.empty_append (reading : FilesReading) :
    ({} : FilesReading).append reading = reading := by
  simp [append, Totals.add]

namespace Phase

/-- What a task comes to from a phase on, its report and the store, if no other
task comes in between.  The flag is what it finds if it still has to look. -/
def conclude (plan : RunPlan) (engine : Engine) (files : List SliceFile) (cancelled : Bool) :
    Phase → Store → Report × Store
  | .queued, store | .taken, store =>
      let outcome := runTask plan.dispatcher plan.context plan.sink plan.read
        (plan.obstacles engine) cancelled engine files store
      (outcome.report, outcome.store)
  | .reading decoder done left, store =>
      let outcome := writeReading plan.context plan.sink (plan.obstacles engine) engine
        (done.append (readFiles plan.read decoder plan.context.clock left)) store
      (outcome.report, outcome.store)
  | .opening report parts, store =>
      match (plan.obstacles engine).opening with
      | some error => (report.afterWrite (.error error), store)
      | none =>
          let outcome := plan.sink.writeTables (plan.obstacles engine).writing parts store
          (report.afterWrite outcome.result, outcome.store)
  | .writing report written parts left attempt, store =>
      let outcome := plan.sink.resume (plan.obstacles engine).writing left attempt parts store
      (report.afterWrite (outcome.1.map (written ++ ·)), outcome.2)
  | .ended report, store | .counted report _, store | .sending report, store
  | .reported report, store => (report, store)

section Own

variable {plan : RunPlan} {engine : Engine} {files : List SliceFile} {cancelled : Bool}

theorem conclude_start (store : Store) :
    (start plan engine files cancelled).conclude plan engine files cancelled store =
      taken.conclude plan engine files cancelled store := by
  cases cancelled with
  | true => simp [start, conclude, runTask]
  | false =>
      cases supported : plan.dispatcher.decoderFor plan.context.chip engine with
      | error pair => simp [start, conclude, runTask, supported]
      | ok decoder =>
          simp only [conclude, runTask_of_supported supported]
          simp [start, supported]

theorem conclude_read (decoder : Decoder) (done : FilesReading) (left : List SliceFile)
    (store : Store) :
    (read plan engine decoder done left).conclude plan engine files cancelled store =
      (reading decoder done left).conclude plan engine files cancelled store := by
  cases left with
  | nil =>
      have records : (done.append {}).records = done.records := List.append_nil _
      have report : ∀ spans, fullReport engine (done.append {}) spans =
          fullReport engine done spans := by
        intro spans
        simp [fullReport, FilesReading.append, Totals.add]
      have sound : (done.append {}).error = none := rfl
      cases empty : (taskBatch (taskSpans engine plan.context.clock done.records)
          done.records).isEmpty with
      | true =>
          have ending : read plan engine decoder done [] = .ended (fullReport engine done
              (taskSpans engine plan.context.clock done.records)) := by
            simp only [read, empty, if_true]
          rw [ending]
          simp only [conclude, readFiles, writeReading, sound, records, report, empty, if_true]
      | false =>
          have batched : read plan engine decoder done [] = .opening (fullReport engine done
              (taskSpans engine plan.context.clock done.records))
                (taskBatch (taskSpans engine plan.context.clock done.records)
                  done.records).present := by
            simp [read, empty]
          rw [batched]
          simp only [conclude, readFiles, writeReading, sound, records, report, empty,
            Sink.openAndWrite, Sink.writeBatch]
          cases (plan.obstacles engine).opening <;> rfl
  | cons file rest =>
      cases outcome : (readFiles plan.read decoder plan.context.clock [file]).error with
      | none =>
          have onward : read plan engine decoder done (file :: rest) = .reading decoder
              (done.append (readFiles plan.read decoder plan.context.clock [file])) rest := by
            simp only [read, FilesReading.append, outcome]
          rw [onward]
          simp only [conclude]
          rw [FilesReading.append_assoc, readFiles_cons _ _ _ _ rest, if_pos outcome]
      | some error =>
          have failed : (done.append
              (readFiles plan.read decoder plan.context.clock [file])).error = some error :=
            outcome
          have ending : read plan engine decoder done (file :: rest) = .ended
              { engine, status := .failed error, totals := (done.append
                (readFiles plan.read decoder plan.context.clock [file])).totals } := by
            simp only [read, failed]
          rw [ending]
          simp only [conclude]
          rw [readFiles_cons _ _ _ _ rest, if_neg (by simp [outcome]),
            writeReading_of_error failed]

theorem conclude_attempt (report : Report) (written : List (Table × Nat))
    (parts : List (Table × List TimedRecord)) (left attempt : Nat) (shared : Shared) :
    ((writing report written parts left attempt).next plan engine files shared).1.conclude
        plan engine files cancelled
        ((writing report written parts left attempt).next plan engine files shared).2.store =
      (writing report written parts left attempt).conclude plan engine files cancelled
        shared.store := by
  cases parts with
  | nil => simp [next, conclude, Sink.resume, Except.map]
  | cons part rest =>
      obtain ⟨table, records⟩ := part
      cases answer : plan.sink.refusal? table records with
      | some error => simp [next, conclude, Sink.resume, answer, Except.map]
      | none =>
          cases outcome : shared.store.transaction ((plan.obstacles engine).writing table attempt)
              (Sink.statements table records) with
          | ok store =>
              simp only [next, answer, outcome, conclude, Sink.resume_of_ok answer outcome]
              cases (plan.sink.resume (plan.obstacles engine).writing plan.sink.retries.toNat 1 rest
                store).1 <;> simp [Except.map]
          | error fault =>
              simp only [next, answer, outcome]
              cases fault with
              | permanent cause =>
                  simp [afterFault, conclude, Sink.resume_of_permanent answer outcome, Except.map]
              | transient cause =>
                  cases left with
                  | zero =>
                      simp [afterFault, conclude, Sink.resume_of_last answer outcome, Except.map]
                  | succ left =>
                      simp only [afterFault, conclude, Sink.resume_of_transient answer outcome]

/-- A step of a task does not change what it will come to. -/
theorem conclude_next (phase : Phase) (shared : Shared)
    (flag : phase = .taken → shared.budget.cancelled = cancelled) :
    (phase.next plan engine files shared).1.conclude plan engine files cancelled
        (phase.next plan engine files shared).2.store =
      phase.conclude plan engine files cancelled shared.store := by
  cases phase with
  | queued => rfl
  | taken =>
      simp only [next, flag rfl]
      exact conclude_start shared.store
  | reading decoder done left => exact conclude_read decoder done left shared.store
  | opening report parts =>
      cases opening : (plan.obstacles engine).opening with
      | some error => simp [next, conclude, opening]
      | none =>
          simp only [next, conclude, opening, Sink.resume_first]
          cases (plan.sink.writeTables (plan.obstacles engine).writing parts
            shared.store).result <;> rfl
  | writing report written parts left attempt =>
      exact conclude_attempt report written parts left attempt shared
  | ended report =>
      simp only [next]
      split <;> rfl
  | counted report failures => rfl
  | sending report => rfl
  | reported report => rfl

end Own

/-- All that a phase still has to write goes to tables of its engine. -/
def Confined (plan : RunPlan) (engine : Engine) : Phase → Prop
  | .reading decoder done _ =>
      plan.dispatcher.decoderFor plan.context.chip engine = .ok decoder ∧
        ∀ record ∈ done.records, record.record.table = engine.table
  | .opening _ parts | .writing _ _ parts _ _ => ∀ part ∈ parts, part.1 ∈ engine.tables
  | _ => True

section Others

variable {declared : List Support} {registrations : List Registration} {plan : RunPlan}
  {engine : Engine} {files : List SliceFile}

/-- All that an attempt can do: end the task, leave another attempt, or write a
table. -/
theorem next_writing_cases (report : Report) (written : List (Table × Nat))
    (parts : List (Table × List TimedRecord)) (left attempt : Nat) (shared : Shared) :
    let moved := (writing report written parts left attempt).next plan engine files shared
    (∃ result, moved = (.ended (report.afterWrite result), shared)) ∨
      (∃ remaining, left = remaining + 1 ∧
        moved = (.writing report written parts remaining (attempt + 1), shared)) ∨
      ∃ table records rest store, parts = (table, records) :: rest ∧
        shared.store.transaction ((plan.obstacles engine).writing table attempt)
          (Sink.statements table records) = .ok store ∧
        moved = (.writing report (written ++ [(table, records.length)]) rest
          plan.sink.retries.toNat 1, { shared with store }) := by
  cases parts with
  | nil => exact .inl ⟨_, rfl⟩
  | cons part rest =>
      obtain ⟨table, records⟩ := part
      simp only [next]
      split
      · exact .inl ⟨_, rfl⟩
      · cases outcome : shared.store.transaction ((plan.obstacles engine).writing table attempt)
            (Sink.statements table records) with
        | ok store => exact .inr (.inr ⟨table, records, rest, store, rfl, outcome, rfl⟩)
        | error fault =>
            cases fault with
            | permanent cause => exact .inl ⟨_, rfl⟩
            | transient cause =>
                cases left with
                | zero => exact .inl ⟨_, rfl⟩
                | succ remaining => exact .inr (.inl ⟨remaining, rfl, rfl⟩)

/-- All that a step can do to the budget: count a failure, or raise the flag. -/
theorem next_budget_cases (phase : Phase) (shared : Shared) :
    let after := (phase.next plan engine files shared).2.budget
    after = shared.budget ∨ after = { shared.budget with failures := shared.budget.failures + 1 } ∨
      ∃ failures, after = (shared.budget.trip plan.config.errorBudget failures).1 := by
  cases phase with
  | writing report written parts left attempt =>
      rcases @next_writing_cases plan engine files report written parts left attempt shared with
        ⟨_, moved⟩ | ⟨_, -, moved⟩ | ⟨_, _, _, _, -, -, moved⟩ <;> rw [moved] <;> exact .inl rfl
  | opening report parts =>
      simp only [next]
      split <;> exact .inl rfl
  | ended report =>
      simp only [next]
      split
      · exact .inr (.inl rfl)
      · exact .inl rfl
  | counted report failures => exact .inr (.inr ⟨failures, rfl⟩)
  | _ => exact .inl rfl

theorem next_cancelled (unlimited : plan.config.errorBudget = none) (phase : Phase)
    (shared : Shared) :
    (phase.next plan engine files shared).2.budget.cancelled = shared.budget.cancelled := by
  rcases @next_budget_cases plan engine files phase shared with same | counted | ⟨_, raised⟩
  · rw [same]
  · rw [counted]
  · rw [raised, unlimited]
    rfl

theorem append_own (built : Dispatcher.build declared registrations = .ok plan.dispatcher)
    {decoder : Decoder} {done : FilesReading}
    (supported : plan.dispatcher.decoderFor plan.context.chip engine = .ok decoder)
    (own : ∀ record ∈ done.records, record.record.table = engine.table)
    (left : List SliceFile) :
    ∀ record ∈ (done.append (readFiles plan.read decoder plan.context.clock left)).records,
      record.record.table = engine.table := by
  intro record member
  rcases List.mem_append.mp member with earlier | later
  · exact own record earlier
  · rw [← Dispatcher.engine_of_decoderFor built supported]
    exact readFiles_table left record later

theorem confined_read (built : Dispatcher.build declared registrations = .ok plan.dispatcher)
    {decoder : Decoder} {done : FilesReading} {left : List SliceFile}
    (confined : (reading decoder done left).Confined plan engine) :
    (read plan engine decoder done left).Confined plan engine := by
  obtain ⟨supported, own⟩ := confined
  cases left with
  | cons file rest =>
      simp only [read]
      split
      · trivial
      · exact ⟨supported, append_own built supported own [file]⟩
  | nil =>
      simp only [read]
      split
      · trivial
      · intro part member
        rw [present_taskBatch plan.context.clock own] at member
        exact taskParts_within part member

/-- A step keeps a task to the tables of its engine. -/
theorem Confined.next (built : Dispatcher.build declared registrations = .ok plan.dispatcher)
    {phase : Phase} (confined : phase.Confined plan engine) (shared : Shared) :
    (phase.next plan engine files shared).1.Confined plan engine := by
  cases phase with
  | queued => trivial
  | taken =>
      simp only [Phase.next, start]
      split
      · trivial
      · split
        · trivial
        · rename_i decoder supported
          exact ⟨supported, fun record member => absurd member List.not_mem_nil⟩
  | reading decoder done left => exact confined_read built confined
  | opening report parts =>
      simp only [Phase.next]
      split
      · trivial
      · exact confined
  | writing report written parts left attempt =>
      rcases @next_writing_cases plan engine files report written parts left attempt shared with
        ⟨result, moved⟩ | ⟨remaining, -, moved⟩ | ⟨table, records, rest, store, rfl, -, moved⟩
      · rw [moved]
        trivial
      · rw [moved]
        exact confined
      · rw [moved]
        exact fun part member => confined part (List.mem_cons_of_mem _ member)
  | ended report =>
      simp only [Phase.next]
      split <;> trivial
  | counted report failures => trivial
  | sending report => trivial
  | reported report => trivial

theorem Confined.next_sameExcept {phase : Phase} (confined : phase.Confined plan engine)
    (shared : Shared) :
    ∃ own ∈ engine.tables,
      Store.SameExcept own (phase.next plan engine files shared).2.store shared.store := by
  have unchanged : ∃ own ∈ engine.tables, Store.SameExcept own shared.store shared.store :=
    ⟨engine.table, engine.table_mem_tables, .refl _ _⟩
  cases phase with
  | queued => exact unchanged
  | taken => exact unchanged
  | reading decoder done left => exact unchanged
  | opening report parts =>
      simp only [Phase.next]
      split <;> exact unchanged
  | writing report written parts left attempt =>
      rcases @next_writing_cases plan engine files report written parts left attempt shared with
        ⟨result, moved⟩ | ⟨remaining, -, moved⟩ | ⟨own, records, rest, store, rfl, success, moved⟩
      · rw [moved]
        exact unchanged
      · rw [moved]
        exact unchanged
      · rw [moved]
        refine ⟨own, confined (own, records) List.mem_cons_self, ?_⟩
        exact Store.transaction_sameExcept (fun _ member => Sink.statements_table? member) success
  | ended report =>
      simp only [Phase.next]
      split <;> exact unchanged
  | counted report failures => exact unchanged
  | sending report => exact unchanged
  | reported report => exact unchanged

theorem Confined.next_get {phase : Phase} (confined : phase.Confined plan engine)
    (shared : Shared) {table : Table} (outside : table ∉ engine.tables) :
    (phase.next plan engine files shared).2.store.tables.get table =
      shared.store.tables.get table := by
  obtain ⟨own, inside, same⟩ := @Confined.next_sameExcept plan engine files phase confined shared
  apply same.tables
  intro here
  exact outside (here ▸ inside)

/-- What a task will come to depends on the tables of its engine alone. -/
theorem Confined.conclude_congr
    (built : Dispatcher.build declared registrations = .ok plan.dispatcher) {phase : Phase}
    (confined : phase.Confined plan engine) (cancelled : Bool) {first second : Store}
    (same : Store.AgreeOn engine.tables first second) :
    (phase.conclude plan engine files cancelled first).1 =
        (phase.conclude plan engine files cancelled second).1 ∧
      Store.AgreeOn engine.tables (phase.conclude plan engine files cancelled first).2
        (phase.conclude plan engine files cancelled second).2 := by
  have untaken : (taken.conclude plan engine files cancelled first).1 =
        (taken.conclude plan engine files cancelled second).1 ∧
      Store.AgreeOn engine.tables (taken.conclude plan engine files cancelled first).2
        (taken.conclude plan engine files cancelled second).2 := by
    cases cancelled with
    | true => exact ⟨rfl, same⟩
    | false =>
        cases supported : plan.dispatcher.decoderFor plan.context.chip engine with
        | error pair =>
            simp only [conclude, runTask, supported]
            exact ⟨rfl, same⟩
        | ok decoder =>
            have own := @append_own declared registrations plan engine built decoder {} supported
              (fun record member => absurd member List.not_mem_nil) files
            rw [FilesReading.empty_append] at own
            simp only [conclude, runTask_of_supported supported]
            exact writeReading_congr own same
  cases phase with
  | queued => exact untaken
  | taken => exact untaken
  | reading decoder done left =>
      exact writeReading_congr (append_own built confined.1 confined.2 left) same
  | opening report parts =>
      simp only [conclude]
      split
      · exact ⟨rfl, same⟩
      · have written := @Sink.writeTables_congr plan.sink (plan.obstacles engine).writing parts
          engine.tables first second confined same
        exact ⟨congrArg report.afterWrite written.1, written.2⟩
  | writing report written parts left attempt =>
      have resumed := @Sink.resume_congr plan.sink (plan.obstacles engine).writing left attempt
        parts engine.tables first second confined same
      exact ⟨congrArg (fun result => report.afterWrite (Except.map (written ++ ·) result)) resumed.1,
        resumed.2⟩
  | ended report => exact ⟨rfl, same⟩
  | counted report failures => exact ⟨rfl, same⟩
  | sending report => exact ⟨rfl, same⟩
  | reported report => exact ⟨rfl, same⟩

end Others

end Phase

end AcceleratorTrace
