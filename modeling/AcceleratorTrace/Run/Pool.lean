import AcceleratorTrace.Run

/-!
# The pool of workers

The tasks of a run wait in engine order, and a pool of workers takes them.  A task
is cut here into the steps that other workers can come between: it is taken, it
looks at the cancel flag, it reads one file, it opens the store, it makes one
attempt at one transaction, it is counted as failed, it raises the flag, and it
hands in its report.  A transaction is one step, so no two of them overlap.
-/

namespace AcceleratorTrace

/-- What is read first, with what is read after it. -/
def FilesReading.append (first second : FilesReading) : FilesReading where
  totals := first.totals.add second.totals
  records := first.records ++ second.records
  error := second.error
  log := first.log ++ second.log

/-- Why a sink makes no attempt at all. -/
def Sink.refusal? (sink : Sink) (table : Table) (records : List TimedRecord) :
    Option StoreError :=
  match records.find? fun record => record.record.table != table with
  | some stray => some (.tableMismatch table stray.record.table)
  | none => if sink.limit < UInt32.size then none else some .outOfRange

/-- Where a task stands. -/
inductive Phase where
  | queued
  /-- A worker has the task and has not yet looked at the cancel flag. -/
  | taken
  /-- Some files are read and some are left. -/
  | reading (decoder : Decoder) (done : FilesReading) (left : List SliceFile)
  /-- All files are read, and the store is to be opened. -/
  | opening (report : Report) (parts : List (Table × List TimedRecord))
  /-- Some tables are written.  At the next one it is time for attempt `attempt`,
  with `left` more after it. -/
  | writing (report : Report) (written : List (Table × Nat))
      (parts : List (Table × List TimedRecord)) (left attempt : Nat)
  /-- The task is over.  If it failed, this is still to be counted. -/
  | ended (report : Report)
  /-- The failure has been counted and has this number. -/
  | counted (report : Report) (failures : Nat)
  | sending (report : Report)
  | reported (report : Report)

/-- What all workers share. -/
structure Shared where
  store : Store
  budget : Budget := {}

namespace Phase

/-- Whether a worker is at the task. -/
def isBusy : Phase → Bool
  | .queued | .reported _ => false
  | _ => true

/-- The report that was handed in. -/
def report? : Phase → Option Report
  | .reported report => some report
  | _ => none

section Steps

variable (plan : RunPlan) (engine : Engine)

/-- Looks at the cancel flag and then for a decoder. -/
def start (files : List SliceFile) (cancelled : Bool) : Phase :=
  if cancelled then .ended { engine, status := .skipped .cancelled }
  else
    match plan.dispatcher.decoderFor plan.context.chip engine with
    | .error pair => .ended { engine, status := .skipped (.unsupported pair) }
    | .ok decoder => .reading decoder {} files

/-- Reads the next file, or makes the batch if there is none. -/
def read (decoder : Decoder) (done : FilesReading) : List SliceFile → Phase
  | file :: rest =>
      let read := done.append (readFiles plan.read decoder plan.context.clock [file])
      match read.error with
      | some error => .ended { engine, status := .failed error, totals := read.totals }
      | none => .reading decoder read rest
  | [] =>
      let spans := taskSpans engine plan.context.clock done.records
      let batch := taskBatch spans done.records
      if batch.isEmpty then .ended (fullReport engine done spans)
      else .opening (fullReport engine done spans) batch.present

/-- Goes on after an attempt at a table that failed. -/
def afterFault (report : Report) (written : List (Table × Nat))
    (parts : List (Table × List TimedRecord)) (table : Table) (left attempt : Nat) :
    Fault → Phase
  | .permanent cause => .ended (report.afterWrite (.error (.statementFailed table.name cause)))
  | .transient cause =>
      match left with
      | 0 => .ended (report.afterWrite (.error (.commitFailed table.name attempt cause)))
      | left + 1 => .writing report written parts left (attempt + 1)

/-- The next step of a task that a worker is at. -/
def next (files : List SliceFile) : Phase → Shared → Phase × Shared
  | .queued, shared => (.queued, shared)
  | .taken, shared => (start plan engine files shared.budget.cancelled, shared)
  | .reading decoder done left, shared => (read plan engine decoder done left, shared)
  | .opening report parts, shared =>
      match (plan.obstacles engine).opening with
      | some error => (.ended (report.afterWrite (.error error)), shared)
      | none => (.writing report [] parts plan.sink.retries.toNat 1, shared)
  | .writing report written [] _ _, shared => (.ended (report.afterWrite (.ok written)), shared)
  | .writing report written ((table, records) :: rest) left attempt, shared =>
      match plan.sink.refusal? table records with
      | some error => (.ended (report.afterWrite (.error error)), shared)
      | none =>
          match shared.store.transaction ((plan.obstacles engine).writing table attempt)
              (Sink.statements table records) with
          | .error fault =>
              (afterFault report written ((table, records) :: rest) table left attempt fault,
                shared)
          | .ok store =>
              (.writing report (written ++ [(table, records.length)]) rest
                plan.sink.retries.toNat 1, { shared with store })
  | .ended report, shared =>
      if report.status.isFailed then
        let failures := shared.budget.failures + 1
        (.counted report failures, { shared with budget := { shared.budget with failures } })
      else (.sending report, shared)
  | .counted report failures, shared =>
      (.sending report,
        { shared with budget := (shared.budget.trip plan.config.errorBudget failures).1 })
  | .sending report, shared => (.reported report, shared)
  | .reported report, shared => (.reported report, shared)

end Steps

end Phase

/-- The task of an engine in a pool. -/
structure Job where
  engine : Engine
  files : List SliceFile
  phase : Phase := .queued

/-- The tasks of a run, in the order in which they were queued. -/
structure Pool where
  shared : Shared
  jobs : List Job

namespace Pool

/-- Tasks that all wait, and nothing counted. -/
def fresh (store : Store) (sets : FileSets) (cancelled : Bool := false) : Pool :=
  ⟨⟨store, { cancelled }⟩, sets.map fun set => ⟨set.1, set.2, .queued⟩⟩

/-- The number of workers that are at a task. -/
def busy (pool : Pool) : Nat := pool.jobs.countP fun job => job.phase.isBusy

/-- A step of one worker: it takes the first task that waits, if the pool has a
worker to spare, or goes on with its own. -/
inductive Step (plan : RunPlan) : Pool → Pool → Prop where
  | take {shared : Shared} {before after : List Job} {engine : Engine} {files : List SliceFile}
      (first : ∀ job ∈ before, job.phase ≠ .queued)
      (spare : busy ⟨shared, before ++ ⟨engine, files, .queued⟩ :: after⟩ < plan.config.poolSize) :
      Step plan ⟨shared, before ++ ⟨engine, files, .queued⟩ :: after⟩
        ⟨shared, before ++ ⟨engine, files, .taken⟩ :: after⟩
  | advance {shared : Shared} {before after : List Job} {engine : Engine}
      {files : List SliceFile} {phase : Phase} (busy : phase.isBusy = true) :
      Step plan ⟨shared, before ++ ⟨engine, files, phase⟩ :: after⟩
        ⟨(phase.next plan engine files shared).2,
          before ++ ⟨engine, files, (phase.next plan engine files shared).1⟩ :: after⟩

/-- Any number of steps. -/
inductive Reaches (plan : RunPlan) (start : Pool) : Pool → Prop where
  | refl : Reaches plan start start
  | step {pool next : Pool} (reached : Reaches plan start pool) (step : Step plan pool next) :
      Reaches plan start next

/-- The reports handed in, by the place of their tasks. -/
def summary (pool : Pool) : Summary :=
  ⟨pool.jobs.filterMap fun job => job.phase.report?, pool.shared.budget.cancelled⟩

end Pool

namespace RunPlan

/-- The tasks of a run before any is taken. -/
def startPool (sets : FileSets) (cancelled : Bool) (store : Store) : Pool :=
  Pool.fresh store sets.inOrder cancelled

/-- What a run with a pool of workers can come to, and the store it can leave: the
metadata is written first, and then the workers go on until none can. -/
inductive RunsTo (plan : RunPlan) (sets : FileSets) (cancelled : Bool) (faults : Faults)
    (store : Store) : Except StoreError Summary → Store → Prop where
  | unrecorded {error : StoreError}
      (failed : (plan.sink.recordRun faults plan.context.chip plan.context.clock store).result =
        .error error) :
      RunsTo plan sets cancelled faults store (.error error)
        (plan.sink.recordRun faults plan.context.chip plan.context.clock store).store
  | rested {final : Pool}
      (recorded : (plan.sink.recordRun faults plan.context.chip plan.context.clock store).result =
        .ok ())
      (reached : Pool.Reaches plan (startPool sets cancelled
        (plan.sink.recordRun faults plan.context.chip plan.context.clock store).store) final)
      (rest : ∀ next, ¬ Pool.Step plan final next) :
      RunsTo plan sets cancelled faults store (.ok final.summary) final.shared.store

end RunPlan

end AcceleratorTrace
