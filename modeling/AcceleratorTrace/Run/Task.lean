import AcceleratorTrace.Pairing
import AcceleratorTrace.Run.Config
import AcceleratorTrace.Run.Report

/-!
# The task of an engine

A task reads all files of its engine in order, up to the first bad one.  Only
if all are good does it write: the spans rebuilt from scheduler records, then
the records themselves.
-/

namespace AcceleratorTrace

/-- Files read up to the end or to the first bad one. -/
structure FilesReading where
  totals : Totals := {}
  records : List TimedRecord := []
  error : Option TaskFailure := none
  log : List LogLine := []

/-- What the log says about a file read to its end. -/
def SliceReading.fileLines (reading : SliceReading) (path : FilePath) : List LogLine :=
  let fragment :=
    if 0 < reading.fragment then [.warn s!"{path}: ignoring {reading.fragment} trailing bytes"]
    else []
  let warnings := reading.warnings.length
  let suspect :=
    if 0 < warnings then [.warn s!"{path}: {warnings} timestamps outside the run bounds"] else []
  .debug s!"{path}: {reading.records.length} records" :: (fragment ++ suspect)

/-- Reads files in order up to the first that cannot be read or decoded. -/
def readFiles (read : FilePath → Except FileFault (List UInt8)) (decoder : Decoder)
    (clock : Clock) : List SliceFile → FilesReading
  | [] => {}
  | file :: rest =>
      match read file.path with
      | .error fault => { error := some (.unreadable file.path fault) }
      | .ok bytes =>
          match readSlice decoder clock file.device bytes with
          | .error failure =>
              { error := some (.undecodable file.path failure)
                log := failure.warnings.map TimeWarning.logLine }
          | .ok reading =>
              let later := readFiles read decoder clock rest
              { totals := (Totals.ofReading reading).add later.totals
                records := reading.records ++ later.records
                error := later.error
                log := reading.logLines decoder ++ reading.fileLines file.path ++ later.log }

/-- The scheduler records among others, paired and stamped. -/
def pairRecords (clock : Clock) (records : List TimedRecord) : PairingSummary :=
  (Pairing.extend {} records).finish clock

/-- The records of a task as a batch.  The table of spans takes part even if
there are none. -/
def taskBatch (spans : Option PairingSummary) (records : List TimedRecord) : Batch :=
  match spans with
  | none => Batch.extend {} records
  | some summary =>
      ((Batch.withTable {} .taskTime).extend summary.records).extend records

/-- What the log says about the spans of an engine. -/
def PairingSummary.taskLines (summary : PairingSummary) (engine : Engine) : List LogLine :=
  let warnings := summary.warnings.length
  summary.logLines ++
    if 0 < warnings then
      [.warn s!"{engine.stem}: {warnings} task_time spans outside the run bounds"]
    else []

/-- Only scheduler logs have spans. -/
def taskSpans (engine : Engine) (clock : Clock) (records : List TimedRecord) :
    Option PairingSummary :=
  if engine = .starsLog then some (pairRecords clock records) else none

/-- The report of a task whose files are all read. -/
def fullReport (engine : Engine) (reading : FilesReading) (spans : Option PairingSummary) :
    Report :=
  match spans with
  | none => { engine, totals := reading.totals }
  | some summary =>
      { engine
        totals := { reading.totals with
          warnings := reading.totals.warnings + summary.warnings.length }
        unmatched := summary.unmatchedStarts + summary.unmatchedEnds }

/-- What gets in the way of a task at the store. -/
structure Obstacles where
  /-- Why the store cannot be opened. -/
  opening : Option StoreError := none
  /-- What goes wrong in the transaction of a table. -/
  writing : Table → Faults := fun _ => .none

/-- Opens the store and writes a batch. -/
def Sink.openAndWrite (sink : Sink) (obstacles : Obstacles) (batch : Batch) (store : Store) :
    WriteOutcome (List (Table × Nat)) :=
  match obstacles.opening with
  | some error => ⟨.error error, store, []⟩
  | none => sink.writeBatch obstacles.writing batch store

/-- The outcome of a task: its report, the store it leaves and its log. -/
structure TaskOutcome where
  report : Report
  store : Store
  log : List LogLine

/-- The report of a task with what became of its batch. -/
def Report.afterWrite (report : Report) : Except StoreError (List (Table × Nat)) → Report
  | .error error => { report with status := .failed (.storage error) }
  | .ok rows => { report with rows }

/-- Ends a task that has read its files: writes the batch, unless a file was bad
or there is nothing to write. -/
def writeReading (context : Context) (sink : Sink) (obstacles : Obstacles) (engine : Engine)
    (reading : FilesReading) (store : Store) : TaskOutcome :=
  match reading.error with
  | some error =>
      ⟨{ engine, status := .failed error, totals := reading.totals }, store, reading.log⟩
  | none =>
      let spans := taskSpans engine context.clock reading.records
      let report := fullReport engine reading spans
      let log := reading.log ++ (spans.map fun summary => summary.taskLines engine).getD []
      let batch := taskBatch spans reading.records
      if batch.isEmpty then ⟨report, store, log⟩
      else
        let outcome := sink.openAndWrite obstacles batch store
        ⟨report.afterWrite outcome.result, outcome.store, log ++ outcome.log⟩

/-- Reads, batches and writes the files of an engine. -/
def ingestFiles (context : Context) (sink : Sink) (read : FilePath → Except FileFault (List UInt8))
    (obstacles : Obstacles) (engine : Engine) (files : List SliceFile) (decoder : Decoder)
    (store : Store) : TaskOutcome :=
  writeReading context sink obstacles engine (readFiles read decoder context.clock files) store

/-- Runs the task of an engine, unless the run is cancelled or no decoder
serves the engine on this chip. -/
def runTask (dispatcher : Dispatcher) (context : Context) (sink : Sink)
    (read : FilePath → Except FileFault (List UInt8)) (obstacles : Obstacles) (cancelled : Bool)
    (engine : Engine) (files : List SliceFile) (store : Store) : TaskOutcome :=
  if cancelled then ⟨{ engine, status := .skipped .cancelled }, store, []⟩
  else
    match dispatcher.decoderFor context.chip engine with
    | .error pair => ⟨{ engine, status := .skipped (.unsupported pair) }, store, []⟩
    | .ok decoder => ingestFiles context sink read obstacles engine files decoder store

end AcceleratorTrace
