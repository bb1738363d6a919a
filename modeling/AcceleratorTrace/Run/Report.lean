import AcceleratorTrace.Dispatch
import AcceleratorTrace.FileTree.Stores
import AcceleratorTrace.Slice

/-!
# Reports

What a task says about itself when it is over, and the summary of a run.
-/

namespace AcceleratorTrace

/-- Why a task failed. -/
inductive TaskFailure where
  | unreadable (path : FilePath) (fault : FileFault)
  | undecodable (path : FilePath) (failure : SliceFailure)
  | storage (error : StoreError)
  deriving DecidableEq, Repr

def TaskFailure.message : TaskFailure → String
  | .unreadable path fault => s!"failed to read {path}: {fault.message}"
  | .undecodable path failure => s!"{path}: {failure.message}"
  | .storage error => error.message

/-- Why a task was not started. -/
inductive SkipReason where
  | cancelled
  | unsupported (pair : Unsupported)
  deriving DecidableEq, Repr

def SkipReason.message : SkipReason → String
  | .cancelled => "run cancelled"
  | .unsupported pair => pair.message

inductive TaskStatus where
  | succeeded
  | failed (error : TaskFailure)
  | skipped (reason : SkipReason)
  deriving DecidableEq, Repr

namespace TaskStatus

def isFailed : TaskStatus → Bool
  | .failed _ => true
  | _ => false

def isSkipped : TaskStatus → Bool
  | .skipped _ => true
  | _ => false

/-- The reason why a task did not succeed. -/
def reason? : TaskStatus → Option String
  | .succeeded => none
  | .failed error => some error.message
  | .skipped reason => some reason.message

end TaskStatus

/-- Totals over files that were read to their end. -/
structure Totals where
  files : Nat := 0
  records : Nat := 0
  fragmentBytes : Nat := 0
  warnings : Nat := 0
  deriving DecidableEq, Repr

namespace Totals

def ofReading (reading : SliceReading) : Totals where
  files := 1
  records := reading.records.length
  fragmentBytes := reading.fragment
  warnings := reading.warnings.length

def add (first second : Totals) : Totals where
  files := first.files + second.files
  records := first.records + second.records
  fragmentBytes := first.fragmentBytes + second.fragmentBytes
  warnings := first.warnings + second.warnings

end Totals

/-- The outcome of the task of one engine. -/
structure Report where
  engine : Engine
  status : TaskStatus := .succeeded
  totals : Totals := {}
  /-- Starts without an end and ends without a start. -/
  unmatched : Nat := 0
  /-- Rows written, by table in table order. -/
  rows : List (Table × Nat) := []
  deriving DecidableEq, Repr

namespace Report

def rowCount (report : Report) : Nat := report.rows.foldr (fun row total => row.2 + total) 0

/-- The log line of a task that is over. -/
def logLine (report : Report) : LogLine :=
  let stem := report.engine.stem
  let totals := report.totals
  match report.status with
  | .succeeded =>
      .info s!"{stem}: {totals.records} records from {totals.files} files, {report.rowCount} rows"
  | .skipped reason => .warn s!"{stem}: skipped: {reason.message}"
  | .failed error => .warn s!"{stem}: failed: {error.message}"

end Report

/-- The outcome of a run: its reports in engine order. -/
structure Summary where
  reports : List Report
  cancelled : Bool
  deriving DecidableEq, Repr

namespace Summary

def failed (summary : Summary) : List Report :=
  summary.reports.filter fun report => report.status.isFailed

def skipped (summary : Summary) : List Report :=
  summary.reports.filter fun report => report.status.isSkipped

def rowCount (summary : Summary) : Nat :=
  summary.reports.foldr (fun report total => report.rowCount + total) 0

end Summary

end AcceleratorTrace
