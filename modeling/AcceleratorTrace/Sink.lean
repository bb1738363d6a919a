import AcceleratorTrace.Batch
import AcceleratorTrace.Clock
import AcceleratorTrace.Chip
import AcceleratorTrace.Log
import AcceleratorTrace.Store

/-!
# Writing to the store

A sink writes each table in a transaction of its own and tries again while the
fault is transient.  A batch is written table by table and stops at the first
table that fails; the tables before it stay written.
-/

namespace AcceleratorTrace

/-- Why something could not be written. -/
inductive StoreError where
  | commitFailed (table : String) (attempts : Nat) (cause : String)
  | statementFailed (table cause : String)
  | directoryFailed (path cause : String)
  | openFailed (path cause : String)
  | tableMismatch (expected actual : Table)
  /-- Not an error that is given back but a crash: a number that the user chose is
  too great, more attempts than 32 bits can count or more waiting than 31 bits of
  milliseconds.  The program stops there without a message of its own. -/
  | outOfRange
  deriving DecidableEq, Repr

def StoreError.message : StoreError → String
  | .commitFailed table attempts cause =>
      s!"table {table}: commit failed after {attempts} attempts: {cause}"
  | .statementFailed table cause => s!"table {table}: {cause}"
  | .directoryFailed path cause => s!"failed to create store directory {path}: {cause}"
  | .openFailed path cause => s!"failed to open store {path}: {cause}"
  | .tableMismatch expected actual =>
      s!"record of table {actual.name} handed to table {expected.name}"
  | .outOfRange => "number out of range"

/-- What a write gives, the store it leaves and what it logs. -/
structure WriteOutcome (α : Type) where
  result : Except StoreError α
  store : Store
  log : List LogLine

/-- Faults from outside the store, by attempt (the first is 1) and step. -/
abbrev Faults := (attempt step : Nat) → Option Fault

/-- Nothing gets in the way. -/
def Faults.none : Faults := fun _ _ => Option.none

/-- A way to write to the store at a path. -/
structure Sink where
  path : String
  /-- Further attempts after a first one that failed. -/
  retries : UInt32
  deriving DecidableEq, Repr

namespace Sink

/-- The number of attempts. -/
def limit (sink : Sink) : Nat := sink.retries.toNat + 1

def retryLine (sink : Sink) (table : String) (attempt : Nat) (cause : String) : LogLine :=
  .warn s!"{sink.path}: attempt {attempt}/{sink.limit} on {table} failed: {cause}"

/-- Makes attempts until one does not fail with a transient fault or none are
`left` after it. -/
def retry {α : Type} (sink : Sink) (table : String) (run : Nat → Except Fault α) :
    (left attempt : Nat) → Except StoreError α × List LogLine
  | left, attempt =>
      match run attempt with
      | .ok value => (.ok value, [])
      | .error (.permanent cause) => (.error (.statementFailed table cause), [])
      | .error (.transient cause) =>
          match left with
          | 0 => (.error (.commitFailed table attempt cause), [])
          | left + 1 =>
              let (result, log) := retry sink table run left (attempt + 1)
              (result, sink.retryLine table attempt cause :: log)

/-- Commits a transaction.  No attempt is made if their number could not be
counted in 32 bits. -/
def commit (sink : Sink) (table : String) (faults : Faults) (statements : List Statement)
    (store : Store) : Except StoreError Store × List LogLine :=
  if sink.limit < UInt32.size then
    sink.retry table (fun attempt => store.transaction (faults attempt) statements)
      sink.retries.toNat 1
  else (.error .outOfRange, [])

/-- The statements that write records to their table. -/
def statements (table : Table) (records : List TimedRecord) : List Statement :=
  let clearing := match table.policy with
    | .append => []
    | .replace => [.clear table]
  [.create table] ++ clearing ++ [.prepare table] ++
    records.map fun record => .insert table record.row

def committedLine (sink : Sink) (table : Table) (count : Nat) : LogLine :=
  .debug s!"{sink.path}: committed {count} rows to {table.name}"

/-- Writes records to their table and gives the number of rows.  A record of
another table is refused before any attempt. -/
def writeTable (sink : Sink) (faults : Faults) (table : Table) (records : List TimedRecord)
    (store : Store) : WriteOutcome Nat :=
  match records.find? fun record => record.record.table != table with
  | some stray => ⟨.error (.tableMismatch table stray.record.table), store, []⟩
  | none =>
      match sink.commit table.name faults (statements table records) store with
      | (.ok written, log) =>
          ⟨.ok records.length, written, log ++ [sink.committedLine table records.length]⟩
      | (.error error, log) => ⟨.error error, store, log⟩

/-- Writes tables in order up to the first that fails, and gives the number of
rows of each. -/
def writeTables (sink : Sink) (faults : Table → Faults) :
    List (Table × List TimedRecord) → Store → WriteOutcome (List (Table × Nat))
  | [], store => ⟨.ok [], store, []⟩
  | (table, records) :: rest, store =>
      let first := sink.writeTable (faults table) table records store
      match first.result with
      | .error error => ⟨.error error, first.store, first.log⟩
      | .ok count =>
          let others := sink.writeTables faults rest first.store
          ⟨others.result.map fun counts => (table, count) :: counts, others.store,
            first.log ++ others.log⟩

/-- Writes a batch, one transaction per table. -/
def writeBatch (sink : Sink) (faults : Table → Faults) (batch : Batch) (store : Store) :
    WriteOutcome (List (Table × Nat)) :=
  sink.writeTables faults batch.present store

/-- What the store records about a run. -/
def metadata (chip : Chip) (clock : Clock) : Metadata where
  chip := chip.name
  referenceCycle := clock.reference.cycle
  referenceWallNs := clock.reference.wallNs
  frequencyBits := clock.reference.frequency.toBits
  runStartNs := clock.window.map Window.startNs
  runEndNs := clock.window.map Window.endNs

/-- Writes the metadata in place of that of an earlier run. -/
def recordRun (sink : Sink) (faults : Faults) (chip : Chip) (clock : Clock) (store : Store) :
    WriteOutcome Unit :=
  let statements := [.createMetadata, .putMetadata (metadata chip clock)]
  match sink.commit "metadata" faults statements store with
  | (.ok written, log) => ⟨.ok (), written, log⟩
  | (.error error, log) => ⟨.error error, store, log⟩

end Sink

end AcceleratorTrace
