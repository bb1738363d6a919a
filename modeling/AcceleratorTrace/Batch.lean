import AcceleratorTrace.PerTable
import AcceleratorTrace.Record

/-!
# Batches

Records waiting to be written, grouped by table.  A table can be part of a
batch without any record, so that a table that is rebuilt by every run is
cleared when nothing is left to put into it.
-/

namespace AcceleratorTrace

/-- For each table that takes part, its records in the order added. -/
structure Batch where
  tables : PerTable (Option (List TimedRecord)) := .replicate none
  deriving DecidableEq, Repr

namespace Batch

/-- The records of a table; a table that takes no part has none. -/
def records (batch : Batch) (table : Table) : List TimedRecord :=
  (batch.tables.get table).getD []

/-- Makes sure that a table takes part. -/
def withTable (batch : Batch) (table : Table) : Batch :=
  ⟨batch.tables.set table (some (batch.records table))⟩

/-- Adds a record to its table. -/
def push (batch : Batch) (record : TimedRecord) : Batch :=
  let table := record.record.table
  ⟨batch.tables.set table (some (batch.records table ++ [record]))⟩

/-- Adds records in order. -/
def extend (batch : Batch) (records : List TimedRecord) : Batch :=
  records.foldl push batch

/-- The tables that take part, in table order, with their records. -/
def present (batch : Batch) : List (Table × List TimedRecord) :=
  Table.all.filterMap fun table => (batch.tables.get table).map fun records => (table, records)

/-- The number of records. -/
def size (batch : Batch) : Nat :=
  batch.present.foldr (fun (_, records) total => records.length + total) 0

/-- Whether no table takes part, not even an empty one. -/
def isEmpty (batch : Batch) : Bool := batch.present.isEmpty

end Batch

end AcceleratorTrace
