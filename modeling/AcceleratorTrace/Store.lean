import AcceleratorTrace.PerTable
import AcceleratorTrace.Row

/-!
# The store

The contents of a run's database: the tables that exist, with their rows in
insertion order, and the single row of metadata.  A transaction runs statements
one after the other and gives the store that they leave, or the fault of the
first step that fails; then nothing has changed.
-/

namespace AcceleratorTrace

/-- A table that exists. -/
inductive TableState where
  /-- With the declared columns. -/
  | rows (rows : List Row)
  /-- With other columns, created by someone else under the same name. -/
  | foreign
  deriving DecidableEq, Repr

/-- What the store records about the last run.  The frequency is held by its
bits. -/
structure Metadata where
  chip : String
  referenceCycle : UInt64
  referenceWallNs : Int64
  frequencyBits : UInt64
  runStartNs : Option Int64
  runEndNs : Option Int64
  deriving DecidableEq, Repr

/-- Version of the store layout, recorded in the metadata. -/
def schemaVersion : Int64 := 1

/-- The row of the metadata table: its only key, the version, then the run. -/
def Metadata.row (metadata : Metadata) : Row :=
  [.integer 1, .integer schemaVersion, .text metadata.chip, .ofUInt64 metadata.referenceCycle,
    .integer metadata.referenceWallNs, .real metadata.frequencyBits,
    .ofOption .integer metadata.runStartNs, .ofOption .integer metadata.runEndNs]

/-- The metadata table, if it exists. -/
inductive MetadataState where
  | row (metadata : Option Metadata)
  /-- With other columns, created by someone else under the same name. -/
  | foreign
  deriving DecidableEq, Repr

/-- What a database file holds. -/
structure Store where
  tables : PerTable (Option TableState) := .replicate none
  metadata : Option MetadataState := none
  deriving DecidableEq, Repr

namespace Store

/-- The rows of a table; a table that does not exist has none. -/
def rows (store : Store) (table : Table) : List Row :=
  match store.tables.get table with
  | some (.rows rows) => rows
  | _ => []

/-- The number of tables that exist. -/
def tableCount (store : Store) : Nat :=
  (Table.all.filter fun table => (store.tables.get table).isSome).length +
    store.metadata.toList.length

def setTable (store : Store) (table : Table) (state : TableState) : Store :=
  { store with tables := store.tables.set table (some state) }

/-- Creates a table with other columns, unless one of the name exists. -/
def occupy (store : Store) (table : Table) : Store :=
  match store.tables.get table with
  | none => store.setTable table .foreign
  | some _ => store

/-- Creates a metadata table with other columns, unless one exists. -/
def occupyMetadata (store : Store) : Store :=
  match store.metadata with
  | none => { store with metadata := some .foreign }
  | some _ => store

end Store

/-- Why a step of a transaction fails.  Only a transient fault is worth another
attempt. -/
inductive Fault where
  | transient (text : String)
  | permanent (text : String)
  deriving DecidableEq, Repr

/-- One statement of a transaction. -/
inductive Statement where
  /-- Creates the table unless it exists. -/
  | create (table : Table)
  /-- Deletes all rows. -/
  | clear (table : Table)
  /-- Checks that rows can be inserted. -/
  | prepare (table : Table)
  | insert (table : Table) (row : Row)
  /-- Creates the metadata table unless it exists. -/
  | createMetadata
  /-- Writes the metadata in place of what was there. -/
  | putMetadata (metadata : Metadata)
  deriving DecidableEq, Repr

namespace Statement

/-- The fault of writing to a table that lacks a column. -/
def noColumn (table column : String) : Fault :=
  .permanent s!"table {table} has no column named {column}"

/-- The fault of writing to a table that does not exist. -/
def noTable (table : String) : Fault := .permanent s!"no such table: {table}"

/-- Replaces the rows of a table by what a function makes of them. -/
def modifyRows (store : Store) (table : Table) (change : List Row → List Row) :
    Except Fault Store :=
  match store.tables.get table with
  | some (.rows rows) => .ok (store.setTable table (.rows (change rows)))
  | some .foreign => .error (noColumn table.name "device_id")
  | none => .error (noTable table.name)

/-- Runs one statement. -/
def apply (store : Store) : Statement → Except Fault Store
  | .create table =>
      match store.tables.get table with
      | some _ => .ok store
      | none => .ok (store.setTable table (.rows []))
  | .clear table =>
      match store.tables.get table with
      | some .foreign => .ok store
      | _ => modifyRows store table fun _ => []
  | .prepare table => modifyRows store table id
  | .insert table row => modifyRows store table (· ++ [row])
  | .createMetadata =>
      match store.metadata with
      | some _ => .ok store
      | none => .ok { store with metadata := some (.row none) }
  | .putMetadata metadata =>
      match store.metadata with
      | some (.row _) => .ok { store with metadata := some (.row (some metadata)) }
      | some .foreign => .error (noColumn "metadata" "id")
      | none => .error (noTable "metadata")

end Statement

namespace Store

/-- Runs statements from a given step on.  `fault?` says at which steps
something outside the store gets in the way. -/
def runStatements (fault? : Nat → Option Fault) :
    (step : Nat) → List Statement → Store → Except Fault Store
  | step, [], store =>
      match fault? step with
      | some fault => .error fault
      | none => .ok store
  | step, statement :: rest, store =>
      match fault? step with
      | some fault => .error fault
      | none =>
          match statement.apply store with
          | .error fault => .error fault
          | .ok store => runStatements fault? (step + 1) rest store

/-- Runs a whole transaction.  Step 0 begins it, each statement is a step, and
the last one commits. -/
def transaction (fault? : Nat → Option Fault) (statements : List Statement) (store : Store) :
    Except Fault Store :=
  match fault? 0 with
  | some fault => .error fault
  | none => runStatements fault? 1 statements store

end Store

end AcceleratorTrace
