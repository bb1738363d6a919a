import AcceleratorTrace.Number.Text
import AcceleratorTrace.Store

/-!
# The store as a script

The statements that build a store from nothing, as text.
-/

namespace AcceleratorTrace

/-- Text in single quotes, with the quotes inside it doubled. -/
def quotedLiteral (text : String) : String :=
  "'" ++ "''".intercalate (text.splitOn "'") ++ "'"

def hexByte (byte : UInt8) : String :=
  String.ofList [Nat.digitChar (byte.toNat / 16), Nat.digitChar (byte.toNat % 16)]

namespace Value

/-- A value as it stands in a statement. -/
def literal : Value → String
  | .null => "NULL"
  | .integer value => toString value.toInt
  | .real bits => floatText (Float.ofBits bits)
  | .text value => quotedLiteral value
  | .blob bytes => "X'" ++ String.join (bytes.map hexByte) ++ "'"

end Value

/-- The statement that inserts these values. -/
def insertLiterals (table : String) (columns : List String) (row : Row) : String :=
  "INSERT INTO " ++ table ++ " (" ++ ", ".intercalate columns ++ ") VALUES (" ++
    ", ".intercalate (row.map Value.literal) ++ ");\n"

namespace Metadata

def columnNames : List String :=
  ["id", "schema_version", "chip", "reference_cycle", "reference_wall_ns", "cycles_per_us",
    "run_start_ns", "run_end_ns"]

/-- The statement that creates the metadata table unless it exists. -/
def createStatement : String := "
CREATE TABLE IF NOT EXISTS metadata (
    id INTEGER PRIMARY KEY CHECK (id = 1),
    schema_version INTEGER NOT NULL,
    chip TEXT NOT NULL,
    reference_cycle INTEGER NOT NULL,
    reference_wall_ns INTEGER NOT NULL,
    cycles_per_us REAL NOT NULL,
    run_start_ns INTEGER,
    run_end_ns INTEGER,
    created_at TEXT NOT NULL DEFAULT CURRENT_TIMESTAMP
);
"

end Metadata

namespace Store

/-- The statements that build one table. -/
def tableScript (store : Store) (table : Table) : String :=
  match store.tables.get table with
  | some (.rows rows) =>
      table.createStatement ++ String.join (rows.map (insertLiterals table.name table.columnNames))
  | _ => ""

/-- The statements that build the metadata. -/
def metadataScript (store : Store) : String :=
  match store.metadata with
  | some (.row (some metadata)) =>
      Metadata.createStatement ++ insertLiterals "metadata" Metadata.columnNames metadata.row
  | some (.row none) => Metadata.createStatement
  | _ => ""

/-- The statements that build the whole store. -/
def script (store : Store) : String :=
  store.metadataScript ++ String.join (Table.all.map store.tableScript)

end Store

end AcceleratorTrace
