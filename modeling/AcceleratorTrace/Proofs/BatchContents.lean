import AcceleratorTrace.Batch

/-!
# What a batch holds

A batch holds, for each table, the records added for that table in the order
added.  A table takes part once it was asked for or has received a record.
-/

namespace AcceleratorTrace

/-- The records of a table among others, in order. -/
def ofTable (table : Table) (records : List TimedRecord) : List TimedRecord :=
  records.filter fun record => record.record.table == table

@[simp] theorem ofTable_nil (table : Table) : ofTable table [] = [] := rfl

theorem ofTable_cons_self {record : TimedRecord} {table : Table} (records : List TimedRecord)
    (own : record.record.table = table) :
    ofTable table (record :: records) = record :: ofTable table records := by
  simp [ofTable, own]

theorem ofTable_cons_of_ne {record : TimedRecord} {table : Table} (records : List TimedRecord)
    (stray : record.record.table ≠ table) :
    ofTable table (record :: records) = ofTable table records := by
  simp [ofTable, stray]

theorem ofTable_eq_self {table : Table} {records : List TimedRecord}
    (own : ∀ record ∈ records, record.record.table = table) : ofTable table records = records := by
  rw [ofTable, List.filter_eq_self]
  intro record member
  simp [own record member]

theorem ofTable_eq_nil {table other : Table} {records : List TimedRecord}
    (own : ∀ record ∈ records, record.record.table = table) (different : other ≠ table) :
    ofTable other records = [] := by
  rw [ofTable, List.filter_eq_nil_iff]
  intro record member
  simp [own record member, different.symm]

namespace Batch

@[simp] theorem get_empty (table : Table) : ({} : Batch).tables.get table = none :=
  PerTable.get_replicate none table

theorem get_withTable_self (batch : Batch) (table : Table) :
    (batch.withTable table).tables.get table = some (batch.records table) :=
  PerTable.get_set_self _ _ _

theorem get_withTable_of_ne (batch : Batch) {table other : Table} (different : other ≠ table) :
    (batch.withTable table).tables.get other = batch.tables.get other :=
  PerTable.get_set_of_ne _ _ different

theorem get_push_self (batch : Batch) (record : TimedRecord) :
    (batch.push record).tables.get record.record.table =
      some (batch.records record.record.table ++ [record]) :=
  PerTable.get_set_self _ _ _

theorem get_push_of_ne (batch : Batch) {record : TimedRecord} {other : Table}
    (different : other ≠ record.record.table) :
    (batch.push record).tables.get other = batch.tables.get other :=
  PerTable.get_set_of_ne _ _ different

/-- Adding records adds those of each table to what it held, and lets no other
table take part. -/
theorem get_extend (batch : Batch) (records : List TimedRecord) (table : Table) :
    (batch.extend records).tables.get table =
      if ofTable table records = [] then batch.tables.get table
      else some (batch.records table ++ ofTable table records) := by
  induction records generalizing batch with
  | nil => simp [extend]
  | cons record records induction =>
      have step : batch.extend (record :: records) = (batch.push record).extend records := rfl
      rw [step, induction]
      by_cases own : record.record.table = table
      · subst own
        rw [ofTable_cons_self records rfl, if_neg (List.cons_ne_nil _ _)]
        have held : (batch.push record).records record.record.table =
            batch.records record.record.table ++ [record] := by
          simp [Batch.records, get_push_self]
        by_cases none : ofTable record.record.table records = []
        · rw [if_pos none, none, get_push_self]
        · rw [if_neg none, held]
          simp
      · have other : table ≠ record.record.table := Ne.symm own
        have held : (batch.push record).records table = batch.records table := by
          simp [Batch.records, get_push_of_ne batch other]
        rw [ofTable_cons_of_ne records own, get_push_of_ne batch other, held]

theorem mem_present_iff {batch : Batch} {table : Table} {records : List TimedRecord} :
    (table, records) ∈ batch.present ↔ batch.tables.get table = some records := by
  have every : table ∈ Table.all := by cases table <;> decide
  simp only [present, List.mem_filterMap, Option.map_eq_some_iff, Prod.mk.injEq]
  constructor
  · rintro ⟨other, -, found, held, rfl, rfl⟩
    exact held
  · intro held
    exact ⟨table, every, records, held, rfl, rfl⟩

/-- The tables that take part, in table order. -/
def writtenTables (batch : Batch) : List Table :=
  Table.all.filter fun table => (batch.tables.get table).isSome

theorem nodup_writtenTables (batch : Batch) : batch.writtenTables.Nodup :=
  List.Pairwise.filter _ (by decide : Table.all.Nodup)

/-- Some tables of a batch with their records. -/
def parts (batch : Batch) (tables : List Table) : List (Table × List TimedRecord) :=
  tables.map fun table => (table, batch.records table)

theorem map_fst_parts (batch : Batch) (tables : List Table) :
    (batch.parts tables).map Prod.fst = tables := by
  simp [parts, Function.comp_def]

theorem present_eq (batch : Batch) : batch.present = batch.parts batch.writtenTables := by
  unfold present writtenTables parts
  induction Table.all with
  | nil => rfl
  | cons table tables induction =>
      cases held : batch.tables.get table with
      | none => simp [held, induction]
      | some records => simp [held, induction, Batch.records]

theorem nodup_present (batch : Batch) : (batch.present.map Prod.fst).Nodup := by
  rw [present_eq, map_fst_parts]
  exact nodup_writtenTables batch

theorem isEmpty_iff (batch : Batch) : batch.isEmpty = true ↔ batch.present = [] :=
  List.isEmpty_iff

end Batch

end AcceleratorTrace
