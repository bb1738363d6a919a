import AcceleratorTrace.Proofs.BatchContents
import AcceleratorTrace.Proofs.TableWrite
import Mathlib

/-!
# Batches are written as a prefix

Whatever calls a batch has seen, it holds for each table the records that belong
there, in the order added.  So a batch never hands a record to another table, and
whether the write of a table fails depends on that table alone.  A batch is written in
table order up to the first table that fails: those before it are written whole, and
nothing else changes.
-/

namespace AcceleratorTrace

namespace Batch

/-- A call that adds to a batch. -/
inductive Call where
  | push (record : TimedRecord)
  | extend (records : List TimedRecord)
  | withTable (table : Table)

/-- The records that a call adds. -/
def Call.added : Call → List TimedRecord
  | .push record => [record]
  | .extend records => records
  | .withTable _ => []

def Call.apply (batch : Batch) : Call → Batch
  | .push record => batch.push record
  | .extend records => batch.extend records
  | .withTable table => batch.withTable table

/-- The batch that calls make of an empty one. -/
def ofCalls (calls : List Call) : Batch := calls.foldl Call.apply {}

/-- The records that calls add, in order. -/
def addedBy (calls : List Call) : List TimedRecord := calls.flatMap Call.added

/-- A table was asked for or has received a record. -/
def Asked (calls : List Call) (table : Table) : Prop :=
  .withTable table ∈ calls ∨ ∃ record ∈ addedBy calls, record.record.table = table

/-- The batch is what the calls say. -/
structure Holds (batch : Batch) (calls : List Call) : Prop where
  records : ∀ table, batch.records table = ofTable table (addedBy calls)
  present : ∀ table, (batch.tables.get table).isSome = true ↔ Asked calls table

theorem ofTable_append (table : Table) (first second : List TimedRecord) :
    ofTable table (first ++ second) = ofTable table first ++ ofTable table second :=
  List.filter_append ..

theorem ofTable_ne_nil_iff {table : Table} {records : List TimedRecord} :
    ofTable table records ≠ [] ↔ ∃ record ∈ records, record.record.table = table := by
  simp [ofTable, List.filter_eq_nil_iff]

theorem addedBy_concat (calls : List Call) (call : Call) :
    addedBy (calls ++ [call]) = addedBy calls ++ call.added := by
  simp [addedBy]

theorem asked_concat {calls : List Call} {call : Call} {table : Table} :
    Asked (calls ++ [call]) table ↔
      Asked calls table ∨ call = .withTable table ∨ ofTable table call.added ≠ [] := by
  rw [ofTable_ne_nil_iff]
  simp only [Asked, addedBy_concat, List.mem_append, List.mem_singleton]
  constructor
  · rintro ((early | last) | ⟨record, early | last, own⟩)
    · exact .inl (.inl early)
    · exact .inr (.inl last.symm)
    · exact .inl (.inr ⟨record, early, own⟩)
    · exact .inr (.inr ⟨record, last, own⟩)
  · rintro ((early | ⟨record, early, own⟩) | last | ⟨record, last, own⟩)
    · exact .inl (.inl early)
    · exact .inr ⟨record, .inl early, own⟩
    · exact .inl (.inr last.symm)
    · exact .inr ⟨record, .inr last, own⟩

namespace Holds

variable {batch : Batch} {calls : List Call}

theorem empty : Holds {} [] := by
  constructor
  · intro table
    simp [Batch.records, addedBy]
  · intro table
    simp [Asked, addedBy]

theorem extend (holds : Holds batch calls) {call : Call} (records : List TimedRecord)
    (adds : call.added = records) (asksNone : ∀ table, call ≠ .withTable table) :
    Holds (batch.extend records) (calls ++ [call]) := by
  have get := get_extend batch records
  constructor
  · intro table
    rw [addedBy_concat, ofTable_append, adds, ← holds.records, Batch.records, get]
    by_cases none : ofTable table records = []
    · rw [if_pos none, none, List.append_nil]
      rfl
    · rw [if_neg none, Option.getD_some]
  · intro table
    rw [asked_concat, ← holds.present, get, adds]
    by_cases none : ofTable table records = []
    · simp [none, asksNone table]
    · simp [none]

theorem withTable (holds : Holds batch calls) (table : Table) :
    Holds (batch.withTable table) (calls ++ [.withTable table]) := by
  constructor
  · intro other
    rw [addedBy_concat, ofTable_append, ← holds.records, Call.added, ofTable_nil, List.append_nil]
    by_cases same : other = table
    · subst same
      rw [Batch.records, get_withTable_self, Option.getD_some]
    · rw [Batch.records, get_withTable_of_ne batch same]
      rfl
  · intro other
    rw [asked_concat, ← holds.present]
    by_cases same : other = table
    · subst same
      simp [get_withTable_self]
    · have different : table ≠ other := Ne.symm same
      simp [get_withTable_of_ne batch same, Call.added, different]

theorem apply (holds : Holds batch calls) (call : Call) :
    Holds (call.apply batch) (calls ++ [call]) := by
  cases call with
  | push record => exact holds.extend [record] rfl nofun
  | extend records => exact holds.extend records rfl nofun
  | withTable table => exact holds.withTable table

end Holds

theorem holds_ofCalls (calls : List Call) : Holds (ofCalls calls) calls := by
  have run : ∀ (rest before : List Call) (batch : Batch), Holds batch before →
      Holds (rest.foldl Call.apply batch) (before ++ rest) := by
    intro rest
    induction rest with
    | nil =>
        intro before batch holds
        rwa [List.append_nil]
    | cons call rest induction =>
        intro before batch holds
        rw [List.append_cons]
        exact induction _ _ (holds.apply call)
  exact run calls [] {} .empty

theorem size_eq (batch : Batch) :
    batch.size = (batch.writtenTables.map fun table => (batch.records table).length).sum := by
  rw [size, present_eq, parts, List.foldr_map, List.sum, List.foldr_map]

theorem sum_ofTable (records : List TimedRecord) :
    (Table.all.map fun table => (ofTable table records).length).sum = records.length := by
  induction records with
  | nil => rfl
  | cons record rest induction =>
      have once : ∀ table, (ofTable table (record :: rest)).length =
          (ofTable table rest).length + if record.record.table = table then 1 else 0 := by
        intro table
        by_cases own : record.record.table = table
        · rw [ofTable_cons_self rest own, if_pos own, List.length_cons]
        · rw [ofTable_cons_of_ne rest own, if_neg own, Nat.add_zero]
      have one :
          (Table.all.map fun table => if record.record.table = table then 1 else 0).sum = 1 := by
        cases record.record.table <;> rfl
      simp only [once, Table.all, List.map_cons, List.map_nil, List.sum_cons, List.sum_nil,
        List.length_cons] at induction one ⊢
      omega

/-- No record is lost or held twice. -/
theorem Holds.size {batch : Batch} {calls : List Call} (holds : Holds batch calls) :
    batch.size = (addedBy calls).length := by
  have absent : ∀ table, (batch.tables.get table).isSome = false →
      (batch.records table).length = 0 := by
    intro table none
    rw [Option.isSome_eq_false_iff, Option.isNone_iff_eq_none] at none
    rw [Batch.records, none]
    rfl
  have whole : (Table.all.map fun table => (batch.records table).length).sum =
      (addedBy calls).length := by
    simp only [holds.records]
    exact sum_ofTable (addedBy calls)
  rw [size_eq, ← whole, writtenTables]
  induction Table.all with
  | nil => rfl
  | cons table tables induction =>
      cases held : (batch.tables.get table).isSome with
      | true => simp [held, induction]
      | false => simp [held, induction, absent table held]

end Batch

namespace Sink

section Prefix

variable {sink : Sink} {faults : Table → Faults} {store : Store}

theorem writeTables_of_each_ok {parts : List (Table × List TimedRecord)}
    (distinct : (parts.map Prod.fst).Nodup)
    (each : ∀ part ∈ parts, ∃ count,
      (sink.writeTable (faults part.1) part.1 part.2 store).result = .ok count) :
    (sink.writeTables faults parts store).result =
      .ok (parts.map fun part => (part.1, part.2.length)) := by
  induction parts generalizing store with
  | nil => rfl
  | cons part rest induction =>
      obtain ⟨table, records⟩ := part
      rw [List.map_cons, List.nodup_cons] at distinct
      rw [List.forall_mem_cons] at each
      obtain ⟨count, first⟩ := each.1
      rw [(writeTables_cons_of_ok first).1, induction distinct.2]
      · rfl
      · intro part member
        have different : part.1 ≠ table := by
          intro same
          exact distinct.1 (List.mem_map.mpr ⟨part, member, same⟩)
        obtain ⟨count, alone⟩ := each.2 part member
        -- The first write leaves the later table as it was, so it succeeds as it does alone.
        have same := Store.get_setTable_of_ne store
          (.rows (keptRows table store ++ records.map TimedRecord.row)) different
        exact ⟨count, (writeTable_congr sink (faults part.1) part.2 same).1.trans alone⟩

/-- A write of tables stops at one that fails after tables that do not. -/
theorem writeTables_append_of_error {before after : List (Table × List TimedRecord)}
    {table : Table} {records : List TimedRecord} {counts : List (Table × Nat)} {error : StoreError}
    (written : (sink.writeTables faults before store).result = .ok counts)
    (refused : (sink.writeTable (faults table) table records
      (sink.writeTables faults before store).store).result = .error error) :
    (sink.writeTables faults (before ++ (table, records) :: after) store).result = .error error ∧
      (sink.writeTables faults (before ++ (table, records) :: after) store).store =
        (sink.writeTables faults before store).store := by
  induction before generalizing store counts with
  | nil => exact writeTables_cons_of_error refused
  | cons part rest induction =>
      obtain ⟨first, firstRecords⟩ := part
      cases outcome : (sink.writeTable (faults first) first firstRecords store).result with
      | error found =>
          rw [(writeTables_cons_of_error outcome).1] at written
          cases written
      | ok count =>
          have short :=
            @writeTables_cons_of_ok sink faults first firstRecords rest store count outcome
          have long := @writeTables_cons_of_ok sink faults first firstRecords
            (rest ++ (table, records) :: after) store count outcome
          rw [short.2] at refused
          rw [short.1] at written
          cases later : (sink.writeTables faults rest (stored first firstRecords store)).result with
          | error found =>
              rw [later] at written
              cases written
          | ok restCounts =>
              obtain ⟨failed, reached⟩ := induction later refused
              rw [List.cons_append, long.1, long.2, short.2, failed, reached]
              exact ⟨rfl, rfl⟩

theorem metadata_writeTables (parts : List (Table × List TimedRecord)) :
    (sink.writeTables faults parts store).store.metadata = store.metadata := by
  induction parts generalizing store with
  | nil => rfl
  | cons part rest induction =>
      obtain ⟨table, records⟩ := part
      cases outcome : (sink.writeTable (faults table) table records store).result with
      | error error => rw [(writeTables_cons_of_error outcome).2]
      | ok count =>
          rw [(writeTables_cons_of_ok outcome).2, induction]
          rfl

end Prefix

section Batch

variable {sink : Sink} {faults : Table → Faults} {batch : Batch} {store : Store}

theorem writeParts_of_each_ok {tables : List Table} (distinct : tables.Nodup)
    (each : ∀ table ∈ tables, ∃ count,
      (sink.writeTable (faults table) table (batch.records table) store).result = .ok count) :
    (sink.writeTables faults (batch.parts tables) store).result =
        .ok (tables.map fun table => (table, (batch.records table).length)) ∧
      ∀ table ∈ tables,
        (sink.writeTables faults (batch.parts tables) store).store.tables.get table =
          some (.rows (keptRows table store ++ (batch.records table).map TimedRecord.row)) := by
  have keys : ((batch.parts tables).map Prod.fst).Nodup := by rwa [batch.map_fst_parts]
  have written : (sink.writeTables faults (batch.parts tables) store).result =
      .ok ((batch.parts tables).map fun part => (part.1, part.2.length)) := by
    apply writeTables_of_each_ok keys
    intro part member
    obtain ⟨table, inTables, rfl⟩ := List.mem_map.mp member
    exact each table inTables
  constructor
  · rw [written, Batch.parts, List.map_map]
    rfl
  · intro table member
    exact (writeTables_ok keys written).2 (table, batch.records table)
      (List.mem_map.mpr ⟨table, member, rfl⟩)

theorem writeParts_frame {tables : List Table} {other : Table} (outside : other ∉ tables) :
    (sink.writeTables faults (batch.parts tables) store).store.tables.get other =
      store.tables.get other := by
  apply writeTables_frame
  intro part member same
  obtain ⟨table, inTables, rfl⟩ := List.mem_map.mp member
  exact outside (same ▸ inTables)

/-- The write stops at the first table that fails, with the store as the tables before it
left it. -/
theorem writeParts_of_first_error {before after : List Table} {failing : Table}
    {error : StoreError} (distinct : (before ++ failing :: after).Nodup)
    (each : ∀ table ∈ before, ∃ count,
      (sink.writeTable (faults table) table (batch.records table) store).result = .ok count)
    (refused : (sink.writeTable (faults failing) failing (batch.records failing) store).result =
      .error error) :
    (sink.writeTables faults (batch.parts (before ++ failing :: after)) store).result =
        .error error ∧
      (sink.writeTables faults (batch.parts (before ++ failing :: after)) store).store =
        (sink.writeTables faults (batch.parts before) store).store := by
  rw [List.nodup_append] at distinct
  have fresh : failing ∉ before := fun member =>
    distinct.2.2 failing member failing List.mem_cons_self rfl
  have untouched := @writeParts_frame sink faults batch store before failing fresh
  have parts : batch.parts (before ++ failing :: after) =
      batch.parts before ++ (failing, batch.records failing) :: batch.parts after := by
    rw [Batch.parts, List.map_append, List.map_cons]
    rfl
  rw [parts]
  apply writeTables_append_of_error (writeParts_of_each_ok distinct.1 each).1
  exact (writeTable_congr sink (faults failing) (batch.records failing) untouched).1.trans refused

theorem writeBatch_ne_tableMismatch
    (own : ∀ table, ∀ record ∈ batch.records table, record.record.table = table)
    (expected actual : Table) :
    (sink.writeBatch faults batch store).result ≠ .error (.tableMismatch expected actual) := by
  intro failure
  rw [writeBatch] at failure
  obtain ⟨before, table, records, after, counts, split, -, -, refused⟩ := writeTables_error failure
  have part : (table, records) ∈ batch.present := by
    rw [split]
    exact List.mem_append_right _ List.mem_cons_self
  have held : batch.records table = records := by
    rw [Batch.records, Batch.mem_present_iff.mp part]
    rfl
  rcases writeTable_error_names (held ▸ own table) refused with named | uncounted
  · rcases named with ⟨attempts, cause, same⟩ | ⟨cause, same⟩
    · cases same
    · cases same
  · cases uncounted.1

end Batch

/-- A batch holds for each table the records added for it, in order, and a table takes part
exactly if it was asked for or received a record, so no write is refused for a stray record.
If every table that takes part can be written, all are, and their numbers of rows are
given, in table order.  Otherwise the error is that of the first table that fails; the tables
before it hold their whole batch and all others are as they were. -/
theorem batch_is_partitioned_and_written_as_prefix (calls : List Batch.Call) (sink : Sink)
    (faults : Table → Faults) (store : Store) :
    let batch := Batch.ofCalls calls
    let added := Batch.addedBy calls
    let tables := Table.all.filter fun table => (batch.tables.get table).isSome
    let alone := fun table =>
      (sink.writeTable (faults table) table (batch.records table) store).result
    let whole := fun table =>
      some (TableState.rows (keptRows table store ++ (batch.records table).map TimedRecord.row))
    let outcome := sink.writeBatch faults batch store
    (∀ table, batch.records table = added.filter fun record => record.record.table == table) ∧
    (∀ table, (batch.tables.get table).isSome = true ↔
      .withTable table ∈ calls ∨ ∃ record ∈ added, record.record.table = table) ∧
    (∀ expected actual, outcome.result ≠ .error (.tableMismatch expected actual)) ∧
    ((∀ table ∈ tables, ∃ count, alone table = .ok count) →
      outcome.result = .ok (tables.map fun table => (table, (batch.records table).length)) ∧
      (tables.map fun table => (batch.records table).length).sum = batch.size ∧
      batch.size = added.length ∧
      (∀ table ∈ tables, outcome.store.tables.get table = whole table) ∧
      (∀ table ∉ tables, outcome.store.tables.get table = store.tables.get table)) ∧
    (∀ before failing after error, tables = before ++ failing :: after →
      (∀ table ∈ before, ∃ count, alone table = .ok count) → alone failing = .error error →
      outcome.result = .error error ∧
      (error.Names failing.name ∨ error = .outOfRange ∧ ¬ sink.limit < UInt32.size) ∧
      (∀ table ∈ before, outcome.store.tables.get table = whole table) ∧
      (∀ table ∉ before, outcome.store.tables.get table = store.tables.get table)) ∧
    outcome.store.metadata = store.metadata := by
  intro batch added tables alone whole outcome
  have holds := Batch.holds_ofCalls calls
  have own : ∀ table, ∀ record ∈ batch.records table, record.record.table = table := by
    intro table record member
    rw [holds.records] at member
    simpa using (List.mem_filter.mp member).2
  have distinct : tables.Nodup := batch.nodup_writtenTables
  have written : outcome = sink.writeTables faults (batch.parts tables) store := by
    change sink.writeTables faults batch.present store = _
    rw [batch.present_eq]
    rfl
  refine ⟨holds.records, holds.present, ?_, ?_, ?_, ?_⟩
  · exact writeBatch_ne_tableMismatch own
  · intro each
    rw [written]
    obtain ⟨result, stored⟩ := writeParts_of_each_ok distinct each
    exact ⟨result, batch.size_eq.symm, holds.size, stored, fun table => writeParts_frame⟩
  · intro before failing after error split each refused
    rw [written, split]
    rw [split] at distinct
    obtain ⟨result, reached⟩ := writeParts_of_first_error distinct each refused
    rw [result, reached]
    refine ⟨rfl, writeTable_error_names (own failing) refused, ?_, ?_⟩
    · exact (writeParts_of_each_ok (List.nodup_append.mp distinct).1 each).2
    · exact fun table => writeParts_frame
  · rw [written]
    exact metadata_writeTables _

/-- A summary table that someone else created stops the write after the samples. -/
theorem batch_is_partitioned_and_written_as_prefix_foreign_summary :
    let record : TimedRecord := ⟨0, .npuMem ⟨1, 2, 3, 4⟩, some 5, none⟩
    let span : TimedRecord := ⟨0, .taskTime ⟨1, 2, 3, 4, 5⟩, none, none⟩
    let calls : List Batch.Call := [.withTable .taskTime, .push record, .extend [span, record]]
    let store : Store := Store.setTable {} .taskTime .foreign
    let outcome := (⟨"run/s.db", 3⟩ : Sink).writeBatch (fun _ => .none) (Batch.ofCalls calls) store
    outcome.result =
        .error (.statementFailed "task_time" "table task_time has no column named device_id") ∧
      outcome.store.tables.get .npuMem = some (.rows [record.row, record.row]) ∧
      outcome.store.tables.get .taskTime = some .foreign := by
  intro record span calls store outcome
  have law :=
    batch_is_partitioned_and_written_as_prefix calls ⟨"run/s.db", 3⟩ (fun _ => .none) store
  have stops := law.2.2.2.2.1 [.npuMem] .taskTime []
    (.statementFailed "task_time" "table task_time has no column named device_id") rfl
  have first : ∀ table ∈ [Table.npuMem], ∃ count,
      ((⟨"run/s.db", 3⟩ : Sink).writeTable .none table ((Batch.ofCalls calls).records table)
        store).result = .ok count := by
    intro table member
    rw [List.mem_singleton.mp member]
    exact ⟨2, rfl⟩
  obtain ⟨result, -, written, kept⟩ := stops first rfl
  exact ⟨result, written .npuMem (List.mem_singleton.mpr rfl), kept .taskTime (by decide)⟩

end Sink

end AcceleratorTrace
