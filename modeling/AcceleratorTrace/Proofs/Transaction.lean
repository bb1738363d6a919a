import AcceleratorTrace.Sink

/-!
# Transactions on one table

The statements that write records read and change one table only.  A
transaction commits exactly when nothing outside the store gets in its way and
every statement goes through; the table then holds its kept rows followed by
the new ones.  Nothing else in the store takes part, in success or in failure.
-/

namespace AcceleratorTrace

namespace Statement

/-- The table that a statement reads and changes; the metadata is not one. -/
def table? : Statement → Option Table
  | .create table => some table
  | .clear table => some table
  | .prepare table => some table
  | .insert table _ => some table
  | .createMetadata => none
  | .putMetadata _ => none

end Statement

namespace Store

@[simp] theorem get_setTable_self (store : Store) (table : Table) (state : TableState) :
    (store.setTable table state).tables.get table = some state := by
  simp [setTable]

theorem get_setTable_of_ne (store : Store) {table other : Table} (state : TableState)
    (different : other ≠ table) :
    (store.setTable table state).tables.get other = store.tables.get other := by
  simp [setTable, PerTable.get_set_of_ne _ _ different]

@[simp] theorem setTable_setTable (store : Store) (table : Table) (first second : TableState) :
    (store.setTable table first).setTable table second = store.setTable table second := by
  simp [setTable]

@[simp] theorem metadata_setTable (store : Store) (table : Table) (state : TableState) :
    (store.setTable table state).metadata = store.metadata := rfl

theorem setTable_eq_self {store : Store} {table : Table} {state : TableState}
    (present : store.tables.get table = some state) : store.setTable table state = store := by
  cases store with
  | mk tables metadata =>
      simp only [setTable, mk.injEq, and_true]
      have same := PerTable.set_get_self tables table
      rwa [present] at same

@[simp] theorem rows_setTable_self (store : Store) (table : Table) (rows : List Row) :
    (store.setTable table (.rows rows)).rows table = rows := by
  simp [Store.rows]

theorem rows_eq_of_get_eq {first second : Store} {table : Table}
    (same : first.tables.get table = second.tables.get table) :
    first.rows table = second.rows table := by
  simp only [Store.rows, same]

/-- The stores hold the same in these tables. -/
def AgreeOn (tables : List Table) (first second : Store) : Prop :=
  ∀ table ∈ tables, first.tables.get table = second.tables.get table

/-- The stores differ at most in one table. -/
structure SameExcept (table : Table) (first second : Store) : Prop where
  tables : ∀ other, other ≠ table → first.tables.get other = second.tables.get other
  metadata : first.metadata = second.metadata

namespace SameExcept

theorem refl (table : Table) (store : Store) : SameExcept table store store :=
  ⟨fun _ _ => rfl, rfl⟩

theorem trans {table : Table} {first second third : Store}
    (left : SameExcept table first second) (right : SameExcept table second third) :
    SameExcept table first third :=
  ⟨fun other different => (left.tables other different).trans (right.tables other different),
    left.metadata.trans right.metadata⟩

theorem setTable (store : Store) (table : Table) (state : TableState) :
    SameExcept table (store.setTable table state) store :=
  ⟨fun _ different => get_setTable_of_ne store state different, rfl⟩

end SameExcept

end Store

namespace Statement

private theorem modifyRows_sameExcept {store written : Store} {table : Table}
    {change : List Row → List Row} (success : modifyRows store table change = .ok written) :
    Store.SameExcept table written store := by
  unfold modifyRows at success
  split at success
  · cases success
    exact Store.SameExcept.setTable store table _
  · cases success
  · cases success

theorem apply_sameExcept {statement : Statement} {table : Table} {store written : Store}
    (own : statement.table? = some table) (success : statement.apply store = .ok written) :
    Store.SameExcept table written store := by
  cases statement with
  | create other =>
      cases own
      simp only [apply] at success
      split at success
      · cases success
        exact .refl table store
      · cases success
        exact .setTable store table _
  | clear other =>
      cases own
      simp only [apply] at success
      split at success
      · cases success
        exact .refl table store
      · exact modifyRows_sameExcept success
  | prepare other =>
      cases own
      exact modifyRows_sameExcept success
  | insert other row =>
      cases own
      exact modifyRows_sameExcept success
  | createMetadata => cases own
  | putMetadata metadata => cases own

private theorem modifyRows_congr {first second : Store} {table : Table}
    (change : List Row → List Row) (same : first.tables.get table = second.tables.get table) :
    (modifyRows first table change).map (fun store => store.tables.get table) =
      (modifyRows second table change).map (fun store => store.tables.get table) := by
  unfold modifyRows
  rw [same]
  cases second.tables.get table with
  | none => rfl
  | some state =>
      cases state with
      | rows rows => simp [Except.map]
      | foreign => rfl

theorem apply_congr {statement : Statement} {table : Table} {first second : Store}
    (own : statement.table? = some table)
    (same : first.tables.get table = second.tables.get table) :
    (statement.apply first).map (fun store => store.tables.get table) =
      (statement.apply second).map (fun store => store.tables.get table) := by
  cases statement with
  | create other =>
      cases own
      cases state : second.tables.get table with
      | none => simp [apply, same, state, Except.map]
      | some found => simp [apply, same, state, Except.map]
  | clear other =>
      cases own
      cases state : second.tables.get table with
      | none => simpa [apply, same, state] using modifyRows_congr _ same
      | some found =>
          cases found with
          | rows rows => simpa [apply, same, state] using modifyRows_congr _ same
          | foreign => simp [apply, same, state, Except.map]
  | prepare other =>
      cases own
      exact modifyRows_congr _ same
  | insert other row =>
      cases own
      exact modifyRows_congr _ same
  | createMetadata => cases own
  | putMetadata metadata => cases own

theorem create_apply {store : Store} {table : Table}
    (usable : store.tables.get table ≠ some .foreign) :
    (create table).apply store = .ok (store.setTable table (.rows (store.rows table))) := by
  cases state : store.tables.get table with
  | none => simp [apply, Store.rows, state]
  | some found =>
      cases found with
      | rows rows => simp [apply, Store.rows, state, Store.setTable_eq_self state]
      | foreign => exact absurd state usable

theorem clear_apply {store : Store} {table : Table} {rows : List Row}
    (present : store.tables.get table = some (.rows rows)) :
    (clear table).apply store = .ok (store.setTable table (.rows [])) := by
  simp [apply, modifyRows, present]

theorem prepare_apply {store : Store} {table : Table} {rows : List Row}
    (present : store.tables.get table = some (.rows rows)) :
    (prepare table).apply store = .ok store := by
  simp [apply, modifyRows, present, Store.setTable_eq_self present]

theorem insert_apply {store : Store} {table : Table} {rows : List Row} (row : Row)
    (present : store.tables.get table = some (.rows rows)) :
    (insert table row).apply store = .ok (store.setTable table (.rows (rows ++ [row]))) := by
  simp [apply, modifyRows, present]

end Statement

namespace Store

/-- Statements go through exactly when no step is disturbed from outside and the
store accepts them one after the other. -/
theorem runStatements_eq_ok_iff (fault? : Nat → Option Fault) (step : Nat)
    (statements : List Statement) (store written : Store) :
    runStatements fault? step statements store = .ok written ↔
      (∀ index, index ≤ statements.length → fault? (step + index) = none) ∧
        statements.foldlM Statement.apply store = .ok written := by
  induction statements generalizing step store with
  | nil =>
      cases disturbed : fault? step with
      | some fault =>
          simp [runStatements, disturbed]
      | none =>
          simp [runStatements, disturbed, pure, Except.pure]
  | cons statement rest induction =>
      have shift : (∀ index, index ≤ (statement :: rest).length → fault? (step + index) = none) ↔
          fault? step = none ∧
            ∀ index, index ≤ rest.length → fault? (step + 1 + index) = none := by
        constructor
        · intro clear
          refine ⟨clear 0 (Nat.zero_le _), fun index bound => ?_⟩
          have later := clear (index + 1) (Nat.succ_le_succ bound)
          rwa [Nat.add_comm index 1, ← Nat.add_assoc] at later
        · rintro ⟨first, later⟩ index bound
          cases index with
          | zero => exact first
          | succ index =>
              rw [Nat.add_comm index 1, ← Nat.add_assoc]
              exact later index (Nat.le_of_succ_le_succ bound)
      rw [shift]
      cases disturbed : fault? step with
      | some fault => simp [runStatements, disturbed]
      | none =>
          cases applied : statement.apply store with
          | error fault => simp [runStatements, disturbed, applied, bind, Except.bind]
          | ok next =>
              simpa [runStatements, disturbed, applied, bind, Except.bind] using
                induction (step + 1) next

theorem transaction_eq_ok_iff (fault? : Nat → Option Fault) (statements : List Statement)
    (store written : Store) :
    store.transaction fault? statements = .ok written ↔
      (∀ step, step ≤ statements.length + 1 → fault? step = none) ∧
        statements.foldlM Statement.apply store = .ok written := by
  have shift : (∀ step, step ≤ statements.length + 1 → fault? step = none) ↔
      fault? 0 = none ∧ ∀ index, index ≤ statements.length → fault? (1 + index) = none := by
    constructor
    · intro clear
      exact ⟨clear 0 (Nat.zero_le _), fun index bound => clear (1 + index) (by omega)⟩
    · rintro ⟨first, later⟩ step bound
      cases step with
      | zero => exact first
      | succ index =>
          rw [Nat.add_comm]
          exact later index (by omega)
  rw [shift, and_assoc, ← runStatements_eq_ok_iff fault? 1 statements store]
  cases disturbed : fault? 0 with
  | some fault => simp [transaction, disturbed]
  | none => simp [transaction, disturbed]

private theorem runStatements_sameExcept {fault? : Nat → Option Fault} {step : Nat}
    {statements : List Statement} {table : Table} {store written : Store}
    (own : ∀ statement ∈ statements, statement.table? = some table)
    (success : runStatements fault? step statements store = .ok written) :
    SameExcept table written store := by
  induction statements generalizing step store with
  | nil =>
      simp only [runStatements] at success
      split at success
      · cases success
      · cases success
        exact .refl table _
  | cons statement rest induction =>
      simp only [runStatements] at success
      split at success
      · cases success
      · split at success
        · cases success
        · rename_i next applied
          have first := Statement.apply_sameExcept (own statement List.mem_cons_self) applied
          have later := induction
            (fun other member => own other (List.mem_cons_of_mem _ member)) success
          exact later.trans first

theorem transaction_sameExcept {fault? : Nat → Option Fault} {statements : List Statement}
    {table : Table} {store written : Store}
    (own : ∀ statement ∈ statements, statement.table? = some table)
    (success : store.transaction fault? statements = .ok written) :
    SameExcept table written store := by
  simp only [transaction] at success
  split at success
  · cases success
  · exact runStatements_sameExcept own success

private theorem runStatements_congr {fault? : Nat → Option Fault} {step : Nat}
    {statements : List Statement} {table : Table} {first second : Store}
    (own : ∀ statement ∈ statements, statement.table? = some table)
    (same : first.tables.get table = second.tables.get table) :
    (runStatements fault? step statements first).map (fun store => store.tables.get table) =
      (runStatements fault? step statements second).map
        (fun store => store.tables.get table) := by
  induction statements generalizing step first second with
  | nil =>
      cases disturbed : fault? step with
      | some fault => simp [runStatements, disturbed, Except.map]
      | none => simp [runStatements, disturbed, Except.map, same]
  | cons statement rest induction =>
      have head := Statement.apply_congr (own statement List.mem_cons_self) same
      cases disturbed : fault? step with
      | some fault => simp [runStatements, disturbed, Except.map]
      | none =>
          -- Both stores accept the statement or both refuse it with one fault.
          cases left : statement.apply first with
          | error fault =>
              cases right : statement.apply second with
              | error other =>
                  rw [left, right] at head
                  simpa [runStatements, disturbed, left, right, Except.map] using head
              | ok other =>
                  rw [left, right] at head
                  cases head
          | ok next =>
              cases right : statement.apply second with
              | error fault =>
                  rw [left, right] at head
                  cases head
              | ok other =>
                  rw [left, right] at head
                  have agreed : next.tables.get table = other.tables.get table := by
                    simpa [Except.map] using head
                  simp only [runStatements, disturbed, left, right]
                  exact induction
                    (fun other member => own other (List.mem_cons_of_mem _ member)) agreed

/-- What a transaction on one table gives depends on that table alone. -/
theorem transaction_congr {fault? : Nat → Option Fault} {statements : List Statement}
    {table : Table} {first second : Store}
    (own : ∀ statement ∈ statements, statement.table? = some table)
    (same : first.tables.get table = second.tables.get table) :
    (first.transaction fault? statements).map (fun store => store.tables.get table) =
      (second.transaction fault? statements).map (fun store => store.tables.get table) := by
  cases disturbed : fault? 0 with
  | some fault => simp [transaction, disturbed, Except.map]
  | none => simpa [transaction, disturbed] using runStatements_congr own same

end Store

namespace Sink

/-- The rows of a table that stay when records are written to it. -/
def keptRows (table : Table) (store : Store) : List Row :=
  match table.policy with
  | .append => store.rows table
  | .replace => []

/-- The store after records are written to a table. -/
def stored (table : Table) (records : List TimedRecord) (store : Store) : Store :=
  store.setTable table (.rows (keptRows table store ++ records.map TimedRecord.row))

theorem statements_table? {table : Table} {records : List TimedRecord} {statement : Statement}
    (member : statement ∈ statements table records) : statement.table? = some table := by
  simp only [statements, List.mem_append, List.mem_map, List.mem_singleton] at member
  rcases member with ((created | cleared) | prepared) | ⟨record, -, inserted⟩
  · rw [created]
    rfl
  · cases policy : table.policy with
    | append => simp [policy] at cleared
    | replace =>
        simp only [policy, List.mem_singleton] at cleared
        rw [cleared]
        rfl
  · rw [prepared]
    rfl
  · rw [← inserted]
    rfl

private theorem foldlM_insert {table : Table} {store : Store} {rows : List Row}
    (records : List TimedRecord) (present : store.tables.get table = some (.rows rows)) :
    (records.map fun record => Statement.insert table record.row).foldlM Statement.apply store =
      .ok (store.setTable table (.rows (rows ++ records.map TimedRecord.row))) := by
  induction records generalizing store rows with
  | nil => simp [pure, Except.pure, Store.setTable_eq_self present]
  | cons record rest induction =>
      have inserted := Statement.insert_apply record.row present
      have later := induction
        (Store.get_setTable_self store table (.rows (rows ++ [record.row])))
      simp only [List.map_cons, List.foldlM_cons, inserted, bind, Except.bind]
      simpa using later

/-- A table that is absent or has the declared columns takes all records. -/
theorem foldlM_statements {table : Table} {store : Store} (records : List TimedRecord)
    (usable : store.tables.get table ≠ some .foreign) :
    (statements table records).foldlM Statement.apply store =
      .ok (stored table records store) := by
  have created := Statement.create_apply usable
  have prepared := fun rows =>
    Statement.prepare_apply (Store.get_setTable_self store table (.rows rows))
  have inserted := fun rows =>
    foldlM_insert records (Store.get_setTable_self store table (.rows rows))
  cases policy : table.policy with
  | append =>
      simp [statements, stored, keptRows, policy, created, prepared, inserted, bind, Except.bind]
  | replace =>
      have cleared := Statement.clear_apply (Store.get_setTable_self store table
        (.rows (store.rows table)))
      rw [Store.setTable_setTable] at cleared
      simp [statements, stored, keptRows, policy, created, cleared, prepared, inserted, bind,
        Except.bind]

theorem foldlM_statements_foreign {table : Table} {store : Store} (records : List TimedRecord)
    (foreign : store.tables.get table = some .foreign) :
    (statements table records).foldlM Statement.apply store =
      .error (Statement.noColumn table.name "device_id") := by
  cases policy : table.policy with
  | append =>
      simp [statements, policy, Statement.apply, Statement.modifyRows, foreign, bind, Except.bind]
  | replace =>
      simp [statements, policy, Statement.apply, Statement.modifyRows, foreign, bind, Except.bind]

/-- When the transaction that writes records to a table commits, and what it
leaves. -/
theorem transaction_statements_eq_ok_iff (fault? : Nat → Option Fault) (table : Table)
    (records : List TimedRecord) (store written : Store) :
    store.transaction fault? (statements table records) = .ok written ↔
      (∀ step, step ≤ (statements table records).length + 1 → fault? step = none) ∧
        store.tables.get table ≠ some .foreign ∧ written = stored table records store := by
  rw [Store.transaction_eq_ok_iff]
  by_cases foreign : store.tables.get table = some .foreign
  · rw [foldlM_statements_foreign records foreign]
    simp [foreign]
  · rw [foldlM_statements records foreign]
    simp [foreign, eq_comm]

end Sink

end AcceleratorTrace
