import AcceleratorTrace.Proofs.Transaction

/-!
# Writing tables

What a sink does to the store, table by table.  A write that fails leaves the
store as it was; one that succeeds leaves the records of its table there, once
and in order, after however many attempts.  A sequence of tables is written as
a prefix: the tables before the first failure are written whole, and the others
are untouched.
-/

namespace AcceleratorTrace

namespace StoreError

/-- The error is that of writing to a table of this name. -/
def Names (error : StoreError) (table : String) : Prop :=
  (∃ attempts cause, error = .commitFailed table attempts cause) ∨
    ∃ cause, error = .statementFailed table cause

theorem Names.unique {error : StoreError} {first second : String} (left : error.Names first)
    (right : error.Names second) : first = second := by
  rcases left with ⟨attempts, cause, rfl⟩ | ⟨cause, rfl⟩
  · rcases right with ⟨_, _, same⟩ | ⟨_, same⟩
    · cases same
      rfl
    · cases same
  · rcases right with ⟨_, _, same⟩ | ⟨_, same⟩
    · cases same
    · cases same
      rfl

theorem not_names_outOfRange (table : String) : ¬ outOfRange.Names table := by
  rintro (⟨attempts, cause, same⟩ | ⟨cause, same⟩)
  · cases same
  · cases same

end StoreError

namespace Sink

section Attempts

variable {α : Type} {sink : Sink} {table : String} {run : Nat → Except Fault α}

theorem retry_of_ok {left attempt : Nat} {value : α} (outcome : run attempt = .ok value) :
    sink.retry table run left attempt = (.ok value, []) := by
  rw [retry, outcome]

theorem retry_of_permanent {left attempt : Nat} {cause : String}
    (outcome : run attempt = .error (.permanent cause)) :
    sink.retry table run left attempt = (.error (.statementFailed table cause), []) := by
  rw [retry, outcome]

theorem retry_of_last {attempt : Nat} {cause : String}
    (outcome : run attempt = .error (.transient cause)) :
    sink.retry table run 0 attempt = (.error (.commitFailed table attempt cause), []) := by
  rw [retry, outcome]

theorem retry_of_transient {left attempt : Nat} {cause : String}
    (outcome : run attempt = .error (.transient cause)) :
    sink.retry table run (left + 1) attempt =
      ((sink.retry table run left (attempt + 1)).1,
        sink.retryLine table attempt cause :: (sink.retry table run left (attempt + 1)).2) := by
  rw [retry, outcome]

theorem exists_of_retry_eq_ok {left attempt : Nat} {value : α}
    (success : (sink.retry table run left attempt).1 = .ok value) :
    ∃ made, run made = .ok value := by
  fun_induction sink.retry table run left attempt with
  | case1 left attempt found outcome =>
      cases success
      exact ⟨attempt, outcome⟩
  | case2 left attempt cause outcome => cases success
  | case3 attempt cause outcome => cases success
  | case4 attempt cause outcome left result log later induction =>
      exact induction (by rw [later]; exact success)

theorem retry_eq_error {left attempt : Nat} {error : StoreError}
    (failure : (sink.retry table run left attempt).1 = .error error) : error.Names table := by
  fun_induction sink.retry table run left attempt with
  | case1 left attempt found outcome => cases failure
  | case2 left attempt cause outcome =>
      cases failure
      exact .inr ⟨cause, rfl⟩
  | case3 attempt cause outcome =>
      cases failure
      exact .inl ⟨attempt, cause, rfl⟩
  | case4 attempt cause outcome left result log later induction =>
      exact induction (by rw [later]; exact failure)

theorem retry_map {β : Type} (convert : α → β) (left attempt : Nat) :
    (sink.retry table (fun attempt => (run attempt).map convert) left attempt).1 =
      (sink.retry table run left attempt).1.map convert := by
  let converted := fun attempt => (run attempt).map convert
  have map_eq : ∀ {attempt : Nat} {result : Except Fault α}, run attempt = result →
      converted attempt = result.map convert := fun outcome =>
    congrArg (Except.map convert) outcome
  change (sink.retry table converted left attempt).1 = _
  fun_induction sink.retry table run left attempt with
  | case1 left attempt found outcome =>
      rw [retry_of_ok (map_eq outcome)]
      rfl
  | case2 left attempt cause outcome =>
      rw [retry_of_permanent (map_eq outcome)]
      rfl
  | case3 attempt cause outcome =>
      rw [retry_of_last (map_eq outcome)]
      rfl
  | case4 attempt cause outcome left result log later induction =>
      rw [retry_of_transient (map_eq outcome)]
      rwa [later] at induction

end Attempts

theorem keptRows_congr {table : Table} {first second : Store}
    (same : first.tables.get table = second.tables.get table) :
    keptRows table first = keptRows table second := by
  simp only [keptRows, Store.rows_eq_of_get_eq same]

theorem keptRows_stored_of_ne {table other : Table} (records : List TimedRecord) (store : Store)
    (different : other ≠ table) : keptRows other (stored table records store) = keptRows other store :=
  keptRows_congr (Store.get_setTable_of_ne store _ different)

theorem stored_agreeOn {tables : List Table} {first second : Store} (table : Table)
    (records : List TimedRecord) (same : Store.AgreeOn tables first second)
    (here : first.tables.get table = second.tables.get table) :
    Store.AgreeOn tables (stored table records first) (stored table records second) := by
  intro other member
  by_cases equal : other = table
  · subst equal
    simp only [stored, Store.get_setTable_self, keptRows_congr here]
  · simp only [stored, Store.get_setTable_of_ne _ _ equal]
    exact same other member

section OneTable

variable {sink : Sink} {faults : Faults} {table : Table} {records : List TimedRecord}
  {store : Store}

/-- Attempts that succeed leave exactly the kept rows and the records. -/
theorem retry_transaction_ok {left attempt : Nat} {written : Store}
    (success : (sink.retry table.name
      (fun attempt => store.transaction (faults attempt) (statements table records))
      left attempt).1 = .ok written) :
    store.tables.get table ≠ some .foreign ∧ written = stored table records store := by
  obtain ⟨made, committed⟩ := exists_of_retry_eq_ok success
  exact ((transaction_statements_eq_ok_iff _ table records store written).mp committed).2

theorem retry_transaction_congr (sink : Sink) (faults : Faults) (records : List TimedRecord)
    (left attempt : Nat) {first second : Store}
    (same : first.tables.get table = second.tables.get table) :
    (sink.retry table.name
        (fun attempt => first.transaction (faults attempt) (statements table records))
        left attempt).1.map (fun store => store.tables.get table) =
      (sink.retry table.name
        (fun attempt => second.transaction (faults attempt) (statements table records))
        left attempt).1.map (fun store => store.tables.get table) := by
  rw [← retry_map, ← retry_map]
  have attempts : ∀ attempt,
      (first.transaction (faults attempt) (statements table records)).map
          (fun store => store.tables.get table) =
        (second.transaction (faults attempt) (statements table records)).map
          (fun store => store.tables.get table) :=
    fun attempt => Store.transaction_congr (fun _ member => statements_table? member) same
  simp only [attempts]

private theorem commit_eq_ok {written : Store}
    (success : (sink.commit table.name faults (statements table records) store).1 = .ok written) :
    store.tables.get table ≠ some .foreign ∧ written = stored table records store := by
  unfold commit at success
  split at success
  · exact retry_transaction_ok success
  · cases success

private theorem commit_congr (sink : Sink) (faults : Faults) (records : List TimedRecord)
    {first second : Store} (same : first.tables.get table = second.tables.get table) :
    (sink.commit table.name faults (statements table records) first).1.map
        (fun store => store.tables.get table) =
      (sink.commit table.name faults (statements table records) second).1.map
        (fun store => store.tables.get table) := by
  unfold commit
  split
  · exact retry_transaction_congr sink faults records _ _ same
  · rfl

theorem find_stray_eq_none (own : ∀ record ∈ records, record.record.table = table) :
    records.find? (fun record => record.record.table != table) = none := by
  rw [List.find?_eq_none]
  intro record member
  simp [own record member]

theorem writeTable_of_commit_ok {written : Store}
    (noStray : records.find? (fun record => record.record.table != table) = none)
    (committed : (sink.commit table.name faults (statements table records) store).1 =
      .ok written) :
    (sink.writeTable faults table records store).result = .ok records.length ∧
      (sink.writeTable faults table records store).store = written := by
  simp only [writeTable, noStray]
  split
  · rename_i found log outcome
    rw [outcome] at committed
    cases committed
    exact ⟨rfl, rfl⟩
  · rename_i found log outcome
    rw [outcome] at committed
    cases committed

theorem writeTable_of_commit_error {error : StoreError}
    (noStray : records.find? (fun record => record.record.table != table) = none)
    (failed : (sink.commit table.name faults (statements table records) store).1 =
      .error error) :
    (sink.writeTable faults table records store).result = .error error ∧
      (sink.writeTable faults table records store).store = store := by
  simp only [writeTable, noStray]
  split
  · rename_i found log outcome
    rw [outcome] at failed
    cases failed
  · rename_i found log outcome
    rw [outcome] at failed
    cases failed
    exact ⟨rfl, rfl⟩

/-- All that a write can do: fail and change nothing, or leave exactly the kept
rows and the records. -/
theorem writeTable_cases (sink : Sink) (faults : Faults) (table : Table)
    (records : List TimedRecord) (store : Store) :
    (∃ error, (sink.writeTable faults table records store).result = .error error ∧
        (sink.writeTable faults table records store).store = store) ∨
      (sink.writeTable faults table records store).result = .ok records.length ∧
        store.tables.get table ≠ some .foreign ∧
          (sink.writeTable faults table records store).store = stored table records store := by
  unfold writeTable
  split
  · exact .inl ⟨_, rfl, rfl⟩
  · split
    · rename_i written log outcome
      obtain ⟨usable, holds⟩ := commit_eq_ok (congrArg Prod.fst outcome)
      exact .inr ⟨rfl, usable, holds⟩
    · exact .inl ⟨_, rfl, rfl⟩

theorem writeTable_ok {count : Nat}
    (success : (sink.writeTable faults table records store).result = .ok count) :
    count = records.length ∧ store.tables.get table ≠ some .foreign ∧
      (sink.writeTable faults table records store).store = stored table records store := by
  rcases writeTable_cases sink faults table records store with
    ⟨error, failed, -⟩ | ⟨succeeded, usable, holds⟩
  · rw [failed] at success
    cases success
  · rw [succeeded] at success
    cases success
    exact ⟨rfl, usable, holds⟩

theorem writeTable_error {error : StoreError}
    (failure : (sink.writeTable faults table records store).result = .error error) :
    (sink.writeTable faults table records store).store = store := by
  rcases writeTable_cases sink faults table records store with
    ⟨_, -, unchanged⟩ | ⟨succeeded, -, -⟩
  · exact unchanged
  · rw [succeeded] at failure
    cases failure

theorem writeTable_sameExcept :
    Store.SameExcept table (sink.writeTable faults table records store).store store := by
  cases outcome : (sink.writeTable faults table records store).result with
  | error error =>
      rw [writeTable_error outcome]
      exact .refl table store
  | ok count =>
      rw [(writeTable_ok outcome).2.2]
      exact .setTable store table _

/-- What a write gives, and what it leaves in its table, depends on that table
alone. -/
theorem writeTable_congr (sink : Sink) (faults : Faults) (records : List TimedRecord)
    {first second : Store} (same : first.tables.get table = second.tables.get table) :
    (sink.writeTable faults table records first).result =
        (sink.writeTable faults table records second).result ∧
      (sink.writeTable faults table records first).store.tables.get table =
        (sink.writeTable faults table records second).store.tables.get table := by
  have committed := commit_congr sink faults records same
  unfold writeTable
  split
  · exact ⟨rfl, same⟩
  · cases left : sink.commit table.name faults (statements table records) first with
    | mk leftResult leftLog =>
        cases right : sink.commit table.name faults (statements table records) second with
        | mk rightResult rightLog =>
            rw [left, right] at committed
            cases leftResult with
            | error leftError =>
                cases rightResult with
                | error rightError =>
                    cases committed
                    exact ⟨rfl, same⟩
                | ok rightStore => cases committed
            | ok leftStore =>
                cases rightResult with
                | error rightError => cases committed
                | ok rightStore =>
                    have agreed : leftStore.tables.get table = rightStore.tables.get table := by
                      simpa [Except.map] using committed
                    exact ⟨rfl, agreed⟩

/-- A write of the table's own records fails by naming the table, unless the
attempts cannot be counted. -/
theorem writeTable_error_names {error : StoreError}
    (own : ∀ record ∈ records, record.record.table = table)
    (failure : (sink.writeTable faults table records store).result = .error error) :
    error.Names table.name ∨ error = .outOfRange ∧ ¬ sink.limit < UInt32.size := by
  unfold writeTable at failure
  split at failure
  · rename_i stray found
    have misplaced := List.find?_some found
    simp [own stray (List.mem_of_find?_eq_some found)] at misplaced
  · split at failure
    · cases failure
    · rename_i found log outcome
      cases failure
      unfold commit at outcome
      split at outcome
      · exact .inl (retry_eq_error (congrArg Prod.fst outcome))
      · rename_i uncountable
        cases outcome
        exact .inr ⟨rfl, uncountable⟩

theorem countable_of_writeTable_ok {count : Nat}
    (success : (sink.writeTable faults table records store).result = .ok count) :
    sink.limit < UInt32.size := by
  unfold writeTable at success
  split at success
  · cases success
  · split at success
    · rename_i written log outcome
      unfold commit at outcome
      split at outcome
      · assumption
      · cases outcome
    · cases success

/-- A write succeeds at once if nothing is in its way: the attempts can be
counted, no fault meets the first of them, and the table is not foreign. -/
theorem writeTable_of_clear (countable : sink.limit < UInt32.size)
    (quiet : ∀ step, faults 1 step = none)
    (own : ∀ record ∈ records, record.record.table = table)
    (usable : store.tables.get table ≠ some .foreign) :
    (sink.writeTable faults table records store).result = .ok records.length := by
  have committed : store.transaction (faults 1) (statements table records) =
      .ok (stored table records store) :=
    (transaction_statements_eq_ok_iff (faults 1) table records store _).mpr
      ⟨fun step _ => quiet step, usable, rfl⟩
  have first : (sink.commit table.name faults (statements table records) store).1 =
      .ok (stored table records store) := by
    rw [commit, if_pos countable, retry_of_ok committed]
  exact (writeTable_of_commit_ok (find_stray_eq_none own) first).1

end OneTable

section SeveralTables

variable {sink : Sink} {faults : Table → Faults}

theorem writeTables_cons_of_error {table : Table} {records : List TimedRecord}
    {rest : List (Table × List TimedRecord)} {store : Store} {error : StoreError}
    (failure : (sink.writeTable (faults table) table records store).result = .error error) :
    (sink.writeTables faults ((table, records) :: rest) store).result = .error error ∧
      (sink.writeTables faults ((table, records) :: rest) store).store = store := by
  simp only [writeTables, failure, true_and]
  exact writeTable_error failure

theorem writeTables_cons_of_ok {table : Table} {records : List TimedRecord}
    {rest : List (Table × List TimedRecord)} {store : Store} {count : Nat}
    (success : (sink.writeTable (faults table) table records store).result = .ok count) :
    (sink.writeTables faults ((table, records) :: rest) store).result =
        (sink.writeTables faults rest (stored table records store)).result.map
          (fun counts => (table, records.length) :: counts) ∧
      (sink.writeTables faults ((table, records) :: rest) store).store =
        (sink.writeTables faults rest (stored table records store)).store := by
  obtain ⟨rfl, -, holds⟩ := writeTable_ok success
  simp only [writeTables, success, holds, and_self]

theorem writeTables_frame (parts : List (Table × List TimedRecord)) (store : Store)
    {other : Table} (outside : ∀ part ∈ parts, part.1 ≠ other) :
    (sink.writeTables faults parts store).store.tables.get other = store.tables.get other := by
  induction parts generalizing store with
  | nil => rfl
  | cons part rest induction =>
      obtain ⟨table, records⟩ := part
      have different : other ≠ table := (outside (table, records) List.mem_cons_self).symm
      have restOutside : ∀ part ∈ rest, part.1 ≠ other :=
        fun part member => outside part (List.mem_cons_of_mem _ member)
      cases outcome : (sink.writeTable (faults table) table records store).result with
      | error error => rw [(writeTables_cons_of_error outcome).2]
      | ok count =>
          rw [(writeTables_cons_of_ok outcome).2, induction _ restOutside]
          exact Store.get_setTable_of_ne store _ different

/-- What the writes give, and what they leave in some tables, depends on these
tables alone if no other is written. -/
theorem writeTables_congr {parts : List (Table × List TimedRecord)} {tables : List Table}
    {first second : Store} (within : ∀ part ∈ parts, part.1 ∈ tables)
    (same : Store.AgreeOn tables first second) :
    (sink.writeTables faults parts first).result =
        (sink.writeTables faults parts second).result ∧
      Store.AgreeOn tables (sink.writeTables faults parts first).store
        (sink.writeTables faults parts second).store := by
  induction parts generalizing first second with
  | nil => exact ⟨rfl, same⟩
  | cons part rest induction =>
      obtain ⟨table, records⟩ := part
      have here : first.tables.get table = second.tables.get table :=
        same table (within (table, records) List.mem_cons_self)
      have results := (writeTable_congr sink (faults table) records here).1
      cases outcome : (sink.writeTable (faults table) table records second).result with
      | error error =>
          rw [outcome] at results
          have left := @writeTables_cons_of_error sink faults table records rest first error results
          have right := @writeTables_cons_of_error sink faults table records rest second error
            outcome
          rw [left.1, left.2, right.1, right.2]
          exact ⟨rfl, same⟩
      | ok count =>
          rw [outcome] at results
          have left := @writeTables_cons_of_ok sink faults table records rest first count results
          have right := @writeTables_cons_of_ok sink faults table records rest second count outcome
          have later := induction
            (fun part member => within part (List.mem_cons_of_mem _ member))
            (stored_agreeOn table records same here)
          rw [left.1, left.2, right.1, right.2, later.1]
          exact ⟨rfl, later.2⟩

theorem writeTables_ok {parts : List (Table × List TimedRecord)} {store : Store}
    {counts : List (Table × Nat)} (distinct : (parts.map Prod.fst).Nodup)
    (success : (sink.writeTables faults parts store).result = .ok counts) :
    counts = parts.map (fun part => (part.1, part.2.length)) ∧
      ∀ part ∈ parts, (sink.writeTables faults parts store).store.tables.get part.1 =
        some (.rows (keptRows part.1 store ++ part.2.map TimedRecord.row)) := by
  induction parts generalizing store counts with
  | nil =>
      cases success
      exact ⟨rfl, fun part member => absurd member List.not_mem_nil⟩
  | cons part rest induction =>
      obtain ⟨table, records⟩ := part
      have fresh : ∀ part ∈ rest, part.1 ≠ table := by
        intro part member equal
        exact (List.nodup_cons.mp distinct).1 (List.mem_map.mpr ⟨part, member, equal⟩)
      cases outcome : (sink.writeTable (faults table) table records store).result with
      | error error =>
          rw [(writeTables_cons_of_error outcome).1] at success
          cases success
      | ok count =>
          have written := @writeTables_cons_of_ok sink faults table records rest store count outcome
          rw [written.1] at success
          cases later : (sink.writeTables faults rest (stored table records store)).result with
          | error error =>
              rw [later] at success
              cases success
          | ok restCounts =>
              rw [later] at success
              cases success
              have tail := induction (List.nodup_cons.mp distinct).2 later
              rw [written.2, tail.1]
              refine ⟨rfl, ?_⟩
              intro part member
              rcases List.mem_cons.mp member with here | there
              · subst here
                rw [writeTables_frame rest _ fresh]
                exact Store.get_setTable_self store table _
              · rw [tail.2 part there, keptRows_stored_of_ne records store (fresh part there)]

theorem writeTables_of_clear {parts : List (Table × List TimedRecord)} {store : Store}
    (countable : sink.limit < UInt32.size)
    (quiet : ∀ part ∈ parts, ∀ step, faults part.1 1 step = none)
    (own : ∀ part ∈ parts, ∀ record ∈ part.2, record.record.table = part.1)
    (usable : ∀ part ∈ parts, store.tables.get part.1 ≠ some .foreign) :
    ∃ counts, (sink.writeTables faults parts store).result = .ok counts := by
  induction parts generalizing store with
  | nil => exact ⟨[], rfl⟩
  | cons part rest induction =>
      obtain ⟨table, records⟩ := part
      have first := writeTable_of_clear countable (quiet _ List.mem_cons_self)
        (own _ List.mem_cons_self) (usable _ List.mem_cons_self)
      have restUsable : ∀ part ∈ rest,
          (stored table records store).tables.get part.1 ≠ some .foreign := by
        intro part member
        by_cases here : part.1 = table
        · rw [here, stored, Store.get_setTable_self]
          simp
        · rw [stored, Store.get_setTable_of_ne store _ here]
          exact usable part (List.mem_cons_of_mem _ member)
      obtain ⟨counts, later⟩ := induction
        (fun part member => quiet part (List.mem_cons_of_mem _ member))
        (fun part member => own part (List.mem_cons_of_mem _ member)) restUsable
      refine ⟨(table, records.length) :: counts, ?_⟩
      rw [(writeTables_cons_of_ok first).1, later]
      rfl

/-- Writes that stop at a failure have written the tables before it. -/
theorem writeTables_error {parts : List (Table × List TimedRecord)} {store : Store}
    {error : StoreError}
    (failure : (sink.writeTables faults parts store).result = .error error) :
    ∃ before table records after counts, parts = before ++ (table, records) :: after ∧
      (sink.writeTables faults before store).result = .ok counts ∧
      (sink.writeTables faults parts store).store = (sink.writeTables faults before store).store ∧
      (sink.writeTable (faults table) table records
        (sink.writeTables faults before store).store).result = .error error := by
  induction parts generalizing store with
  | nil => cases failure
  | cons part rest induction =>
      obtain ⟨table, records⟩ := part
      cases outcome : (sink.writeTable (faults table) table records store).result with
      | error found =>
          have written := @writeTables_cons_of_error sink faults table records rest store found
            outcome
          rw [written.1] at failure
          cases failure
          exact ⟨[], table, records, rest, [], rfl, rfl, written.2, outcome⟩
      | ok count =>
          have written := @writeTables_cons_of_ok sink faults table records rest store count outcome
          rw [written.1] at failure
          cases later : (sink.writeTables faults rest (stored table records store)).result with
          | ok restCounts =>
              rw [later] at failure
              cases failure
          | error found =>
              rw [later] at failure
              cases failure
              obtain ⟨before, failing, failingRecords, after, counts, split, done, reached, refused⟩ :=
                induction later
              have extended := @writeTables_cons_of_ok sink faults table records before store count
                outcome
              refine ⟨(table, records) :: before, failing, failingRecords, after,
                (table, records.length) :: counts, ?_, ?_, ?_, ?_⟩
              · rw [split]
                rfl
              · rw [extended.1, done]
                rfl
              · rw [written.2, extended.2, reached]
              · rw [extended.2]
                exact refused

end SeveralTables

end Sink

end AcceleratorTrace
