import AcceleratorTrace.Proofs.TableWrite

/-!
# Attempts at a write

A write is tried again while it fails with a transient fault and attempts are left.
The first attempt that does not fail so decides, and otherwise the last one.  Every
attempt starts from the store as it was, so the attempts before the deciding one
leave nothing behind: the records are written once or not at all.
-/

namespace AcceleratorTrace

namespace Sink

section Deciding

variable {α : Type}

/-- The attempt that decides, of those numbered from `first` to `last`. -/
structure Decides (run : Nat → Except Fault α) (first last made : Nat) : Prop where
  first_le : first ≤ made
  le_last : made ≤ last
  earlier : ∀ attempt, first ≤ attempt → attempt < made →
    ∃ cause, run attempt = .error (.transient cause)
  final : ∀ cause, run made = .error (.transient cause) → made = last

/-- What an attempt comes to if it decides. -/
def settle (table : String) (made : Nat) : Except Fault α → Except StoreError α
  | .ok value => .ok value
  | .error (.permanent cause) => .error (.statementFailed table cause)
  | .error (.transient cause) => .error (.commitFailed table made cause)

variable {run others : Nat → Except Fault α} {first last made : Nat}

theorem decides_first (inside : first ≤ last)
    (final : ∀ cause, run first = .error (.transient cause) → first = last) :
    Decides run first last first := by
  refine ⟨Nat.le_refl _, inside, ?_, final⟩
  intro attempt after before
  omega

theorem exists_decides (run : Nat → Except Fault α) (left first : Nat) :
    ∃ made, Decides run first (first + left) made := by
  induction left generalizing first with
  | zero => exact ⟨first, decides_first (Nat.le_refl _) fun _ _ => rfl⟩
  | succ left induction =>
      by_cases failed : ∃ cause, run first = .error (.transient cause)
      · obtain ⟨made, decides⟩ := induction (first + 1)
        refine ⟨made, ?_, ?_, ?_, ?_⟩
        · exact Nat.le_of_succ_le decides.first_le
        · have bound := decides.le_last
          omega
        · intro attempt after before
          rcases Nat.eq_or_lt_of_le after with rfl | later
          · exact failed
          · exact decides.earlier attempt later before
        · intro cause outcome
          have bound := decides.final cause outcome
          omega
      · refine ⟨first, decides_first (Nat.le_add_right _ _) ?_⟩
        intro cause outcome
        exact absurd ⟨cause, outcome⟩ failed

theorem Decides.eq_first (decides : Decides run first last made)
    (settled : ∀ cause, run first ≠ .error (.transient cause)) : made = first := by
  rcases Nat.eq_or_lt_of_le decides.first_le with same | later
  · exact same.symm
  · obtain ⟨cause, failed⟩ := decides.earlier first (Nat.le_refl _) later
    exact absurd failed (settled cause)

theorem Decides.next {left : Nat} {cause : String}
    (decides : Decides run first (first + (left + 1)) made)
    (failed : run first = .error (.transient cause)) :
    Decides run (first + 1) (first + 1 + left) made := by
  have lower := decides.first_le
  have upper := decides.le_last
  refine ⟨?_, by omega, ?_, ?_⟩
  · rcases Nat.eq_or_lt_of_le lower with same | later
    · subst same
      have bound := decides.final cause failed
      omega
    · exact later
  · intro attempt after before
    exact decides.earlier attempt (Nat.le_of_succ_le after) before
  · intro cause outcome
    have bound := decides.final cause outcome
    omega

variable {sink : Sink} {table : String}

theorem Decides.retry {left : Nat} (decides : Decides run first (first + left) made) :
    (sink.retry table run left first).1 = settle table made (run made) := by
  fun_induction sink.retry table run left first with
  | case1 left first value outcome =>
      rw [decides.eq_first (by simp [outcome]), outcome]
      rfl
  | case2 left first cause outcome =>
      rw [decides.eq_first (by simp [outcome]), outcome]
      rfl
  | case3 first cause outcome =>
      have here : made = first := Nat.le_antisymm decides.le_last decides.first_le
      rw [here, outcome]
      rfl
  | case4 first cause outcome left result log later induction =>
      rw [later] at induction
      exact induction (decides.next outcome)

/-- What attempts after the deciding one would give makes no difference, not even to
the log: they are not made. -/
theorem Decides.retry_congr {left : Nat} (decides : Decides run first (first + left) made)
    (same : ∀ attempt, first ≤ attempt → attempt ≤ made → others attempt = run attempt) :
    sink.retry table others left first = sink.retry table run left first := by
  induction left generalizing first with
  | zero =>
      rw [Sink.retry, Sink.retry, same first (Nat.le_refl _) decides.first_le]
  | succ left induction =>
      have here := same first (Nat.le_refl _) decides.first_le
      cases outcome : run first with
      | ok value => rw [retry_of_ok outcome, retry_of_ok (here.trans outcome)]
      | error fault =>
          cases fault with
          | permanent cause =>
              rw [retry_of_permanent outcome, retry_of_permanent (here.trans outcome)]
          | transient cause =>
              have later := induction (decides.next outcome)
                fun attempt after => same attempt (Nat.le_of_succ_le after)
              rw [retry_of_transient outcome, retry_of_transient (here.trans outcome), later]

end Deciding

section OneTable

variable {sink : Sink} {faults others : Faults} {table : Table} {records : List TimedRecord}
  {store : Store}

theorem writeTable_of_stray (stray : ∃ record ∈ records, record.record.table ≠ table) :
    ∃ before found after, records = before ++ found :: after ∧
      (∀ record ∈ before, record.record.table = table) ∧ found.record.table ≠ table ∧
      sink.writeTable faults table records store =
        ⟨.error (.tableMismatch table found.record.table), store, []⟩ := by
  cases search : records.find? fun record => record.record.table != table with
  | none =>
      obtain ⟨record, member, misplaced⟩ := stray
      have own := List.find?_eq_none.mp search record member
      simp [misplaced] at own
  | some found =>
      obtain ⟨misplaced, before, after, split, own⟩ := List.find?_eq_some_iff_append.mp search
      refine ⟨before, found, after, split, ?_, ?_, ?_⟩
      · intro record member
        simpa using own record member
      · simpa using misplaced
      · simp only [writeTable, search]

/-- One attempt to write records, by its number. -/
def attempt (faults : Faults) (table : Table) (records : List TimedRecord) (store : Store)
    (number : Nat) : Except Fault Store :=
  store.transaction (faults number) (statements table records)

theorem commit_of_decides {made : Nat} (countable : sink.limit < UInt32.size)
    (decides : Decides (attempt faults table records store) 1 sink.limit made) :
    (sink.commit table.name faults (statements table records) store).1 =
      settle table.name made (attempt faults table records store made) := by
  rw [limit, Nat.add_comm] at decides
  rw [commit, if_pos countable]
  exact decides.retry

theorem commit_congr_of_decides {made : Nat}
    (decides : Decides (attempt faults table records store) 1 sink.limit made)
    (same : ∀ number, 1 ≤ number → number ≤ made → others number = faults number) :
    sink.commit table.name others (statements table records) store =
      sink.commit table.name faults (statements table records) store := by
  rw [limit, Nat.add_comm] at decides
  unfold commit
  split
  · apply decides.retry_congr
    intro number positive inside
    rw [attempt, same number positive inside]
  · rfl

theorem writeTable_congr_of_decides {made : Nat}
    (decides : Decides (attempt faults table records store) 1 sink.limit made)
    (same : ∀ number, 1 ≤ number → number ≤ made → others number = faults number) :
    sink.writeTable others table records store = sink.writeTable faults table records store := by
  simp only [writeTable, commit_congr_of_decides decides same]

theorem countable_iff : sink.limit < UInt32.size ↔ sink.retries ≠ 4294967295 := by
  have bound : sink.retries.toNat < 4294967296 := sink.retries.toNat_lt
  rw [ne_eq, ← UInt32.toNat_inj]
  change sink.retries.toNat + 1 < 4294967296 ↔ ¬ sink.retries.toNat = 4294967295
  omega

theorem writeTable_of_uncountable (own : ∀ record ∈ records, record.record.table = table)
    (uncountable : ¬ sink.limit < UInt32.size) :
    sink.writeTable faults table records store = ⟨.error .outOfRange, store, []⟩ := by
  simp only [writeTable, find_stray_eq_none own, commit, if_neg uncountable]

theorem attempt_ok_iff (number : Nat) :
    (∃ written, attempt faults table records store number = .ok written) ↔
      (∀ step, step ≤ (statements table records).length + 1 → faults number step = none) ∧
        store.tables.get table ≠ some .foreign := by
  simp only [attempt, transaction_statements_eq_ok_iff]
  constructor
  · rintro ⟨written, quiet, usable, -⟩
    exact ⟨quiet, usable⟩
  · rintro ⟨quiet, usable⟩
    exact ⟨_, quiet, usable, rfl⟩

end OneTable

end Sink

/-- A write that has a record of another table is refused and names the table of
the first such record.  Any other write makes at most one attempt more than it has
retries, and the deciding one settles all: the records are added once, after the
rows that the table keeps, or the store stays as it is.  Only the greatest number of
retries is one too many to be counted, and then no attempt is made. -/
theorem written_once_or_not_at_all (sink : Sink) (faults : Faults) (table : Table)
    (records : List TimedRecord) (store : Store) :
    let outcome := sink.writeTable faults table records store
    let statements := Sink.statements table records
    let attempt := fun number => store.transaction (faults number) statements
    ((∃ record ∈ records, record.record.table ≠ table) →
      ∃ before stray after, records = before ++ stray :: after ∧
        (∀ record ∈ before, record.record.table = table) ∧ stray.record.table ≠ table ∧
        outcome = ⟨.error (.tableMismatch table stray.record.table), store, []⟩) ∧
    (∀ number, (∃ written, attempt number = .ok written) ↔
      (∀ step, step ≤ statements.length + 1 → faults number step = none) ∧
        store.tables.get table ≠ some .foreign) ∧
    ((∀ record ∈ records, record.record.table = table) → sink.retries ≠ 4294967295 →
      ∃ made, Sink.Decides attempt 1 (sink.retries.toNat + 1) made ∧
        (∀ others : Faults,
          (∀ number, 1 ≤ number → number ≤ made → others number = faults number) →
          sink.writeTable others table records store = outcome) ∧
        match attempt made with
        | .ok _ =>
            outcome.result = .ok records.length ∧
              outcome.store.tables.get table =
                some (.rows (Sink.keptRows table store ++ records.map TimedRecord.row)) ∧
              Store.SameExcept table outcome.store store
        | .error (.permanent cause) =>
            outcome.result = .error (.statementFailed table.name cause) ∧ outcome.store = store
        | .error (.transient cause) =>
            made = sink.retries.toNat + 1 ∧
              outcome.result = .error (.commitFailed table.name made cause) ∧
              outcome.store = store) ∧
    ((∀ record ∈ records, record.record.table = table) → sink.retries = 4294967295 →
      outcome = ⟨.error .outOfRange, store, []⟩) := by
  intro outcome statements attempt
  refine ⟨Sink.writeTable_of_stray, Sink.attempt_ok_iff, ?_, ?_⟩
  · intro own fewer
    have noStray := Sink.find_stray_eq_none own
    have countable := Sink.countable_iff.mpr fewer
    obtain ⟨made, decides⟩ := Sink.exists_decides attempt sink.retries.toNat 1
    rw [Nat.add_comm] at decides
    have settled : (sink.commit table.name faults statements store).1 =
        Sink.settle table.name made (attempt made) := Sink.commit_of_decides countable decides
    refine ⟨made, decides, fun others => Sink.writeTable_congr_of_decides decides, ?_⟩
    cases result : attempt made with
    | ok written =>
        rw [result] at settled
        have succeeded := (Sink.writeTable_of_commit_ok noStray settled).1
        have holds : outcome.store = Sink.stored table records store :=
          (Sink.writeTable_ok succeeded).2.2
        refine ⟨succeeded, ?_, Sink.writeTable_sameExcept⟩
        rw [holds]
        exact Store.get_setTable_self store table _
    | error fault =>
        rw [result] at settled
        cases fault with
        | permanent cause => exact Sink.writeTable_of_commit_error noStray settled
        | transient cause =>
            exact ⟨decides.final cause result, Sink.writeTable_of_commit_error noStray settled⟩
  · intro own greatest
    apply Sink.writeTable_of_uncountable own
    rw [Sink.countable_iff, greatest]
    exact fun other => other rfl

/-- The first attempt to replace a row fails when it commits and the second when it
inserts; the third leaves the new row once. -/
theorem written_once_or_not_at_all_third_attempt :
    let record : TimedRecord := ⟨0, .taskTime ⟨1, 5, 12, 10, 20⟩, some 100, some 200⟩
    let store : Store := ({} : Store).setTable .taskTime (.rows [[.null]])
    let faults : Faults := fun attempt step =>
      if attempt = 1 ∧ step = 5 ∨ attempt = 2 ∧ step = 4 then some (.transient "locked") else none
    let outcome := (⟨"run/s.db", 2⟩ : Sink).writeTable faults .taskTime [record] store
    Sink.Decides (fun number => store.transaction (faults number)
        (Sink.statements .taskTime [record])) 1 3 3 ∧
      outcome.result = .ok 1 ∧ outcome.store.tables.get .taskTime = some (.rows [record.row]) := by
  intro record store faults outcome
  obtain ⟨made, decides, -, settled⟩ :=
    (written_once_or_not_at_all ⟨"run/s.db", 2⟩ faults .taskTime [record] store).2.2.1
      (by decide) (by decide)
  have third : made = 3 := by
    have least := decides.first_le
    have most : made ≤ 3 := decides.le_last
    have numbers : made = 1 ∨ made = 2 ∨ made = 3 := by omega
    rcases numbers with rfl | rfl | rfl
    · exact decides.final "locked" rfl
    · exact decides.final "locked" rfl
    · rfl
  subst third
  exact ⟨decides, settled.1, settled.2.1⟩

/-- With the greatest number of retries, one record and nothing in the way, nothing
is written. -/
theorem greatest_retry_count_writes_nothing :
    let record : TimedRecord := ⟨0, .npuMem ⟨1, 2, 3, 4⟩, some 5, none⟩
    let outcome := (⟨"run/s.db", 4294967295⟩ : Sink).writeTable .none .npuMem [record] {}
    outcome.result = .error .outOfRange ∧ outcome.store = {} :=
  ⟨rfl, rfl⟩

end AcceleratorTrace
