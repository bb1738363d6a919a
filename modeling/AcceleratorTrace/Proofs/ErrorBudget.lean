import AcceleratorTrace.Proofs.Schedules

/-!
# The error budget under every schedule

A failure is counted first and the flag is raised in a later step, so other workers
can start tasks in between.  A run can therefore have more failures than its budget
allows, but at most one more for each worker; and whoever finds the flag up finds
the budget exceeded.
-/

namespace AcceleratorTrace

namespace Budget

@[simp] theorem failures_trip (budget : Budget) (allowed? : Option Nat) (failures : Nat) :
    (budget.trip allowed? failures).1.failures = budget.failures := by
  cases allowed? with
  | none => rfl
  | some allowed =>
      simp only [trip]
      split <;> rfl

theorem cancelled_trip (budget : Budget) (allowed failures : Nat) :
    (budget.trip (some allowed) failures).1.cancelled =
      (budget.cancelled || decide (allowed < failures)) := by
  simp only [trip]
  split
  · simp_all
  · cases raised : budget.cancelled <;> simp_all

end Budget

namespace Phase

/-- The task is past the flag, and what it comes to is still open. -/
def isWorking : Phase → Bool
  | .reading .. | .opening .. | .writing .. => true
  | _ => false

/-- The task may still add a failure to the count. -/
def mayFail : Phase → Bool
  | .ended report => report.status.isFailed
  | phase => phase.isWorking

/-- The task is one of the failures counted so far. -/
def isCountedFailure : Phase → Bool
  | .counted report _ | .sending report | .reported report => report.status.isFailed
  | _ => false

/-- The failure of the task was one too many, and the flag is about to be raised. -/
def isRaising (allowed : Nat) : Phase → Bool
  | .counted _ failures => allowed < failures
  | _ => false

/-- The report of a task that is over, handed in or not. -/
def outcome? : Phase → Option Report
  | .ended report | .counted report _ | .sending report | .reported report => some report
  | _ => none

/-- A task that has read its files has not failed so far. -/
def Unfailed : Phase → Prop
  | .opening report _ | .writing report .. => report.status = .succeeded
  | _ => True

/-- The task works, or has ended on its own. -/
def Proceeds (phase : Phase) : Prop :=
  phase.isWorking = true ∨ ∃ report, phase = .ended report ∧ report.status ≠ .skipped .cancelled

/-- All that a step of a busy worker can do to its task and to the budget. -/
inductive Charges (allowed? : Option Nat) : Phase → Budget → Phase → Budget → Prop where
  | skip {report : Report} {budget : Budget} (raised : budget.cancelled = true)
      (skipped : report.status = .skipped .cancelled) :
      Charges allowed? .taken budget (.ended report) budget
  | start {later : Phase} {budget : Budget} (down : budget.cancelled = false)
      (proceeds : later.Proceeds) : Charges allowed? .taken budget later budget
  | work {phase later : Phase} {budget : Budget} (working : phase.isWorking = true)
      (proceeds : later.Proceeds) : Charges allowed? phase budget later budget
  | count {report : Report} {budget : Budget} (failed : report.status.isFailed = true) :
      Charges allowed? (.ended report) budget (.counted report (budget.failures + 1))
        { budget with failures := budget.failures + 1 }
  | pass {report : Report} {budget : Budget} (unfailed : report.status.isFailed = false) :
      Charges allowed? (.ended report) budget (.sending report) budget
  | raise {report : Report} {failures : Nat} {budget : Budget} :
      Charges allowed? (.counted report failures) budget (.sending report)
        (budget.trip allowed? failures).1
  | hand {report : Report} {budget : Budget} :
      Charges allowed? (.sending report) budget (.reported report) budget

section Step

variable {plan : RunPlan} {engine : Engine} {files : List SliceFile}

theorem start_charges (shared : Shared) :
    Charges plan.config.errorBudget .taken shared.budget
      (start plan engine files shared.budget.cancelled) shared.budget := by
  unfold start
  split
  · rename_i raised
    exact .skip raised rfl
  · rename_i down
    have lowered : shared.budget.cancelled = false := Bool.eq_false_iff.mpr down
    split
    · exact .start lowered (.inr ⟨_, rfl, by simp⟩)
    · exact .start lowered (.inl rfl)

theorem read_proceeds (decoder : Decoder) (done : FilesReading) (left : List SliceFile) :
    (read plan engine decoder done left).Proceeds ∧
      (read plan engine decoder done left).Unfailed := by
  cases left with
  | cons file rest =>
      simp only [read]
      split
      · exact ⟨.inr ⟨_, rfl, by simp⟩, trivial⟩
      · exact ⟨.inl rfl, trivial⟩
  | nil =>
      have status := fullReport_status engine done
        (taskSpans engine plan.context.clock done.records)
      simp only [read]
      split
      · exact ⟨.inr ⟨_, rfl, by simp [status]⟩, trivial⟩
      · exact ⟨.inl rfl, status⟩

theorem ended_afterWrite_proceeds {report : Report} (unfailed : report.status = .succeeded)
    (result : Except StoreError (List (Table × Nat))) :
    (ended (report.afterWrite result)).Proceeds := by
  refine .inr ⟨_, rfl, ?_⟩
  cases result with
  | error error => simp [Report.afterWrite]
  | ok rows => simp [Report.afterWrite, unfailed]

theorem next_charges {phase : Phase} {shared : Shared} (busy : phase.isBusy = true)
    (unfailed : phase.Unfailed) :
    Charges plan.config.errorBudget phase shared.budget
        (phase.next plan engine files shared).1
        (phase.next plan engine files shared).2.budget ∧
      (phase.next plan engine files shared).1.Unfailed := by
  cases phase with
  | queued => cases busy
  | taken =>
      refine ⟨start_charges shared, ?_⟩
      simp only [next, start]
      split
      · trivial
      · split <;> trivial
  | reading decoder done left =>
      obtain ⟨proceeds, later⟩ := @read_proceeds plan engine decoder done left
      exact ⟨.work rfl proceeds, later⟩
  | opening report parts =>
      simp only [next]
      split
      · exact ⟨.work rfl (ended_afterWrite_proceeds unfailed _), trivial⟩
      · exact ⟨.work rfl (.inl rfl), unfailed⟩
  | writing report written parts left attempt =>
      rcases @next_writing_cases plan engine files report written parts left attempt shared with
        ⟨result, moved⟩ | ⟨remaining, -, moved⟩ | ⟨_, _, _, _, -, -, moved⟩
      · rw [moved]
        exact ⟨.work rfl (ended_afterWrite_proceeds unfailed result), trivial⟩
      · rw [moved]
        exact ⟨.work rfl (.inl rfl), unfailed⟩
      · rw [moved]
        exact ⟨.work rfl (.inl rfl), unfailed⟩
  | ended report =>
      cases failed : report.status.isFailed with
      | true =>
          simp only [next, failed, if_true]
          exact ⟨.count failed, trivial⟩
      | false =>
          simp only [next, failed, Bool.false_eq_true, if_false]
          exact ⟨.pass failed, trivial⟩
  | counted report failures => exact ⟨.raise, trivial⟩
  | sending report => exact ⟨.hand, trivial⟩
  | reported report => cases busy

end Step

section Kinds

variable {phase : Phase} {allowed : Nat}

theorem kinds_of_isWorking (working : phase.isWorking = true) :
    phase.mayFail = true ∧ phase.isCountedFailure = false ∧ phase.isRaising allowed = false ∧
      phase.outcome? = none := by
  cases phase with
  | reading | opening | writing => exact ⟨rfl, rfl, rfl, rfl⟩
  | _ => cases working

theorem Proceeds.kinds (proceeds : phase.Proceeds) :
    phase.isCountedFailure = false ∧ phase.isRaising allowed = false ∧
      ∀ report ∈ phase.outcome?, report.status ≠ .skipped .cancelled := by
  rcases proceeds with working | ⟨report, rfl, proceeds⟩
  · obtain ⟨-, uncounted, quiet, open_⟩ := @kinds_of_isWorking phase allowed working
    exact ⟨uncounted, quiet, by simp [open_]⟩
  · refine ⟨rfl, rfl, ?_⟩
    rintro found ⟨⟩
    exact proceeds

end Kinds

/-- A step adds to the counter what it adds to the tasks counted as failed. -/
theorem Charges.failures {allowed? : Option Nat} {phase later : Phase} {budget after : Budget}
    (charges : Charges allowed? phase budget later after) :
    after.failures + (if phase.isCountedFailure then 1 else 0) =
      budget.failures + if later.isCountedFailure then 1 else 0 := by
  cases charges with
  | skip raised skipped => rfl
  | start down proceeds =>
      rw [(@Proceeds.kinds later 0 proceeds).1]
      rfl
  | work working proceeds =>
      rw [(@Proceeds.kinds later 0 proceeds).1, (@kinds_of_isWorking phase 0 working).2.1]
  | count failed => simp [isCountedFailure, failed]
  | pass unfailed => simp [isCountedFailure, unfailed]
  | raise =>
      rw [Budget.failures_trip]
      rfl
  | hand => rfl

/-- A task is skipped for cancellation only where it looks at the flag. -/
theorem Charges.skipped {allowed? : Option Nat} {phase later : Phase} {budget after : Budget}
    (charges : Charges allowed? phase budget later after) {report : Report}
    (outcome : later.outcome? = some report) (skipped : report.status = .skipped .cancelled) :
    phase = .taken ∧ later = .ended report ∧ budget.cancelled = true ∨
      phase.outcome? = some report := by
  cases charges with
  | skip raised =>
      cases outcome
      exact .inl ⟨rfl, rfl, raised⟩
  | start down proceeds =>
      exact absurd skipped ((@Proceeds.kinds later 0 proceeds).2.2 report outcome)
  | work working proceeds =>
      exact absurd skipped ((@Proceeds.kinds later 0 proceeds).2.2 report outcome)
  | count failed => exact .inr outcome
  | pass unfailed => exact .inr outcome
  | raise => exact .inr outcome
  | hand => exact .inr outcome

/-- One step keeps the bounds.  The other tasks take part with the number of those
that are about to raise the flag and of those that may still fail. -/
theorem Charges.bounds {allowed : Nat} {phase later : Phase} {budget after : Budget}
    (charges : Charges (some allowed) phase budget later after) {raising failing limit : Nat}
    (room : failing + raising + 1 ≤ limit)
    (exceeded : budget.cancelled = true ∨
        0 < raising + (if phase.isRaising allowed then 1 else 0) →
      allowed < budget.failures)
    (pending : budget.cancelled = false →
      budget.failures ≤ allowed + (raising + if phase.isRaising allowed then 1 else 0))
    (bound : budget.failures + (failing + if phase.mayFail then 1 else 0) ≤ allowed + limit) :
    (after.cancelled = true ∨ 0 < raising + (if later.isRaising allowed then 1 else 0) →
        allowed < after.failures) ∧
      (after.cancelled = false →
        after.failures ≤ allowed + (raising + if later.isRaising allowed then 1 else 0)) ∧
      after.failures + (failing + if later.mayFail then 1 else 0) ≤ allowed + limit := by
  have atMost : (if later.mayFail then 1 else 0) ≤ 1 := by split <;> simp
  cases charges with
  | @skip report _ raised skipped =>
      have harmless : (ended report).mayFail = false := by
        simp [mayFail, skipped, TaskStatus.isFailed]
      rw [harmless]
      exact ⟨exceeded, pending, bound⟩
  | start down proceeds =>
      have quiet := (@Proceeds.kinds later allowed proceeds).2.1
      have few := pending down
      rw [quiet]
      refine ⟨exceeded, pending, ?_⟩
      have still : (taken.isRaising allowed) = false := rfl
      simp only [still, Bool.false_eq_true, if_false] at few
      omega
  | work working proceeds =>
      have quiet := (@Proceeds.kinds later allowed proceeds).2.1
      obtain ⟨may, -, still, -⟩ := @kinds_of_isWorking phase allowed working
      rw [quiet]
      rw [still] at exceeded pending
      rw [may] at bound
      refine ⟨exceeded, pending, ?_⟩
      simp only [if_true] at bound
      omega
  | @count report _ failed =>
      -- The counter passes the budget exactly if this task is to raise the flag.
      have may : (ended report).mayFail = true := failed
      have still : (ended report).isRaising allowed = false := rfl
      have numbered : (counted report (budget.failures + 1)).isRaising allowed =
          decide (allowed < budget.failures + 1) := rfl
      simp only [may, still, if_true, Bool.false_eq_true, if_false] at exceeded pending bound
      rw [numbered]
      refine ⟨?_, ?_, ?_⟩
      · rintro (raised | others)
        · exact Nat.lt_succ_of_lt (exceeded (.inl raised))
        · by_cases already : 0 < raising
          · exact Nat.lt_succ_of_lt (exceeded (.inr already))
          · by_contra enough
            simp [enough] at others
            omega
      · intro down
        have few := pending down
        by_cases reached : allowed < budget.failures + 1 <;> simp [reached] <;> omega
      · simp [mayFail, isWorking]
        omega
  | @pass report _ unfailed =>
      have harmless : (ended report).mayFail = false := unfailed
      rw [harmless] at bound
      exact ⟨exceeded, pending, bound⟩
  | @raise report failures =>
      have numbered : (counted report failures).isRaising allowed = decide (allowed < failures) :=
        rfl
      have still : (sending report).isRaising allowed = false := rfl
      rw [numbered] at exceeded pending
      rw [still, Budget.cancelled_trip, Budget.failures_trip]
      refine ⟨?_, ?_, bound⟩
      · rintro (raised | others)
        · rcases Bool.or_eq_true_iff.mp raised with up | reached
          · exact exceeded (.inl up)
          · apply exceeded
            rw [reached]
            exact .inr (Nat.succ_pos raising)
        · exact exceeded (.inr (Nat.lt_of_lt_of_le others (Nat.add_le_add_left (Nat.zero_le _) _)))
      · intro down
        obtain ⟨low, enough⟩ := Bool.or_eq_false_iff.mp down
        have few := pending low
        rwa [enough] at few
  | hand => exact ⟨exceeded, pending, bound⟩

end Phase

theorem Phase.mayFail_add_isRaising_le (phase : Phase) (allowed : Nat) :
    (if phase.mayFail then 1 else 0) + (if phase.isRaising allowed then 1 else 0) ≤
      if phase.isBusy then 1 else 0 := by
  cases phase with
  | ended report =>
      cases failed : report.status.isFailed <;> simp [mayFail, isRaising, isBusy, failed]
  | counted report failures =>
      by_cases exceeded : allowed < failures <;>
        simp [mayFail, isWorking, isRaising, isBusy, exceeded]
  | _ => simp [mayFail, isWorking, isRaising, isBusy]

namespace Pool

/-- The number of tasks in a phase of some kind. -/
def tally (test : Phase → Bool) (jobs : List Job) : Nat :=
  jobs.countP fun job => test job.phase

theorem tally_middle (test : Phase → Bool) (before after : List Job) (job : Job) :
    tally test (before ++ job :: after) =
      tally test (before ++ after) + if test job.phase then 1 else 0 := by
  simp only [tally, List.countP_append, List.countP_cons]
  omega

/-- A worker is at each task that may fail or that is about to raise the flag. -/
theorem tally_mayFail_add_tally_isRaising_le (allowed : Nat) (jobs : List Job) :
    tally Phase.mayFail jobs + tally (Phase.isRaising allowed) jobs ≤
      tally Phase.isBusy jobs := by
  induction jobs with
  | nil => exact Nat.le_refl 0
  | cons job rest induction =>
      have here := job.phase.mayFail_add_isRaising_le allowed
      simp only [tally, List.countP_cons] at induction ⊢
      omega

/-- Failures are counted one by one, and no worker is at two tasks. -/
structure Ordered (plan : RunPlan) (pool : Pool) : Prop where
  unfailed : ∀ job ∈ pool.jobs, job.phase.Unfailed
  counter : pool.shared.budget.failures = tally Phase.isCountedFailure pool.jobs
  workers : tally Phase.isBusy pool.jobs ≤ plan.config.poolSize

/-- The counter, the flag and the places of the workers, for a budget.  The flag
comes after the failures, and until it is up each failure beyond the budget is that
of a worker who is about to raise it. -/
structure WithinBudget (plan : RunPlan) (allowed : Nat) (pool : Pool) : Prop extends
    Ordered plan pool where
  exceeded : pool.shared.budget.cancelled = true ∨
      0 < tally (Phase.isRaising allowed) pool.jobs →
    allowed < pool.shared.budget.failures
  pending : pool.shared.budget.cancelled = false →
    pool.shared.budget.failures ≤ allowed + tally (Phase.isRaising allowed) pool.jobs
  bound : pool.shared.budget.failures + tally Phase.mayFail pool.jobs ≤
    allowed + plan.config.poolSize

section Schedule

variable {plan : RunPlan} {allowed : Nat}

theorem tally_fresh (store : Store) (sets : FileSets) {test : Phase → Bool}
    (fails : test .queued = false) : tally test (fresh store sets).jobs = 0 := by
  simp [tally, fresh, List.countP_eq_zero, fails]

theorem ordered_fresh (store : Store) (sets : FileSets) : Ordered plan (fresh store sets) := by
  refine ⟨?_, ?_, ?_⟩
  · intro job member
    obtain ⟨set, -, rfl⟩ := List.mem_map.mp member
    trivial
  · rw [tally_fresh store sets rfl]
    rfl
  · rw [tally_fresh store sets rfl]
    exact Nat.zero_le _

theorem withinBudget_fresh (store : Store) (sets : FileSets) :
    WithinBudget plan allowed (fresh store sets) := by
  refine ⟨ordered_fresh store sets, ?_, ?_, ?_⟩
  · rw [tally_fresh store sets rfl]
    rintro (raised | none)
    · cases raised
    · exact absurd none (Nat.lt_irrefl 0)
  · intro _
    exact Nat.zero_le _
  · rw [tally_fresh store sets rfl]
    exact Nat.zero_le _

theorem Ordered.step {pool next : Pool} (ordered : Ordered plan pool)
    (step : Step plan pool next) : Ordered plan next := by
  cases step with
  | @take shared before after engine files first spare =>
      obtain ⟨unfailed, counter, workers⟩ := ordered
      refine ⟨?_, ?_, ?_⟩
      · intro job member
        rcases mem_middle.mp member with rfl | around
        · trivial
        · exact unfailed job (mem_middle.mpr (.inr around))
      · simpa [tally_middle, Phase.isCountedFailure] using counter
      · have fewer : tally Phase.isBusy (before ++ ⟨engine, files, .queued⟩ :: after) <
            plan.config.poolSize := spare
        simp only [tally_middle, Phase.isBusy] at fewer ⊢
        simp at fewer ⊢
        omega
  | @advance shared before after engine files phase busy =>
      obtain ⟨unfailed, counter, workers⟩ := ordered
      obtain ⟨charges, later⟩ := @Phase.next_charges plan engine files phase shared busy
        (unfailed _ (mem_middle.mpr (.inl rfl)))
      refine ⟨?_, ?_, ?_⟩
      · intro job member
        rcases mem_middle.mp member with rfl | around
        · exact later
        · exact unfailed job (mem_middle.mpr (.inr around))
      · have charged := charges.failures
        simp only [tally_middle] at counter ⊢
        omega
      · simp only [tally_middle, busy, if_true] at workers ⊢
        split <;> omega

theorem WithinBudget.step (limited : plan.config.errorBudget = some allowed) {pool next : Pool}
    (within : WithinBudget plan allowed pool) (step : Step plan pool next) :
    WithinBudget plan allowed next := by
  have ordered := within.toOrdered.step step
  cases step with
  | @take shared before after engine files first spare =>
      obtain ⟨-, exceeded, pending, bound⟩ := within
      refine ⟨ordered, ?_, ?_, ?_⟩
      · simpa [tally_middle, Phase.isRaising] using exceeded
      · simpa [tally_middle, Phase.isRaising] using pending
      · simpa [tally_middle, Phase.mayFail, Phase.isWorking] using bound
  | @advance shared before after engine files phase busy =>
      obtain ⟨⟨unfailed, counter, workers⟩, exceeded, pending, bound⟩ := within
      have charges := (@Phase.next_charges plan engine files phase shared busy
        (unfailed _ (mem_middle.mpr (.inl rfl)))).1
      have apart := tally_mayFail_add_tally_isRaising_le allowed (before ++ after)
      simp only [tally_middle, busy, if_true] at workers exceeded pending bound
      rw [limited] at charges
      obtain ⟨exceeded, pending, bound⟩ := charges.bounds (by omega) exceeded pending bound
      refine ⟨ordered, ?_, ?_, ?_⟩
      · rw [tally_middle]
        exact exceeded
      · rw [tally_middle]
        exact pending
      · rw [tally_middle]
        exact bound

theorem Ordered.reaches {start pool : Pool} (ordered : Ordered plan start)
    (reached : Reaches plan start pool) : Ordered plan pool := by
  induction reached with
  | refl => exact ordered
  | step _ step induction => exact induction.step step

theorem WithinBudget.reaches (limited : plan.config.errorBudget = some allowed)
    {start pool : Pool} (within : WithinBudget plan allowed start)
    (reached : Reaches plan start pool) : WithinBudget plan allowed pool := by
  induction reached with
  | refl => exact within
  | step _ step induction => exact induction.step limited step

theorem getElem?_middle {before after : List Job} {job found : Job} {place : Nat}
    (present : (before ++ job :: after)[place]? = some found) :
    place = before.length ∧ found = job ∨
      ∀ other, (before ++ other :: after)[place]? = some found := by
  by_cases here : place = before.length
  · subst here
    rw [List.getElem?_append_right (Nat.le_refl _), Nat.sub_self] at present
    exact .inl ⟨rfl, (Option.some.inj present).symm⟩
  · refine .inr fun other => ?_
    have moved : before ++ other :: after = (before ++ job :: after).set before.length other := by
      simp
    rw [moved, List.getElem?_set_ne (Ne.symm here)]
    exact present

/-- On the way to a pool the task at a place looked at the flag and was skipped with
this report, and before that more tasks than allowed had been counted as failed. -/
def FoundFlagUp (plan : RunPlan) (start : Pool) (allowed : Nat) (pool : Pool) (place : Nat)
    (report : Report) : Prop :=
  ∃ tested skipped, Reaches plan start tested ∧ Step plan tested skipped ∧
    Reaches plan skipped pool ∧ tested.jobs[place]?.map Job.phase = some .taken ∧
    skipped.jobs[place]?.map Job.phase = some (.ended report) ∧
    allowed < tally Phase.isCountedFailure tested.jobs

theorem FoundFlagUp.step {start pool next : Pool} {place : Nat} {report : Report}
    (found : FoundFlagUp plan start allowed pool place report) (step : Step plan pool next) :
    FoundFlagUp plan start allowed next place report := by
  obtain ⟨tested, skipped, before, test, after, taken, ended, exceeded⟩ := found
  exact ⟨tested, skipped, before, test, after.step step, taken, ended, exceeded⟩

theorem foundFlagUp_of_skipped (limited : plan.config.errorBudget = some allowed) {store : Store}
    {sets : FileSets} {pool : Pool} (reached : Reaches plan (fresh store sets) pool)
    {place : Nat} {job : Job} {report : Report} (present : pool.jobs[place]? = some job)
    (outcome : job.phase.outcome? = some report) (skipped : report.status = .skipped .cancelled) :
    FoundFlagUp plan (fresh store sets) allowed pool place report := by
  induction reached generalizing job with
  | refl =>
      obtain ⟨set, -, rfl⟩ := List.mem_map.mp (List.mem_of_getElem? present)
      cases outcome
  | step reached step induction =>
      have within := (withinBudget_fresh store sets).reaches limited reached
      cases step with
      | @take shared before after engine files first spare =>
          rcases getElem?_middle present with ⟨rfl, rfl⟩ | unmoved
          · cases outcome
          · exact (induction (unmoved _) outcome).step (.take first spare)
      | @advance shared before after engine files phase busy =>
          rcases getElem?_middle present with ⟨rfl, rfl⟩ | unmoved
          · have charges := (@Phase.next_charges plan engine files phase shared busy
              (within.unfailed _ (mem_middle.mpr (.inl rfl)))).1
            have place : (before ++ ⟨engine, files, phase⟩ :: after)[before.length]? =
                some ⟨engine, files, phase⟩ := by simp
            rcases charges.skipped outcome skipped with ⟨rfl, ended, raised⟩ | earlier
            · have exceeded := within.exceeded (.inl raised)
              rw [within.counter] at exceeded
              refine ⟨_, _, reached, .advance busy, .refl, ?_, ?_, exceeded⟩
              · rw [place]
                rfl
              · rw [present]
                exact congrArg some ended
            · exact (induction place earlier).step (.advance busy)
          · exact (induction (unmoved _) outcome).step (.advance busy)

/-- The flag is down, and no task was skipped for cancellation. -/
structure Uncancelled (pool : Pool) : Prop where
  down : pool.shared.budget.cancelled = false
  started : ∀ job ∈ pool.jobs, ∀ report ∈ job.phase.outcome?, report.status ≠ .skipped .cancelled

theorem uncancelled_fresh (store : Store) (sets : FileSets) : Uncancelled (fresh store sets) := by
  refine ⟨rfl, ?_⟩
  intro job member report outcome
  obtain ⟨set, -, rfl⟩ := List.mem_map.mp member
  cases outcome

theorem Uncancelled.step (unlimited : plan.config.errorBudget = none) {pool next : Pool}
    (ordered : Ordered plan pool) (uncancelled : Uncancelled pool) (step : Step plan pool next) :
    Uncancelled next := by
  obtain ⟨down, started⟩ := uncancelled
  cases step with
  | @take shared before after engine files first spare =>
      refine ⟨down, ?_⟩
      intro job member report outcome
      rcases mem_middle.mp member with rfl | around
      · cases outcome
      · exact started job (mem_middle.mpr (.inr around)) report outcome
  | @advance shared before after engine files phase busy =>
      have charges := (@Phase.next_charges plan engine files phase shared busy
        (ordered.unfailed _ (mem_middle.mpr (.inl rfl)))).1
      refine ⟨?_, ?_⟩
      · exact (Phase.next_cancelled unlimited phase shared).trans down
      · intro job member report outcome skipped
        rcases mem_middle.mp member with rfl | around
        · rcases charges.skipped outcome skipped with ⟨-, -, raised⟩ | earlier
          · rw [down] at raised
            cases raised
          · exact started _ (mem_middle.mpr (.inl rfl)) report earlier skipped
        · exact started job (mem_middle.mpr (.inr around)) report outcome skipped

theorem Uncancelled.reaches (unlimited : plan.config.errorBudget = none) {store : Store}
    {sets : FileSets} {pool : Pool} (reached : Reaches plan (fresh store sets) pool) :
    Uncancelled pool := by
  induction reached with
  | refl => exact uncancelled_fresh store sets
  | step reached step induction =>
      exact induction.step unlimited ((ordered_fresh store sets).reaches reached) step

end Schedule

theorem mem_reports_iff {pool : Pool} {report : Report} :
    report ∈ pool.summary.reports ↔ ∃ job ∈ pool.jobs, job.phase = .reported report := by
  simp only [summary, List.mem_filterMap]
  refine exists_congr fun job => and_congr_right fun _ => ?_
  cases job.phase <;> simp [Phase.report?]

theorem length_failed (pool : Pool) :
    pool.summary.failed.length =
      tally (fun phase => phase.report?.any fun report => report.status.isFailed) pool.jobs := by
  simp only [Summary.failed, summary, tally]
  induction pool.jobs with
  | nil => rfl
  | cons job rest induction =>
      cases handed : job.phase.report? with
      | none => simp [handed, induction]
      | some report =>
          cases failed : report.status.isFailed <;> simp [handed, failed, induction]

theorem length_failed_le (pool : Pool) :
    pool.summary.failed.length ≤ tally Phase.isCountedFailure pool.jobs := by
  rw [length_failed]
  apply List.countP_mono_left
  intro job _ handed
  cases phase : job.phase <;> simp_all [Phase.report?, Phase.isCountedFailure]

theorem length_failed_of_reported {pool : Pool}
    (reported : ∀ job ∈ pool.jobs, ∃ report, job.phase = .reported report) :
    pool.summary.failed.length = tally Phase.isCountedFailure pool.jobs := by
  rw [length_failed]
  apply List.countP_congr
  intro job member
  obtain ⟨report, phase⟩ := reported job member
  simp [phase, Phase.report?, Phase.isCountedFailure]

theorem tally_isRaising_of_reported (allowed : Nat) {pool : Pool}
    (reported : ∀ job ∈ pool.jobs, ∃ report, job.phase = .reported report) :
    tally (Phase.isRaising allowed) pool.jobs = 0 := by
  apply List.countP_eq_zero.mpr
  intro job member
  obtain ⟨report, phase⟩ := reported job member
  simp [phase, Phase.isRaising]

theorem WithinBudget.cancelled_iff {plan : RunPlan} {allowed : Nat} {pool : Pool}
    (within : WithinBudget plan allowed pool)
    (reported : ∀ job ∈ pool.jobs, ∃ report, job.phase = .reported report) :
    pool.summary.cancelled = true ↔ allowed < pool.summary.failed.length := by
  rw [length_failed_of_reported reported, ← within.counter]
  constructor
  · intro raised
    exact within.exceeded (.inl raised)
  · intro many
    by_contra down
    have few := within.pending (Bool.eq_false_iff.mpr down)
    rw [tally_isRaising_of_reported allowed reported] at few
    omega

end Pool

/-- The error budget holds in every schedule of any tasks.  With a budget, a run ends
cancelled exactly if more tasks failed than allowed, whoever was skipped for that
found more failures counted than allowed, and the failures exceed the budget by at
most the number of workers.  Without one nothing is ever cancelled. -/
theorem error_budget_holds {plan : RunPlan} {store : Store} {sets : FileSets} {pool : Pool}
    (reached : Pool.Reaches plan (Pool.fresh store sets) pool) :
    (∀ allowed, plan.config.errorBudget = some allowed →
      ((∀ next, ¬ Pool.Step plan pool next) →
        (pool.summary.cancelled = true ↔ allowed < pool.summary.failed.length)) ∧
      (∀ place report, pool.jobs[place]?.map Job.phase = some (.reported report) →
        report.status = .skipped .cancelled →
          Pool.FoundFlagUp plan (Pool.fresh store sets) allowed pool place report) ∧
      pool.summary.failed.length ≤ allowed + max plan.config.workers 1) ∧
    (plan.config.errorBudget = none → pool.summary.cancelled = false ∧
      ∀ report ∈ pool.summary.reports, report.status ≠ .skipped .cancelled) := by
  constructor
  · intro allowed limited
    have within := (Pool.withinBudget_fresh store sets).reaches limited reached
    refine ⟨?_, ?_, ?_⟩
    · intro rest
      exact within.cancelled_iff (Pool.reported_of_rest rest)
    · intro place report present skipped
      obtain ⟨job, found, phase⟩ := Option.map_eq_some_iff.mp present
      apply Pool.foundFlagUp_of_skipped limited reached found _ skipped
      rw [phase]
      rfl
    · have counted := pool.length_failed_le
      have bound := within.bound
      rw [within.counter] at bound
      exact Nat.le_trans counted (Nat.le_trans (Nat.le_add_right _ _) bound)
  · intro unlimited
    have uncancelled := Pool.Uncancelled.reaches unlimited reached
    refine ⟨uncancelled.down, ?_⟩
    intro report member
    obtain ⟨job, among, phase⟩ := Pool.mem_reports_iff.mp member
    apply uncancelled.started job among
    rw [phase]
    rfl

/-- Of two tasks with unreadable files the second is skipped if no failure is
allowed. -/
theorem error_budget_holds_second_skipped :
    let plan : RunPlan :=
      { dispatcher := ⟨Dispatcher.builtinRegistrations⟩
        context := ⟨"run", .gen4, ⟨⟨0, 0, 1.0⟩, 1000000, none, by decide⟩,
          "run/sqlite/device_trace.db"⟩
        config := { workers := 1, errorBudget := some 0 }
        read := fun _ => .error .notFound }
    let sets : FileSets := [(.aiCpu, [⟨"aicpu.data.0.slice_0", 0, 0⟩]),
      (.npuMem, [⟨"npu_mem.data.0.slice_0", 0, 0⟩])]
    ∃ pool, Pool.Reaches plan (Pool.fresh {} sets) pool ∧
      (∀ next, ¬ Pool.Step plan pool next) ∧
      pool.summary.reports.map (fun report => report.status.isFailed) = [true, false] ∧
      pool.summary.reports.map (fun report => report.status.isSkipped) = [false, true] ∧
      pool.summary.cancelled = true ∧
      pool.summary.failed.length ≤ 0 + max 1 1 := by
  intro plan sets
  obtain ⟨pool, reached, reported, -, summary⟩ :=
    @Pool.Reaches.tasks plan _ [] { store := {} } sets .refl (by simp) rfl
  have rest : ∀ next, ¬ Pool.Step plan pool next := Pool.rest_of_reported reported
  obtain ⟨cancelled, -, bound⟩ := (error_budget_holds reached).1 0 rfl
  refine ⟨pool, reached, rest, ?_, ?_, ?_, bound⟩
  · rw [summary]
    decide +kernel
  · rw [summary]
    decide +kernel
  · apply (cancelled rest).mpr
    rw [summary]
    decide +kernel

end AcceleratorTrace
