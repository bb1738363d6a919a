import AcceleratorTrace.Proofs.TaskPhases

/-!
# Schedules

Two facts about the pool of workers.  It never gets stuck: where no worker can do
anything, every task has handed in its report.  And to run the tasks one after the
other is one of its schedules, the one of a worker who takes them all.
-/

namespace AcceleratorTrace

theorem Config.poolSize_pos (config : Config) : 0 < config.poolSize :=
  Nat.le_max_right _ _

namespace Pool

theorem mem_middle {before after : List Job} {job other : Job} :
    other ∈ before ++ job :: after ↔ other = job ∨ other ∈ before ++ after := by
  rw [List.perm_middle.mem_iff, List.mem_cons]

theorem exists_first_queued {jobs : List Job}
    (waiting : ∃ job ∈ jobs, job.phase = .queued) :
    ∃ before engine files after, jobs = before ++ ⟨engine, files, .queued⟩ :: after ∧
      ∀ job ∈ before, job.phase ≠ .queued := by
  induction jobs with
  | nil => simp at waiting
  | cons job rest induction =>
      by_cases queued : job.phase = .queued
      · obtain ⟨engine, files, phase⟩ := job
        cases queued
        exact ⟨[], engine, files, rest, rfl, by simp⟩
      · obtain ⟨found, member, phase⟩ := waiting
        rcases List.mem_cons.mp member with rfl | later
        · exact absurd phase queued
        · obtain ⟨before, engine, files, after, rfl, first⟩ := induction ⟨found, later, phase⟩
          refine ⟨job :: before, engine, files, after, rfl, ?_⟩
          intro other among
          rcases List.mem_cons.mp among with rfl | among
          · exact queued
          · exact first other among

theorem idle_of_rest {plan : RunPlan} {pool : Pool} (rest : ∀ next, ¬ Step plan pool next) :
    ∀ job ∈ pool.jobs, job.phase.isBusy = false := by
  intro job member
  obtain ⟨shared, jobs⟩ := pool
  obtain ⟨before, after, rfl⟩ := List.append_of_mem member
  cases busy : job.phase.isBusy with
  | false => rfl
  | true => exact absurd (.advance busy) (rest _)

theorem busy_eq_zero {pool : Pool} (idle : ∀ job ∈ pool.jobs, job.phase.isBusy = false) :
    pool.busy = 0 := by
  apply List.countP_eq_zero.mpr
  intro job member
  simp [idle job member]

/-- The pool does not get stuck: when no worker can take a step, every task has
handed in its report. -/
theorem reported_of_rest {plan : RunPlan} {pool : Pool}
    (rest : ∀ next, ¬ Step plan pool next) :
    ∀ job ∈ pool.jobs, ∃ report, job.phase = .reported report := by
  have idle := idle_of_rest rest
  have noneQueued : ∀ job ∈ pool.jobs, job.phase ≠ .queued := by
    intro job member queued
    obtain ⟨before, engine, files, after, jobs, first⟩ := exists_first_queued ⟨job, member, queued⟩
    have spare : pool.busy < plan.config.poolSize := by
      rw [busy_eq_zero idle]
      exact plan.config.poolSize_pos
    obtain ⟨shared, _⟩ := pool
    cases jobs
    exact rest _ (.take first spare)
  intro job member
  have notBusy := idle job member
  have notQueued := noneQueued job member
  cases phase : job.phase with
  | reported report => exact ⟨report, rfl⟩
  | queued => exact absurd phase notQueued
  | _ => simp [phase, Phase.isBusy] at notBusy

theorem rest_of_reported {plan : RunPlan} {pool : Pool}
    (reported : ∀ job ∈ pool.jobs, ∃ report, job.phase = .reported report) :
    ∀ next, ¬ Step plan pool next := by
  intro next step
  cases step with
  | take =>
      obtain ⟨report, phase⟩ := reported _ (List.mem_append_right _ List.mem_cons_self)
      cases phase
  | advance busy =>
      obtain ⟨report, phase⟩ := reported _ (List.mem_append_right _ List.mem_cons_self)
      cases phase
      cases busy

end Pool

namespace Phase

/-- What a worker comes to in some steps at a task while the others do nothing. -/
inductive Leads (plan : RunPlan) (engine : Engine) (files : List SliceFile) :
    Phase → Shared → Phase → Shared → Prop where
  | refl {phase : Phase} {shared : Shared} : Leads plan engine files phase shared phase shared
  | next {phase final : Phase} {shared last : Shared} (busy : phase.isBusy = true)
      (later : Leads plan engine files (phase.next plan engine files shared).1
        (phase.next plan engine files shared).2 final last) :
      Leads plan engine files phase shared final last

/-- The worker gets the task to its end, with the outcome that is due. -/
def Settles (plan : RunPlan) (engine : Engine) (files : List SliceFile) (cancelled : Bool)
    (phase : Phase) (shared : Shared) : Prop :=
  Leads plan engine files phase shared
    (.ended (phase.conclude plan engine files cancelled shared.store).1)
    { shared with store := (phase.conclude plan engine files cancelled shared.store).2 }

section Alone

variable {plan : RunPlan} {engine : Engine} {files : List SliceFile} {cancelled : Bool}

theorem settles_ended (report : Report) (shared : Shared) :
    (ended report).Settles plan engine files cancelled shared :=
  .refl

theorem settles_of_next {phase after : Phase} {shared last : Shared}
    (busy : phase.isBusy = true) (flag : phase = .taken → shared.budget.cancelled = cancelled)
    (moved : phase.next plan engine files shared = (after, last))
    (budget : last.budget = shared.budget)
    (later : after.Settles plan engine files cancelled last) :
    phase.Settles plan engine files cancelled shared := by
  have due := @conclude_next plan engine files cancelled phase shared flag
  rw [moved] at due
  apply Leads.next busy
  rw [moved, ← due, ← budget]
  exact later

theorem settles_writing (report : Report) (written : List (Table × Nat))
    (parts : List (Table × List TimedRecord)) (left attempt : Nat) (shared : Shared) :
    (writing report written parts left attempt).Settles plan engine files cancelled shared := by
  -- The tables left, and at each table the attempts left.
  induction parts generalizing written left attempt shared with
  | nil => exact settles_of_next rfl nofun rfl rfl (settles_ended _ _)
  | cons part rest nextTable =>
      induction left using Nat.strongRecOn generalizing attempt with
      | ind left nextAttempt =>
          rcases @next_writing_cases plan engine files report written (part :: rest) left attempt
              shared with
            ⟨result, moved⟩ | ⟨remaining, fewer, moved⟩ | ⟨_, _, _, store, parts, -, moved⟩
          · exact settles_of_next rfl nofun moved rfl (settles_ended _ shared)
          · have less : remaining < left := by omega
            exact settles_of_next rfl nofun moved rfl (nextAttempt remaining less _)
          · cases parts
            exact settles_of_next rfl nofun moved rfl (nextTable _ _ _ _)

theorem settles_opening (report : Report) (parts : List (Table × List TimedRecord))
    (shared : Shared) :
    (opening report parts).Settles plan engine files cancelled shared := by
  have looked : opening report parts = .taken → shared.budget.cancelled = cancelled := nofun
  cases opened : (plan.obstacles engine).opening with
  | some error =>
      have moved : (opening report parts).next plan engine files shared =
          (.ended (report.afterWrite (.error error)), shared) := by
        simp only [next, opened]
      exact settles_of_next rfl looked moved rfl (settles_ended _ _)
  | none =>
      have moved : (opening report parts).next plan engine files shared =
          (.writing report [] parts plan.sink.retries.toNat 1, shared) := by
        simp only [next, opened]
      exact settles_of_next rfl looked moved rfl (settles_writing _ _ _ _ _ _)

theorem settles_reading (decoder : Decoder) (done : FilesReading) (left : List SliceFile)
    (shared : Shared) :
    (reading decoder done left).Settles plan engine files cancelled shared := by
  induction left generalizing done with
  | nil =>
      refine settles_of_next rfl nofun rfl rfl ?_
      unfold read
      dsimp only
      split
      · exact settles_ended _ _
      · exact settles_opening _ _ _
  | cons file rest nextFile =>
      refine settles_of_next rfl nofun rfl rfl ?_
      unfold read
      dsimp only
      split
      · exact settles_ended _ _
      · exact nextFile _

theorem settles_taken (shared : Shared) (flag : shared.budget.cancelled = cancelled) :
    taken.Settles plan engine files cancelled shared := by
  refine settles_of_next rfl (fun _ => flag) rfl rfl ?_
  unfold start
  split
  · exact settles_ended _ _
  · split
    · exact settles_ended _ _
    · exact settles_reading _ _ _ _

theorem leads_reported (report : Report) (shared : Shared) :
    Leads plan engine files (.ended report) shared (.reported report)
      { shared with
        budget := if report.status.isFailed
          then (shared.budget.charge plan.config.errorBudget).1 else shared.budget } := by
  cases failed : report.status.isFailed with
  | false =>
      refine .next rfl ?_
      simp only [next, failed]
      exact .next rfl .refl
  | true =>
      refine .next rfl ?_
      simp only [next, failed, Budget.charge]
      exact .next rfl (.next rfl .refl)

end Alone

end Phase

theorem RunPlan.step_budget (plan : RunPlan) (progress : Progress)
    (files : Engine × List SliceFile) :
    (plan.step progress files).budget =
      let outcome := runTask plan.dispatcher plan.context plan.sink plan.read
        (plan.obstacles files.1) progress.budget.cancelled files.1 files.2 progress.store
      if outcome.report.status.isFailed then (progress.budget.charge plan.config.errorBudget).1
      else progress.budget := by
  simp only [RunPlan.step]
  split <;> rfl

namespace Pool

variable {plan : RunPlan} {start : Pool}

theorem Reaches.leads {before after : List Job} {engine : Engine} {files : List SliceFile}
    {phase final : Phase} {shared last : Shared}
    (moves : phase.Leads plan engine files shared final last)
    (reached : Reaches plan start ⟨shared, before ++ ⟨engine, files, phase⟩ :: after⟩) :
    Reaches plan start ⟨last, before ++ ⟨engine, files, final⟩ :: after⟩ := by
  induction moves with
  | refl => exact reached
  | next busy later induction => exact induction (reached.step (.advance busy))

theorem Reaches.task {before after : List Job} {progress : Progress} {engine : Engine}
    {files : List SliceFile}
    (reached : Reaches plan start ⟨⟨progress.store, progress.budget⟩,
      before ++ ⟨engine, files, .queued⟩ :: after⟩)
    (reported : ∀ job ∈ before, ∃ report, job.phase = .reported report)
    (waiting : ∀ job ∈ after, job.phase = .queued) :
    ∃ report, (plan.step progress (engine, files)).reports = progress.reports ++ [report] ∧
      Reaches plan start
        ⟨⟨(plan.step progress (engine, files)).store, (plan.step progress (engine, files)).budget⟩,
          before ++ ⟨engine, files, .reported report⟩ :: after⟩ := by
  have first : ∀ job ∈ before, job.phase ≠ .queued := by
    intro job member queued
    obtain ⟨report, phase⟩ := reported job member
    simp [phase] at queued
  have spare : busy ⟨⟨progress.store, progress.budget⟩,
      before ++ ⟨engine, files, .queued⟩ :: after⟩ < plan.config.poolSize := by
    rw [busy_eq_zero]
    · exact plan.config.poolSize_pos
    · intro job member
      rcases List.mem_append.mp member with earlier | here
      · obtain ⟨report, phase⟩ := reported job earlier
        simp [phase, Phase.isBusy]
      · rcases List.mem_cons.mp here with rfl | later
        · rfl
        · simp [waiting job later, Phase.isBusy]
  have taken := reached.step (.take first spare)
  have ended := taken.leads (Phase.settles_taken _ rfl)
  have handedIn := ended.leads (Phase.leads_reported _ _)
  refine ⟨_, rfl, ?_⟩
  rw [RunPlan.step_budget]
  exact handedIn

/-- The induction is on the tasks that still wait. -/
theorem Reaches.tasks {done : List Job} {progress : Progress} {waiting : FileSets}
    (reached : Reaches plan start ⟨⟨progress.store, progress.budget⟩,
      done ++ waiting.map fun set => ⟨set.1, set.2, .queued⟩⟩)
    (reported : ∀ job ∈ done, ∃ report, job.phase = .reported report)
    (reports : done.filterMap (fun job => job.phase.report?) = progress.reports) :
    ∃ final, Reaches plan start final ∧
      (∀ job ∈ final.jobs, ∃ report, job.phase = .reported report) ∧
      final.shared.store = (waiting.foldl plan.step progress).store ∧
      final.summary = ⟨(waiting.foldl plan.step progress).reports,
        (waiting.foldl plan.step progress).budget.cancelled⟩ := by
  induction waiting generalizing done progress with
  | nil =>
      refine ⟨_, reached, ?_, rfl, ?_⟩
      · simpa using reported
      · simp [summary, reports]
  | cons set rest induction =>
      have queued : ∀ job ∈ rest.map fun set => (⟨set.1, set.2, .queued⟩ : Job),
          job.phase = .queued := by
        intro job member
        obtain ⟨later, -, rfl⟩ := List.mem_map.mp member
        rfl
      obtain ⟨report, added, moved⟩ := Reaches.task reached reported queued
      rw [List.append_cons] at moved
      refine induction moved ?_ ?_
      · intro job member
        rcases List.mem_append.mp member with earlier | here
        · exact reported job earlier
        · exact ⟨report, by rw [List.mem_singleton.mp here]⟩
      · rw [List.filterMap_append, reports, added]
        rfl

end Pool

/-- To run the tasks one after the other is a schedule of the pool. -/
theorem runOn_is_schedule (plan : RunPlan) (sets : FileSets) (cancelled : Bool)
    (faults : Faults) (store : Store) :
    plan.RunsTo sets cancelled faults store (plan.runOn sets cancelled faults store).result
      (plan.runOn sets cancelled faults store).store := by
  unfold RunPlan.runOn
  cases recorded :
      (plan.sink.recordRun faults plan.context.chip plan.context.clock store).result with
  | error error =>
      simp only [recorded]
      exact .unrecorded recorded
  | ok nothing =>
      simp only [recorded]
      obtain ⟨final, reached, reported, store, summary⟩ :=
        @Pool.Reaches.tasks plan _ [] { store := _, budget := { cancelled } } sets.inOrder
          .refl (by simp) rfl
      rw [RunPlan.runTasks, ← summary, ← store]
      exact .rested recorded reached (Pool.rest_of_reported reported)

end AcceleratorTrace
