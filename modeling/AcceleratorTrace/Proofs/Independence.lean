import AcceleratorTrace.Proofs.Schedules

/-!
# Tasks do not influence each other

Without an error budget the tasks of a run share nothing but the store, and no two
of them share a table.  So whatever the workers do in which order, each task comes
to what it would come to alone: the same report, and the same rows in its tables.
-/

namespace AcceleratorTrace

theorem inOrder_engines (sets : FileSets) :
    sets.inOrder.map Prod.fst =
      Engine.all.filter fun engine => (sets.find? fun set => set.1 == engine).isSome := by
  unfold FileSets.inOrder
  induction Engine.all with
  | nil => rfl
  | cons engine rest induction =>
      cases found : sets.find? fun set => set.1 == engine with
      | none => simp [found, induction]
      | some set =>
          have same : set.1 = engine := by
            have test := List.find?_some found
            exact beq_iff_eq.mp test
          simp [found, induction, same]

theorem nodup_inOrder (sets : FileSets) : (sets.inOrder.map Prod.fst).Nodup := by
  rw [inOrder_engines]
  exact List.Pairwise.filter _ (by decide : Engine.all.Nodup)

theorem engine_ne_of_inOrder {sets before after : FileSets} {set other : Engine × List SliceFile}
    (order : sets.inOrder = before ++ set :: after) (member : other ∈ before ++ after) :
    other.1 ≠ set.1 := by
  have distinct := nodup_inOrder sets
  rw [order] at distinct
  have apart := (List.perm_middle.map Prod.fst).nodup distinct
  rw [List.map_cons, List.nodup_cons] at apart
  intro same
  exact apart.1 (List.mem_map.mpr ⟨other, member, same⟩)

theorem inOrder_singleton (engine : Engine) (files : List SliceFile) :
    FileSets.inOrder [(engine, files)] = [(engine, files)] := by
  cases engine <;> simp [FileSets.inOrder, Engine.all]

/-- What a task comes to if it runs alone. -/
def RunPlan.alone (plan : RunPlan) (engine : Engine) (files : List SliceFile) (store : Store) :
    TaskOutcome :=
  runTask plan.dispatcher plan.context plan.sink plan.read (plan.obstacles engine) false engine
    files store

/-- With the store as it is, a task keeps to its own tables and will come to what it
would have come to alone from the start. -/
structure Job.Due (plan : RunPlan) (start : Store) (job : Job) (store : Store) : Prop where
  confined : job.phase.Confined plan job.engine
  report : (job.phase.conclude plan job.engine job.files false store).1 =
    (plan.alone job.engine job.files start).report
  rows : Store.AgreeOn job.engine.tables
    (job.phase.conclude plan job.engine job.files false store).2
    (plan.alone job.engine job.files start).store

section Due

variable {declared : List Support} {registrations : List Registration} {plan : RunPlan}
  {start : Store}

/-- What a task is due to come to does not depend on the tables of others. -/
theorem Job.Due.of_agree (built : Dispatcher.build declared registrations = .ok plan.dispatcher)
    {job : Job} {store other : Store} (due : job.Due plan start store)
    (same : Store.AgreeOn job.engine.tables other store) : job.Due plan start other := by
  obtain ⟨report, rows⟩ := due.confined.conclude_congr built false same
  refine ⟨due.confined, report.trans due.report, ?_⟩
  intro table own
  exact (rows table own).trans (due.rows table own)

/-- A task's own steps get it nearer to what is due. -/
theorem Job.Due.next (built : Dispatcher.build declared registrations = .ok plan.dispatcher)
    {engine : Engine} {files : List SliceFile} {phase : Phase} {shared : Shared}
    (calm : shared.budget.cancelled = false)
    (due : Job.Due plan start ⟨engine, files, phase⟩ shared.store) :
    Job.Due plan start ⟨engine, files, (phase.next plan engine files shared).1⟩
      (phase.next plan engine files shared).2.store := by
  have kept := @Phase.conclude_next plan engine files false phase shared fun _ => calm
  refine ⟨due.confined.next built shared, ?_, ?_⟩
  · exact (congrArg Prod.fst kept).trans due.report
  · rw [kept]
    exact due.rows

end Due

namespace Pool

/-- The flag is down, every task is due to come to what it would alone, and what
belongs to no task is as it was. -/
structure Undisturbed (plan : RunPlan) (sets : FileSets) (start : Store) (pool : Pool) :
    Prop where
  jobs : pool.jobs.map (fun job => (job.engine, job.files)) = sets.inOrder
  calm : pool.shared.budget.cancelled = false
  due : ∀ job ∈ pool.jobs, job.Due plan start pool.shared.store
  others : ∀ table, (∀ set ∈ sets.inOrder, table ∉ set.1.tables) →
    pool.shared.store.tables.get table = start.tables.get table
  metadata : pool.shared.store.metadata = start.metadata

section Schedule

variable {declared : List Support} {registrations : List Registration} {plan : RunPlan}
  {sets : FileSets} {start : Store}

theorem undisturbed_start (store : Store) :
    Undisturbed plan sets store (RunPlan.startPool sets false store) := by
  refine ⟨?_, rfl, ?_, fun _ _ => rfl, rfl⟩
  · simp [RunPlan.startPool, Pool.fresh, Function.comp_def]
  · intro job member
    obtain ⟨set, -, rfl⟩ := List.mem_map.mp member
    exact ⟨trivial, rfl, fun table _ => rfl⟩

theorem Undisturbed.engine_ne {shared : Shared} {before after : List Job} {job other : Job}
    (undisturbed : Undisturbed plan sets start ⟨shared, before ++ job :: after⟩)
    (member : other ∈ before ++ after) : other.engine ≠ job.engine := by
  have order := undisturbed.jobs.symm
  rw [List.map_append, List.map_cons] at order
  have among := List.mem_map_of_mem (f := fun job => (job.engine, job.files)) member
  rw [List.map_append] at among
  exact engine_ne_of_inOrder order among

/-- A step of one worker that leaves the flag down disturbs no task: its own comes to
what it would have come to, and the tables of all others are left alone. -/
theorem Undisturbed.step_of_calm
    (built : Dispatcher.build declared registrations = .ok plan.dispatcher) {pool next : Pool}
    (undisturbed : Undisturbed plan sets start pool) (step : Step plan pool next)
    (calm : next.shared.budget.cancelled = false) : Undisturbed plan sets start next := by
  cases step with
  | @take shared before after engine files first spare =>
      refine ⟨?_, undisturbed.calm, ?_, undisturbed.others, undisturbed.metadata⟩
      · simpa using undisturbed.jobs
      · intro job member
        rcases mem_middle.mp member with rfl | around
        · have due := undisturbed.due _ (mem_middle.mpr (.inl rfl))
          exact ⟨due.confined, due.report, due.rows⟩
        · exact undisturbed.due job (mem_middle.mpr (.inr around))
  | @advance shared before after engine files phase busy =>
      have due := undisturbed.due _ (mem_middle.mpr (.inl rfl))
      refine ⟨?_, calm, ?_, ?_, ?_⟩
      · simpa using undisturbed.jobs
      · intro job member
        -- The task that moves, then the tasks around it: their tables it cannot reach.
        rcases mem_middle.mp member with rfl | around
        · exact due.next built undisturbed.calm
        · have dueAround := undisturbed.due job (mem_middle.mpr (.inr around))
          refine dueAround.of_agree built ?_
          intro table own
          exact due.confined.next_get shared
            (Engine.tables_disjoint (undisturbed.engine_ne around) own)
      · intro table outside
        have given : (engine, files) ∈ sets.inOrder := by
          rw [← undisturbed.jobs]
          exact List.mem_map.mpr ⟨_, mem_middle.mpr (.inl rfl), rfl⟩
        exact (due.confined.next_get shared (outside _ given)).trans
          (undisturbed.others table outside)
      · obtain ⟨own, -, same⟩ := due.confined.next_sameExcept shared
        exact same.metadata.trans undisturbed.metadata

theorem Undisturbed.step (built : Dispatcher.build declared registrations = .ok plan.dispatcher)
    (unlimited : plan.config.errorBudget = none) {pool next : Pool}
    (undisturbed : Undisturbed plan sets start pool) (step : Step plan pool next) :
    Undisturbed plan sets start next := by
  apply undisturbed.step_of_calm built step
  have calm := undisturbed.calm
  cases step with
  | take first spare => exact calm
  | @advance shared before after engine files phase busy =>
      exact (Phase.next_cancelled unlimited phase shared).trans calm

theorem Undisturbed.reaches
    (built : Dispatcher.build declared registrations = .ok plan.dispatcher)
    (unlimited : plan.config.errorBudget = none) {first last : Pool}
    (undisturbed : Undisturbed plan sets start first) (reached : Reaches plan first last) :
    Undisturbed plan sets start last := by
  induction reached with
  | refl => exact undisturbed
  | step reached step induction => exact induction.step built unlimited step

theorem Undisturbed.reports_of_rest {pool : Pool}
    (undisturbed : Undisturbed plan sets start pool) (rest : ∀ next, ¬ Step plan pool next) :
    pool.summary.reports = sets.inOrder.map fun set => (plan.alone set.1 set.2 start).report := by
  rw [← undisturbed.jobs, List.map_map]
  apply List.filterMap_eq_map_iff_forall_eq_some.mpr
  intro job member
  obtain ⟨report, phase⟩ := reported_of_rest rest job member
  have due := (undisturbed.due job member).report
  rw [phase] at due
  rw [phase]
  exact congrArg some due

theorem Undisturbed.rows_of_rest {pool : Pool}
    (undisturbed : Undisturbed plan sets start pool) (rest : ∀ next, ¬ Step plan pool next)
    {engine : Engine} {files : List SliceFile} (given : (engine, files) ∈ sets.inOrder) :
    Store.AgreeOn engine.tables pool.shared.store (plan.alone engine files start).store := by
  rw [← undisturbed.jobs] at given
  obtain ⟨job, member, same⟩ := List.mem_map.mp given
  cases same
  obtain ⟨report, phase⟩ := reported_of_rest rest job member
  have due := (undisturbed.due job member).rows
  rw [phase] at due
  exact due

end Schedule

end Pool

theorem afterWrite_engine (report : Report) (result : Except StoreError (List (Table × Nat))) :
    (report.afterWrite result).engine = report.engine := by
  cases result <;> rfl

theorem fullReport_engine (engine : Engine) (reading : FilesReading)
    (spans : Option PairingSummary) : (fullReport engine reading spans).engine = engine := by
  cases spans <;> rfl

theorem writeReading_engine (context : Context) (sink : Sink) (obstacles : Obstacles)
    (engine : Engine) (reading : FilesReading) (store : Store) :
    (writeReading context sink obstacles engine reading store).report.engine = engine := by
  unfold writeReading
  split
  · rfl
  · dsimp only
    split
    · exact fullReport_engine _ _ _
    · rw [afterWrite_engine, fullReport_engine]

namespace RunPlan

theorem alone_engine (plan : RunPlan) (engine : Engine) (files : List SliceFile)
    (store : Store) : (plan.alone engine files store).report.engine = engine := by
  unfold alone runTask
  simp only [Bool.false_eq_true, if_false]
  split
  · rfl
  · exact writeReading_engine _ _ _ _ _ _

theorem filter_alone (plan : RunPlan) {sets : FileSets} {engine : Engine}
    {files : List SliceFile} (given : (engine, files) ∈ sets.inOrder) (store : Store) :
    ((sets.inOrder.map fun set => (plan.alone set.1 set.2 store).report).filter
        fun report => report.engine = engine) =
      [(plan.alone engine files store).report] := by
  obtain ⟨before, after, order⟩ := List.append_of_mem given
  have gone : ∀ others : FileSets, (∀ set ∈ others, set ∈ before ++ after) →
      ((others.map fun set => (plan.alone set.1 set.2 store).report).filter
        fun report => report.engine = engine) = [] := by
    intro others around
    apply List.filter_eq_nil_iff.mpr
    intro report member
    obtain ⟨set, among, rfl⟩ := List.mem_map.mp member
    simpa [alone_engine] using engine_ne_of_inOrder order (around set among)
  rw [order, List.map_append, List.map_cons, List.filter_append, List.filter_cons]
  rw [gone before fun set member => List.mem_append_left _ member]
  rw [gone after fun set member => List.mem_append_right _ member]
  simp [alone_engine]

/-- Two plans are the same for a task: it finds the same context, decoder, file
contents and obstacles.  Nothing is said about other tasks or about the workers. -/
structure SameFor (first second : RunPlan) (engine : Engine) (files : List SliceFile) :
    Prop where
  context : first.context = second.context
  retries : first.config.retries = second.config.retries
  decoder : first.dispatcher.decoderFor first.context.chip engine =
    second.dispatcher.decoderFor second.context.chip engine
  contents : ∀ file ∈ files, first.read file.path = second.read file.path
  obstacles : first.obstacles engine = second.obstacles engine

theorem SameFor.sink {first second : RunPlan} {engine : Engine} {files : List SliceFile}
    (same : SameFor first second engine files) : first.sink = second.sink := by
  unfold RunPlan.sink
  rw [same.context, same.retries]

theorem SameFor.alone {first second : RunPlan} {engine : Engine} {files : List SliceFile}
    (same : SameFor first second engine files) (store : Store) :
    first.alone engine files store = second.alone engine files store := by
  unfold RunPlan.alone runTask ingestFiles
  rw [same.decoder, same.sink, same.context, same.obstacles]
  simp only [fun decoder => readFiles_congr decoder second.context.clock same.contents]

theorem runOn_of_unrecorded {plan : RunPlan} {sets : FileSets} {cancelled : Bool}
    {faults : Faults} {store : Store} {error : StoreError}
    (failed : (plan.sink.recordRun faults plan.context.chip plan.context.clock store).result =
      .error error) :
    (plan.runOn sets cancelled faults store).result = .error error ∧
      (plan.runOn sets cancelled faults store).store =
        (plan.sink.recordRun faults plan.context.chip plan.context.clock store).store := by
  simp only [runOn, failed, and_self]

theorem runOn_single {plan : RunPlan} {faults : Faults} {store : Store} (engine : Engine)
    (files : List SliceFile)
    (recorded : (plan.sink.recordRun faults plan.context.chip plan.context.clock store).result =
      .ok ()) :
    let start := (plan.sink.recordRun faults plan.context.chip plan.context.clock store).store
    let run := plan.runOn [(engine, files)] false faults store
    run.result.map Summary.reports = .ok [(plan.alone engine files start).report] ∧
      run.store = (plan.alone engine files start).store := by
  simp only [runOn, recorded, runTasks, inOrder_singleton]
  exact ⟨rfl, rfl⟩

end RunPlan

/-- Tasks do not influence each other.  In a run without an error budget, with any
number of workers and in any order of their steps, the report of an engine and the
rows of its tables are those of a run that has the files of this engine only; and
they stay so if all that differs concerns other engines. -/
theorem tasks_do_not_interfere {declared : List Support} {registrations : List Registration}
    {plan other : RunPlan} {sets : FileSets} {faults : Faults} {store after : Store}
    {result : Except StoreError Summary} {engine : Engine} {files : List SliceFile}
    (built : Dispatcher.build declared registrations = .ok plan.dispatcher)
    (unlimited : plan.config.errorBudget = none)
    (ran : plan.RunsTo sets false faults store result after)
    (given : (engine, files) ∈ sets.inOrder) (same : other.SameFor plan engine files) :
    let alone := other.runOn [(engine, files)] false faults store
    (result.map fun summary => summary.reports.filter fun report => report.engine = engine) =
        alone.result.map Summary.reports ∧
      ∀ table ∈ engine.tables, after.tables.get table = alone.store.tables.get table := by
  have sameRecording : other.sink.recordRun faults other.context.chip other.context.clock store =
      plan.sink.recordRun faults plan.context.chip plan.context.clock store := by
    rw [same.sink, same.context]
  cases ran with
  | unrecorded failed =>
      rw [← sameRecording] at failed ⊢
      obtain ⟨unrecorded, untouched⟩ := @RunPlan.runOn_of_unrecorded other [(engine, files)]
        false faults store _ failed
      dsimp only
      rw [unrecorded, untouched]
      exact ⟨rfl, fun _ _ => rfl⟩
  | rested recorded reached rest =>
      have undisturbed := (Pool.undisturbed_start _).reaches built unlimited reached
      obtain ⟨reports, rows⟩ := RunPlan.runOn_single engine files (sameRecording ▸ recorded)
      rw [sameRecording, same.alone] at reports rows
      refine ⟨?_, ?_⟩
      · rw [reports, ← plan.filter_alone given, ← undisturbed.reports_of_rest rest]
        rfl
      · rw [rows]
        exact undisturbed.rows_of_rest rest given

/-- Scheduler records come out the same beside memory samples that cannot be read. -/
theorem tasks_do_not_interfere_unreadable :
    let context : Context :=
      ⟨"run", .gen4, ⟨⟨0, 0, 1.0⟩, 1000000, none, by decide⟩, "run/sqlite/device_trace.db"⟩
    let scheduler : List SliceFile := [⟨"stars_soc.data.0.slice_0", 0, 0⟩]
    let memory : List SliceFile := [⟨"npu_mem.data.0.slice_0", 0, 0⟩]
    let plan : RunPlan :=
      { dispatcher := ⟨Dispatcher.builtinRegistrations⟩, context, config := {}
        read := fun path =>
          if path = "stars_soc.data.0.slice_0" then .ok (List.replicate 32 0)
          else .error .notFound }
    let other : RunPlan :=
      { plan with
        config := { workers := 1 }
        read := fun _ => .ok (List.replicate 32 0) }
    let run := plan.runOn [(.starsLog, scheduler), (.npuMem, memory)] false .none {}
    let alone := other.runOn [(.starsLog, scheduler)] false .none {}
    (run.result.map fun summary => summary.reports.map fun report => report.status.isFailed) =
        .ok [false, true] ∧
      (run.result.map fun summary =>
          summary.reports.filter fun report => report.engine = .starsLog) =
        alone.result.map Summary.reports ∧
      ∀ table ∈ Engine.starsLog.tables,
        run.store.tables.get table = alone.store.tables.get table := by
  intro context scheduler memory plan other run alone
  refine ⟨by decide +kernel, ?_⟩
  exact @tasks_do_not_interfere Dispatcher.builtinSupport Dispatcher.builtinRegistrations plan other
    [(.starsLog, scheduler), (.npuMem, memory)] .none {} _ _ .starsLog scheduler rfl rfl
    (runOn_is_schedule plan _ false .none {}) (by decide)
    ⟨rfl, rfl, rfl, by simp [scheduler, plan, other], rfl⟩

end AcceleratorTrace
