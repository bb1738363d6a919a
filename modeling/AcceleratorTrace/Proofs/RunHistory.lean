import AcceleratorTrace.Proofs.ErrorBudget
import AcceleratorTrace.Proofs.Independence
import AcceleratorTrace.Proofs.SucceededTask

/-!
# The store after any number of runs

Runs on one store add to it: each leaves the records of the tasks that succeeded
after those of earlier runs.  The spans and the metadata are those of one run only,
the last that had any.
-/

namespace AcceleratorTrace

theorem Sink.recordRun_ok {sink : Sink} {faults : Faults} {chip : Chip} {clock : Clock}
    {store : Store} (recorded : (sink.recordRun faults chip clock store).result = .ok ()) :
    (sink.recordRun faults chip clock store).store =
      { store with metadata := some (.row (some (metadata chip clock))) } := by
  simp only [recordRun] at recorded ⊢
  split at recorded
  · rename_i written log committed
    simp only [commit] at committed
    split at committed
    · obtain ⟨attempt, success⟩ := exists_of_retry_eq_ok (congrArg Prod.fst committed)
      have applied := ((Store.transaction_eq_ok_iff _ _ _ _).mp success).2
      cases held : store.metadata with
      | none =>
          simp [Statement.apply, held, bind, Except.bind, pure, Except.pure] at applied
          exact applied.symm
      | some state =>
          cases state with
          | foreign => simp [Statement.apply, held, bind, Except.bind] at applied
          | row metadata =>
              simp [Statement.apply, held, bind, Except.bind, pure, Except.pure] at applied
              exact applied.symm
    · cases committed
  · cases recorded

namespace Pool

theorem Step.cancelled {plan : RunPlan} {pool next : Pool} (step : Step plan pool next)
    (raised : pool.shared.budget.cancelled = true) : next.shared.budget.cancelled = true := by
  cases step with
  | take first spare => exact raised
  | @advance shared before after engine files phase busy =>
      rcases @Phase.next_budget_cases plan engine files phase shared with
        same | counted | ⟨failures, tripped⟩
      · rw [same]
        exact raised
      · rw [counted]
        exact raised
      · rw [tripped]
        cases plan.config.errorBudget with
        | none => exact raised
        | some allowed =>
            rw [Budget.cancelled_trip]
            exact Bool.or_eq_true_iff.mpr (.inl raised)

/-- If the flag is down at the end it was down all the time, and no task was
disturbed. -/
theorem Undisturbed.reaches_of_calm {declared : List Support}
    {registrations : List Registration} {plan : RunPlan} {sets : FileSets} {start : Store}
    {first last : Pool} (built : Dispatcher.build declared registrations = .ok plan.dispatcher)
    (undisturbed : Undisturbed plan sets start first) (reached : Reaches plan first last)
    (calm : last.shared.budget.cancelled = false) : Undisturbed plan sets start last := by
  induction reached with
  | refl => exact undisturbed
  | @step pool next reached step induction =>
      have calmBefore : pool.shared.budget.cancelled = false := by
        apply Bool.eq_false_iff.mpr
        intro raised
        rw [step.cancelled raised] at calm
        cases calm
      exact (induction calmBefore).step_of_calm built step calm

end Pool

/-- Whether a task failed for the store. -/
def TaskStatus.isStoreFault : TaskStatus → Bool
  | .failed (.storage _) => true
  | _ => false

theorem writeReading_status_of_sound {context : Context} {sink : Sink} {obstacles : Obstacles}
    {engine : Engine} {reading : FilesReading} {store : Store} (sound : reading.error = none) :
    let status := (writeReading context sink obstacles engine reading store).report.status
    status = .succeeded ∨ status.isStoreFault = true := by
  simp only [writeReading, sound]
  split
  · exact .inl (fullReport_status _ _ _)
  · cases (sink.openAndWrite obstacles _ store).result with
    | ok counts => exact .inl (fullReport_afterWrite_ok _ _ _ counts).1
    | error error => exact .inr rfl

namespace RunPlan

variable {declared : List Support} {registrations : List Registration} {plan : RunPlan}
  {engine : Engine} {files : List SliceFile} {store : Store}

/-- Whether the engine is supported and its files can be read to the end. -/
def isSound (plan : RunPlan) (engine : Engine) (files : List SliceFile) : Bool :=
  match plan.dispatcher.decoderFor plan.context.chip engine with
  | .error _ => false
  | .ok decoder => (readFiles plan.read decoder plan.context.clock files).error.isNone

/-- The records of the files of an engine that is supported. -/
def records (plan : RunPlan) (engine : Engine) (files : List SliceFile) : List TimedRecord :=
  match plan.dispatcher.decoderFor plan.context.chip engine with
  | .error _ => []
  | .ok decoder => files.flatMap (fileRecords plan.read decoder plan.context.clock)

/-- Without a fault of the store a task with sound files stores their records, and any
other leaves the store as it was. -/
theorem alone_of_undamaged
    (built : Dispatcher.build declared registrations = .ok plan.dispatcher)
    (undamaged : (plan.alone engine files store).report.status.isStoreFault = false) :
    let outcome := plan.alone engine files store
    plan.isSound engine files = true ∧ outcome.report.status = .succeeded ∧
        Stored plan.context.clock engine (plan.records engine files) store outcome.store ∨
      plan.isSound engine files = false ∧ outcome.report.status ≠ .succeeded ∧
        outcome.store = store := by
  intro outcome
  cases supported : plan.dispatcher.decoderFor plan.context.chip engine with
  | error pair =>
      refine .inr ?_
      simp [outcome, isSound, alone, runTask, supported]
  | ok decoder =>
      have ran : outcome = writeReading plan.context plan.sink (plan.obstacles engine) engine
          (readFiles plan.read decoder plan.context.clock files) store :=
        runTask_of_supported supported
      cases sound : (readFiles plan.read decoder plan.context.clock files).error with
      | some error =>
          refine .inr ⟨by simp [isSound, supported, sound], ?_⟩
          rw [ran, writeReading_of_error sound]
          constructor
          · simp
          · rfl
      | none =>
          have succeeded : outcome.report.status = .succeeded := by
            rw [ran]
            apply (writeReading_status_of_sound sound).resolve_right
            rw [← ran]
            exact Bool.eq_false_iff.mp undamaged
          refine .inl ⟨by simp [isSound, supported, sound], succeeded, ?_⟩
          obtain ⟨found, foundHere, stored, -⟩ := runTask_of_succeeded built succeeded
          rw [supported] at foundHere
          cases foundHere
          rw [records, supported]
          exact stored

end RunPlan

theorem mem_inOrder {sets : FileSets} {engine : Engine} {files : List SliceFile} :
    (engine, files) ∈ sets.inOrder ↔
      (sets.find? fun set => set.1 == engine) = some (engine, files) := by
  simp only [FileSets.inOrder, List.mem_filterMap]
  constructor
  · rintro ⟨other, -, found⟩
    have test := List.find?_some found
    obtain rfl : engine = other := beq_iff_eq.mp test
    exact found
  · intro found
    refine ⟨engine, ?_, found⟩
    cases engine <;> decide

/-- A run on a store that met no fault of the store and was not cancelled, whatever its
workers did in which order. -/
structure CleanRun where
  plan : RunPlan
  sets : FileSets
  faults : Faults := .none
  before : Store
  summary : Summary
  after : Store
  declared : List Support := Dispatcher.builtinSupport
  registrations : List Registration := Dispatcher.builtinRegistrations
  built : Dispatcher.build declared registrations = .ok plan.dispatcher
  ran : plan.RunsTo sets false faults before (.ok summary) after
  calm : summary.cancelled = false
  undamaged : ∀ report ∈ summary.reports, report.status.isStoreFault = false

namespace CleanRun

/-- The tasks of a run one after the other, if that is a clean run. -/
def ofRunOn (plan : RunPlan) (sets : FileSets) (before : Store) (summary : Summary)
    (built : Dispatcher.builtin = .ok plan.dispatcher)
    (ended : (plan.runOn sets false .none before).result = .ok summary)
    (calm : summary.cancelled = false)
    (undamaged : ∀ report ∈ summary.reports, report.status.isStoreFault = false) : CleanRun where
  plan
  sets
  before
  summary
  after := (plan.runOn sets false .none before).store
  built
  ran := ended ▸ runOn_is_schedule plan sets false .none before
  calm
  undamaged

/-- Whether the run had a task of the engine that succeeded. -/
def succeeded (run : CleanRun) (engine : Engine) : Bool :=
  run.summary.reports.any fun report => report.engine = engine ∧ report.status = .succeeded

/-- The files that the run was given for an engine. -/
def files (run : CleanRun) (engine : Engine) : List SliceFile :=
  ((run.sets.find? fun set => set.1 == engine).map Prod.snd).getD []

/-- The rows of the task of an engine, if it succeeded. -/
def rows (run : CleanRun) (engine : Engine) : List Row :=
  if run.succeeded engine then
    (run.plan.records engine (run.files engine)).map TimedRecord.row
  else []

/-- The spans of a run whose scheduler task succeeded. -/
def spanRows? (run : CleanRun) : Option (List Row) :=
  if run.succeeded .starsLog then
    let records := run.plan.records .starsLog (run.files .starsLog)
    some ((pairRecords run.plan.context.clock records).records.map TimedRecord.row)
  else none

/-- Once the metadata is written, every task comes to what it would on this store alone,
and what belongs to no task stays. -/
structure StartsOn (run : CleanRun) (start : Store) : Prop where
  tables : start.tables = run.before.tables
  recorded : start.metadata =
    some (.row (some (Sink.metadata run.plan.context.chip run.plan.context.clock)))
  metadata : run.after.metadata = start.metadata
  reports : run.summary.reports =
    run.sets.inOrder.map fun set => (run.plan.alone set.1 set.2 start).report
  rows : ∀ set ∈ run.sets.inOrder,
    Store.AgreeOn set.1.tables run.after (run.plan.alone set.1 set.2 start).store
  others : ∀ table, (∀ set ∈ run.sets.inOrder, table ∉ set.1.tables) →
    run.after.tables.get table = start.tables.get table

theorem exists_startsOn (run : CleanRun) : ∃ start, run.StartsOn start := by
  obtain ⟨plan, sets, faults, before, summary, after, declared, registrations, built, ran, calm,
    undamaged⟩ := run
  cases ran with
  | rested recorded reached rest =>
      have undisturbed := (Pool.undisturbed_start _).reaches_of_calm built reached calm
      refine ⟨_, ?_, ?_, undisturbed.metadata, undisturbed.reports_of_rest rest, ?_,
        undisturbed.others⟩
      · rw [Sink.recordRun_ok recorded]
      · rw [Sink.recordRun_ok recorded]
      · intro set given
        exact undisturbed.rows_of_rest rest given

section Tasks

variable {run : CleanRun} {start : Store} {engine : Engine} {files : List SliceFile}

theorem StartsOn.get (starts : run.StartsOn start) (table : Table) :
    start.tables.get table = run.before.tables.get table := by
  rw [starts.tables]

theorem StartsOn.undamaged (starts : run.StartsOn start)
    (given : (engine, files) ∈ run.sets.inOrder) :
    (run.plan.alone engine files start).report.status.isStoreFault = false := by
  apply run.undamaged
  rw [starts.reports]
  exact List.mem_map.mpr ⟨_, given, rfl⟩

theorem StartsOn.succeeded_of_given (starts : run.StartsOn start)
    (given : (engine, files) ∈ run.sets.inOrder) :
    run.succeeded engine =
      decide ((run.plan.alone engine files start).report.status = .succeeded) := by
  have own := run.plan.filter_alone given start
  rw [← starts.reports] at own
  calc run.succeeded engine
      = (run.summary.reports.filter fun report => report.engine = engine).any
          fun report => report.status = .succeeded := by
        simp [succeeded, List.any_filter]
    _ = decide ((run.plan.alone engine files start).report.status = .succeeded) := by
        simp [own]

theorem StartsOn.succeeded_of_absent (starts : run.StartsOn start)
    (absent : ∀ set ∈ run.sets.inOrder, set.1 ≠ engine) : run.succeeded engine = false := by
  apply Bool.eq_false_iff.mpr
  intro some
  obtain ⟨report, member, matching⟩ := List.any_eq_true.mp some
  rw [starts.reports] at member
  obtain ⟨set, given, rfl⟩ := List.mem_map.mp member
  have same := (of_decide_eq_true matching).1
  rw [RunPlan.alone_engine] at same
  exact absent set given same

end Tasks

/-- What became of the task of an engine is decided by its files: if they are sound, its
records are stored, and otherwise its tables are as they were. -/
theorem outcome (run : CleanRun) (engine : Engine) :
    let sound := (run.sets.find? fun set => set.1 == engine).any fun set =>
      run.plan.isSound engine set.2
    run.succeeded engine = sound ∧
      (sound = true → Stored run.plan.context.clock engine
        (run.plan.records engine (run.files engine)) run.before run.after) ∧
      (sound = false → Store.AgreeOn engine.tables run.after run.before) := by
  obtain ⟨start, starts⟩ := run.exists_startsOn
  cases found : run.sets.find? fun set => set.1 == engine with
  | none =>
      have absent : ∀ set ∈ run.sets.inOrder, set.1 ≠ engine := by
        rintro ⟨other, files⟩ given rfl
        rw [mem_inOrder.mp given] at found
        cases found
      refine ⟨starts.succeeded_of_absent absent, ?_, ?_⟩
      · intro sound
        cases sound
      · intro _ table own
        rw [← starts.get table]
        apply starts.others
        intro set given
        exact Engine.tables_disjoint (absent set given).symm own
  | some set =>
      obtain ⟨other, files⟩ := set
      have test := List.find?_some found
      obtain rfl : other = engine := beq_iff_eq.mp test
      have given : (other, files) ∈ run.sets.inOrder := mem_inOrder.mpr found
      have agree := starts.rows _ given
      rcases RunPlan.alone_of_undamaged run.built (starts.undamaged given) with
        ⟨sound, status, stored⟩ | ⟨unsound, status, unchanged⟩
      · refine ⟨?_, ?_, ?_⟩
        · simp [starts.succeeded_of_given given, status, sound]
        · intro _
          rw [show run.files other = files by simp [CleanRun.files, found]]
          exact stored.of_agree (fun table _ => (starts.get table).symm) agree
        · simp [sound]
      · refine ⟨?_, ?_, ?_⟩
        · simp [starts.succeeded_of_given given, status, unsound]
        · simp [unsound]
        · intro _ table inside
          rw [agree table inside, unchanged, starts.get table]

theorem rows_after (run : CleanRun) (engine : Engine) :
    run.after.rows engine.table = run.before.rows engine.table ++ run.rows engine := by
  obtain ⟨same, stored, unchanged⟩ := run.outcome engine
  rw [rows, same]
  split
  case isTrue sound => exact (stored sound).rows
  case isFalse unsound =>
    have agree := unchanged (Bool.eq_false_iff.mpr unsound)
    rw [List.append_nil, Store.rows_eq_of_get_eq (agree _ engine.table_mem_tables)]

theorem spans_after (run : CleanRun) :
    run.after.rows .taskTime = run.spanRows?.getD (run.before.rows .taskTime) := by
  obtain ⟨same, stored, unchanged⟩ := run.outcome .starsLog
  rw [spanRows?, same]
  split
  case isTrue sound => rw [Store.rows, (stored sound).spans rfl, Option.getD_some]
  case isFalse unsound =>
    have agree := unchanged (Bool.eq_false_iff.mpr unsound)
    rw [Option.getD_none, Store.rows_eq_of_get_eq (agree _ (by decide))]

theorem succeeded_congr {first second : CleanRun} (plans : first.plan = second.plan)
    (sets : first.sets = second.sets) (engine : Engine) :
    first.succeeded engine = second.succeeded engine := by
  rw [(first.outcome engine).1, (second.outcome engine).1, plans, sets]

theorem rows_congr {first second : CleanRun} (plans : first.plan = second.plan)
    (sets : first.sets = second.sets) (engine : Engine) :
    first.rows engine = second.rows engine := by
  rw [rows, rows, succeeded_congr plans sets, files, files, plans, sets]

theorem spanRows?_congr {first second : CleanRun} (plans : first.plan = second.plan)
    (sets : first.sets = second.sets) : first.spanRows? = second.spanRows? := by
  rw [spanRows?, spanRows?, succeeded_congr plans sets, files, files, plans, sets]

/-- What the metadata table holds for a run. -/
def metadataRow (run : CleanRun) : Row :=
  let clock := run.plan.context.clock
  [.integer 1, .integer schemaVersion, .text run.plan.context.chip.name,
    .integer clock.reference.cycle.toInt64, .integer clock.reference.wallNs,
    .real clock.reference.frequency.toBits,
    .ofOption .integer (clock.window.map Window.startNs),
    .ofOption .integer (clock.window.map Window.endNs)]

end CleanRun

/-- The rows of the metadata table. -/
def Store.metadataRows (store : Store) : List Row :=
  match store.metadata with
  | some (.row (some metadata)) => [metadata.row]
  | _ => []

theorem CleanRun.metadata_after (run : CleanRun) :
    run.after.metadataRows = [run.metadataRow] := by
  obtain ⟨start, starts⟩ := run.exists_startsOn
  rw [Store.metadataRows, starts.metadata, starts.recorded]
  rfl

/-- Runs one after the other, each on the store that the one before it left. -/
inductive History (start : Store) : List CleanRun → Store → Prop where
  | nothing : History start [] start
  | next {runs : List CleanRun} (run : CleanRun) (earlier : History start runs run.before) :
      History start (runs ++ [run]) run.after

namespace History

variable {start final : Store} {runs : List CleanRun}

theorem rows (history : History start runs final) (engine : Engine) :
    final.rows engine.table =
      start.rows engine.table ++ runs.flatMap fun run => run.rows engine := by
  induction history with
  | nothing => simp
  | next run earlier induction =>
      rw [run.rows_after, induction, List.flatMap_append, List.append_assoc]
      simp

theorem spans (history : History start runs final) :
    final.rows .taskTime =
      (runs.reverse.findSome? CleanRun.spanRows?).getD (start.rows .taskTime) := by
  induction history with
  | nothing => rfl
  | next run earlier induction =>
      rw [run.spans_after, induction, List.reverse_append]
      cases spans : run.spanRows? with
      | none => simp [spans]
      | some rows => simp [spans]

theorem metadata (history : History start runs final) {last : CleanRun}
    (final? : runs.getLast? = some last) : final.metadataRows = [last.metadataRow] := by
  cases history with
  | nothing => cases final?
  | next run earlier =>
      rw [List.getLast?_concat] at final?
      cases final?
      exact last.metadata_after

theorem eq_start (history : History start runs final) (none : runs = []) : final = start := by
  cases history with
  | nothing => rfl
  | next run earlier => simp at none

theorem before_head (history : History start runs final) {first : CleanRun}
    (head : runs.head? = some first) : first.before = start := by
  induction history with
  | nothing => cases head
  | @next runs run earlier induction =>
      cases runs with
      | nil =>
          cases head
          exact earlier.eq_start rfl
      | cons other rest => exact induction head

section Repeated

variable {first : CleanRun} (head : runs.head? = some first)
  (same : ∀ run ∈ runs, run.plan = first.plan ∧ run.sets = first.sets)
include same

theorem flatMap_rows_of_same (engine : Engine) :
    (runs.flatMap fun run => run.rows engine) =
      (List.replicate runs.length (first.rows engine)).flatten := by
  rw [List.flatMap_def]
  congr 1
  apply List.eq_replicate_iff.mpr
  constructor
  · rw [List.length_map]
  · intro rows member
    obtain ⟨run, among, rfl⟩ := List.mem_map.mp member
    exact CleanRun.rows_congr (same run among).1 (same run among).2 engine

include head in
theorem findSome?_spanRows?_of_same :
    runs.reverse.findSome? CleanRun.spanRows? = first.spanRows? := by
  have spans : ∀ run ∈ runs, run.spanRows? = first.spanRows? := fun run member =>
    CleanRun.spanRows?_congr (same run member).1 (same run member).2
  cases reversed : runs.reverse with
  | nil =>
      rw [List.reverse_eq_nil_iff.mp reversed] at head
      cases head
  | cons last earlier =>
      have among : ∀ run ∈ last :: earlier, run ∈ runs := by
        intro run member
        rw [← reversed] at member
        exact List.mem_reverse.mp member
      rw [List.findSome?_cons, spans last (among last List.mem_cons_self)]
      cases made : first.spanRows? with
      | some rows => rfl
      | none =>
          apply List.findSome?_eq_none_iff.mpr
          intro run member
          rw [spans run (among run (List.mem_cons_of_mem _ member)), made]

end Repeated

end History

/-- What a store holds after any number of clean runs.  Each table of records has what
it had at the start and then the rows of every run's task that succeeded, in the order
of the runs; the spans are those of the last run with a scheduler task that succeeded,
if there was any; and the metadata is one row, that of the last run.  So runs that are
all the same leave the spans that the first of them left and as many copies of its
rows as there were runs. -/
theorem store_after_history {start final : Store} {runs : List CleanRun}
    (history : History start runs final) :
    (∀ engine : Engine, final.rows engine.table =
        start.rows engine.table ++ runs.flatMap fun run => run.rows engine) ∧
      final.rows .taskTime =
        (runs.reverse.findSome? CleanRun.spanRows?).getD (start.rows .taskTime) ∧
      (∀ last ∈ runs.getLast?, final.metadataRows = [last.metadataRow]) ∧
      ∀ first ∈ runs.head?,
        (∀ run ∈ runs, run.plan = first.plan ∧ run.sets = first.sets) →
          final.rows .taskTime = first.after.rows .taskTime ∧
            ∀ engine : Engine,
              first.after.rows engine.table = start.rows engine.table ++ first.rows engine ∧
              final.rows engine.table = start.rows engine.table ++
                (List.replicate runs.length (first.rows engine)).flatten := by
  refine ⟨history.rows, history.spans, fun last => history.metadata, ?_⟩
  intro first head same
  have before := history.before_head head
  refine ⟨?_, fun engine => ⟨?_, ?_⟩⟩
  · rw [history.spans, History.findSome?_spanRows?_of_same head same, first.spans_after, before]
  · rw [first.rows_after, before]
  · rw [history.rows, History.flatMap_rows_of_same same]

/-- A run with a start and an end leaves one span.  After a second run, with the start
alone, all three records are there and the span is gone. -/
theorem store_after_history_two_runs :
    ∃ (first second : CleanRun) (final : Store), History {} [first, second] final ∧
      (first.after.rows .taskTime).length = 1 ∧ (final.rows .starsLog).length = 3 ∧
      final.rows .taskTime = [] ∧ final.metadataRows = [second.metadataRow] := by
  let plan : List UInt8 → RunPlan := fun bytes =>
    { dispatcher := ⟨Dispatcher.builtinRegistrations⟩
      context := ⟨"run", .gen4, ⟨⟨0, 0, 1.0⟩, 1000000, none, by decide⟩,
        "run/sqlite/device_trace.db"⟩
      config := {}
      read := fun _ => .ok bytes }
  let sets : FileSets := [(.starsLog, [⟨"stars_soc.data.0.slice_0", 0, 0⟩])]
  let start : List UInt8 := List.replicate 32 0
  let stop : List UInt8 := 1 :: List.replicate 31 0
  let first := CleanRun.ofRunOn (plan (start ++ stop)) sets {}
    ⟨[⟨.starsLog, .succeeded, ⟨1, 2, 0, 0⟩, 0, [(.starsLog, 2), (.taskTime, 1)]⟩], false⟩
    rfl (by decide +kernel) rfl (by decide)
  let second := CleanRun.ofRunOn (plan start) sets first.after
    ⟨[⟨.starsLog, .succeeded, ⟨1, 1, 0, 0⟩, 1, [(.starsLog, 1), (.taskTime, 0)]⟩], false⟩
    rfl (by decide +kernel) rfl (by decide)
  have history : History {} [first, second] second.after := .next second (.next first .nothing)
  obtain ⟨rows, spans, metadata, -⟩ := store_after_history history
  refine ⟨first, second, second.after, history, by decide +kernel, ?_, ?_, metadata second rfl⟩
  · rw [show second.after.rows .starsLog = _ from rows .starsLog]
    decide +kernel
  · rw [spans]
    decide +kernel

end AcceleratorTrace
