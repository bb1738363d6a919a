import AcceleratorTrace.Run.Budget
import AcceleratorTrace.Run.Task

/-!
# Runs

A run records its metadata and then starts one task per engine, in engine
order.  It fails as a whole only if the store cannot be opened or the metadata
cannot be written; what goes wrong in a task stays in the report of that task.
-/

namespace AcceleratorTrace

/-- Where a run stands between two tasks. -/
structure Progress where
  store : Store
  budget : Budget := {}
  /-- Reports of the tasks so far, in order. -/
  reports : List Report := []
  log : List LogLine := []

/-- All that the tasks of a run have in common. -/
structure RunPlan where
  dispatcher : Dispatcher
  context : Context
  config : Config
  read : FilePath → Except FileFault (List UInt8)
  /-- What gets in the way of each task. -/
  obstacles : Engine → Obstacles := fun _ => {}

namespace RunPlan

def sink (plan : RunPlan) : Sink := ⟨plan.context.storePath, plan.config.retries⟩

/-- Runs the next task and counts it if it fails. -/
def step (plan : RunPlan) (progress : Progress) (files : Engine × List SliceFile) : Progress :=
  let outcome := runTask plan.dispatcher plan.context plan.sink plan.read
    (plan.obstacles files.1) progress.budget.cancelled files.1 files.2 progress.store
  let (budget, lines) :=
    if outcome.report.status.isFailed then progress.budget.charge plan.config.errorBudget
    else (progress.budget, [])
  { store := outcome.store
    budget
    reports := progress.reports ++ [outcome.report]
    log := progress.log ++ outcome.log ++ lines ++ [outcome.report.logLine] }

/-- Runs the tasks of all file sets, one after the other in engine order. -/
def runTasks (plan : RunPlan) (sets : FileSets) (cancelled : Bool) (store : Store) : Progress :=
  sets.inOrder.foldl plan.step { store, budget := { cancelled } }

/-- Runs on an open store: the metadata first, then the tasks. -/
def runOn (plan : RunPlan) (sets : FileSets) (cancelled : Bool) (faults : Faults)
    (store : Store) : WriteOutcome Summary :=
  let recorded := plan.sink.recordRun faults plan.context.chip plan.context.clock store
  match recorded.result with
  | .error error => ⟨.error error, recorded.store, recorded.log⟩
  | .ok () =>
      let progress := plan.runTasks sets cancelled recorded.store
      ⟨.ok ⟨progress.reports, progress.budget.cancelled⟩, progress.store,
        recorded.log ++ progress.log⟩

end RunPlan

/-- A run that someone asks for. -/
structure RunRequest where
  directory : String
  /-- A chip to use in place of the recorded one. -/
  chip : Option Chip := none
  /-- The files to read; those found in the directory if none are given. -/
  files : Option FileSets := none
  /-- Whether the run is cancelled before any task starts. -/
  cancelled : Bool := false

/-- Why a run fails as a whole. -/
inductive RunError where
  | load (error : LoadError)
  | clock (bad : BadFrequency)
  | dispatch (defect : DispatchDefect)
  | listing (directory : String)
  | storage (error : StoreError)

/-- A run whose setting is in order. -/
structure RunSetup where
  context : Context
  dispatcher : Dispatcher
  sets : FileSets
  log : List LogLine

/-- The outcome of a run, the files it leaves and its log. -/
structure RunOutcome (ε : Type) where
  result : Except ε Summary
  tree : FileTree
  log : List LogLine

/-- Sets up a run: the clock, the decoder tables, then the files. -/
def FileTree.setUp (tree : FileTree) (config : Config) (request : RunRequest)
    (recorded : Descriptor) : Except RunError RunSetup :=
  let descriptor := { recorded with chip := request.chip.getD recorded.chip }
  match Context.create request.directory descriptor config with
  | .error bad => .error (.clock bad)
  | .ok context =>
      match Dispatcher.builtin with
      | .error defect => .error (.dispatch defect)
      | .ok dispatcher =>
          match request.files with
          | some sets => .ok ⟨context, dispatcher, sets, []⟩
          | none =>
              match tree.sliceFiles request.directory with
              | .error _ => .error (.listing request.directory)
              | .ok (sets, log) => .ok ⟨context, dispatcher, sets, log⟩

/-- Opens the store at a path and closes it again. -/
def FileTree.visitStore (tree : FileTree) (path : String) (waitMs : Nat) : FileTree :=
  match tree.openStore path waitMs with
  | (.error _, tree) => tree
  | (.ok connection, tree) => tree.closeStore connection

/-- Runs on the files of a tree: opens the store, runs on it, and closes it.  What
is in the way of the metadata is in the way of every task; a task finds the store
as the metadata left it and opens it for itself. -/
def FileTree.run (tree : FileTree) (config : Config) (setup : RunSetup) (cancelled : Bool) :
    RunOutcome StoreError :=
  let path := setup.context.storePath
  match tree.openStore path config.waitMs with
  | (.error error, tree) => ⟨.error error, tree, []⟩
  | (.ok connection, tree) =>
      let (outcome, connection, tree) := tree.writeStore connection fun faults =>
        let plan : RunPlan :=
          { dispatcher := setup.dispatcher, context := setup.context, config
            read := (tree.closeStore connection).read
            obstacles := fun _ => { writing := fun _ => faults } }
        plan.runOn setup.sets cancelled faults
      let tree := tree.closeStore connection
      match outcome.result with
      | .error error => ⟨.error error, tree, outcome.log⟩
      | .ok summary => ⟨.ok summary, tree.visitStore path config.waitMs, outcome.log⟩

/-- Loads the descriptor of a run directory, sets the run up and runs it. -/
def FileTree.ingest (tree : FileTree) (config : Config) (request : RunRequest) :
    RunOutcome RunError :=
  match Descriptor.load tree.read request.directory with
  | .error error => ⟨.error (.load error), tree, []⟩
  | .ok recorded =>
      match tree.setUp config request recorded with
      | .error error => ⟨.error error, tree, []⟩
      | .ok setup =>
          let outcome := tree.run config setup request.cancelled
          ⟨outcome.result.mapError .storage, outcome.tree, setup.log ++ outcome.log⟩

end AcceleratorTrace
