import AcceleratorTrace.CommandLine.Arguments
import AcceleratorTrace.Run

/-!
# The command line program

From arguments and files to what the program prints, its exit code and the
files it leaves.
-/

namespace AcceleratorTrace

/-- What the program writes to its error stream. -/
inductive Notice where
  /-- A log line of the program itself. -/
  | logged (line : LogLine)
  /-- A log line of what the program calls. -/
  | traced (line : LogLine)
  /-- Why the arguments cannot be understood. -/
  | misused (error : UsageError)
  /-- Why the program failed. -/
  | failed (message : String)

namespace Notice

/-- The lines that arrive of a log line.  The stream keeps no control sequences,
and lines after the first are indented. -/
def arriving (line : LogLine) : List String :=
  streamLines (withoutControls (line.text.replace "\n" "\n    "))

/-- The log line that arrives of a log line of the program; only the first line
of its text is marked as one. -/
def logLine? : Notice → Option LogLine
  | .logged line => some { line with text := (arriving line).headD "" }
  | _ => none

/-- The lines that arrive without the mark of a log line. -/
def otherLines : Notice → List String
  | .logged line | .traced line => (arriving line).tail
  | .misused error => streamLines (withoutControls error.text)
  | .failed message => streamLines ("Error: " ++ message)

end Notice

/-- What a call of the program comes to. -/
structure ProgramOutcome where
  exitCode : Nat
  output : String := ""
  notices : List Notice := []
  tree : FileTree

namespace ProgramOutcome

/-- The log lines of the program itself. -/
def log (outcome : ProgramOutcome) : List LogLine := outcome.notices.filterMap Notice.logLine?

/-- The first line on the error stream that is no log line. -/
def errorLine? (outcome : ProgramOutcome) : Option String :=
  (outcome.notices.flatMap Notice.otherLines).head?

end ProgramOutcome

namespace CommandLine

def versionText : String := "devtrace 0.1.0\n"

def helpText : String :=
  "\n".intercalate
    ["Decode device trace files of a run into SQLite",
      "",
      "Usage: devtrace [OPTIONS] <RUN_DIR>",
      "",
      "Arguments:",
      "  <RUN_DIR>  Run directory holding the trace slices and run_info.json",
      "",
      "Options:",
      "  -w, --workers <WORKERS>            Number of engine tasks decoded in parallel [default: 4]",
      "      --chip <CHIP>                  Override the chip generation recorded in run_info.json (gen1..gen4)",
      "      --error-budget <ERROR_BUDGET>  Stop starting new tasks once more than this many have failed",
      "  -v, --verbose                      Enable debug logging",
      "  -h, --help                         Print help",
      "  -V, --version                      Print version",
      ""]

/-- Pads a text on the right to a width. -/
def padRight (width : Nat) (text : String) : String :=
  text ++ String.ofList (List.replicate (width - text.length) ' ')

/-- The line of the closing overview for one task. -/
def reportLine (report : Report) : LogLine :=
  let name := padRight 10 report.engine.stem
  let totals := report.totals
  match report.status with
  | .succeeded =>
      let read := s!"files={totals.files} records={totals.records}"
      let odd := s!"fragment_bytes={totals.fragmentBytes} warnings={totals.warnings}"
      .info s!"{name} ok       {read} {odd} rows={report.rowCount}"
  | .skipped reason => .info s!"{name} skipped  {reason.message}"
  | .failed error => .error s!"{name} failed   {error.message}"

/-- The closing overview of a run. -/
def summaryLines (summary : Summary) : List LogLine :=
  let cancelled :=
    if summary.cancelled then [.warn "run was cancelled before all tasks started"] else []
  summary.reports.map reportLine ++ cancelled ++
    [.info s!"{summary.rowCount} rows written, {summary.failed.length} tasks failed"]

/-- The line for a chip other than the recorded one. -/
def overrideLines (recorded : Chip) (chosen? : Option Chip) : List LogLine :=
  match chosen? with
  | none => []
  | some chosen =>
      if chosen = recorded then []
      else [.warn s!"overriding chip {recorded.name} with {chosen.name}"]

/-- The lines before the tasks start. -/
def startLines (context : Context) (sets : FileSets) : List LogLine :=
  let empty :=
    if sets.isEmpty then [.warn s!"no trace files found in {context.runDirectory}"] else []
  empty ++
    [.info s!"ingesting {sets.length} engines for {context.chip.name} into {context.storePath}"]

def failure (tree : FileTree) (notices : List Notice) (message : String) : ProgramOutcome where
  exitCode := 1
  notices := notices ++ [.failed message]
  tree := tree

/-- What the error line says about a run that failed as a whole. -/
def runErrorText : RunError → String
  | .load error => error.message
  | .clock _ => "Invalid clock reference in run descriptor"
  | .dispatch _ => "Decoder tables are inconsistent"
  | .listing directory => listingFailure directory
  | .storage error => error.message

/-- Ingests the run that the user asks for.  The lines about files that are no
slices are shown only on demand. -/
def ingest (tree : FileTree) (request : Request) : ProgramOutcome :=
  let config : Config := { workers := request.workers, errorBudget := request.errorBudget }
  match Descriptor.load tree.read request.runDirectory with
  | .error error => failure tree [] (runErrorText (.load error))
  | .ok recorded =>
      let notices := (overrideLines recorded.chip request.chip).map .logged
      let runRequest : RunRequest := { directory := request.runDirectory, chip := request.chip }
      match tree.setUp config runRequest recorded with
      | .error error => failure tree notices (runErrorText error)
      | .ok setup =>
          let traced := if request.verbose then setup.log.map .traced else []
          let notices := notices ++ traced ++ (startLines setup.context setup.sets).map .logged
          let outcome := tree.run config setup false
          match outcome.result with
          | .error error => failure outcome.tree notices (runErrorText (.storage error))
          | .ok summary =>
              { exitCode := 0, notices := notices ++ (summaryLines summary).map .logged,
                tree := outcome.tree }

/-- Runs the program. -/
def execute (arguments : List String) (tree : FileTree) : ProgramOutcome :=
  match Request.parse arguments with
  | .ok request => ingest tree request
  | .error .help => { exitCode := 0, output := helpText, tree }
  | .error .version => { exitCode := 0, output := versionText, tree }
  | .error (.misuse error) => { exitCode := 2, notices := [.misused error], tree }

end CommandLine

end AcceleratorTrace
