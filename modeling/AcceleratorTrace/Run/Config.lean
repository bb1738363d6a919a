import AcceleratorTrace.Descriptor
import AcceleratorTrace.FileTree.Stores

/-!
# The setting of a run

What the user chooses, what the run directory says, and what both give: the
context that every task of a run works in.
-/

namespace AcceleratorTrace

/-- What the user chooses. -/
structure Config where
  /-- Number of engine tasks that may run at the same time. -/
  workers : Nat := 4
  /-- The run is cancelled once more tasks than this have failed. -/
  errorBudget : Option Nat := none
  /-- Name of the store inside its directory. -/
  storeName : String := "device_trace.db"
  /-- Further attempts after a commit that failed. -/
  retries : UInt32 := 3
  /-- How long to wait for a lock of the store, in milliseconds. -/
  waitMs : Nat := 5000
  deriving DecidableEq, Repr

namespace Config

/-- A pool has at least one worker. -/
def poolSize (config : Config) : Nat := max config.workers 1

/-- The path of the store of a run directory. -/
def storePath (config : Config) (runDirectory : String) : String :=
  Path.join (Path.join runDirectory "sqlite") config.storeName

end Config

/-- The name of the descriptor in a run directory. -/
def descriptorName : String := "run_info.json"

/-- Why no descriptor could be loaded. -/
inductive LoadError where
  | unreadable (path : String)
  | unparsable (path : String) (fault : DescriptorFault)

def LoadError.message : LoadError → String
  | .unreadable path => s!"Failed to read {path}"
  | .unparsable path _ => s!"Failed to parse {path}"

/-- Loads the descriptor of a run directory, which has to be UTF-8 text. -/
def Descriptor.load (read : FilePath → Except FileFault (List UInt8)) (runDirectory : String) :
    Except LoadError Descriptor :=
  let path := Path.join runDirectory descriptorName
  match read path with
  | .error _ => .error (.unreadable path)
  | .ok bytes =>
      match textOfBytes? bytes with
      | none => .error (.unreadable path)
      | some text =>
          match Descriptor.parse text with
          | .error fault => .error (.unparsable path fault)
          | .ok descriptor => .ok descriptor

/-- All that a task needs to know about its run. -/
structure Context where
  runDirectory : String
  chip : Chip
  clock : Clock
  storePath : String

/-- The context of a run, unless the clock reference is unusable. -/
def Context.create (runDirectory : String) (descriptor : Descriptor) (config : Config) :
    Except BadFrequency Context :=
  match descriptor.clock with
  | .error bad => .error bad
  | .ok clock => .ok ⟨runDirectory, descriptor.chip, clock, config.storePath runDirectory⟩

/-- The slice files of a run directory. -/
def FileTree.sliceFiles (tree : FileTree) (directory : String) :
    Except FileFault (FileSets × List LogLine) :=
  match tree.list directory with
  | .error fault => .error fault
  | .ok entries => .ok (groupSlices directory entries, skippedLog entries)

/-- The message for a directory that cannot be listed. -/
def listingFailure (directory : String) : String := s!"Failed to read trace directory {directory}"

end AcceleratorTrace
