/-!
# Trace engines

Each engine of the accelerator writes its own family of slice files.  The stem
is how its file names begin, and how messages call it.
-/

namespace AcceleratorTrace

/-- The engine or category a trace file was produced by. -/
inductive Engine where
  | taskTrack
  | starsLog
  | aiCpu
  | qos
  | hccl
  | npuMem
  deriving DecidableEq, Repr

namespace Engine

/-- Every engine, in the order in which tasks are started and reported. -/
def all : List Engine := [.taskTrack, .starsLog, .aiCpu, .qos, .hccl, .npuMem]

/-- How the file names of this engine begin. -/
def stem : Engine → String
  | .taskTrack => "ts_track"
  | .starsLog => "stars_soc"
  | .aiCpu => "aicpu"
  | .qos => "qos"
  | .hccl => "hccl"
  | .npuMem => "npu_mem"

/-- The name of this engine in configuration text. -/
def name : Engine → String
  | .taskTrack => "task_track"
  | .starsLog => "stars_log"
  | .aiCpu => "ai_cpu"
  | .qos => "qos"
  | .hccl => "hccl"
  | .npuMem => "npu_mem"

def ofStem? (text : String) : Option Engine :=
  all.find? fun engine => engine.stem == text

def ofName? (text : String) : Option Engine :=
  all.find? fun engine => engine.name == text

end Engine

end AcceleratorTrace
