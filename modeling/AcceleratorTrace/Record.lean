import AcceleratorTrace.Record.AiCpu
import AcceleratorTrace.Record.BlockLog
import AcceleratorTrace.Record.Hccl
import AcceleratorTrace.Record.NpuMem
import AcceleratorTrace.Record.Qos
import AcceleratorTrace.Record.StarsLog
import AcceleratorTrace.Record.TaskSpan
import AcceleratorTrace.Table

/-!
# Records

The union of all record kinds, each with the table it is stored in and the
cycle counts that wall-clock times are derived from.
-/

namespace AcceleratorTrace

/-- One decoded event or sample, or one derived task span. -/
inductive Record where
  | blockLog (record : BlockLog)
  | starsLog (record : StarsLog)
  | aiCpu (record : AiCpu)
  | qos (record : Qos)
  | hccl (record : Hccl)
  | npuMem (record : NpuMem)
  | taskTime (span : TaskSpan)
  deriving DecidableEq, Repr

namespace Record

/-- The table that stores the record. -/
def table : Record → Table
  | .blockLog _ => .blockLog
  | .starsLog _ => .starsLog
  | .aiCpu _ => .aiCpu
  | .qos _ => .qos
  | .hccl _ => .hccl
  | .npuMem _ => .npuMem
  | .taskTime _ => .taskTime

/-- The cycle count at which the record starts. -/
def startCycle : Record → UInt64
  | .blockLog record => record.startCycle
  | .starsLog record => record.sysCycle
  | .aiCpu record => record.startCycle
  | .qos record => record.sysCycle
  | .hccl record => record.startCycle
  | .npuMem record => record.sysCycle
  | .taskTime span => span.startCycle

/-- The cycle count at which the record ends, if it spans time. -/
def endCycle? : Record → Option UInt64
  | .blockLog record => some record.endCycle
  | .aiCpu record => some record.endCycle
  | .hccl record => some record.endCycle
  | .taskTime span => some span.endCycle
  | .starsLog _ | .qos _ | .npuMem _ => none

end Record

/-- A record with the device it came from and its times in nanoseconds. -/
structure TimedRecord where
  device : UInt32
  record : Record
  startNs : Option Int64
  endNs : Option Int64
  deriving DecidableEq, Repr

end AcceleratorTrace
