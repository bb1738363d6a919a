import AcceleratorTrace.Proofs.TableSchema
import AcceleratorTrace.Proofs.TaskDuration

/-!
# Rows fit their tables

A row is a bare list of values, and only their places tie them to the columns of a table.
Here the value that belongs into a column is said by the column's name.  Every row has
exactly these values, one for each column, and a value is missing only where the
declaration of the column allows it.
-/

namespace AcceleratorTrace

def BlockLog.valueNamed (record : BlockLog) : String → Value
  | "stream_id" => .ofUInt16 record.streamId
  | "task_id" => .ofUInt16 record.taskId
  | "block_id" => .ofUInt16 record.blockId
  | "context_id" => .ofUInt16 record.contextId
  | "start_cycle" => .ofUInt64 record.startCycle
  | "duration_cycles" => .ofUInt32 record.durationCycles
  | "device_task_type" => .ofUInt8 record.deviceTaskType
  | "core_type" => .ofUInt8 record.coreType.code
  | "core_id" => .ofUInt8 record.coreId
  | _ => .null

def StarsLog.valueNamed (record : StarsLog) : String → Value
  | "func_type" => .ofUInt8 record.funcType.code
  | "core_id" => .ofUInt16 record.coreId
  | "stream_id" => .ofUInt16 record.streamId
  | "task_id" => .ofUInt16 record.taskId
  | "sqe_type" => .ofUInt8 record.sqeType
  | "sys_cycle" => .ofUInt64 record.sysCycle
  | "block_num" => .ofUInt32 record.blockNum
  | _ => .null

def AiCpu.valueNamed (record : AiCpu) : String → Value
  | "magic" => .ofUInt16 record.magic
  | "stream_id" => .ofUInt16 record.streamId
  | "task_id" => .ofUInt16 record.taskId
  | "thread_id" => .ofOption .ofUInt16 record.threadId
  | "kernel_type" => .ofOption .ofUInt8 (record.kernelType.map KernelType.code)
  | "cpu_id" => .ofOption .ofUInt16 record.cpuId
  | "start_cycle" => .ofUInt64 record.startCycle
  | "end_cycle" => .ofUInt64 record.endCycle
  | "dispatch_cycle" => .ofUInt64 record.dispatchCycle
  | "queue_cycle" => .ofOption .ofUInt64 record.queueCycle
  | "total_ops" => .ofOption .ofUInt32 record.totalOps
  | _ => .null

def Qos.valueNamed (record : Qos) : String → Value
  | "sys_cycle" => .ofUInt64 record.sysCycle
  | "mode" => .ofUInt8 record.mode
  | "qos_count" => .ofUInt8 record.count
  | "bandwidth_0" => .ofUInt32 record.bandwidth[0]
  | "bandwidth_1" => .ofUInt32 record.bandwidth[1]
  | "bandwidth_2" => .ofUInt32 record.bandwidth[2]
  | "bandwidth_3" => .ofUInt32 record.bandwidth[3]
  | "bandwidth_4" => .ofUInt32 record.bandwidth[4]
  | _ => .null

def HcclPayload.valueNamed : HcclPayload → String → Value
  | .op group _ _ _, "group_id" => .ofUInt64 group
  | .op _ count _ _, "count" => .ofUInt64 count
  | .op _ _ dataType _, "data_type" => .ofUInt8 dataType
  | .op _ _ _ opKind, "op_kind" => .ofUInt8 opKind
  | .task planeId _ _ _ _ _, "plane_id" => .ofUInt32 planeId
  | .task _ srcRank _ _ _ _, "src_rank" => .ofUInt32 srcRank
  | .task _ _ dstRank _ _ _, "dst_rank" => .ofUInt32 dstRank
  | .task _ _ _ transport _ _, "transport" => .ofUInt8 transport
  | .task _ _ _ _ linkType _, "link_type" => .ofUInt8 linkType
  | .task _ _ _ _ _ size, "size" => .ofUInt64 size
  | .raw payload, "payload" => .blob payload
  | _, _ => .null

def Hccl.valueNamed (record : Hccl) : String → Value
  | "magic" => .ofUInt16 record.magic
  | "item_type" => .ofUInt16 record.itemType
  | "level" => .ofUInt16 record.level
  | "start_cycle" => .ofUInt64 record.startCycle
  | "end_cycle" => .ofUInt64 record.endCycle
  | "item_id" => .ofUInt64 record.itemId
  | name => record.payload.valueNamed name

def NpuMem.valueNamed (record : NpuMem) : String → Value
  | "sys_cycle" => .ofUInt64 record.sysCycle
  | "reported_device_id" => .ofUInt32 record.deviceId
  | "hbm_used" => .ofUInt64 record.hbmUsed
  | "ddr_used" => .ofUInt64 record.ddrUsed
  | _ => .null

def TaskSpan.valueNamed (span : TaskSpan) : String → Value
  | "stream_id" => .ofUInt16 span.streamId
  | "task_id" => .ofUInt16 span.taskId
  | "core_id" => .ofUInt16 span.coreId
  | "start_cycle" => .ofUInt64 span.startCycle
  | "end_cycle" => .ofUInt64 span.endCycle
  | _ => .null

def Record.valueNamed : Record → String → Value
  | .blockLog record => record.valueNamed
  | .starsLog record => record.valueNamed
  | .aiCpu record => record.valueNamed
  | .qos record => record.valueNamed
  | .hccl record => record.valueNamed
  | .npuMem record => record.valueNamed
  | .taskTime span => span.valueNamed

namespace TimedRecord

/-- The value of a record that the name of a column stands for. -/
def valueNamed (timed : TimedRecord) : String → Value
  | "device_id" => .ofUInt32 timed.device
  | "start_ns" => timed.startValue
  | "end_ns" => timed.endValue
  | "duration_ns" => timed.durationValue
  | name => timed.record.valueNamed name

end TimedRecord

namespace Column

/-- What the declaration of a column lets it hold. -/
def accepts (column : Column) : Value → Bool
  | .null => column.optional
  | .integer _ => column.type == .integer
  | .blob _ => column.type == .blob
  | .real _ | .text _ => false

end Column

namespace TimedRecord

end TimedRecord

namespace Sql

end Sql

namespace TimedRecord

variable {timed : TimedRecord} {names : List String}

end TimedRecord

namespace Hccl

end Hccl

namespace TimedRecord

end TimedRecord

end AcceleratorTrace
