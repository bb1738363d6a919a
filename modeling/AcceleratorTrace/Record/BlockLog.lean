import AcceleratorTrace.Layout

/-!
# Block log records

The task scheduler of the first three generations writes one record per
executed block: 24 bytes, little-endian.
-/

namespace AcceleratorTrace

/-- Which kind of core executed a block. -/
inductive CoreType where
  | cube
  | vector
  | cpu
  | unknown (code : UInt8)
  deriving DecidableEq, Repr

namespace CoreType

def ofCode (code : UInt8) : CoreType :=
  if code = 0 then .cube
  else if code = 1 then .vector
  else if code = 2 then .cpu
  else .unknown code

def code : CoreType → UInt8
  | .cube => 0
  | .vector => 1
  | .cpu => 2
  | .unknown code => code

end CoreType

/-- One executed block. -/
structure BlockLog where
  streamId : UInt16
  taskId : UInt16
  blockId : UInt16
  contextId : UInt16
  startCycle : UInt64
  durationCycles : UInt32
  deviceTaskType : UInt8
  coreType : CoreType
  coreId : UInt8
  deriving DecidableEq, Repr

namespace BlockLog

/-- The counter wraps, and so does the end of a block. -/
def endCycle (record : BlockLog) : UInt64 :=
  record.startCycle + record.durationCycles.toUInt64

def streamIdField : Field := { name := "stream_id", offset := 0, width := 2 }
def taskIdField : Field := { name := "task_id", offset := 2, width := 2 }
def blockIdField : Field := { name := "block_id", offset := 4, width := 2 }
def contextIdField : Field := { name := "context_id", offset := 6, width := 2 }
def startCycleField : Field := { name := "start_cycle", offset := 8, width := 8 }
def durationField : Field := { name := "duration", offset := 16, width := 4 }
def deviceTaskTypeField : Field := { name := "device_task_type", offset := 20, width := 1 }
def coreTypeField : Field := { name := "core_type", offset := 21, width := 1 }
def coreIdField : Field := { name := "core_id", offset := 22, width := 1 }
def reservedField : Field := { name := "reserved", offset := 23, width := 1 }

def layout : Layout where
  name := "block_log"
  size := 24
  order := .little
  fields :=
    [streamIdField, taskIdField, blockIdField, contextIdField, startCycleField, durationField,
      deviceTaskTypeField, coreTypeField, coreIdField, reservedField]

/-- Reads the fields of one record. -/
def read? (raw : List UInt8) : Option BlockLog := do
  let streamId ← layout.readU16? raw streamIdField
  let taskId ← layout.readU16? raw taskIdField
  let blockId ← layout.readU16? raw blockIdField
  let contextId ← layout.readU16? raw contextIdField
  let startCycle ← layout.read? raw startCycleField
  let durationCycles ← layout.readU32? raw durationField
  let deviceTaskType ← layout.readU8? raw deviceTaskTypeField
  let coreType ← layout.readU8? raw coreTypeField
  let coreId ← layout.readU8? raw coreIdField
  return { streamId, taskId, blockId, contextId, startCycle, durationCycles, deviceTaskType,
           coreType := .ofCode coreType, coreId }

end BlockLog

end AcceleratorTrace
