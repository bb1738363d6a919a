import AcceleratorTrace.Layout

/-!
# CPU kernel records

Two layouts exist.  The first three generations write 32 bytes; the fourth
writes 48 and packs the kernel type and the executing CPU into the word that
used to hold the thread.  Both are little-endian.
-/

namespace AcceleratorTrace

/-- Where a CPU kernel comes from. -/
inductive KernelType where
  | builtin
  | custom
  | tf
  | unknown (code : UInt8)
  deriving DecidableEq, Repr

namespace KernelType

def ofCode (code : UInt8) : KernelType :=
  if code = 0 then .builtin
  else if code = 1 then .custom
  else if code = 2 then .tf
  else .unknown code

def code : KernelType → UInt8
  | .builtin => 0
  | .custom => 1
  | .tf => 2
  | .unknown code => code

end KernelType

/-- One execution of a CPU kernel.  A field that only the other layout has is
`none`. -/
structure AiCpu where
  magic : UInt16
  streamId : UInt16
  taskId : UInt16
  threadId : Option UInt16
  kernelType : Option KernelType
  cpuId : Option UInt16
  startCycle : UInt64
  endCycle : UInt64
  dispatchCycle : UInt64
  queueCycle : Option UInt64
  totalOps : Option UInt32
  deriving DecidableEq, Repr

namespace AiCpu

/-- What the firmware writes into a well-formed record. -/
def validMagic : UInt16 := 0x5A5A

def magicMatches (record : AiCpu) : Bool := record.magic == validMagic

def magicField : Field := { name := "magic", offset := 0, width := 2 }
def streamIdField : Field := { name := "stream_id", offset := 2, width := 2 }
def taskIdField : Field := { name := "task_id", offset := 4, width := 2 }
def threadIdField : Field := { name := "thread_id", offset := 6, width := 2 }
def startCycleField : Field := { name := "start_cycle", offset := 8, width := 8 }
def endCycleField : Field := { name := "end_cycle", offset := 16, width := 8 }
def dispatchCycleField : Field := { name := "dispatch_cycle", offset := 24, width := 8 }

/-- The layout of the first three generations. -/
def layoutV1 : Layout where
  name := "ai_cpu_v1"
  size := 32
  order := .little
  fields :=
    [magicField, streamIdField, taskIdField, threadIdField, startCycleField, endCycleField,
      dispatchCycleField]

def kernelTypeBits : BitField := { name := "kernel_type", msb := 3, lsb := 0 }
def cpuIdBits : BitField := { name := "cpu_id", msb := 15, lsb := 4 }

def flagsField : Field :=
  { name := "flags", offset := 6, width := 2, bits := [kernelTypeBits, cpuIdBits] }
def queueCycleField : Field := { name := "queue_cycle", offset := 32, width := 8 }
def totalOpsField : Field := { name := "total_ops", offset := 40, width := 4 }
def reservedField : Field := { name := "reserved", offset := 44, width := 4 }

/-- The layout of the fourth generation. -/
def layoutV4 : Layout where
  name := "ai_cpu_v4"
  size := 48
  order := .little
  fields :=
    [magicField, streamIdField, taskIdField, flagsField, startCycleField, endCycleField,
      dispatchCycleField, queueCycleField, totalOpsField, reservedField]

/-- Reads a record of the first three generations. -/
def readV1? (raw : List UInt8) : Option AiCpu := do
  let magic ← layoutV1.readU16? raw magicField
  let streamId ← layoutV1.readU16? raw streamIdField
  let taskId ← layoutV1.readU16? raw taskIdField
  let threadId ← layoutV1.readU16? raw threadIdField
  let startCycle ← layoutV1.read? raw startCycleField
  let endCycle ← layoutV1.read? raw endCycleField
  let dispatchCycle ← layoutV1.read? raw dispatchCycleField
  return { magic, streamId, taskId, threadId := some threadId, kernelType := none, cpuId := none,
           startCycle, endCycle, dispatchCycle, queueCycle := none, totalOps := none }

/-- Reads a record of the fourth generation. -/
def readV4? (raw : List UInt8) : Option AiCpu := do
  let magic ← layoutV4.readU16? raw magicField
  let streamId ← layoutV4.readU16? raw streamIdField
  let taskId ← layoutV4.readU16? raw taskIdField
  let kernelType ← layoutV4.readBitField? raw flagsField kernelTypeBits
  let cpuId ← layoutV4.readBitField? raw flagsField cpuIdBits
  let startCycle ← layoutV4.read? raw startCycleField
  let endCycle ← layoutV4.read? raw endCycleField
  let dispatchCycle ← layoutV4.read? raw dispatchCycleField
  let queueCycle ← layoutV4.read? raw queueCycleField
  let totalOps ← layoutV4.readU32? raw totalOpsField
  return { magic, streamId, taskId, threadId := none,
           kernelType := some (.ofCode kernelType.toUInt8), cpuId := some cpuId.toUInt16,
           startCycle, endCycle, dispatchCycle, queueCycle := some queueCycle,
           totalOps := some totalOps }

end AiCpu

end AcceleratorTrace
