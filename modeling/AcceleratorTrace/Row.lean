import AcceleratorTrace.Number.Clamp
import AcceleratorTrace.Record

/-!
# Rows

What is written to the store for a record: one value per column of its table,
in column order.  Unsigned 64-bit counters keep their bit pattern in the
signed integers of the store.
-/

namespace AcceleratorTrace

/-- A value of the store. -/
inductive Value where
  | null
  | integer (value : Int64)
  /-- A double, by its bits. -/
  | real (bits : UInt64)
  | text (value : String)
  | blob (bytes : List UInt8)
  deriving DecidableEq, Repr

namespace Value

def ofUInt8 (value : UInt8) : Value := .integer (Int64.ofNat value.toNat)

def ofUInt16 (value : UInt16) : Value := .integer (Int64.ofNat value.toNat)

def ofUInt32 (value : UInt32) : Value := .integer (Int64.ofNat value.toNat)

/-- The same 64 bits as a signed integer. -/
def ofUInt64 (value : UInt64) : Value := .integer value.toInt64

/-- An absent value is null. -/
def ofOption {α : Type} (convert : α → Value) : Option α → Value
  | none => .null
  | some value => convert value

end Value

abbrev Row := List Value

/-- Each kind of payload fills its own columns and leaves the others null. -/
def HcclPayload.values : HcclPayload → List Value
  | .op group count dataType opKind =>
      [.ofUInt64 group, .ofUInt64 count, .ofUInt8 dataType, .ofUInt8 opKind] ++
        List.replicate 7 .null
  | .task planeId srcRank dstRank transport linkType size =>
      List.replicate 4 .null ++
        [.ofUInt32 planeId, .ofUInt32 srcRank, .ofUInt32 dstRank, .ofUInt8 transport,
          .ofUInt8 linkType, .ofUInt64 size, .null]
  | .raw payload => List.replicate 10 .null ++ [.blob payload]

namespace TimedRecord

def startValue (timed : TimedRecord) : Value := .ofOption .integer timed.startNs

def endValue (timed : TimedRecord) : Value := .ofOption .integer timed.endNs

/-- The length of a span that has both times; never negative. -/
def durationValue (timed : TimedRecord) : Value :=
  match timed.startNs, timed.endNs with
  | some start, some stop => .integer (max (clampInt64 (stop.toInt - start.toInt)) 0)
  | _, _ => .null

/-- The values of the record after the device. -/
def fieldValues (timed : TimedRecord) : List Value :=
  match timed.record with
  | .blockLog record =>
      [.ofUInt16 record.streamId, .ofUInt16 record.taskId, .ofUInt16 record.blockId,
        .ofUInt16 record.contextId, .ofUInt64 record.startCycle, .ofUInt32 record.durationCycles,
        .ofUInt8 record.deviceTaskType, .ofUInt8 record.coreType.code, .ofUInt8 record.coreId,
        timed.startValue, timed.endValue]
  | .starsLog record =>
      [.ofUInt8 record.funcType.code, .ofUInt16 record.coreId, .ofUInt16 record.streamId,
        .ofUInt16 record.taskId, .ofUInt8 record.sqeType, .ofUInt64 record.sysCycle,
        .ofUInt32 record.blockNum, timed.startValue]
  | .aiCpu record =>
      [.ofUInt16 record.magic, .ofUInt16 record.streamId, .ofUInt16 record.taskId,
        .ofOption .ofUInt16 record.threadId,
        .ofOption .ofUInt8 (record.kernelType.map KernelType.code),
        .ofOption .ofUInt16 record.cpuId, .ofUInt64 record.startCycle, .ofUInt64 record.endCycle,
        .ofUInt64 record.dispatchCycle, .ofOption .ofUInt64 record.queueCycle,
        .ofOption .ofUInt32 record.totalOps, timed.startValue, timed.endValue]
  | .qos record =>
      [.ofUInt64 record.sysCycle, .ofUInt8 record.mode, .ofUInt8 record.count] ++
        record.bandwidth.toList.map .ofUInt32 ++ [timed.startValue]
  | .hccl record =>
      [.ofUInt16 record.magic, .ofUInt16 record.itemType, .ofUInt16 record.level,
        .ofUInt64 record.startCycle, .ofUInt64 record.endCycle, .ofUInt64 record.itemId] ++
        record.payload.values ++ [timed.startValue, timed.endValue]
  | .npuMem record =>
      [.ofUInt64 record.sysCycle, .ofUInt32 record.deviceId, .ofUInt64 record.hbmUsed,
        .ofUInt64 record.ddrUsed, timed.startValue]
  | .taskTime span =>
      [.ofUInt16 span.streamId, .ofUInt16 span.taskId, .ofUInt16 span.coreId,
        .ofUInt64 span.startCycle, .ofUInt64 span.endCycle, timed.startValue, timed.endValue,
        timed.durationValue]

/-- The row of a record: its device, then its values in column order. -/
def row (timed : TimedRecord) : Row := .ofUInt32 timed.device :: timed.fieldValues

end TimedRecord

end AcceleratorTrace
