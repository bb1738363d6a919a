import AcceleratorTrace.Layout

/-!
# Scheduler log records

The hardware scheduler of the fourth generation writes a start record and an
end record per task: 32 bytes each, little-endian.  What the record marks and
the core it ran on share the first word.
-/

namespace AcceleratorTrace

/-- What a scheduler record marks. -/
inductive FuncType where
  | taskStart
  | taskEnd
  | unknown (code : UInt8)
  deriving DecidableEq, Repr

namespace FuncType

def ofCode (code : UInt8) : FuncType :=
  if code = 0 then .taskStart
  else if code = 1 then .taskEnd
  else .unknown code

def code : FuncType → UInt8
  | .taskStart => 0
  | .taskEnd => 1
  | .unknown code => code

end FuncType

/-- One scheduler event. -/
structure StarsLog where
  funcType : FuncType
  coreId : UInt16
  streamId : UInt16
  taskId : UInt16
  sqeType : UInt8
  sysCycle : UInt64
  blockNum : UInt32
  deriving DecidableEq, Repr

namespace StarsLog

def funcTypeBits : BitField := { name := "func_type", msb := 5, lsb := 0 }
def coreIdBits : BitField := { name := "core_id", msb := 15, lsb := 6 }

def headField : Field :=
  { name := "head", offset := 0, width := 2, bits := [funcTypeBits, coreIdBits] }
def streamIdField : Field := { name := "stream_id", offset := 2, width := 2 }
def taskIdField : Field := { name := "task_id", offset := 4, width := 2 }
def sqeTypeField : Field := { name := "sqe_type", offset := 6, width := 1 }
def firstReservedField : Field := { name := "reserved_0", offset := 7, width := 1 }
def sysCycleField : Field := { name := "sys_cycle", offset := 8, width := 8 }
def blockNumField : Field := { name := "block_num", offset := 16, width := 4 }
def lastReservedField : Field := { name := "reserved_1", offset := 20, width := 12 }

def layout : Layout where
  name := "stars_log"
  size := 32
  order := .little
  fields :=
    [headField, streamIdField, taskIdField, sqeTypeField, firstReservedField, sysCycleField,
      blockNumField, lastReservedField]

/-- Reads the fields of one record. -/
def read? (raw : List UInt8) : Option StarsLog := do
  let funcType ← layout.readBitField? raw headField funcTypeBits
  let coreId ← layout.readBitField? raw headField coreIdBits
  let streamId ← layout.readU16? raw streamIdField
  let taskId ← layout.readU16? raw taskIdField
  let sqeType ← layout.readU8? raw sqeTypeField
  let sysCycle ← layout.read? raw sysCycleField
  let blockNum ← layout.readU32? raw blockNumField
  return { funcType := .ofCode funcType.toUInt8, coreId := coreId.toUInt16, streamId, taskId,
           sqeType, sysCycle, blockNum }

end StarsLog

end AcceleratorTrace
