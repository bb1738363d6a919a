import AcceleratorTrace.Layout

/-!
# Communication library events

A record declares its own length and an item type, and the type decides how
its 32 byte payload is read: 64 bytes, little-endian.
-/

namespace AcceleratorTrace

/-- What the payload of a communication event says. -/
inductive HcclPayload where
  | op (group count : UInt64) (dataType opKind : UInt8)
  | task (planeId srcRank dstRank : UInt32) (transport linkType : UInt8) (size : UInt64)
  /-- The payload of an item type that is not understood. -/
  | raw (payload : List UInt8)
  deriving DecidableEq, Repr

/-- One communication event. -/
structure Hccl where
  magic : UInt16
  itemType : UInt16
  level : UInt16
  startCycle : UInt64
  endCycle : UInt64
  itemId : UInt64
  payload : HcclPayload
  deriving DecidableEq, Repr

namespace Hccl

def magicField : Field := { name := "magic", offset := 0, width := 2 }
def itemLengthField : Field := { name := "item_len", offset := 2, width := 2 }
def itemTypeField : Field := { name := "item_type", offset := 4, width := 2 }
def levelField : Field := { name := "level", offset := 6, width := 2 }
def startCycleField : Field := { name := "start_cycle", offset := 8, width := 8 }
def endCycleField : Field := { name := "end_cycle", offset := 16, width := 8 }
def itemIdField : Field := { name := "item_id", offset := 24, width := 8 }
def payloadField : Field := { name := "payload", offset := 32, width := 32 }

def layout : Layout where
  name := "hccl"
  size := 64
  order := .little
  fields :=
    [magicField, itemLengthField, itemTypeField, levelField, startCycleField, endCycleField,
      itemIdField, payloadField]

/-! Views of the payload, with offsets from the start of the record. -/

def groupField : Field := { name := "group", offset := 32, width := 8 }
def countField : Field := { name := "count", offset := 40, width := 8 }
def dataTypeField : Field := { name := "data_type", offset := 48, width := 1 }
def opKindField : Field := { name := "op_kind", offset := 49, width := 1 }

def planeIdField : Field := { name := "plane_id", offset := 32, width := 4 }
def srcRankField : Field := { name := "src_rank", offset := 36, width := 4 }
def dstRankField : Field := { name := "dst_rank", offset := 40, width := 4 }
def transportField : Field := { name := "transport", offset := 44, width := 1 }
def linkTypeField : Field := { name := "link_type", offset := 45, width := 1 }
def sizeField : Field := { name := "size", offset := 48, width := 8 }

def opItem : UInt16 := 0
def taskItem : UInt16 := 1

/-- Reads the payload as the item type asks. -/
def readPayload? (raw : List UInt8) (itemType : UInt16) : Option HcclPayload :=
  if itemType = opItem then do
    let group ← layout.read? raw groupField
    let count ← layout.read? raw countField
    let dataType ← layout.readU8? raw dataTypeField
    let opKind ← layout.readU8? raw opKindField
    return .op group count dataType opKind
  else if itemType = taskItem then do
    let planeId ← layout.readU32? raw planeIdField
    let srcRank ← layout.readU32? raw srcRankField
    let dstRank ← layout.readU32? raw dstRankField
    let transport ← layout.readU8? raw transportField
    let linkType ← layout.readU8? raw linkTypeField
    let size ← layout.read? raw sizeField
    return .task planeId srcRank dstRank transport linkType size
  else (payloadField.bytes? raw).map .raw

/-- The length that the record claims for itself. -/
def declaredLength? (raw : List UInt8) : Option Nat :=
  (layout.readU16? raw itemLengthField).map UInt16.toNat

/-- Reads the fields of one record. -/
def read? (raw : List UInt8) : Option Hccl := do
  let magic ← layout.readU16? raw magicField
  let itemType ← layout.readU16? raw itemTypeField
  let level ← layout.readU16? raw levelField
  let startCycle ← layout.read? raw startCycleField
  let endCycle ← layout.read? raw endCycleField
  let itemId ← layout.read? raw itemIdField
  let payload ← readPayload? raw itemType
  return { magic, itemType, level, startCycle, endCycle, itemId, payload }

end Hccl

end AcceleratorTrace
