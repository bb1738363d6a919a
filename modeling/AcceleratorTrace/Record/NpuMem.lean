import AcceleratorTrace.Layout

/-!
# Device memory samples

Every generation writes the same layout: 32 bytes, little-endian.
-/

namespace AcceleratorTrace

/-- One sample of the memory in use, in bytes. -/
structure NpuMem where
  sysCycle : UInt64
  deviceId : UInt32
  hbmUsed : UInt64
  ddrUsed : UInt64
  deriving DecidableEq, Repr

namespace NpuMem

def sysCycleField : Field := { name := "sys_cycle", offset := 0, width := 8 }
def deviceIdField : Field := { name := "device_id", offset := 8, width := 4 }
def reservedField : Field := { name := "reserved", offset := 12, width := 4 }
def hbmUsedField : Field := { name := "hbm_used", offset := 16, width := 8 }
def ddrUsedField : Field := { name := "ddr_used", offset := 24, width := 8 }

def layout : Layout where
  name := "npu_mem"
  size := 32
  order := .little
  fields := [sysCycleField, deviceIdField, reservedField, hbmUsedField, ddrUsedField]

/-- Reads the fields of one record. -/
def read? (raw : List UInt8) : Option NpuMem := do
  let sysCycle ← layout.read? raw sysCycleField
  let deviceId ← layout.readU32? raw deviceIdField
  let hbmUsed ← layout.read? raw hbmUsedField
  let ddrUsed ← layout.read? raw ddrUsedField
  return { sysCycle, deviceId, hbmUsed, ddrUsed }

end NpuMem

end AcceleratorTrace
