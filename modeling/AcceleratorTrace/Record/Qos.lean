import AcceleratorTrace.Layout

/-!
# Interconnect bandwidth samples

A sample has five bandwidth slots, of which the sampler says how many it
filled: 32 bytes, little-endian.
-/

namespace AcceleratorTrace

/-- One bandwidth sample of the interconnect. -/
structure Qos where
  sysCycle : UInt64
  mode : UInt8
  count : UInt8
  bandwidth : Vector UInt32 5
  deriving DecidableEq, Repr

namespace Qos

/-- The slots that the sampler filled in. -/
def filledSlots (sample : Qos) : List UInt32 :=
  sample.bandwidth.toList.take sample.count.toNat

def sysCycleField : Field := { name := "sys_cycle", offset := 0, width := 8 }
def modeField : Field := { name := "mode", offset := 8, width := 1 }
def countField : Field := { name := "qos_count", offset := 9, width := 1 }
def reservedField : Field := { name := "reserved", offset := 10, width := 2 }
def bandwidthField0 : Field := { name := "bandwidth_0", offset := 12, width := 4 }
def bandwidthField1 : Field := { name := "bandwidth_1", offset := 16, width := 4 }
def bandwidthField2 : Field := { name := "bandwidth_2", offset := 20, width := 4 }
def bandwidthField3 : Field := { name := "bandwidth_3", offset := 24, width := 4 }
def bandwidthField4 : Field := { name := "bandwidth_4", offset := 28, width := 4 }

def layout : Layout where
  name := "qos"
  size := 32
  order := .little
  fields :=
    [sysCycleField, modeField, countField, reservedField, bandwidthField0, bandwidthField1,
      bandwidthField2, bandwidthField3, bandwidthField4]

/-- Reads the fields of one record. -/
def read? (raw : List UInt8) : Option Qos := do
  let sysCycle ← layout.read? raw sysCycleField
  let mode ← layout.readU8? raw modeField
  let count ← layout.readU8? raw countField
  let slot0 ← layout.readU32? raw bandwidthField0
  let slot1 ← layout.readU32? raw bandwidthField1
  let slot2 ← layout.readU32? raw bandwidthField2
  let slot3 ← layout.readU32? raw bandwidthField3
  let slot4 ← layout.readU32? raw bandwidthField4
  return { sysCycle, mode, count, bandwidth := #v[slot0, slot1, slot2, slot3, slot4] }

end Qos

end AcceleratorTrace
