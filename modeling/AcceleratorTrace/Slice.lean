import AcceleratorTrace.Clock
import AcceleratorTrace.Decoder
import AcceleratorTrace.Log

/-!
# The contents of a slice

A slice file is a run of records of one size.  It is cut into whole records
from the front; what is left over at the end is a fragment and is only
counted.  Each record is decoded and stamped with wall times.  The first
record that cannot be decoded ends the reading.
-/

namespace AcceleratorTrace

namespace Clock

/-- Gives a record its wall times, the start before the end, with a warning
for each time outside the window. -/
def timeRecord (clock : Clock) (device : UInt32) (record : Record) :
    TimedRecord × List TimeWarning :=
  let start := clock.observe record.startCycle
  match record.endCycle? with
  | none => (⟨device, record, some start.1, none⟩, start.2.toList)
  | some endCycle =>
      let stop := clock.observe endCycle
      (⟨device, record, some start.1, some stop.1⟩, start.2.toList ++ stop.2.toList)

end Clock

/-- The line that each warning leaves in the log. -/
def TimeWarning.logLine (warning : TimeWarning) : LogLine :=
  .debug s!"suspect timestamp: {warning.message}"

/-- Cuts bytes into whole chunks of one size; a shorter rest is left out. -/
def chunks (size : Nat) (bytes : List UInt8) : List (List UInt8) :=
  if size = 0 ∨ bytes.length < size then []
  else bytes.take size :: chunks size (bytes.drop size)
termination_by bytes.length
decreasing_by
  simp only [List.length_drop]
  omega

/-- A slice read to its end. -/
structure SliceReading where
  records : List TimedRecord
  /-- Bytes at the end that are not a whole record. -/
  fragment : Nat
  warnings : List TimeWarning
  deriving DecidableEq, Repr

/-- A slice with a record that cannot be decoded. -/
structure SliceFailure where
  offset : Nat
  error : DecodeError
  /-- Records decoded before the failing one. -/
  decoded : Nat
  /-- Warnings for the records before the failing one. -/
  warnings : List TimeWarning
  deriving DecidableEq, Repr

def SliceFailure.message (failure : SliceFailure) : String :=
  s!"offset {failure.offset}: {failure.error.message}"

/-- Decodes and stamps chunks in order; `index` counts the chunks before. -/
def readChunks (decoder : Decoder) (clock : Clock) (device : UInt32) :
    (index : Nat) → List (List UInt8) → Except SliceFailure (List TimedRecord × List TimeWarning)
  | _, [] => .ok ([], [])
  | index, raw :: rest =>
      match decoder.decode raw with
      | .error error => .error ⟨index * decoder.recordSize, error, index, []⟩
      | .ok record =>
          let (timed, warnings) := clock.timeRecord device record
          match readChunks decoder clock device (index + 1) rest with
          | .error failure =>
              .error { failure with warnings := warnings ++ failure.warnings }
          | .ok (records, later) => .ok (timed :: records, warnings ++ later)

/-- Decodes every whole record of a slice, in file order. -/
def readSlice (decoder : Decoder) (clock : Clock) (device : UInt32) (bytes : List UInt8) :
    Except SliceFailure SliceReading :=
  match readChunks decoder clock device 0 (chunks decoder.recordSize bytes) with
  | .error failure => .error failure
  | .ok (records, warnings) => .ok ⟨records, bytes.length % decoder.recordSize, warnings⟩

/-- The log of a slice read to its end. -/
def SliceReading.logLines (reading : SliceReading) (decoder : Decoder) : List LogLine :=
  let count := reading.records.length
  let fragment :=
    if 0 < reading.fragment then
      [.debug s!"{decoder.name}: {reading.fragment} trailing bytes after {count} records"]
    else []
  reading.warnings.map TimeWarning.logLine ++ fragment

end AcceleratorTrace
