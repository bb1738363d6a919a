import AcceleratorTrace.Pairing
import AcceleratorTrace.Proofs.EngineTables
import AcceleratorTrace.Proofs.RecordFormat
import AcceleratorTrace.Row

/-!
# Rows keep all of a record

The row of a record can be read back to its device, every field and both times.
Numbers of every width keep their bits, a value that is absent is told from every value
that is there, and each kind of payload has columns of its own.  Of enumerations the row
keeps the code, and decoding gives one value for each code.
-/

namespace AcceleratorTrace

namespace Value

/-- Values of another kind read as zero. -/
def toInt64 : Value → Int64
  | .integer value => value
  | _ => 0

def toUInt64 (value : Value) : UInt64 := value.toInt64.toUInt64

def toUInt32 (value : Value) : UInt32 := value.toUInt64.toUInt32

def toUInt16 (value : Value) : UInt16 := value.toUInt64.toUInt16

def toUInt8 (value : Value) : UInt8 := value.toUInt64.toUInt8

def toBytes : Value → List UInt8
  | .blob bytes => bytes
  | _ => []

/-- What stands in a column that may be null. -/
def toOption {α : Type} (read : Value → α) : Value → Option α
  | .null => none
  | value => some (read value)

@[simp] theorem toUInt8_ofUInt8 (value : UInt8) : (ofUInt8 value).toUInt8 = value := by
  simp [ofUInt8, toUInt8, toUInt64, toInt64]

@[simp] theorem toUInt16_ofUInt16 (value : UInt16) : (ofUInt16 value).toUInt16 = value := by
  simp [ofUInt16, toUInt16, toUInt64, toInt64]

@[simp] theorem toUInt32_ofUInt32 (value : UInt32) : (ofUInt32 value).toUInt32 = value := by
  simp [ofUInt32, toUInt32, toUInt64, toInt64]

/-- Counters keep their bits, though not always their sign. -/
@[simp] theorem toUInt64_ofUInt64 (value : UInt64) : (ofUInt64 value).toUInt64 = value := rfl

theorem toOption_ofOption {α : Type} {read : Value → α} {convert : α → Value}
    (restored : ∀ value, read (convert value) = value)
    (present : ∀ value, convert value ≠ .null) (value : Option α) :
    (ofOption convert value).toOption read = value := by
  cases value with
  | none => rfl
  | some value =>
      unfold ofOption toOption
      split
      · rename_i absent
        exact absurd absent (present value)
      · rw [restored]

@[simp] theorem toOption_ofOption_uint8 (value : Option UInt8) :
    (ofOption ofUInt8 value).toOption toUInt8 = value :=
  toOption_ofOption toUInt8_ofUInt8 nofun value

@[simp] theorem toOption_ofOption_uint16 (value : Option UInt16) :
    (ofOption ofUInt16 value).toOption toUInt16 = value :=
  toOption_ofOption toUInt16_ofUInt16 nofun value

@[simp] theorem toOption_ofOption_uint32 (value : Option UInt32) :
    (ofOption ofUInt32 value).toOption toUInt32 = value :=
  toOption_ofOption toUInt32_ofUInt32 nofun value

@[simp] theorem toOption_ofOption_uint64 (value : Option UInt64) :
    (ofOption ofUInt64 value).toOption toUInt64 = value :=
  toOption_ofOption toUInt64_ofUInt64 nofun value

end Value

/-- The first column is null unless the payload is an operation, and the fifth one unless
it is a task. -/
def HcclPayload.ofValues : List Value → HcclPayload
  | [.null, _, _, _, .null, _, _, _, _, _, payload] => .raw payload.toBytes
  | [.null, _, _, _, planeId, srcRank, dstRank, transport, linkType, size, _] =>
      .task planeId.toUInt32 srcRank.toUInt32 dstRank.toUInt32 transport.toUInt8
        linkType.toUInt8 size.toUInt64
  | [group, count, dataType, opKind, _, _, _, _, _, _, _] =>
      .op group.toUInt64 count.toUInt64 dataType.toUInt8 opKind.toUInt8
  | _ => .raw []

theorem HcclPayload.ofValues_values (payload : HcclPayload) :
    ofValues payload.values = payload := by
  cases payload with
  | op group count dataType opKind =>
      change op _ _ _ _ = _
      simp
  | task planeId srcRank dstRank transport linkType size =>
      change task _ _ _ _ _ _ = _
      simp
  | raw payload => rfl

theorem HcclPayload.length_values (payload : HcclPayload) : payload.values.length = 11 := by
  cases payload <;> rfl

/-- Enumerations are as decoding leaves them: a code that is known is not held as an
unknown one. -/
def Record.Normal : Record → Prop
  | .blockLog record => CoreType.ofCode record.coreType.code = record.coreType
  | .starsLog record => FuncType.ofCode record.funcType.code = record.funcType
  | .aiCpu record => ∀ kind, record.kernelType = some kind → KernelType.ofCode kind.code = kind
  | _ => True

theorem Decoder.read?_normal {decoder : Decoder} {raw : List UInt8} {record : Record}
    (success : decoder.read? raw = some record) : record.Normal := by
  cases decoder with
  | blockLog =>
      obtain ⟨fields, read, rfl⟩ := Option.map_eq_some_iff.mp success
      simp only [BlockLog.read?, bind, pure, Option.bind_eq_some_iff, Option.some.injEq] at read
      obtain ⟨_, -, _, -, _, -, _, -, _, -, _, -, _, -, code, -, _, -, rfl⟩ := read
      exact congrArg CoreType.ofCode (CoreType.code_ofCode code)
  | starsLog =>
      obtain ⟨fields, read, rfl⟩ := Option.map_eq_some_iff.mp success
      simp only [StarsLog.read?, bind, pure, Option.bind_eq_some_iff, Option.some.injEq] at read
      obtain ⟨code, -, _, -, _, -, _, -, _, -, _, -, _, -, rfl⟩ := read
      exact congrArg FuncType.ofCode (FuncType.code_ofCode code.toUInt8)
  | aiCpuV1 =>
      obtain ⟨fields, read, rfl⟩ := Option.map_eq_some_iff.mp success
      simp only [AiCpu.readV1?, bind, pure, Option.bind_eq_some_iff, Option.some.injEq] at read
      obtain ⟨_, -, _, -, _, -, _, -, _, -, _, -, _, -, rfl⟩ := read
      intro kind held
      cases held
  | aiCpuV4 =>
      obtain ⟨fields, read, rfl⟩ := Option.map_eq_some_iff.mp success
      simp only [AiCpu.readV4?, bind, pure, Option.bind_eq_some_iff, Option.some.injEq] at read
      obtain ⟨_, -, _, -, _, -, code, -, _, -, _, -, _, -, _, -, _, -, _, -, rfl⟩ := read
      intro kind held
      obtain rfl := Option.some.inj held
      exact congrArg KernelType.ofCode (KernelType.code_ofCode code.toUInt8)
  | qos =>
      obtain ⟨fields, -, rfl⟩ := Option.map_eq_some_iff.mp success
      trivial
  | hccl =>
      obtain ⟨fields, -, rfl⟩ := Option.map_eq_some_iff.mp success
      trivial
  | npuMem =>
      obtain ⟨fields, -, rfl⟩ := Option.map_eq_some_iff.mp success
      trivial


theorem ofFn_toUInt32_getD {width : Nat} (readings : Vector UInt32 width) (rest : List Value) :
    (Vector.ofFn fun slot : Fin width =>
      ((readings.toList.map Value.ofUInt32 ++ rest).getD slot .null).toUInt32) = readings := by
  apply Vector.ext
  intro slot bound
  simp [List.getD_eq_getElem?_getD, List.getElem?_append_left]

namespace TimedRecord

/-- Reads a row of the table. -/
def ofRow? : Table → Row → Option TimedRecord
  | .blockLog, [device, streamId, taskId, blockId, contextId, startCycle, durationCycles,
      deviceTaskType, coreType, coreId, startNs, endNs] =>
      some {
        device := device.toUInt32
        record := .blockLog {
          streamId := streamId.toUInt16
          taskId := taskId.toUInt16
          blockId := blockId.toUInt16
          contextId := contextId.toUInt16
          startCycle := startCycle.toUInt64
          durationCycles := durationCycles.toUInt32
          deviceTaskType := deviceTaskType.toUInt8
          coreType := .ofCode coreType.toUInt8
          coreId := coreId.toUInt8 }
        startNs := startNs.toOption Value.toInt64
        endNs := endNs.toOption Value.toInt64 }
  | .starsLog, [device, funcType, coreId, streamId, taskId, sqeType, sysCycle, blockNum,
      startNs] =>
      some {
        device := device.toUInt32
        record := .starsLog {
          funcType := .ofCode funcType.toUInt8
          coreId := coreId.toUInt16
          streamId := streamId.toUInt16
          taskId := taskId.toUInt16
          sqeType := sqeType.toUInt8
          sysCycle := sysCycle.toUInt64
          blockNum := blockNum.toUInt32 }
        startNs := startNs.toOption Value.toInt64
        endNs := none }
  | .aiCpu, [device, magic, streamId, taskId, threadId, kernelType, cpuId, startCycle, endCycle,
      dispatchCycle, queueCycle, totalOps, startNs, endNs] =>
      some {
        device := device.toUInt32
        record := .aiCpu {
          magic := magic.toUInt16
          streamId := streamId.toUInt16
          taskId := taskId.toUInt16
          threadId := threadId.toOption Value.toUInt16
          kernelType := (kernelType.toOption Value.toUInt8).map KernelType.ofCode
          cpuId := cpuId.toOption Value.toUInt16
          startCycle := startCycle.toUInt64
          endCycle := endCycle.toUInt64
          dispatchCycle := dispatchCycle.toUInt64
          queueCycle := queueCycle.toOption Value.toUInt64
          totalOps := totalOps.toOption Value.toUInt32 }
        startNs := startNs.toOption Value.toInt64
        endNs := endNs.toOption Value.toInt64 }
  | .qos, device :: sysCycle :: mode :: count :: rest =>
      some {
        device := device.toUInt32
        record := .qos {
          sysCycle := sysCycle.toUInt64
          mode := mode.toUInt8
          count := count.toUInt8
          bandwidth := .ofFn fun slot => (rest.getD slot .null).toUInt32 }
        startNs := (rest.getD 5 .null).toOption Value.toInt64
        endNs := none }
  | .hccl, device :: magic :: itemType :: level :: startCycle :: endCycle :: itemId :: rest =>
      some {
        device := device.toUInt32
        record := .hccl {
          magic := magic.toUInt16
          itemType := itemType.toUInt16
          level := level.toUInt16
          startCycle := startCycle.toUInt64
          endCycle := endCycle.toUInt64
          itemId := itemId.toUInt64
          payload := .ofValues (rest.take 11) }
        startNs := (rest.getD 11 .null).toOption Value.toInt64
        endNs := (rest.getD 12 .null).toOption Value.toInt64 }
  | .npuMem, [device, sysCycle, deviceId, hbmUsed, ddrUsed, startNs] =>
      some {
        device := device.toUInt32
        record := .npuMem {
          sysCycle := sysCycle.toUInt64
          deviceId := deviceId.toUInt32
          hbmUsed := hbmUsed.toUInt64
          ddrUsed := ddrUsed.toUInt64 }
        startNs := startNs.toOption Value.toInt64
        endNs := none }
  | .taskTime, [device, streamId, taskId, coreId, startCycle, endCycle, startNs, endNs, _] =>
      some {
        device := device.toUInt32
        record := .taskTime {
          streamId := streamId.toUInt16
          taskId := taskId.toUInt16
          coreId := coreId.toUInt16
          startCycle := startCycle.toUInt64
          endCycle := endCycle.toUInt64 }
        startNs := startNs.toOption Value.toInt64
        endNs := endNs.toOption Value.toInt64 }
  | _, _ => none

@[simp] theorem toOption_startValue (timed : TimedRecord) :
    timed.startValue.toOption Value.toInt64 = timed.startNs :=
  Value.toOption_ofOption (fun _ => rfl) nofun timed.startNs

@[simp] theorem toOption_endValue (timed : TimedRecord) :
    timed.endValue.toOption Value.toInt64 = timed.endNs :=
  Value.toOption_ofOption (fun _ => rfl) nofun timed.endNs

/-- The record is one that decoding can give, and it has an end time only if it spans
time. -/
structure Regular (timed : TimedRecord) : Prop where
  normal : timed.record.Normal
  instant : timed.record.endCycle? = none → timed.endNs = none

theorem Regular.ofRow?_row {timed : TimedRecord} (regular : timed.Regular) :
    ofRow? timed.record.table timed.row = some timed := by
  obtain ⟨normal, instant⟩ := regular
  obtain ⟨device, record, startNs, endNs⟩ := timed
  cases record with
  | blockLog record =>
      have kind : CoreType.ofCode record.coreType.code = record.coreType := normal
      simp [row, fieldValues, Record.table, ofRow?, kind]
  | starsLog record =>
      have kind : FuncType.ofCode record.funcType.code = record.funcType := normal
      have noEnd : endNs = none := instant rfl
      simp [row, fieldValues, Record.table, ofRow?, kind, noEnd]
  | aiCpu record =>
      have kind : (record.kernelType.map KernelType.code).map KernelType.ofCode =
          record.kernelType := by
        cases held : record.kernelType with
        | none => rfl
        | some kind => exact congrArg some (normal kind held)
      simp only [row, fieldValues, Record.table, ofRow?]
      simp [kind]
  | qos record =>
      have noEnd : endNs = none := instant rfl
      have slots := ofFn_toUInt32_getD record.bandwidth
        [startValue ⟨device, .qos record, startNs, endNs⟩]
      simp only [row, fieldValues, Record.table, ofRow?, List.cons_append, List.nil_append, slots]
      simp [noEnd]
  | hccl record =>
      have payload := record.payload.ofValues_values
      have width := record.payload.length_values
      simp [row, fieldValues, Record.table, ofRow?, width, payload]
  | npuMem record =>
      have noEnd : endNs = none := instant rfl
      simp [row, fieldValues, Record.table, ofRow?, noEnd]
  | taskTime span =>
      simp [row, fieldValues, Record.table, ofRow?]

end TimedRecord

theorem Clock.timeRecord_regular (clock : Clock) (device : UInt32) {record : Record}
    (normal : record.Normal) : (clock.timeRecord device record).1.Regular := by
  rw [clock.timeRecord_eq]
  refine ⟨normal, ?_⟩
  intro instant
  exact congrArg (Option.map clock.wallNs) instant

/-- Timed records as they come about: decoded from bytes, or paired from starts and
ends. -/
inductive Produced : TimedRecord → Prop where
  | decoded (clock : Clock) (device : UInt32) {decoder : Decoder} {raw : List UInt8}
      {record : Record} (success : decoder.decode raw = .ok record) :
      Produced (clock.timeRecord device record).1
  | paired {pairing : Pairing} {clock : Clock} {timed : TimedRecord}
      (member : timed ∈ (pairing.finish clock).records) : Produced timed

theorem Produced.regular {timed : TimedRecord} (produced : Produced timed) : timed.Regular := by
  cases produced with
  | decoded clock device success =>
      exact clock.timeRecord_regular device (Decoder.read?_normal (Decoder.read?_of_decode success))
  | @paired pairing clock _ member =>
      obtain ⟨_, stamped, rfl⟩ := List.mem_map.mp member
      obtain ⟨⟨device, span⟩, -, rfl⟩ := List.mem_map.mp stamped
      exact clock.timeRecord_regular device trivial

/-- Two records of one table that have the same row are the same record, of the same
device and with the same times. -/
theorem rows_are_lossless {first second : TimedRecord} (firstProduced : Produced first)
    (secondProduced : Produced second) (tables : first.record.table = second.record.table)
    (same : first.row = second.row) : first = second := by
  apply Option.some.inj
  calc some first
    _ = TimedRecord.ofRow? first.record.table first.row := firstProduced.regular.ofRow?_row.symm
    _ = TimedRecord.ofRow? second.record.table second.row := by rw [tables, same]
    _ = some second := secondProduced.regular.ofRow?_row

/-- An event with all counters at their limit, under two clocks that differ in their
reference, with another byte in a place that no field covers. -/
theorem rows_are_lossless_shifted_reference :
    let event : List UInt8 := [0x5A, 0x5A, 64, 0, 1, 0] ++ List.replicate 58 255
    let early : Clock := ⟨⟨0, 0, 1.0⟩, 1000000, none, by decide⟩
    let late : Clock := ⟨⟨1000, 1000000, 1.0⟩, 1000000, none, by decide⟩
    ∃ record other, Decoder.hccl.decode event = .ok record ∧
      Decoder.hccl.decode (event.set 46 9) = .ok other ∧
      (early.timeRecord 3 record).1.row = (late.timeRecord 3 other).1.row ∧
      (early.timeRecord 3 record).1 = (late.timeRecord 3 other).1 := by
  intro event early late
  let limit : UInt64 := 0xFFFFFFFFFFFFFFFF
  let record : Record := .hccl ⟨0x5A5A, 1, 0xFFFF, limit, limit, limit,
    .task 0xFFFFFFFF 0xFFFFFFFF 0xFFFFFFFF 0xFF 0xFF limit⟩
  have decoded : Decoder.hccl.decode event = .ok record := by decide +kernel
  have again : Decoder.hccl.decode (event.set 46 9) = .ok record := by decide +kernel
  have rows : (early.timeRecord 3 record).1.row = (late.timeRecord 3 record).1.row := by
    decide +kernel
  have tables : (early.timeRecord 3 record).1.record.table =
      (late.timeRecord 3 record).1.record.table := by
    rw [timeRecord_record, timeRecord_record]
  exact ⟨record, record, decoded, again, rows,
    rows_are_lossless (.decoded early 3 decoded) (.decoded late 3 again) tables rows⟩

end AcceleratorTrace
