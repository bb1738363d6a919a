import AcceleratorTrace.Decoder
import AcceleratorTrace.Proofs.FieldBytes

/-!
# The format of records

A decoder accepts the bytes of exactly one record, and a communication event also
has to declare its own length.  Of accepted bytes it keeps everything except the
reserved ones: no code of an enumeration, no piece of a packed field and no byte of
a payload is merged with another or dropped.
-/

namespace AcceleratorTrace

theorem CoreType.code_ofCode (code : UInt8) : (ofCode code).code = code := by
  grind [CoreType.ofCode, CoreType.code]

theorem FuncType.code_ofCode (code : UInt8) : (ofCode code).code = code := by
  grind [FuncType.ofCode, FuncType.code]

theorem KernelType.code_ofCode (code : UInt8) : (ofCode code).code = code := by
  grind [KernelType.ofCode, KernelType.code]

@[simp] theorem CoreType.ofCode_inj {first second : UInt8} :
    ofCode first = ofCode second ↔ first = second :=
  (Function.LeftInverse.injective code_ofCode).eq_iff

@[simp] theorem FuncType.ofCode_inj {first second : UInt8} :
    ofCode first = ofCode second ↔ first = second :=
  (Function.LeftInverse.injective code_ofCode).eq_iff

@[simp] theorem KernelType.ofCode_inj {first second : UInt8} :
    ofCode first = ofCode second ↔ first = second :=
  (Function.LeftInverse.injective code_ofCode).eq_iff

def BlockLog.readFields : List Field :=
  [streamIdField, taskIdField, blockIdField, contextIdField, startCycleField, durationField,
    deviceTaskTypeField, coreTypeField, coreIdField]

def StarsLog.readFields : List Field :=
  [headField, streamIdField, taskIdField, sqeTypeField, sysCycleField, blockNumField]

def AiCpu.readFieldsV1 : List Field :=
  [magicField, streamIdField, taskIdField, threadIdField, startCycleField, endCycleField,
    dispatchCycleField]

def AiCpu.readFieldsV4 : List Field :=
  [magicField, streamIdField, taskIdField, flagsField, startCycleField, endCycleField,
    dispatchCycleField, queueCycleField, totalOpsField]

def Qos.readFields : List Field :=
  [sysCycleField, modeField, countField, bandwidthField0, bandwidthField1, bandwidthField2,
    bandwidthField3, bandwidthField4]

def NpuMem.readFields : List Field :=
  [sysCycleField, deviceIdField, hbmUsedField, ddrUsedField]

namespace Hccl

def headFields : List Field :=
  [magicField, itemTypeField, levelField, startCycleField, endCycleField, itemIdField]

def payloadFields (itemType : UInt16) : List Field :=
  if itemType = opItem then [groupField, countField, dataTypeField, opKindField]
  else if itemType = taskItem then
    [planeIdField, srcRankField, dstRankField, transportField, linkTypeField, sizeField]
  else [payloadField]

variable {raw first second : List UInt8}

theorem readPayload?_isSome (whole : raw.length = layout.size) (itemType : UInt16) :
    (readPayload? raw itemType).isSome = true := by
  have inside : payloadField.stop ≤ raw.length := by rw [whole]; decide
  simp only [readPayload?]
  split
  · simp (disch := first | assumption | decide)
  · split
    · simp (disch := first | assumption | decide)
    · simp [inside]

theorem readPayload?_eq_iff_agree (firstWhole : first.length = layout.size)
    (secondWhole : second.length = layout.size) (itemType : UInt16) :
    readPayload? first itemType = readPayload? second itemType ↔
      ∀ field ∈ payloadFields itemType, field.Agree first second := by
  have lengths := firstWhole.trans secondWhole.symm
  have firstInside : payloadField.stop ≤ first.length := by rw [firstWhole]; decide
  have secondInside : payloadField.stop ≤ second.length := by rw [secondWhole]; decide
  simp only [readPayload?, payloadFields]
  split
  · simp (disch := first | assumption | decide)
  · split
    · simp (disch := first | assumption | decide)
    · simp [firstInside, secondInside, Field.bytes_eq_iff_agree]

/-- What decides how the payload is read. -/
def itemTypeOf (raw : List UInt8) : UInt16 := (layout.word raw itemTypeField).toUInt16

theorem toNat_readU16 {field : Field} (whole : raw.length = layout.size)
    (inside : field.stop ≤ layout.size) (double : field.width = 2) :
    (layout.word raw field).toUInt16.toNat = halfWord raw field.offset := by
  rw [UInt64.toNat_toUInt16, Nat.mod_eq_of_lt (Layout.word_lt rfl double.le (by decide)),
    Layout.toNat_word_eq_halfWord rfl double (whole ▸ inside)]

theorem read?_eq_some (whole : raw.length = layout.size) :
    ∃ payload, readPayload? raw (itemTypeOf raw) = some payload ∧
      read? raw = some
        { magic := (layout.word raw magicField).toUInt16
          itemType := itemTypeOf raw
          level := (layout.word raw levelField).toUInt16
          startCycle := layout.word raw startCycleField
          endCycle := layout.word raw endCycleField
          itemId := layout.word raw itemIdField
          payload } := by
  obtain ⟨payload, payloadRead⟩ :=
    Option.isSome_iff_exists.mp (readPayload?_isSome whole (itemTypeOf raw))
  refine ⟨payload, payloadRead, ?_⟩
  rw [itemTypeOf] at payloadRead
  simp (disch := first | assumption | decide) [read?, payloadRead, itemTypeOf]

theorem read?_eq_iff_agree (firstWhole : first.length = layout.size)
    (secondWhole : second.length = layout.size) :
    read? first = read? second ↔
      ∀ field ∈ headFields ++ payloadFields (itemTypeOf first), field.Agree first second := by
  have lengths := firstWhole.trans secondWhole.symm
  obtain ⟨firstPayload, firstRead, firstRecord⟩ := read?_eq_some firstWhole
  obtain ⟨secondPayload, secondRead, secondRecord⟩ := read?_eq_some secondWhole
  have types : itemTypeOf first = itemTypeOf second ↔ itemTypeField.Agree first second :=
    Layout.toUInt16_word_eq_iff_agree rfl lengths (by decide)
  -- The payloads can only be compared once the item types are the same.
  have payloads : itemTypeField.Agree first second → (firstPayload = secondPayload ↔
      ∀ field ∈ payloadFields (itemTypeOf first), field.Agree first second) := by
    intro agree
    rw [← readPayload?_eq_iff_agree firstWhole secondWhole, firstRead, types.mpr agree,
      secondRead, Option.some_inj]
  have heads : read? first = read? second ↔
      (∀ field ∈ headFields, field.Agree first second) ∧ firstPayload = secondPayload := by
    rw [firstRecord, secondRecord]
    simp (disch := first | assumption | decide) [headFields, types, and_assoc]
  rw [heads, List.forall_mem_append]
  apply and_congr_right
  intro agree
  exact payloads (agree itemTypeField (by simp [headFields]))

end Hccl

namespace Decoder

/-- The fields that end up in the record. -/
def readFields (raw : List UInt8) : Decoder → List Field
  | .blockLog => BlockLog.readFields
  | .starsLog => StarsLog.readFields
  | .aiCpuV1 => AiCpu.readFieldsV1
  | .aiCpuV4 => AiCpu.readFieldsV4
  | .qos => Qos.readFields
  | .hccl => Hccl.headFields ++ Hccl.payloadFields (Hccl.itemTypeOf raw)
  | .npuMem => NpuMem.readFields

variable {raw first second : List UInt8}

theorem read?_isSome (decoder : Decoder) (whole : raw.length = decoder.layout.size) :
    (decoder.read? raw).isSome = true := by
  cases decoder with simp only [layout] at whole
  | blockLog => simp (disch := first | assumption | decide) [read?, BlockLog.read?]
  | starsLog => simp (disch := first | assumption | decide) [read?, StarsLog.read?]
  | aiCpuV1 => simp (disch := first | assumption | decide) [read?, AiCpu.readV1?]
  | aiCpuV4 => simp (disch := first | assumption | decide) [read?, AiCpu.readV4?]
  | qos => simp (disch := first | assumption | decide) [read?, Qos.read?]
  | hccl =>
      obtain ⟨payload, -, record⟩ := Hccl.read?_eq_some whole
      simp [read?, record]
  | npuMem => simp (disch := first | assumption | decide) [read?, NpuMem.read?]

theorem read?_eq_iff_agree (decoder : Decoder) (firstWhole : first.length = decoder.layout.size)
    (secondWhole : second.length = decoder.layout.size) :
    decoder.read? first = decoder.read? second ↔
      ∀ field ∈ decoder.readFields first, field.Agree first second := by
  have lengths := firstWhole.trans secondWhole.symm
  cases decoder with simp only [layout] at firstWhole secondWhole
  | blockLog =>
      simp (disch := first | assumption | decide)
        [read?, BlockLog.read?, readFields, BlockLog.readFields]
  | starsLog =>
      have head := Layout.extract_word_eq_iff_agree StarsLog.layout StarsLog.headField rfl lengths
        (by decide) StarsLog.funcTypeBits StarsLog.coreIdBits rfl rfl rfl (by decide)
      simp (disch := first | assumption | decide)
        [read?, StarsLog.read?, readFields, StarsLog.readFields, ← head, and_assoc]
  | aiCpuV1 =>
      simp (disch := first | assumption | decide)
        [read?, AiCpu.readV1?, readFields, AiCpu.readFieldsV1]
  | aiCpuV4 =>
      have flags := Layout.extract_word_eq_iff_agree AiCpu.layoutV4 AiCpu.flagsField rfl lengths
        (by decide) AiCpu.kernelTypeBits AiCpu.cpuIdBits rfl rfl rfl (by decide)
      simp (disch := first | assumption | decide)
        [read?, AiCpu.readV4?, readFields, AiCpu.readFieldsV4, ← flags, and_assoc]
  | qos =>
      simp (disch := first | assumption | decide) [read?, Qos.read?, readFields, Qos.readFields]
  | hccl =>
      simp only [read?]
      rw [(Option.map_injective fun _ _ => Record.hccl.inj).eq_iff,
        Hccl.read?_eq_iff_agree firstWhole secondWhole]
      rfl
  | npuMem =>
      simp (disch := first | assumption | decide)
        [read?, NpuMem.read?, readFields, NpuMem.readFields]

/-- The places of a record that its decoder does not look at. -/
def unread (raw : List UInt8) : Decoder → List Nat
  | .blockLog => [23]
  | .starsLog => 7 :: List.range' 20 12
  | .aiCpuV1 => []
  | .aiCpuV4 => List.range' 44 4
  | .qos => List.range' 10 2
  | .hccl =>
      match halfWord raw 4 with
      | 0 => List.range' 50 14
      | 1 => List.range' 46 2 ++ List.range' 56 8
      | _ => []
  | .npuMem => List.range' 12 4

/-- The bytes that a decoder takes for a record. -/
structure Accepts (decoder : Decoder) (raw : List UInt8) : Prop where
  length : raw.length = decoder.recordSize
  declared : decoder = .hccl → halfWord raw 2 = 64

/-- The field that a decoder only checks. -/
def checkedFields : Decoder → List Field
  | .hccl => [Hccl.itemLengthField]
  | _ => []

theorem fields_inside (decoder : Decoder) (raw : List UInt8) :
    ∀ field ∈ decoder.checkedFields ++ decoder.readFields raw,
      field.stop ≤ decoder.recordSize := by
  cases decoder
  case hccl =>
    simp only [readFields, Hccl.payloadFields]
    split
    · decide
    · split <;> decide
  -- The bytes play no part here, but they are free in the goal.
  all_goals exact of_decide_eq_true rfl

theorem unread_hccl (whole : raw.length = Hccl.layout.size) :
    Decoder.hccl.unread raw =
      if Hccl.itemTypeOf raw = Hccl.opItem then List.range' 50 14
      else if Hccl.itemTypeOf raw = Hccl.taskItem then List.range' 46 2 ++ List.range' 56 8
      else [] := by
  have code : (Hccl.itemTypeOf raw).toNat = halfWord raw 4 :=
    Hccl.toNat_readU16 whole (by decide) rfl
  simp only [unread, ← code, ← UInt16.toNat_inj]
  split
  case h_1 zero => exact (if_pos zero).symm
  case h_2 one =>
    rw [one]
    rfl
  case h_3 notZero notOne => exact ((if_neg notZero).trans (if_neg notOne)).symm

theorem fields_cover (decoder : Decoder) (whole : raw.length = decoder.recordSize) :
    ∀ place < decoder.recordSize, (place ∉ decoder.unread raw ↔
      ∃ field ∈ decoder.checkedFields ++ decoder.readFields raw,
        field.offset ≤ place ∧ place < field.stop) := by
  cases decoder
  case hccl =>
    rw [unread_hccl whole]
    simp only [readFields, Hccl.payloadFields]
    by_cases op : Hccl.itemTypeOf raw = Hccl.opItem
    · simp only [if_pos op]
      decide
    · by_cases task : Hccl.itemTypeOf raw = Hccl.taskItem
      · simp only [if_neg op, if_pos task]
        decide
      · simp only [if_neg op, if_neg task]
        decide
  all_goals exact of_decide_eq_true rfl

theorem decode_of_wrong_length {decoder : Decoder} (wrong : raw.length ≠ decoder.recordSize) :
    decoder.decode raw =
      .error (.wrongLength ⟨decoder.name, decoder.recordSize, raw.length⟩) := by
  have refused : decoder.layout.checkLength raw =
      .error ⟨decoder.name, decoder.recordSize, raw.length⟩ := if_pos wrong
  simp only [decode, refused]

theorem checkLength_of_length {decoder : Decoder} (whole : raw.length = decoder.recordSize) :
    decoder.layout.checkLength raw = .ok () := if_neg (not_not.mpr whole)

theorem declaredLength?_hccl (whole : raw.length = Decoder.hccl.recordSize) :
    Decoder.hccl.declaredLength? raw = some (halfWord raw 2) := by
  have read : Hccl.layout.readU16? raw Hccl.itemLengthField =
      some (Hccl.layout.word raw Hccl.itemLengthField).toUInt16 :=
    Layout.readU16?_eq_word whole (by decide)
  rw [declaredLength?, Hccl.declaredLength?, read, Option.map_some,
    Hccl.toNat_readU16 whole (by decide) rfl]
  rfl

theorem decode_of_wrong_declaration (whole : raw.length = Decoder.hccl.recordSize)
    (wrong : halfWord raw 2 ≠ 64) :
    Decoder.hccl.decode raw =
      .error (.declaredLength Decoder.hccl.name (halfWord raw 2) 64) := by
  have refused : Decoder.hccl.checkDeclared raw =
      .error (.declaredLength Decoder.hccl.name (halfWord raw 2) 64) := by
    rw [checkDeclared, declaredLength?_hccl whole]
    exact if_pos wrong
  simp only [decode, checkLength_of_length whole, refused]

theorem Accepts.checkDeclared {decoder : Decoder} (accepts : decoder.Accepts raw) :
    decoder.checkDeclared raw = .ok () := by
  cases decoder
  case hccl =>
    rw [Decoder.checkDeclared, declaredLength?_hccl accepts.length]
    exact if_neg (not_not.mpr (accepts.declared rfl))
  all_goals rfl

/-- Accepted bytes are a record, the one that their fields give. -/
theorem Accepts.decode {decoder : Decoder} (accepts : decoder.Accepts raw) :
    ∃ record, decoder.read? raw = some record ∧ decoder.decode raw = .ok record := by
  obtain ⟨record, read⟩ := Option.isSome_iff_exists.mp (decoder.read?_isSome accepts.length)
  refine ⟨record, read, ?_⟩
  simp only [Decoder.decode, checkLength_of_length accepts.length, accepts.checkDeclared, read]

theorem Accepts.agree_checked {decoder : Decoder} (firstAccepts : decoder.Accepts first)
    (secondAccepts : decoder.Accepts second) :
    ∀ field ∈ decoder.checkedFields, field.Agree first second := by
  cases decoder
  case hccl =>
    have lengths := firstAccepts.length.trans secondAccepts.length.symm
    intro field member
    obtain rfl : field = Hccl.itemLengthField := List.mem_singleton.mp member
    rw [← Layout.toUInt16_word_eq_iff_agree (show Hccl.layout.order = .little from rfl) lengths
      (by decide), ← UInt16.toNat_inj, Hccl.toNat_readU16 firstAccepts.length (by decide) rfl,
      Hccl.toNat_readU16 secondAccepts.length (by decide) rfl]
    exact (firstAccepts.declared rfl).trans (secondAccepts.declared rfl).symm
  all_goals
    intro field member
    cases member

theorem Accepts.decode_eq_iff {decoder : Decoder} (firstAccepts : decoder.Accepts first)
    (secondAccepts : decoder.Accepts second) :
    decoder.decode first = decoder.decode second ↔
      ∀ place < decoder.recordSize, place ∉ decoder.unread first →
        first[place]? = second[place]? := by
  obtain ⟨firstRecord, firstRead, firstDecoded⟩ := firstAccepts.decode
  obtain ⟨secondRecord, secondRead, secondDecoded⟩ := secondAccepts.decode
  rw [← Field.forall_agree_iff (decoder.fields_inside first)
      (decoder.fields_cover firstAccepts.length),
    List.forall_mem_append, and_iff_right (firstAccepts.agree_checked secondAccepts),
    ← decoder.read?_eq_iff_agree firstAccepts.length secondAccepts.length,
    firstDecoded, secondDecoded, firstRead, secondRead, Except.ok.injEq, Option.some_inj]

end Decoder

/-- A decoder accepts exactly its format and keeps all of it.  Bytes of another
length are refused with their length, and an event that declares another length with
what it declares; all other bytes are a record, and nothing is read outside of them.
Two accepted byte strings give the same record exactly if they differ only in bytes
that the layout leaves unread. -/
theorem decode_exact_and_lossless (decoder : Decoder) :
    (∀ raw,
      (raw.length ≠ decoder.recordSize → decoder.decode raw =
        .error (.wrongLength ⟨decoder.name, decoder.recordSize, raw.length⟩)) ∧
      (raw.length = decoder.recordSize → decoder = .hccl → halfWord raw 2 ≠ 64 →
        decoder.decode raw = .error (.declaredLength decoder.name (halfWord raw 2) 64)) ∧
      ((∃ record, decoder.decode raw = .ok record) ↔ decoder.Accepts raw) ∧
      ∀ layout, decoder.decode raw ≠ .error (.fieldOutside layout)) ∧
    ∀ first second, decoder.Accepts first → decoder.Accepts second →
      (decoder.decode first = decoder.decode second ↔
        ∀ place < decoder.recordSize, place ∉ decoder.unread first →
          first[place]? = second[place]?) := by
  constructor
  · intro raw
    by_cases whole : raw.length = decoder.recordSize
    · by_cases declared : decoder = .hccl → halfWord raw 2 = 64
      · have accepts : decoder.Accepts raw := ⟨whole, declared⟩
        obtain ⟨record, -, decoded⟩ := accepts.decode
        refine ⟨fun wrong => absurd whole wrong, fun _ kind wrong => absurd (declared kind) wrong,
          ⟨fun _ => accepts, fun _ => ⟨record, decoded⟩⟩, ?_⟩
        intro layout
        rw [decoded]
        nofun
      · obtain ⟨rfl, wrong⟩ := Classical.not_imp.mp declared
        have refused := Decoder.decode_of_wrong_declaration whole wrong
        rw [refused]
        refine ⟨fun wrongLength => absurd whole wrongLength, fun _ _ _ => rfl, ⟨nofun, ?_⟩, nofun⟩
        intro accepts
        exact absurd (accepts.declared rfl) wrong
    · rw [Decoder.decode_of_wrong_length whole]
      refine ⟨fun _ => rfl, fun right => absurd right whole, ⟨nofun, ?_⟩, nofun⟩
      intro accepts
      exact absurd accepts.length whole
  · intro first second firstAccepts secondAccepts
    exact firstAccepts.decode_eq_iff secondAccepts

/-- Of a task event, a byte between two fields does not matter and the byte before it
does. -/
theorem decode_exact_and_lossless_task_event :
    let event : List UInt8 := [0x5A, 0x5A, 64, 0, 1, 0] ++ List.replicate 58 0
    Decoder.hccl.Accepts event ∧
      Decoder.hccl.decode event = Decoder.hccl.decode (event.set 46 9) ∧
      Decoder.hccl.decode event ≠ Decoder.hccl.decode (event.set 45 9) ∧
      Decoder.hccl.decode (event.set 2 63) = .error (.declaredLength "hccl" 63 64) ∧
      Decoder.hccl.decode (event.drop 1) = .error (.wrongLength ⟨"hccl", 64, 63⟩) := by
  intro event
  have accepts : Decoder.hccl.Accepts event := ⟨by decide, by decide⟩
  obtain ⟨refusals, lossless⟩ := decode_exact_and_lossless .hccl
  refine ⟨accepts, ?_, ?_, ?_, ?_⟩
  · apply (lossless event (event.set 46 9) accepts ⟨by decide, by decide⟩).mpr
    decide
  · intro same
    have agree := (lossless event (event.set 45 9) accepts ⟨by decide, by decide⟩).mp same
    exact absurd (agree 45 (by decide) (by decide)) (by decide)
  · exact (refusals (event.set 2 63)).2.1 (by decide) rfl (by decide)
  · exact (refusals (event.drop 1)).1 (by decide)

end AcceleratorTrace
