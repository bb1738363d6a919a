import AcceleratorTrace.Proofs.FileContents
import AcceleratorTrace.Proofs.RecordFormat

/-!
# Reading a slice, and reading it in two parts

Every slice is read, whatever its length: to the end if all its whole records decode,
and otherwise up to the first that does not, which is reported by its place.  A cut
between two records changes nothing: the parts read one after the other give what the
whole gives, with the places in the second part counted on from the first.
-/

namespace AcceleratorTrace

theorem length_chunkAt {size index : Nat} {bytes : List UInt8}
    (whole : index < bytes.length / size) : (chunkAt size bytes index).length = size := by
  have room : (index + 1) * size ≤ bytes.length :=
    (Nat.mul_le_mul_right size whole).trans (Nat.div_mul_le_self bytes.length size)
  rw [Nat.succ_mul] at room
  rw [chunkAt, List.length_take, List.length_drop]
  omega

theorem length_chunks {size : Nat} (positive : 0 < size) (bytes : List UInt8) :
    (chunks size bytes).length = bytes.length / size := by
  rw [chunks_eq_map_range positive, List.length_map, List.length_range]

theorem getElem?_chunks {size index : Nat} (positive : 0 < size) {bytes : List UInt8}
    (whole : index < bytes.length / size) :
    (chunks size bytes)[index]? = some (chunkAt size bytes index) := by
  rw [chunks_eq_map_range positive, List.getElem?_map, List.getElem?_range whole]
  rfl

/-- Bytes that end with a whole chunk do not affect how the bytes after them are cut. -/
theorem chunks_append {size : Nat} (positive : 0 < size) {first : List UInt8}
    (even : first.length % size = 0) (second : List UInt8) :
    chunks size (first ++ second) = chunks size first ++ chunks size second := by
  fun_induction chunks size first with
  | case1 first short =>
      have empty : first = [] := by
        apply List.eq_nil_of_length_eq_zero
        rwa [Nat.mod_eq_of_lt (by omega)] at even
      rw [empty]
      rfl
  | case2 first long induction =>
      have room : size ≤ first.length := by omega
      have rest := induction (by
        rw [List.length_drop, ← Nat.mod_eq_sub_mod room]
        exact even)
      have more : ¬ (size = 0 ∨ (first ++ second).length < size) := by
        rw [List.length_append]
        omega
      rw [chunks, if_neg more, List.take_append_of_le_length room,
        List.drop_append_of_le_length room, rest]
      rfl

section Slices

variable {decoder : Decoder} {clock : Clock} {device : UInt32}

/-- Reading fails exactly at a chunk that does not decode after chunks that all do. -/
theorem readChunks_eq_error_iff (index : Nat) (raws : List (List UInt8)) (failure : SliceFailure) :
    readChunks decoder clock device index raws = .error failure ↔
      ∃ (before : List (List UInt8)) (raw : List UInt8) (after : List (List UInt8))
        (records : List Record) (error : DecodeError),
        raws = before ++ raw :: after ∧ before.map decoder.decode = records.map .ok ∧
          decoder.decode raw = .error error ∧
          failure = ⟨(index + before.length) * decoder.recordSize, error, index + before.length,
            clock.timeWarnings device records⟩ := by
  induction raws generalizing index failure with
  | nil =>
      constructor
      · nofun
      · rintro ⟨before, raw, after, records, error, split, -⟩
        exact absurd split (by simp)
  | cons first rest induction =>
      have moved : ∀ before : List (List UInt8),
          index + (first :: before).length = index + 1 + before.length := by
        intro before
        rw [List.length_cons, Nat.add_right_comm, Nat.add_assoc]
      simp only [readChunks]
      constructor
      · intro failed
        split at failed
        · rename_i error refused
          cases failed
          exact ⟨[], first, rest, [], error, rfl, rfl, refused, rfl⟩
        · rename_i record decoded
          split at failed
          · rename_i later failedLater
            cases failed
            obtain ⟨before, raw, after, records, error, rfl, sound, refused, rfl⟩ :=
              (induction _ _).mp failedLater
            refine ⟨first :: before, raw, after, record :: records, error, rfl, ?_, refused, ?_⟩
            · simp [decoded, sound]
            · rw [moved]
              rfl
          · cases failed
      · rintro ⟨before, raw, after, records, error, split, sound, refused, rfl⟩
        cases before with
        | nil =>
            obtain ⟨rfl, rfl⟩ := List.cons.inj split
            have none : records = [] := List.map_eq_nil_iff.mp sound.symm
            subst none
            rw [refused]
            rfl
        | cons head before =>
            obtain ⟨rfl, rfl⟩ := List.cons.inj split
            cases records with
            | nil => cases sound
            | cons record records =>
                simp only [List.map_cons, List.cons.injEq] at sound
                have failedLater := (induction (index + 1) _).mpr
                  ⟨before, raw, after, records, error, rfl, sound.2, refused, rfl⟩
                rw [sound.1, moved]
                simp only [failedLater]
                rfl

theorem readSlice_eq_error_iff (bytes : List UInt8) (failure : SliceFailure) :
    readSlice decoder clock device bytes = .error failure ↔
      readChunks decoder clock device 0 (chunks decoder.recordSize bytes) = .error failure := by
  unfold readSlice
  cases readChunks decoder clock device 0 (chunks decoder.recordSize bytes) with
  | error found => simp only [Except.error.injEq]
  | ok read => exact iff_of_false nofun nofun

/-- The failing chunk is the one at the place that is reported, and all before it
decode. -/
theorem readSlice_error {bytes : List UInt8} {failure : SliceFailure}
    (failed : readSlice decoder clock device bytes = .error failure) :
    failure.decoded < bytes.length / decoder.recordSize ∧
      failure.offset = failure.decoded * decoder.recordSize ∧
      decoder.decode (chunkAt decoder.recordSize bytes failure.decoded) = .error failure.error ∧
      ∀ index < failure.decoded, ∃ record,
        decoder.decode (chunkAt decoder.recordSize bytes index) = .ok record := by
  have positive := decoder.recordSize_pos
  obtain ⟨before, raw, after, records, error, split, sound, refused, rfl⟩ :=
    (readChunks_eq_error_iff _ _ _).mp ((readSlice_eq_error_iff bytes failure).mp failed)
  have whole : before.length < bytes.length / decoder.recordSize := by
    rw [← length_chunks positive, split]
    simp
  have atFailure : chunkAt decoder.recordSize bytes before.length = raw := by
    have found := getElem?_chunks positive whole
    rw [split] at found
    simpa using found.symm
  simp only [Nat.zero_add, atFailure]
  refine ⟨whole, trivial, refused, ?_⟩
  intro index earlier
  have found := getElem?_chunks positive (earlier.trans whole)
  rw [split, List.getElem?_append_left earlier] at found
  have decoded : (before.map decoder.decode)[index]? =
      some (decoder.decode (chunkAt decoder.recordSize bytes index)) := by
    rw [List.getElem?_map, found, Option.map_some]
  rw [sound, List.getElem?_map] at decoded
  obtain ⟨record, -, same⟩ := Option.map_eq_some_iff.mp decoded
  exact ⟨record, same.symm⟩

/-- The records of a slice read to its end are those of its chunks, by index, each with its
device and its times. -/
theorem readSlice_ok {bytes : List UInt8} {reading : SliceReading}
    (success : readSlice decoder clock device bytes = .ok reading) :
    reading.records.length = bytes.length / decoder.recordSize ∧
      ∀ index < bytes.length / decoder.recordSize, ∃ record,
        decoder.decode (chunkAt decoder.recordSize bytes index) = .ok record ∧
          reading.records[index]? = some ⟨device, record, some (clock.wallNs record.startCycle),
            record.endCycle?.map clock.wallNs⟩ := by
  have positive := decoder.recordSize_pos
  obtain ⟨records, decoded, rfl⟩ := (readSlice_eq_ok_iff bytes reading).mp success
  have count : records.length = bytes.length / decoder.recordSize := by
    have lengths := congrArg List.length decoded
    rw [List.length_map, List.length_map, length_chunks positive] at lengths
    exact lengths.symm
  refine ⟨by rw [Clock.timed, List.length_map, count], ?_⟩
  intro index whole
  have same := congrArg (fun outcomes => outcomes[index]?) decoded
  simp only [List.getElem?_map, getElem?_chunks positive whole, Option.map_some] at same
  obtain ⟨record, found, equal⟩ := Option.map_eq_some_iff.mp same.symm
  refine ⟨record, equal.symm, ?_⟩
  rw [Clock.timed, List.getElem?_map, found, Option.map_some, clock.timeRecord_eq]

theorem exists_readSlice_ok_iff (bytes : List UInt8) :
    (∃ reading, readSlice decoder clock device bytes = .ok reading) ↔
      ∀ index < bytes.length / decoder.recordSize, ∃ record,
        decoder.decode (chunkAt decoder.recordSize bytes index) = .ok record := by
  constructor
  · rintro ⟨reading, success⟩ index whole
    obtain ⟨record, decoded, -⟩ := (readSlice_ok success).2 index whole
    exact ⟨record, decoded⟩
  · intro decodable
    cases outcome : readSlice decoder clock device bytes with
    | ok reading => exact ⟨reading, rfl⟩
    | error failure =>
        obtain ⟨whole, -, refused, -⟩ := readSlice_error outcome
        obtain ⟨record, decoded⟩ := decodable failure.decoded whole
        rw [refused] at decoded
        cases decoded

/-- Only communication events can be refused, since only they declare their length. -/
theorem decode_chunkAt_of_ne_hccl {bytes : List UInt8} (other : decoder ≠ .hccl) {index : Nat}
    (whole : index < bytes.length / decoder.recordSize) :
    ∃ record, decoder.decode (chunkAt decoder.recordSize bytes index) = .ok record := by
  have accepts : decoder.Accepts (chunkAt decoder.recordSize bytes index) :=
    ⟨length_chunkAt whole, fun same => absurd same other⟩
  obtain ⟨record, -, decoded⟩ := accepts.decode
  exact ⟨record, decoded⟩

section Parts

variable {first second : List UInt8} (even : first.length % decoder.recordSize = 0)
include even

theorem readSlice_append_of_error {failure : SliceFailure}
    (failed : readSlice decoder clock device first = .error failure) :
    readSlice decoder clock device (first ++ second) = .error failure := by
  rw [readSlice_eq_error_iff, readChunks_eq_error_iff] at failed ⊢
  obtain ⟨before, raw, after, records, error, split, rest⟩ := failed
  refine ⟨before, raw, after ++ chunks decoder.recordSize second, records, error, ?_, rest⟩
  rw [chunks_append decoder.recordSize_pos even, split, List.append_assoc, List.cons_append]

theorem readSlice_append_of_ok_error {reading : SliceReading} {failure : SliceFailure}
    (success : readSlice decoder clock device first = .ok reading)
    (failed : readSlice decoder clock device second = .error failure) :
    readSlice decoder clock device (first ++ second) =
      .error ⟨failure.offset + first.length, failure.error,
        failure.decoded + first.length / decoder.recordSize,
        reading.warnings ++ failure.warnings⟩ := by
  have positive := decoder.recordSize_pos
  obtain ⟨earlier, decoded, rfl⟩ := (readSlice_eq_ok_iff first reading).mp success
  rw [readSlice_eq_error_iff, readChunks_eq_error_iff] at failed ⊢
  obtain ⟨before, raw, after, records, error, split, sound, refused, rfl⟩ := failed
  have total : (chunks decoder.recordSize first ++ before).length =
      before.length + first.length / decoder.recordSize := by
    rw [List.length_append, length_chunks positive, Nat.add_comm]
  have place : (before.length + first.length / decoder.recordSize) * decoder.recordSize =
      before.length * decoder.recordSize + first.length := by
    rw [Nat.add_mul, Nat.div_mul_cancel (Nat.dvd_of_mod_eq_zero even)]
  refine ⟨chunks decoder.recordSize first ++ before, raw, after, earlier ++ records, error, ?_, ?_,
    refused, ?_⟩
  · rw [chunks_append positive even, split, List.append_assoc]
  · rw [List.map_append, List.map_append, decoded, sound]
  · simp only [Nat.zero_add, total, place, Clock.timeWarnings, List.flatMap_append]

theorem readSlice_append_of_ok {reading later : SliceReading}
    (success : readSlice decoder clock device first = .ok reading)
    (laterSuccess : readSlice decoder clock device second = .ok later) :
    readSlice decoder clock device (first ++ second) =
      .ok ⟨reading.records ++ later.records, later.fragment,
        reading.warnings ++ later.warnings⟩ := by
  obtain ⟨records, decoded, rfl⟩ := (readSlice_eq_ok_iff first reading).mp success
  obtain ⟨laterRecords, laterDecoded, rfl⟩ := (readSlice_eq_ok_iff second later).mp laterSuccess
  apply (readSlice_eq_ok_iff _ _).mpr
  refine ⟨records ++ laterRecords, ?_, ?_⟩
  · rw [chunks_append decoder.recordSize_pos even, List.map_append, List.map_append, decoded,
      laterDecoded]
  · have fragment : (first ++ second).length % decoder.recordSize =
        second.length % decoder.recordSize := by
      rw [List.length_append, Nat.add_mod, even, Nat.zero_add, Nat.mod_mod]
    simp only [Clock.timed, Clock.timeWarnings, List.map_append, List.flatMap_append, fragment]

end Parts

end Slices

/-- A slice is read to its end exactly if all its whole records decode; then it gives
these records by index, with the device and the wall times of their cycles, and counts
what is left over.  Otherwise the failure is that of the first record that does not
decode, with its place.  And a slice can be read in two parts that meet between records. -/
theorem readSlice_up_to_first_failure (decoder : Decoder) (clock : Clock) (device : UInt32) :
    let size := decoder.recordSize
    let read := readSlice decoder clock device
    let decodeAt := fun bytes index => decoder.decode (chunkAt size bytes index)
    (∀ bytes : List UInt8,
      let count := bytes.length / size
      ((∃ reading, read bytes = .ok reading) ↔
        ∀ index < count, ∃ record, decodeAt bytes index = .ok record) ∧
      (decoder ≠ .hccl → ∃ reading, read bytes = .ok reading) ∧
      (∀ reading, read bytes = .ok reading →
        reading.records.length = count ∧
        (∀ index < count, ∃ record, decodeAt bytes index = .ok record ∧
          reading.records[index]? = some
            { device, record, startNs := some (clock.wallNs record.startCycle)
              endNs := record.endCycle?.map clock.wallNs }) ∧
        reading.fragment = bytes.length - count * size ∧ reading.fragment < size) ∧
      ∀ failure, read bytes = .error failure →
        failure.decoded < count ∧ failure.offset = failure.decoded * size ∧
        decodeAt bytes failure.decoded = .error failure.error ∧
        ∀ index < failure.decoded, ∃ record, decodeAt bytes index = .ok record) ∧
    ∀ first second : List UInt8, first.length % size = 0 →
      (∀ failure, read first = .error failure → read (first ++ second) = .error failure) ∧
      (∀ reading failure, read first = .ok reading → read second = .error failure →
        read (first ++ second) =
          .error ⟨failure.offset + first.length, failure.error,
            failure.decoded + first.length / size, reading.warnings ++ failure.warnings⟩) ∧
      ∀ reading later, read first = .ok reading → read second = .ok later →
        read (first ++ second) =
          .ok ⟨reading.records ++ later.records, later.fragment,
            reading.warnings ++ later.warnings⟩ := by
  intro size read decodeAt
  constructor
  · intro bytes count
    refine ⟨exists_readSlice_ok_iff bytes, ?_, ?_, fun failure => readSlice_error⟩
    · intro other
      apply (exists_readSlice_ok_iff bytes).mpr
      intro index whole
      exact decode_chunkAt_of_ne_hccl other whole
    · intro reading success
      have fragment : reading.fragment = bytes.length % size := by
        obtain ⟨records, -, rfl⟩ := (readSlice_eq_ok_iff bytes reading).mp success
        rfl
      refine ⟨(readSlice_ok success).1, (readSlice_ok success).2, ?_, ?_⟩
      · rw [fragment, Nat.mod_eq_sub_div_mul]
      · rw [fragment]
        exact Nat.mod_lt _ decoder.recordSize_pos
  · intro first second even
    exact ⟨fun failure => readSlice_append_of_error even,
      fun reading failure => readSlice_append_of_ok_error even,
      fun reading later => readSlice_append_of_ok even⟩

/-- Of two events the second declares a wrong length; it stands where the first ends. -/
theorem readSlice_up_to_first_failure_second_event :
    let clock : Clock := ⟨⟨0, 0, 1.0⟩, 1000000, none, by decide⟩
    let event : List UInt8 := [0x5A, 0x5A, 64, 0, 7, 0] ++ List.replicate 58 0
    let wrong := event.set 2 63
    (∃ reading, readSlice .hccl clock 0 event = .ok reading) ∧
      readSlice .hccl clock 0 wrong = .error ⟨0, .declaredLength "hccl" 63 64, 0, []⟩ ∧
      readSlice .hccl clock 0 (event ++ wrong) =
        .error ⟨64, .declaredLength "hccl" 63 64, 1, []⟩ := by
  intro clock event wrong
  obtain ⟨-, parts⟩ := readSlice_up_to_first_failure .hccl clock 0
  obtain ⟨-, second, -⟩ := parts event wrong (by decide)
  have failed : readSlice .hccl clock 0 wrong =
      .error ⟨0, .declaredLength "hccl" 63 64, 0, []⟩ := by decide +kernel
  have sound : (readSlice .hccl clock 0 event).toOption.map SliceReading.warnings = some [] := by
    decide +kernel
  cases outcome : readSlice .hccl clock 0 event with
  | error failure =>
      rw [outcome] at sound
      cases sound
  | ok reading =>
      rw [outcome] at sound
      have quiet : reading.warnings = [] := Option.some.inj sound
      have length : event.length = 64 := rfl
      have joined := second reading _ outcome failed
      rw [quiet, length] at joined
      exact ⟨⟨reading, rfl⟩, failed, joined⟩

end AcceleratorTrace
