import AcceleratorTrace.Proofs.EngineTables
import AcceleratorTrace.Run.Task
import Mathlib

/-!
# What files hold

A slice holds one record per whole chunk, and the chunk of an index stands at
a fixed place.  A slice is read exactly if all of these chunks decode.  Files
are read as the concatenation of their slices, and every record read belongs to
the table of its decoder.
-/

namespace AcceleratorTrace

/-- The bytes of the record at an index. -/
def chunkAt (size : Nat) (bytes : List UInt8) (index : Nat) : List UInt8 :=
  (bytes.drop (index * size)).take size

theorem chunkAt_drop (size : Nat) (bytes : List UInt8) (index : Nat) :
    chunkAt size (bytes.drop size) index = chunkAt size bytes (index + 1) := by
  simp only [chunkAt, List.drop_drop, Nat.succ_mul, Nat.add_comm]

theorem chunks_eq_map_range {size : Nat} (positive : 0 < size) (bytes : List UInt8) :
    chunks size bytes = (List.range (bytes.length / size)).map (chunkAt size bytes) := by
  fun_induction chunks size bytes with
  | case1 bytes short =>
      have none : bytes.length / size = 0 := Nat.div_eq_of_lt (by omega)
      rw [none]
      rfl
  | case2 bytes long induction =>
      have count : bytes.length / size = (bytes.drop size).length / size + 1 := by
        rw [List.length_drop]
        exact Nat.div_eq_sub_div positive (by omega)
      have first : bytes.take size = chunkAt size bytes 0 := by
        simp [chunkAt]
      rw [count, List.range_succ_eq_map, List.map_cons, List.map_map, induction, first]
      congr 1
      apply List.map_congr_left
      intro index _
      exact chunkAt_drop size bytes index

namespace Clock

/-- Records of one device with their times. -/
def timed (clock : Clock) (device : UInt32) (records : List Record) : List TimedRecord :=
  records.map fun record => (clock.timeRecord device record).1

/-- The warnings that records of one device give rise to. -/
def timeWarnings (clock : Clock) (device : UInt32) (records : List Record) : List TimeWarning :=
  records.flatMap fun record => (clock.timeRecord device record).2

end Clock

section Slices

variable {decoder : Decoder} {clock : Clock} {device : UInt32}

theorem readChunks_eq_ok_iff (index : Nat) (raws : List (List UInt8)) (timed : List TimedRecord)
    (warnings : List TimeWarning) :
    readChunks decoder clock device index raws = .ok (timed, warnings) ↔
      ∃ records : List Record, raws.map decoder.decode = records.map .ok ∧
        timed = clock.timed device records ∧ warnings = clock.timeWarnings device records := by
  induction raws generalizing index timed warnings with
  | nil =>
      simp only [readChunks, Except.ok.injEq, Prod.mk.injEq, List.map_nil]
      constructor
      · rintro ⟨rfl, rfl⟩
        exact ⟨[], rfl, rfl, rfl⟩
      · rintro ⟨records, none, rfl, rfl⟩
        rw [List.map_eq_nil_iff.mp none.symm]
        exact ⟨rfl, rfl⟩
  | cons raw rest induction =>
      simp only [readChunks]
      constructor
      · intro success
        split at success
        · cases success
        · rename_i record decoded
          split at success
          · cases success
          · rename_i later laterWarnings readRest
            cases success
            obtain ⟨records, decodedRest, rfl, rfl⟩ := (induction _ _ _).mp readRest
            exact ⟨record :: records, by simp [decoded, decodedRest], rfl, rfl⟩
      · rintro ⟨records, decoded, rfl, rfl⟩
        cases records with
        | nil => cases decoded
        | cons record records =>
            simp only [List.map_cons, List.cons.injEq] at decoded
            have readRest := (induction (index + 1) _ _).mpr ⟨records, decoded.2, rfl, rfl⟩
            rw [decoded.1]
            simp only [readRest]
            rfl

/-- A slice is read exactly if every whole record decodes; the rest is counted. -/
theorem readSlice_eq_ok_iff (bytes : List UInt8) (reading : SliceReading) :
    readSlice decoder clock device bytes = .ok reading ↔
      ∃ records : List Record,
        (chunks decoder.recordSize bytes).map decoder.decode = records.map .ok ∧
          reading = ⟨clock.timed device records, bytes.length % decoder.recordSize,
            clock.timeWarnings device records⟩ := by
  have chunksRead := @readChunks_eq_ok_iff decoder clock device 0 (chunks decoder.recordSize bytes)
  unfold readSlice
  cases outcome : readChunks decoder clock device 0 (chunks decoder.recordSize bytes) with
  | error failure =>
      constructor
      · intro success
        cases success
      · rintro ⟨records, decoded, -⟩
        have success := (chunksRead _ _).mpr ⟨records, decoded, rfl, rfl⟩
        rw [outcome] at success
        cases success
  | ok read =>
      obtain ⟨timed, warnings⟩ := read
      constructor
      · intro success
        cases success
        obtain ⟨records, decoded, rfl, rfl⟩ := (chunksRead timed warnings).mp outcome
        exact ⟨records, decoded, rfl⟩
      · rintro ⟨records, decoded, rfl⟩
        have success := (chunksRead _ _).mpr ⟨records, decoded, rfl, rfl⟩
        rw [outcome] at success
        cases success
        rfl

theorem readSlice_table {bytes : List UInt8} {reading : SliceReading}
    (success : readSlice decoder clock device bytes = .ok reading) :
    ∀ record ∈ reading.records, record.record.table = decoder.engine.table := by
  obtain ⟨records, decoded, rfl⟩ := (readSlice_eq_ok_iff bytes reading).mp success
  intro timed member
  obtain ⟨record, recordMember, rfl⟩ := List.mem_map.mp member
  have found : Except.ok record ∈ (chunks decoder.recordSize bytes).map decoder.decode := by
    rw [decoded]
    exact List.mem_map_of_mem recordMember
  obtain ⟨raw, -, decodedRaw⟩ := List.mem_map.mp found
  rw [timeRecord_record]
  exact Decoder.decode_table decodedRaw

end Slices

section Files

variable {read : FilePath → Except FileFault (List UInt8)} {decoder : Decoder} {clock : Clock}

theorem readFiles_cons_of_ok {file : SliceFile} {bytes : List UInt8} {reading : SliceReading}
    (rest : List SliceFile) (readable : read file.path = .ok bytes)
    (sound : readSlice decoder clock file.device bytes = .ok reading) :
    readFiles read decoder clock (file :: rest) =
      { totals := (Totals.ofReading reading).add (readFiles read decoder clock rest).totals
        records := reading.records ++ (readFiles read decoder clock rest).records
        error := (readFiles read decoder clock rest).error
        log := reading.logLines decoder ++ reading.fileLines file.path ++
          (readFiles read decoder clock rest).log } := by
  simp only [readFiles, readable, sound]

theorem readFiles_of_sound {files : List SliceFile} {reading : SliceFile → SliceReading}
    (sound : ∀ file ∈ files, ∃ bytes, read file.path = .ok bytes ∧
      readSlice decoder clock file.device bytes = .ok (reading file)) :
    (readFiles read decoder clock files).error = none ∧
      (readFiles read decoder clock files).records =
        files.flatMap (fun file => (reading file).records) ∧
      (readFiles read decoder clock files).totals =
        ⟨files.length, (files.flatMap fun file => (reading file).records).length,
          (files.map fun file => (reading file).fragment).sum,
          (files.map fun file => (reading file).warnings.length).sum⟩ := by
  induction files with
  | nil => exact ⟨rfl, rfl, rfl⟩
  | cons file rest induction =>
      obtain ⟨bytes, readable, decoded⟩ := sound file List.mem_cons_self
      obtain ⟨unfailing, records, totals⟩ :=
        induction fun other member => sound other (List.mem_cons_of_mem _ member)
      rw [readFiles_cons_of_ok rest readable decoded]
      refine ⟨unfailing, ?_, ?_⟩
      · rw [records, List.flatMap_cons]
      · rw [totals]
        simp [Totals.add, Totals.ofReading, Nat.add_comm]

theorem readFiles_table (files : List SliceFile) :
    ∀ record ∈ (readFiles read decoder clock files).records,
      record.record.table = decoder.engine.table := by
  induction files with
  | nil =>
      intro record member
      cases member
  | cons file rest induction =>
      intro record member
      simp only [readFiles] at member
      split at member
      · cases member
      · split at member
        · cases member
        · rename_i sound
          rcases List.mem_append.mp member with here | later
          · exact readSlice_table sound record here
          · exact induction record later

theorem readFiles_congr {first second : FilePath → Except FileFault (List UInt8)}
    (decoder : Decoder) (clock : Clock) {files : List SliceFile}
    (same : ∀ file ∈ files, first file.path = second file.path) :
    readFiles first decoder clock files = readFiles second decoder clock files := by
  induction files with
  | nil => rfl
  | cons file rest induction =>
      have here := same file List.mem_cons_self
      have later := induction fun other member => same other (List.mem_cons_of_mem _ member)
      simp only [readFiles, here, later]

end Files

namespace SliceFile

theorem before_iff (first second : SliceFile) :
    first.before second = true ↔
      first.device < second.device ∨ first.device = second.device ∧ first.slice ≤ second.slice := by
  simp [before]

theorem before_trans (first second third : SliceFile) (left : first.before second = true)
    (right : second.before third = true) : first.before third = true := by
  simp only [before_iff, UInt32.lt_iff_toNat_lt, UInt32.le_iff_toNat_le, ← UInt32.toNat_inj] at *
  omega

theorem before_total (first second : SliceFile) :
    (first.before second || second.before first) = true := by
  simp only [Bool.or_eq_true, before_iff, UInt32.lt_iff_toNat_lt, UInt32.le_iff_toNat_le,
    ← UInt32.toNat_inj]
  omega

end SliceFile

theorem pairwise_sortFiles (files : List SliceFile) :
    (sortFiles files).Pairwise fun first second => first.before second = true :=
  List.pairwise_mergeSort SliceFile.before_trans SliceFile.before_total files

end AcceleratorTrace
