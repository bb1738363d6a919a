import AcceleratorTrace.Proofs.SliceBoundaries
import AcceleratorTrace.Proofs.TaskPhases

/-!
# The first bad file

A task reads its files in order and gives up at the first that cannot be read or holds
a record that does not decode.  Its report is made of the files before that one alone:
the bad file adds only the reason, and what comes after it is never looked at.
-/

namespace AcceleratorTrace

namespace SliceFile

/-- A file that a task cannot get past: it is not readable, or one of its whole records
does not decode. -/
inductive Bad (read : FilePath → Except FileFault (List UInt8)) (decoder : Decoder)
    (file : SliceFile) : Prop where
  | unreadable {fault : FileFault} (refused : read file.path = .error fault) :
      Bad read decoder file
  | undecodable {bytes : List UInt8} {index : Nat} {error : DecodeError}
      (readable : read file.path = .ok bytes)
      (whole : index < bytes.length / decoder.recordSize)
      (refused : decoder.decode (chunkAt decoder.recordSize bytes index) = .error error) :
      Bad read decoder file

/-- What is said of a bad file, as a failure and as a text: why it cannot be read, or
where its first record stands that does not decode, and why it does not. -/
inductive Blames (read : FilePath → Except FileFault (List UInt8)) (decoder : Decoder)
    (file : SliceFile) : TaskFailure → String → Prop where
  | unreadable {fault : FileFault} (refused : read file.path = .error fault) :
      Blames read decoder file (.unreadable file.path fault)
        s!"failed to read {file.path}: {fault.message}"
  | undecodable {bytes : List UInt8} {failure : SliceFailure}
      (readable : read file.path = .ok bytes)
      (whole : failure.decoded < bytes.length / decoder.recordSize)
      (place : failure.offset = failure.decoded * decoder.recordSize)
      (refused : decoder.decode (chunkAt decoder.recordSize bytes failure.decoded) =
        .error failure.error)
      (earlier : ∀ index < failure.decoded, ∃ record,
        decoder.decode (chunkAt decoder.recordSize bytes index) = .ok record) :
      Blames read decoder file (.undecodable file.path failure)
        s!"{file.path}: offset {failure.offset}: {failure.error.message}"

end SliceFile

theorem message_undecodable (path : FilePath) (failure : SliceFailure) :
    (TaskFailure.undecodable path failure).message =
      s!"{path}: offset {failure.offset}: {failure.error.message}" := by
  have joined : ": offset " = ": " ++ "offset " := rfl
  change s!"{path}: {failure.message}" = _
  simp only [SliceFailure.message, toString, joined, String.append_assoc]

section Reading

variable {read : FilePath → Except FileFault (List UInt8)} {decoder : Decoder} {clock : Clock}
  {file : SliceFile}

theorem not_bad_of_sound {bytes : List UInt8} {reading : SliceReading}
    (readable : read file.path = .ok bytes)
    (sound : readSlice decoder clock file.device bytes = .ok reading) :
    ¬ file.Bad read decoder := by
  intro bad
  cases bad with
  | unreadable refused =>
      rw [readable] at refused
      cases refused
  | undecodable readAgain whole refused =>
      rw [readable] at readAgain
      cases readAgain
      obtain ⟨record, decoded, -⟩ := (readSlice_ok sound).2 _ whole
      rw [refused] at decoded
      cases decoded

/-- One file by itself: it is read to its end, or it is bad and blamed for that. -/
theorem readFiles_singleton_cases (read : FilePath → Except FileFault (List UInt8))
    (decoder : Decoder) (clock : Clock) (file : SliceFile) :
    (¬ file.Bad read decoder ∧ ∃ reading bytes, read file.path = .ok bytes ∧
        readSlice decoder clock file.device bytes = .ok reading) ∨
      file.Bad read decoder ∧ ∃ failure,
        (readFiles read decoder clock [file]).error = some failure ∧
          (readFiles read decoder clock [file]).totals = {} ∧
          file.Blames read decoder failure failure.message := by
  cases contents : read file.path with
  | error fault =>
      refine .inr ⟨.unreadable contents, .unreadable file.path fault, ?_, ?_, .unreadable contents⟩
      · simp only [readFiles, contents]
      · simp only [readFiles, contents]
  | ok bytes =>
      cases outcome : readSlice decoder clock file.device bytes with
      | error failure =>
          obtain ⟨whole, place, refused, earlier⟩ := readSlice_error outcome
          refine .inr ⟨.undecodable contents whole refused, .undecodable file.path failure,
            ?_, ?_, ?_⟩
          · simp only [readFiles, contents, outcome]
          · simp only [readFiles, contents, outcome]
          · rw [message_undecodable]
            exact .undecodable contents whole place refused earlier
      | ok reading =>
          exact .inl ⟨not_bad_of_sound contents outcome, reading, bytes, rfl, outcome⟩

theorem readFiles_append_of_sound {first : List SliceFile}
    (sound : (readFiles read decoder clock first).error = none) (second : List SliceFile) :
    readFiles read decoder clock (first ++ second) =
      (readFiles read decoder clock first).append (readFiles read decoder clock second) := by
  induction first with
  | nil => exact (FilesReading.empty_append _).symm
  | cons file rest induction =>
      rw [readFiles_cons] at sound
      rw [List.cons_append, readFiles_cons, readFiles_cons _ _ _ file rest]
      by_cases good : (readFiles read decoder clock [file]).error = none
      · rw [if_pos good] at sound
        rw [if_pos good, if_pos good, FilesReading.append_assoc, induction sound]
      · rw [if_neg good] at sound
        exact absurd sound good

/-- Nothing is read after files that end with a failure. -/
theorem readFiles_append_of_failed {first : List SliceFile}
    (failed : (readFiles read decoder clock first).error ≠ none) (second : List SliceFile) :
    readFiles read decoder clock (first ++ second) = readFiles read decoder clock first := by
  induction first with
  | nil => exact absurd rfl failed
  | cons file rest induction =>
      rw [readFiles_cons] at failed
      rw [List.cons_append, readFiles_cons, readFiles_cons _ _ _ file rest]
      by_cases good : (readFiles read decoder clock [file]).error = none
      · rw [if_pos good] at failed
        rw [if_pos good, if_pos good, induction failed]
      · rw [if_neg good, if_neg good]

/-- Two runs that find the same in files which end with a failure read the same,
whatever else the second is given. -/
theorem readFiles_append_of_agree {other : FilePath → Except FileFault (List UInt8)}
    {files : List SliceFile} (failed : (readFiles read decoder clock files).error ≠ none)
    (same : ∀ file ∈ files, other file.path = read file.path) (later : List SliceFile) :
    readFiles other decoder clock (files ++ later) = readFiles read decoder clock files := by
  have sameReading := readFiles_congr decoder clock same
  have failedThere : (readFiles other decoder clock files).error ≠ none := by
    rw [sameReading]
    exact failed
  rw [readFiles_append_of_failed failedThere, sameReading]

theorem readFiles_append_bad {before : List SliceFile} {bad : SliceFile}
    (sound : (readFiles read decoder clock before).error = none) (isBad : bad.Bad read decoder) :
    ∃ failure, bad.Blames read decoder failure failure.message ∧
      (readFiles read decoder clock (before ++ [bad])).error = some failure ∧
      (readFiles read decoder clock (before ++ [bad])).totals =
        (readFiles read decoder clock before).totals := by
  rw [readFiles_append_of_sound sound]
  rcases readFiles_singleton_cases read decoder clock bad with
    ⟨good, -⟩ | ⟨-, failure, failed, empty, blames⟩
  · exact absurd isBad good
  · refine ⟨failure, blames, failed, ?_⟩
    simp only [FilesReading.append, empty, Totals.add, Nat.add_zero]

theorem exists_first_bad {files : List SliceFile} (clock : Clock)
    (found : ∃ file ∈ files, file.Bad read decoder) :
    ∃ before bad after, files = before ++ bad :: after ∧ bad.Bad read decoder ∧
      ∀ file ∈ before, ¬ file.Bad read decoder ∧
        ∃ reading bytes, read file.path = .ok bytes ∧
          readSlice decoder clock file.device bytes = .ok reading := by
  induction files with
  | nil =>
      obtain ⟨file, member, -⟩ := found
      cases member
  | cons first rest induction =>
      rcases readFiles_singleton_cases read decoder clock first with sound | ⟨bad, -⟩
      · have later : ∃ file ∈ rest, file.Bad read decoder := by
          obtain ⟨file, member, bad⟩ := found
          rcases List.mem_cons.mp member with here | there
          · subst here
            exact absurd bad sound.1
          · exact ⟨file, there, bad⟩
        obtain ⟨before, bad, after, rfl, isBad, goodBefore⟩ := induction later
        refine ⟨first :: before, bad, after, rfl, isBad, ?_⟩
        rw [List.forall_mem_cons]
        exact ⟨sound, goodBefore⟩
      · exact ⟨[], first, rest, rfl, bad, nofun⟩

end Reading

/-- A task with a bad file fails at the first one, in the order of its files, and says
why.  It reports the files before that one and nothing else, and the report stays the
same whatever the files after it hold and whether there are any. -/
theorem runTask_stops_at_first_bad_file {dispatcher : Dispatcher} {context : Context} {sink : Sink}
    {read : FilePath → Except FileFault (List UInt8)} {obstacles : Obstacles} {engine : Engine}
    {files : List SliceFile} {decoder : Decoder} {store : Store}
    (supported : dispatcher.decoderFor context.chip engine = .ok decoder)
    (found : ∃ file ∈ files, file.Bad read decoder) :
    let outcome := runTask dispatcher context sink read obstacles false engine files store
    ∃ (before : List SliceFile) (bad : SliceFile) (after : List SliceFile)
      (reading : SliceFile → SliceReading) (failure : TaskFailure) (text : String),
      files = before ++ bad :: after ∧ bad.Bad read decoder ∧
      (∀ file ∈ before, ¬ file.Bad read decoder ∧ ∃ bytes, read file.path = .ok bytes ∧
        readSlice decoder context.clock file.device bytes = .ok (reading file)) ∧
      bad.Blames read decoder failure text ∧
      outcome.report.status.reason? = some text ∧
      outcome.report =
        { engine
          status := .failed failure
          totals :=
            { files := before.length
              records := (before.map fun file => (reading file).records.length).sum
              fragmentBytes := (before.map fun file => (reading file).fragment).sum
              warnings := (before.map fun file => (reading file).warnings.length).sum }
          rows := []
          unmatched := 0 } ∧
      ∀ other later, (∀ file ∈ before ++ [bad], other file.path = read file.path) →
        (runTask dispatcher context sink other obstacles false engine (before ++ bad :: later)
          store).report = outcome.report := by
  intro outcome
  obtain ⟨before, bad, after, rfl, isBad, good⟩ := exists_first_bad context.clock found
  have inhabited : Nonempty SliceReading := ⟨⟨[], 0, []⟩⟩
  choose! reading sound using fun file member => (good file member).2
  obtain ⟨unfailing, -, totals⟩ := readFiles_of_sound sound
  obtain ⟨failure, blames, failed, sameTotals⟩ := readFiles_append_bad unfailing isBad
  rw [totals, List.length_flatMap] at sameTotals
  have notNone : (readFiles read decoder context.clock (before ++ [bad])).error ≠ none := by
    rw [failed]
    nofun
  -- What is read up to the failure decides the report, whatever follows.
  have reports : ∀ other later, (∀ file ∈ before ++ [bad], other file.path = read file.path) →
      (runTask dispatcher context sink other obstacles false engine (before ++ bad :: later)
        store).report =
        { engine
          status := .failed failure
          totals := (readFiles read decoder context.clock (before ++ [bad])).totals } := by
    intro other later same
    rw [runTask_of_supported supported, List.append_cons,
      readFiles_append_of_agree notNone same later, writeReading_of_error failed]
  have report := reports read after fun _ _ => rfl
  refine ⟨before, bad, after, reading, failure, failure.message, rfl, isBad, ?_, blames, ?_, ?_, ?_⟩
  · intro file member
    exact ⟨(good file member).1, sound file member⟩
  · rw [report]
    rfl
  · rw [report, sameTotals]
  · intro other later same
    rw [reports other later same, report]

/-- Three files of events: a good one with a fragment, one whose second event declares a
wrong length, and one that is not there. -/
theorem runTask_stops_at_first_bad_file_second_of_three :
    let context : Context :=
      ⟨"run", .gen2, ⟨⟨0, 0, 1.0⟩, 1000000, none, by decide⟩, "run/sqlite/device_trace.db"⟩
    let event : List UInt8 := [0x5A, 0x5A, 64, 0, 7, 0] ++ List.replicate 58 0
    let read : FilePath → Except FileFault (List UInt8) := fun path =>
      if path = "hccl.data.0.slice_0" then .ok (event ++ [1, 2, 3])
      else if path = "hccl.data.0.slice_1" then .ok (event ++ event.set 2 63)
      else .error .notFound
    let files : List SliceFile := [⟨"hccl.data.0.slice_0", 0, 0⟩, ⟨"hccl.data.0.slice_1", 0, 1⟩,
      ⟨"hccl.data.0.slice_2", 0, 2⟩]
    let run := fun read files =>
      (runTask ⟨Dispatcher.builtinRegistrations⟩ context ⟨context.storePath, 3⟩ read {} false .hccl
        files {}).report
    (run read files).status.reason? = some ("hccl.data.0.slice_1: offset 64: " ++
        "hccl: record declares 63 bytes but the layout is 64 bytes") ∧
      (run read files).totals = ⟨1, 1, 3, 0⟩ ∧
      ∃ before bad after, files = before ++ bad :: after ∧ bad.Bad read .hccl ∧
        ∀ other later, (∀ file ∈ before ++ [bad], other file.path = read file.path) →
          run other (before ++ bad :: later) = run read files := by
  intro context event read files run
  have missing : (⟨"hccl.data.0.slice_2", 0, 2⟩ : SliceFile).Bad read .hccl :=
    .unreadable (show _ = Except.error FileFault.notFound by decide)
  have third : ⟨"hccl.data.0.slice_2", 0, 2⟩ ∈ files :=
    List.mem_cons_of_mem _ (List.mem_cons_of_mem _ List.mem_cons_self)
  obtain ⟨before, bad, after, -, -, -, split, isBad, -, -, -, -, same⟩ :=
    @runTask_stops_at_first_bad_file ⟨Dispatcher.builtinRegistrations⟩ context
      ⟨context.storePath, 3⟩ read {} .hccl files .hccl {} rfl ⟨_, third, missing⟩
  exact ⟨by decide +kernel, by decide +kernel, before, bad, after, split, isBad, same⟩

end AcceleratorTrace
