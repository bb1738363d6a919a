import AcceleratorTrace.Proofs.PairedPositions
import AcceleratorTrace.Proofs.SucceededTask

/-!
# Devices are paired apart

A pairing gives up what waits when the records move on to another device.  The
files of a task stand by device, so this happens once for each device, after its
last slice: pairing all records of a task is pairing the records of each device for
itself.
-/

namespace AcceleratorTrace

namespace Pairing

/-- A pairing that started when another was over, with what came of both. -/
def after (base pairing : Pairing) : Pairing where
  device := pairing.device
  waiting := pairing.waiting
  spans := base.spans ++ pairing.spans
  unmatchedStarts := base.openStarts + pairing.unmatchedStarts
  unmatchedEnds := base.unmatchedEnds + pairing.unmatchedEnds

variable {base pairing : Pairing} {device : UInt32}

theorem openStarts_after : (base.after pairing).openStarts = base.openStarts + pairing.openStarts :=
  Nat.add_assoc _ _ _

theorem enter_after : (base.after pairing).enter device = base.after (pairing.enter device) := by
  by_cases same : pairing.device = some device
  · simp [enter, after, same]
  · simp [enter, after, same, Nat.add_assoc]

theorem take_after (record : StarsLog) :
    (base.after pairing).take device record = base.after (pairing.take device record) := by
  cases kind : record.funcType with
  | taskStart => simp [take, after, kind]
  | taskEnd =>
      cases found : waitingFor? pairing.waiting record.key with
      | none => simp [take, after, kind, found, Nat.add_assoc]
      | some start => simp [take, after, kind, found]
  | unknown code => simp [take, after, kind]

theorem push_after (record : StarsLog) :
    (base.after pairing).push device record = base.after (pairing.push device record) := by
  rw [push, push, enter_after, take_after]

theorem extend_cons_of_starsLog {timed : TimedRecord} {record : StarsLog}
    (rest : List TimedRecord) (kind : timed.record = .starsLog record) :
    pairing.extend (timed :: rest) = (pairing.push timed.device record).extend rest := by
  simp [extend, kind]

theorem extend_after (records : List TimedRecord) :
    (base.after pairing).extend records = base.after (pairing.extend records) := by
  induction records generalizing pairing with
  | nil => rfl
  | cons timed rest induction =>
      cases kind : timed.record with
      | starsLog record =>
          rw [extend_cons_of_starsLog rest kind, extend_cons_of_starsLog rest kind, push_after,
            induction]
      | _ => simpa [extend, kind] using induction

theorem enter_of_ne (moved : base.device ≠ some device) :
    base.enter device = base.after (({} : Pairing).enter device) := by
  simp [enter, after, moved, openStarts]

@[simp] theorem device_push (record : StarsLog) :
    (pairing.push device record).device = some device := by
  rw [push, take]
  split
  · exact enter_device
  · split <;> exact enter_device
  · exact enter_device

theorem device_extend {records : List TimedRecord} (current : pairing.device = some device)
    (own : ∀ timed ∈ records, timed.device = device) :
    (pairing.extend records).device = some device := by
  induction records generalizing pairing with
  | nil => exact current
  | cons timed rest induction =>
      have later := fun other member => own other (List.mem_cons_of_mem _ member)
      cases kind : timed.record with
      | starsLog record =>
          rw [extend_cons_of_starsLog rest kind, own timed List.mem_cons_self]
          exact induction (device_push record) later
      | _ => simpa [extend, kind] using induction current later

/-- The records of another device are taken as if they were the only ones. -/
theorem extend_of_ne {records : List TimedRecord} (moved : base.device ≠ some device)
    (own : ∀ timed ∈ records, timed.device = device) :
    base.extend records = base ∧ ({} : Pairing).extend records = {} ∨
      base.extend records = base.after (({} : Pairing).extend records) ∧
        (base.extend records).device = some device := by
  induction records with
  | nil => exact .inl ⟨rfl, rfl⟩
  | cons timed rest induction =>
      have later := fun other member => own other (List.mem_cons_of_mem _ member)
      cases kind : timed.record with
      | starsLog record =>
          refine .inr ⟨?_, ?_⟩
          · rw [extend_cons_of_starsLog rest kind, extend_cons_of_starsLog rest kind,
              own timed List.mem_cons_self, push, enter_of_ne moved, take_after, extend_after]
            rfl
          · rw [extend_cons_of_starsLog rest kind, own timed List.mem_cons_self]
            exact device_extend (device_push record) later
      | _ => simpa [extend, kind] using induction later

theorem extend_append (first second : List TimedRecord) :
    pairing.extend (first ++ second) = (pairing.extend first).extend second :=
  List.foldl_append

theorem extend_devices {records : UInt32 → List TimedRecord}
    (own : ∀ device, ∀ timed ∈ records device, timed.device = device) (devices : List UInt32)
    (distinct : devices.Nodup) (base : Pairing)
    (new : ∀ device ∈ devices, base.device ≠ some device) :
    let alone := fun device => ({} : Pairing).extend (records device)
    let all := base.extend (devices.flatMap records)
    all.spans = base.spans ++ devices.flatMap (fun device => (alone device).spans) ∧
      all.openStarts = base.openStarts + (devices.map fun device => (alone device).openStarts).sum ∧
      all.unmatchedEnds =
        base.unmatchedEnds + (devices.map fun device => (alone device).unmatchedEnds).sum := by
  intro alone
  induction devices generalizing base with
  | nil => simp [extend]
  | cons device rest induction =>
      obtain ⟨apart, distinctRest⟩ := List.nodup_cons.mp distinct
      have moved := new device List.mem_cons_self
      intro all
      have split : all = (base.extend (records device)).extend (rest.flatMap records) :=
        extend_append _ _
      rcases extend_of_ne moved (own device) with ⟨unmoved, nothing⟩ | ⟨joined, current⟩
      · have later := induction distinctRest base
          fun other member => new other (List.mem_cons_of_mem _ member)
        rw [split, unmoved]
        simpa [alone, nothing, openStarts] using later
      · have later := induction distinctRest (base.extend (records device)) (by
          intro other member same
          rw [current] at same
          cases same
          exact apart member)
        rw [← split] at later
        rw [later.1, later.2.1, later.2.2, joined, openStarts_after]
        simp [alone, after, Nat.add_assoc]

end Pairing

/-- Pairing the records of several devices is pairing those of each for itself. -/
theorem pairRecords_devices (clock : Clock) {records : UInt32 → List TimedRecord}
    (own : ∀ device, ∀ timed ∈ records device, timed.device = device) {devices : List UInt32}
    (distinct : devices.Nodup) :
    let alone := fun device => pairRecords clock (records device)
    let all := pairRecords clock (devices.flatMap records)
    all.records = devices.flatMap (fun device => (alone device).records) ∧
      all.unmatchedStarts = (devices.map fun device => (alone device).unmatchedStarts).sum ∧
      all.unmatchedEnds = (devices.map fun device => (alone device).unmatchedEnds).sum := by
  intro alone all
  obtain ⟨spans, starts, ends⟩ :=
    Pairing.extend_devices own devices distinct {} fun _ _ => nofun
  refine ⟨?_, ?_, ?_⟩
  · simp [all, alone, pairRecords, Pairing.finish, spans, List.map_flatMap]
  · exact starts.trans (Nat.zero_add _)
  · exact ends.trans (Nat.zero_add _)

/-- The devices of files, each once. -/
def devicesOf (files : List SliceFile) : List UInt32 := (files.map SliceFile.device).dedup

/-- The files of one device. -/
def filesOf (files : List SliceFile) (device : UInt32) : List SliceFile :=
  files.filter fun file => file.device = device

section Order

variable {files : List SliceFile} {device : UInt32} {devices : List UInt32}

theorem filesOf_append (ordered : files.Pairwise fun first second => first.device ≤ second.device)
    (least : ∀ file ∈ files, device ≤ file.device) :
    filesOf files device ++ files.filter (fun file => file.device ≠ device) = files := by
  induction files with
  | nil => rfl
  | cons file rest induction =>
      obtain ⟨after, orderedRest⟩ := List.pairwise_cons.mp ordered
      by_cases here : file.device = device
      · have later := induction orderedRest
          fun other member => least other (List.mem_cons_of_mem _ member)
        simpa [filesOf, here] using later
      · have gone : ∀ other ∈ file :: rest, other.device ≠ device := by
          intro other member same
          rcases List.mem_cons.mp member with rfl | among
          · exact here same
          · have below := least file List.mem_cons_self
            exact here (UInt32.le_antisymm (same ▸ after other among) below)
        have none : filesOf (file :: rest) device = [] := by
          apply List.filter_eq_nil_iff.mpr
          intro other member
          simpa using gone other member
        rw [none, List.nil_append, List.filter_eq_self]
        intro other member
        simpa using gone other member

theorem flatMap_filesOf (increasing : devices.Pairwise (· < ·))
    (ordered : files.Pairwise fun first second => first.device ≤ second.device)
    (known : ∀ file ∈ files, file.device ∈ devices) : devices.flatMap (filesOf files) = files := by
  induction devices generalizing files with
  | nil =>
      symm
      apply List.eq_nil_iff_forall_not_mem.mpr
      intro file member
      exact List.not_mem_nil (known file member)
  | cons device rest induction =>
      obtain ⟨below, increasingRest⟩ := List.pairwise_cons.mp increasing
      let others := files.filter fun file => file.device ≠ device
      have least : ∀ file ∈ files, device ≤ file.device := by
        intro file member
        rcases List.mem_cons.mp (known file member) with same | later
        · rw [same]
          exact UInt32.le_refl _
        · exact UInt32.le_of_lt (below _ later)
      have knownOthers : ∀ file ∈ others, file.device ∈ rest := by
        intro file member
        obtain ⟨among, different⟩ := List.mem_filter.mp member
        exact (List.mem_cons.mp (known file among)).resolve_left (of_decide_eq_true different)
      have sameFiles : rest.flatMap (filesOf files) = rest.flatMap (filesOf others) := by
        apply List.flatMap_congr
        intro other member
        have different : other ≠ device := (UInt32.ne_of_lt (below other member)).symm
        simp only [others, filesOf, List.filter_filter]
        apply List.filter_congr
        intro file _
        by_cases here : file.device = other <;> simp [here, different]
      rw [List.flatMap_cons, sameFiles, induction increasingRest (ordered.filter _) knownOthers]
      exact filesOf_append ordered least

theorem device_of_mem_filesOf {file : SliceFile} (member : file ∈ filesOf files device) :
    file.device = device :=
  of_decide_eq_true (List.mem_filter.mp member).2

theorem mem_devicesOf : device ∈ devicesOf files ↔ ∃ file ∈ files, file.device = device := by
  rw [devicesOf, List.mem_dedup, List.mem_map]

theorem pairwise_devicesOf
    (ordered : files.Pairwise fun first second => first.device ≤ second.device) :
    (devicesOf files).Pairwise (· < ·) := by
  have increasing : (devicesOf files).Pairwise (· ≤ ·) :=
    (List.pairwise_map.mpr ordered).sublist (List.dedup_sublist _)
  refine (increasing.and (List.nodup_dedup _)).imp ?_
  intro first second both
  exact UInt32.lt_of_le_of_ne both.1 both.2

end Order

theorem timeRecord_device (clock : Clock) (device : UInt32) (record : Record) :
    (clock.timeRecord device record).1.device = device := by
  rw [clock.timeRecord_eq]

theorem fileRecords_device {read : FilePath → Except FileFault (List UInt8)} {decoder : Decoder}
    {clock : Clock} {file : SliceFile} :
    ∀ timed ∈ fileRecords read decoder clock file, timed.device = file.device := by
  intro timed member
  unfold fileRecords at member
  split at member
  · cases member
  · obtain ⟨record, -, rfl⟩ := List.mem_map.mp member
    exact timeRecord_device clock file.device record

theorem pairRecords_files (read : FilePath → Except FileFault (List UInt8)) (decoder : Decoder)
    (clock : Clock) {files : List SliceFile}
    (ordered : files.Pairwise fun first second => first.device ≤ second.device) :
    let paired := fun device =>
      pairRecords clock ((filesOf files device).flatMap (fileRecords read decoder clock))
    let all := pairRecords clock (files.flatMap (fileRecords read decoder clock))
    all.records = (devicesOf files).flatMap (fun device => (paired device).records) ∧
      all.unmatchedStarts + all.unmatchedEnds = ((devicesOf files).map fun device =>
        (paired device).unmatchedStarts + (paired device).unmatchedEnds).sum := by
  intro paired all
  have grouped : files.flatMap (fileRecords read decoder clock) =
      (devicesOf files).flatMap fun device =>
        (filesOf files device).flatMap (fileRecords read decoder clock) := by
    rw [← List.flatMap_assoc, flatMap_filesOf (pairwise_devicesOf ordered) ordered]
    intro file member
    exact mem_devicesOf.mpr ⟨file, member, rfl⟩
  have own : ∀ device, ∀ timed ∈ (filesOf files device).flatMap (fileRecords read decoder clock),
      timed.device = device := by
    intro device timed member
    obtain ⟨file, among, here⟩ := List.mem_flatMap.mp member
    rw [fileRecords_device timed here]
    exact device_of_mem_filesOf among
  obtain ⟨spans, starts, ends⟩ :=
    pairRecords_devices clock own (List.nodup_dedup (files.map SliceFile.device))
  simp only [all, grouped]
  refine ⟨spans, ?_⟩
  exact (congrArg₂ (· + ·) starts ends).trans List.sum_map_add.symm

/-- A regular file with a name that is text. -/
def DirectoryEntry.ofText (text : String) : DirectoryEntry := ⟨text.toUTF8.data.toList, .file⟩

theorem DirectoryEntry.sliceFile?_ofText {text : String} {name : SliceName}
    (named : SliceName.parse? text = some name) :
    (ofText text).sliceFile? "" = some (name.engine, ⟨text, name.device, name.slice⟩) := by
  have decoded : (ofText text).fileText? = some text := textOfBytes?_eq_some_iff.mpr rfl
  have joined : Path.join "" text = text := by simp [Path.join]
  simp [sliceFile?, decoded, named, joined]

/-- The table of spans is made device by device.  After a scheduler task that
succeeded it holds, for the devices of the files in increasing order, the spans of
all records of the device, slice after slice and nothing else; and the report counts
what each device has left over. -/
theorem taskTime_is_paired_by_device {declared : List Support}
    {registrations : List Registration} {dispatcher : Dispatcher} {context : Context} {sink : Sink}
    {read : FilePath → Except FileFault (List UInt8)} {obstacles : Obstacles} {cancelled : Bool}
    {files : List SliceFile} {store : Store}
    (built : Dispatcher.build declared registrations = .ok dispatcher)
    (gathered : FileSet .starsLog files)
    (succeeded : (runTask dispatcher context sink read obstacles cancelled .starsLog files
      store).report.status = .succeeded) :
    let outcome := runTask dispatcher context sink read obstacles cancelled .starsLog files store
    let paired := fun device => pairRecords context.clock
      ((filesOf files device).flatMap (fileRecords read .starsLog context.clock))
    (devicesOf files).Pairwise (· < ·) ∧
      (∀ device, device ∈ devicesOf files ↔ ∃ file ∈ files, file.device = device) ∧
      (∀ device, (filesOf files device).Pairwise fun first second => first.slice ≤ second.slice) ∧
      outcome.store.tables.get .taskTime = some (.rows
        (((devicesOf files).flatMap fun device => (paired device).records).map
          TimedRecord.row)) ∧
      outcome.report.unmatched = ((devicesOf files).map fun device =>
        (paired device).unmatchedStarts + (paired device).unmatchedEnds).sum := by
  intro outcome paired
  obtain ⟨decoder, supported, stored, unmatched⟩ := runTask_of_succeeded built succeeded
  obtain rfl : decoder = .starsLog := by
    have served := Dispatcher.engine_of_decoderFor built supported
    cases decoder with
    | starsLog => rfl
    | _ => cases served
  have ordered : files.Pairwise fun first second => first.device ≤ second.device := by
    refine gathered.ordered.imp ?_
    rintro first second (below | ⟨same, -⟩)
    · exact UInt32.le_of_lt below
    · exact UInt32.le_of_eq same
  obtain ⟨spans, counts⟩ := pairRecords_files read .starsLog context.clock ordered
  refine ⟨pairwise_devicesOf ordered, fun device => mem_devicesOf, ?_, ?_, ?_⟩
  · intro device
    refine (gathered.ordered.filter _).imp_of_mem ?_
    rintro first second firstMember secondMember (below | ⟨-, slices⟩)
    · rw [device_of_mem_filesOf firstMember, device_of_mem_filesOf secondMember] at below
      exact absurd below (UInt32.lt_irrefl device)
    · exact slices
  · rw [stored.spans rfl, spans]
  · rw [unmatched rfl, counts]

/-- A start of device 0 is left over, although the next record of the same task is an
end: that one belongs to device 1, like the start one slice before it. -/
theorem taskTime_is_paired_by_device_two_devices :
    let context : Context :=
      ⟨"run", .gen4, ⟨⟨0, 0, 1.0⟩, 1000000, none, by decide⟩, "run/sqlite/device_trace.db"⟩
    let files : List SliceFile := [⟨"stars_soc.data.0.slice_0", 0, 0⟩,
      ⟨"stars_soc.data.1.slice_0", 1, 0⟩, ⟨"stars_soc.data.1.slice_1", 1, 1⟩]
    let read := fun path : FilePath =>
      if path = "stars_soc.data.1.slice_1" then .ok (1 :: List.replicate 31 0)
      else .ok (List.replicate 32 0)
    let outcome := runTask ⟨Dispatcher.builtinRegistrations⟩ context ⟨context.storePath, 3⟩
      read {} false .starsLog files {}
    let paired := fun device => pairRecords context.clock
      ((filesOf files device).flatMap (fileRecords read .starsLog context.clock))
    FileSet .starsLog files ∧ outcome.report.status = .succeeded ∧
      outcome.store.rows .taskTime = ([0, 1].flatMap fun device => (paired device).records).map
        TimedRecord.row ∧
      (paired 0).records.length = 0 ∧ (paired 1).records.length = 1 ∧
      outcome.report.unmatched = 1 := by
  intro context files read outcome paired
  have first : SliceName.parse? "stars_soc.data.0.slice_0" = some ⟨.starsLog, 0, 0⟩ := by cbv
  have second : SliceName.parse? "stars_soc.data.1.slice_0" = some ⟨.starsLog, 1, 0⟩ := by cbv
  have third : SliceName.parse? "stars_soc.data.1.slice_1" = some ⟨.starsLog, 1, 1⟩ := by cbv
  have found : (Engine.starsLog, sortFiles files) ∈ groupSlices "" [
      .ofText "stars_soc.data.0.slice_0", .ofText "stars_soc.data.1.slice_0",
      .ofText "stars_soc.data.1.slice_1"] := by
    simp [groupSlices, DirectoryEntry.sliceFile?_ofText first,
      DirectoryEntry.sliceFile?_ofText second, DirectoryEntry.sliceFile?_ofText third, Engine.all,
      files]
  have gathered : FileSet .starsLog files := by
    rw [sortFiles, List.mergeSort_of_pairwise (by decide)] at found
    exact .found found
  have succeeded : outcome.report.status = .succeeded := by decide +kernel
  obtain ⟨-, -, -, rows, unmatched⟩ := @taskTime_is_paired_by_device Dispatcher.builtinSupport
    Dispatcher.builtinRegistrations ⟨Dispatcher.builtinRegistrations⟩ context
    ⟨context.storePath, 3⟩ read {} false files {} rfl gathered succeeded
  refine ⟨gathered, succeeded, ?_, by decide +kernel, by decide +kernel, ?_⟩
  · rw [Store.rows, rows]
    rfl
  · exact unmatched.trans (by decide +kernel)

end AcceleratorTrace
