import AcceleratorTrace.Proofs.DecoderRegistry
import AcceleratorTrace.Slice

/-!
# The tables of an engine

Every decoder makes records of one table, and consistent decoder tables give an
engine only decoders of its own.  So the records of an engine go to one table,
to which scheduler logs add the table of spans; no two engines share a table.
-/

namespace AcceleratorTrace

namespace Engine

/-- The table that takes the records of an engine as they are read. -/
def table : Engine → Table
  | .taskTrack => .blockLog
  | .starsLog => .starsLog
  | .aiCpu => .aiCpu
  | .qos => .qos
  | .hccl => .hccl
  | .npuMem => .npuMem

/-- The tables that the task of an engine writes. -/
def tables (engine : Engine) : List Table :=
  if engine = .starsLog then [engine.table, .taskTime] else [engine.table]

theorem table_mem_tables (engine : Engine) : engine.table ∈ engine.tables := by
  cases engine <;> decide

theorem table_ne_taskTime (engine : Engine) : engine.table ≠ .taskTime := by
  cases engine <;> decide

theorem policy_table (engine : Engine) : engine.table.policy = .append := by
  cases engine <;> rfl

theorem tables_disjoint {first second : Engine} {table : Table} (different : first ≠ second)
    (member : table ∈ first.tables) : table ∉ second.tables := by
  revert table
  cases first <;> cases second <;> first | exact absurd rfl different | decide

end Engine

namespace Decoder

theorem recordSize_pos (decoder : Decoder) : 0 < decoder.recordSize := by
  cases decoder <;> decide

private theorem read?_table {decoder : Decoder} {raw : List UInt8} {record : Record}
    (success : decoder.read? raw = some record) : record.table = decoder.engine.table := by
  cases decoder with
  | blockLog =>
      obtain ⟨fields, -, rfl⟩ := Option.map_eq_some_iff.mp success
      rfl
  | starsLog =>
      obtain ⟨fields, -, rfl⟩ := Option.map_eq_some_iff.mp success
      rfl
  | aiCpuV1 =>
      obtain ⟨fields, -, rfl⟩ := Option.map_eq_some_iff.mp success
      rfl
  | aiCpuV4 =>
      obtain ⟨fields, -, rfl⟩ := Option.map_eq_some_iff.mp success
      rfl
  | qos =>
      obtain ⟨fields, -, rfl⟩ := Option.map_eq_some_iff.mp success
      rfl
  | hccl =>
      obtain ⟨fields, -, rfl⟩ := Option.map_eq_some_iff.mp success
      rfl
  | npuMem =>
      obtain ⟨fields, -, rfl⟩ := Option.map_eq_some_iff.mp success
      rfl

theorem read?_of_decode {decoder : Decoder} {raw : List UInt8} {record : Record}
    (success : decoder.decode raw = .ok record) : decoder.read? raw = some record := by
  unfold decode at success
  split at success
  · cases success
  · split at success
    · cases success
    · split at success
      · cases success
      · rename_i found read
        cases success
        exact read

/-- A decoder makes records of one table only. -/
theorem decode_table {decoder : Decoder} {raw : List UInt8} {record : Record}
    (success : decoder.decode raw = .ok record) : record.table = decoder.engine.table :=
  read?_table (read?_of_decode success)

end Decoder

namespace Dispatcher

/-- Accepted tables give an engine only decoders of its own. -/
theorem engine_of_decoderFor {declared : List Support} {registrations : List Registration}
    {dispatcher : Dispatcher} {chip : Chip} {engine : Engine} {decoder : Decoder}
    (built : build declared registrations = .ok dispatcher)
    (found : dispatcher.decoderFor chip engine = .ok decoder) : decoder.engine = engine := by
  obtain ⟨checked, rfl⟩ := checked_of_build built
  unfold decoderFor at found
  split at found
  · rename_i registration lookup
    cases found
    have serves := List.find?_some lookup
    have member := (Registry.reflects_ofTable registrations).within registration
      (List.mem_of_find?_eq_some lookup)
    have passed := checked registration member
    simp only [Registration.serves, Bool.and_eq_true, beq_iff_eq] at serves
    simp only [Registration.check] at passed
    split at passed
    · cases passed
    · rename_i matching
      rw [← serves.2]
      exact Decidable.not_not.mp matching
  · cases found

end Dispatcher

/-- A record that spans time has two wall times, any other has one. -/
theorem Clock.timeRecord_eq (clock : Clock) (device : UInt32) (record : Record) :
    (clock.timeRecord device record).1 = ⟨device, record, some (clock.wallNs record.startCycle),
      record.endCycle?.map clock.wallNs⟩ := by
  unfold timeRecord
  split
  · rename_i ends
    rw [ends]
    rfl
  · rename_i ends
    rw [ends]
    rfl

theorem timeRecord_record (clock : Clock) (device : UInt32) (record : Record) :
    (clock.timeRecord device record).1.record = record := by
  rw [clock.timeRecord_eq]

end AcceleratorTrace
