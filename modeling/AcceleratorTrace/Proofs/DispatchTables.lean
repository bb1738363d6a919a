import AcceleratorTrace.Proofs.EngineTables
import Mathlib

/-!
# Tables that agree

`Dispatcher.build` compares two tables of any length.  It accepts them exactly if
every decoder is registered for its own engine, no pair is registered twice, and the
registered pairs are the declared ones; lookups then answer from either table.  A
defect it gives is one that the tables really have.  Nothing depends on the order in
which the registered pairs are visited, except which of several defects is given.
-/

namespace AcceleratorTrace

/-- The decoder is one for the engine it is registered for. -/
def Registration.Matches (registration : Registration) : Prop :=
  registration.decoder.engine = registration.engine

/-- A chip is declared to support an engine. -/
def Declared (declared : List Support) (chip : Chip) (engine : Engine) : Prop :=
  ∃ support ∈ declared, support.chip = chip ∧ engine ∈ support.engines

/-- Some decoder is registered for an engine on a chip. -/
def Registered (registrations : List Registration) (chip : Chip) (engine : Engine) : Prop :=
  ∃ decoder, ⟨chip, engine, decoder⟩ ∈ registrations

/-- The two tables say the same. -/
structure Consistent (declared : List Support) (registrations : List Registration) : Prop where
  matching : ∀ registration ∈ registrations, registration.Matches
  distinct : (registrations.map Registration.pair).Nodup
  agree : ∀ chip engine, Registered registrations chip engine ↔ Declared declared chip engine

/-- A defect that the tables have.  All defects but the first kind are looked for only
if every decoder matches, and a decoder is missing only if nothing else is wrong. -/
def DispatchDefect.Genuine (declared : List Support) (registrations : List Registration) :
    DispatchDefect → Prop
  | .engineMismatch chip engine actual =>
      ∃ before decoder after, registrations = before ++ ⟨chip, engine, decoder⟩ :: after ∧
        decoder.engine = actual ∧ actual ≠ engine ∧
        ∀ earlier ∈ before, earlier.Matches
  | .duplicate chip engine count =>
      (∀ registration ∈ registrations, registration.Matches) ∧
        count = (registrations.map Registration.pair).count (chip, engine) ∧ 1 < count
  | .undeclared chip engine =>
      (∀ registration ∈ registrations, registration.Matches) ∧
        Registered registrations chip engine ∧ ¬ Declared declared chip engine
  | .missing chip engine =>
      (∀ registration ∈ registrations, registration.Matches) ∧
        (registrations.map Registration.pair).Nodup ∧
        (∀ chip engine, Registered registrations chip engine → Declared declared chip engine) ∧
        Declared declared chip engine ∧ ¬ Registered registrations chip engine
  | .badLayout _ _ => False

namespace Dispatcher

variable {declared : List Support} {registrations walk : List Registration}
  {chip : Chip} {engine : Engine}

theorem declares_iff : declares declared chip engine = true ↔ Declared declared chip engine := by
  simp [declares, Declared]

theorem mem_pairs_iff_declared :
    (chip, engine) ∈ pairs declared ↔ Declared declared chip engine := by
  simp [pairs, Declared, and_comm]

theorem registered_of_mem {registration : Registration} (member : registration ∈ registrations) :
    Registered registrations registration.chip registration.engine :=
  ⟨registration.decoder, member⟩

theorem any_serves_iff :
    (registrations.any fun registration => registration.serves chip engine) = true ↔
      Registered registrations chip engine := by
  simp only [List.any_eq_true, Registration.serves, Bool.and_eq_true, beq_iff_eq]
  constructor
  · rintro ⟨registration, member, rfl, rfl⟩
    exact registered_of_mem member
  · rintro ⟨decoder, member⟩
    exact ⟨_, member, rfl, rfl⟩

theorem layout_check (decoder : Decoder) : decoder.layout.check = .ok () := by
  cases decoder <;> rfl

theorem check_of_matches {registration : Registration} (matching : registration.Matches) :
    registration.check = .ok () := by
  rw [Registration.Matches] at matching
  simp [Registration.check, matching, layout_check]

theorem check_of_mismatch {registration : Registration} (mismatch : ¬ registration.Matches) :
    registration.check = .error (.engineMismatch registration.chip registration.engine
      registration.decoder.engine) :=
  if_pos mismatch

theorem check_eq_ok_iff (registration : Registration) :
    registration.check = .ok () ↔ registration.Matches := by
  constructor
  · intro passed
    by_contra mismatch
    rw [check_of_mismatch mismatch] at passed
    cases passed
  · exact check_of_matches

/-- The check of a registered pair, with the count that the registry has for it. -/
def checkVisited (declared : List Support) (registry : Registry) (registration : Registration) :
    Except DispatchDefect Unit :=
  checkCount declared (registration.pair, registry.count registration.pair)

theorem checkVisited_eq_ok_iff (registration : Registration) :
    checkVisited declared (.ofTable registrations) registration = .ok () ↔
      (registrations.map Registration.pair).count registration.pair ≤ 1 ∧
        Declared declared registration.chip registration.engine := by
  rw [checkVisited, (Registry.reflects_ofTable registrations).counted, checkCount, ← declares_iff]
  split
  · rename_i repeated
    exact iff_of_false nofun (by omega)
  · rename_i single
    split
    · rename_i known
      exact iff_of_true rfl ⟨by omega, known⟩
    · rename_i unknown
      exact iff_of_false nofun (fun sound => unknown sound.2)

theorem checkVisited_eq_error {registration : Registration} {defect : DispatchDefect}
    (failed : checkVisited declared (.ofTable registrations) registration = .error defect) :
    let count := (registrations.map Registration.pair).count registration.pair
    defect = .duplicate registration.chip registration.engine count ∧ 1 < count ∨
      defect = .undeclared registration.chip registration.engine ∧
        ¬ Declared declared registration.chip registration.engine := by
  rw [checkVisited, (Registry.reflects_ofTable registrations).counted, checkCount] at failed
  split at failed
  · rename_i repeated
    cases failed
    exact .inl ⟨rfl, repeated⟩
  · split at failed
    · cases failed
    · rename_i unknown
      cases failed
      exact .inr ⟨rfl, fun known => unknown (declares_iff.mpr known)⟩

theorem checkDeclared_eq_ok_iff (pair : Chip × Engine) :
    checkDeclared registrations pair = .ok () ↔ Registered registrations pair.1 pair.2 := by
  rw [← any_serves_iff, checkDeclared]
  split
  · rename_i found
    exact iff_of_true rfl found
  · rename_i absent
    exact iff_of_false nofun absent

theorem checkDeclared_eq_error {pair : Chip × Engine} {defect : DispatchDefect}
    (failed : checkDeclared registrations pair = .error defect) :
    defect = .missing pair.1 pair.2 ∧ ¬ Registered registrations pair.1 pair.2 := by
  rw [checkDeclared] at failed
  split at failed
  · cases failed
  · rename_i absent
    cases failed
    exact ⟨rfl, fun found => absent (any_serves_iff.mpr found)⟩

/-- Checks the tables as `build` does, but visits the registered pairs in the order of
the walk. -/
def buildAlong (walk : List Registration) (declared : List Support)
    (registrations : List Registration) : Except DispatchDefect Dispatcher := do
  let registry ← registrations.foldlM Registry.register {}
  walk.forM (checkVisited declared registry)
  (pairs declared).forM (checkDeclared registry.latest)
  return ⟨registry.latest⟩

theorem checkDeclared_latest (registrations : List Registration) :
    checkDeclared (Registry.ofTable registrations).latest = checkDeclared registrations := by
  funext pair
  rw [checkDeclared, checkDeclared, (Registry.reflects_ofTable registrations).any_latest]

theorem buildAlong_eq (walk : List Registration) (declared : List Support)
    (registrations : List Registration) :
    buildAlong walk declared registrations = do
      registrations.forM Registration.check
      walk.forM (checkVisited declared (.ofTable registrations))
      (pairs declared).forM (checkDeclared registrations)
      return ⟨(Registry.ofTable registrations).latest⟩ := by
  rw [buildAlong, Registry.foldlM_register, ← checkDeclared_latest]
  cases registrations.forM Registration.check with
  | error defect => rfl
  | ok value => rfl

/-- The registry's own order of the pairs does what the order of their registrations does. -/
theorem build_eq_buildAlong (declared : List Support) (registrations : List Registration) :
    build declared registrations = buildAlong registrations declared registrations := by
  rw [build_eq, buildAlong_eq, (Registry.reflects_ofTable registrations).forM_counts,
    checkDeclared_latest]
  rfl

/-- A walk that visits every registered pair, in any order and any number of times. -/
structure Visits (walk registrations : List Registration) : Prop where
  within : ∀ registration ∈ walk, registration ∈ registrations
  reaches : ∀ registration ∈ registrations, ∃ visited ∈ walk, visited.pair = registration.pair

/-- Either one of the three passes stops at a defect, the passes before it being clean,
or all are clean and the last registration of each pair is kept. -/
theorem buildAlong_cases (walk : List Registration) (declared : List Support)
    (registrations : List Registration) :
    (∃ defect, registrations.forM Registration.check = .error defect ∧
        buildAlong walk declared registrations = .error defect) ∨
      (∀ registration ∈ registrations, registration.check = .ok ()) ∧
        ((∃ defect, walk.forM (checkVisited declared (.ofTable registrations)) = .error defect ∧
            buildAlong walk declared registrations = .error defect) ∨
          (∀ registration ∈ walk,
              checkVisited declared (.ofTable registrations) registration = .ok ()) ∧
            ((∃ defect, (pairs declared).forM (checkDeclared registrations) = .error defect ∧
                buildAlong walk declared registrations = .error defect) ∨
              (∀ pair ∈ pairs declared, checkDeclared registrations pair = .ok ()) ∧
                buildAlong walk declared registrations =
                  .ok ⟨(Registry.ofTable registrations).latest⟩)) := by
  rw [buildAlong_eq]
  cases alone : registrations.forM Registration.check with
  | error defect => exact .inl ⟨defect, rfl, rfl⟩
  | ok value =>
      refine .inr ⟨(forM_eq_ok_iff registrations _).mp alone, ?_⟩
      cases visited : walk.forM (checkVisited declared (.ofTable registrations)) with
      | error defect => exact .inl ⟨defect, rfl, rfl⟩
      | ok value =>
          refine .inr ⟨(forM_eq_ok_iff walk _).mp visited, ?_⟩
          cases complete : (pairs declared).forM (checkDeclared registrations) with
          | error defect => exact .inl ⟨defect, rfl, rfl⟩
          | ok value => exact .inr ⟨(forM_eq_ok_iff (pairs declared) _).mp complete, rfl⟩

theorem matching_of_checked
    (checked : ∀ registration ∈ registrations, registration.check = .ok ()) :
    ∀ registration ∈ registrations, registration.Matches := by
  intro registration member
  exact (check_eq_ok_iff registration).mp (checked registration member)

/-- A clean walk leaves no pair registered twice and none undeclared. -/
theorem Visits.of_clean (visits : Visits walk registrations)
    (clean : ∀ registration ∈ walk,
      checkVisited declared (.ofTable registrations) registration = .ok ()) :
    (registrations.map Registration.pair).Nodup ∧
      ∀ chip engine, Registered registrations chip engine → Declared declared chip engine := by
  have reached : ∀ registration ∈ registrations,
      (registrations.map Registration.pair).count registration.pair ≤ 1 ∧
        Declared declared registration.chip registration.engine := by
    intro registration member
    obtain ⟨visited, visitedMember, same⟩ := visits.reaches registration member
    have sound := (checkVisited_eq_ok_iff visited).mp (clean visited visitedMember)
    obtain ⟨sameChip, sameEngine⟩ := Prod.mk.inj same
    rwa [same, sameChip, sameEngine] at sound
  constructor
  · apply List.nodup_iff_count_le_one.mpr
    intro pair
    by_cases member : pair ∈ registrations.map Registration.pair
    · obtain ⟨registration, registrationMember, rfl⟩ := List.mem_map.mp member
      exact (reached registration registrationMember).1
    · rw [List.count_eq_zero_of_not_mem member]
      exact Nat.zero_le 1
  · rintro chip engine ⟨decoder, member⟩
    exact (reached _ member).2

theorem buildAlong_of_consistent (visits : Visits walk registrations)
    (consistent : Consistent declared registrations) :
    buildAlong walk declared registrations = .ok ⟨registrations⟩ := by
  rcases buildAlong_cases walk declared registrations with
    ⟨defect, failed, -⟩ | ⟨-, ⟨defect, failed, -⟩ | ⟨-, ⟨defect, failed, -⟩ | ⟨-, built⟩⟩⟩
  · obtain ⟨before, registration, after, split, -, refused⟩ := forM_eq_error failed
    have member : registration ∈ registrations := by simp [split]
    rw [check_of_matches (consistent.matching registration member)] at refused
    cases refused
  · obtain ⟨before, registration, after, split, -, refused⟩ := forM_eq_error failed
    have member : registration ∈ registrations :=
      visits.within registration (by simp [split])
    have sound : checkVisited declared (.ofTable registrations) registration = .ok () := by
      apply (checkVisited_eq_ok_iff registration).mpr
      constructor
      · exact List.nodup_iff_count_le_one.mp consistent.distinct _
      · exact (consistent.agree _ _).mp (registered_of_mem member)
    rw [sound] at refused
    cases refused
  · obtain ⟨before, pair, after, split, -, refused⟩ := forM_eq_error failed
    have member : pair ∈ pairs declared := by simp [split]
    have sound : checkDeclared registrations pair = .ok () := by
      apply (checkDeclared_eq_ok_iff pair).mpr
      exact (consistent.agree _ _).mpr (mem_pairs_iff_declared.mp member)
    rw [sound] at refused
    cases refused
  · rw [built, (Registry.reflects_ofTable registrations).kept consistent.distinct]

theorem consistent_of_buildAlong {dispatcher : Dispatcher} (visits : Visits walk registrations)
    (success : buildAlong walk declared registrations = .ok dispatcher) :
    Consistent declared registrations ∧ dispatcher = ⟨registrations⟩ := by
  rcases buildAlong_cases walk declared registrations with
    ⟨defect, -, failed⟩ | ⟨checked, ⟨defect, -, failed⟩ | ⟨clean, ⟨defect, -, failed⟩ |
      ⟨complete, built⟩⟩⟩
  · rw [failed] at success
    cases success
  · rw [failed] at success
    cases success
  · rw [failed] at success
    cases success
  · rw [built] at success
    cases success
    obtain ⟨distinct, known⟩ := visits.of_clean clean
    rw [(Registry.reflects_ofTable registrations).kept distinct]
    refine ⟨⟨matching_of_checked checked, distinct, ?_⟩, rfl⟩
    intro chip engine
    constructor
    · exact known chip engine
    · intro supported
      have passed := complete (chip, engine) (mem_pairs_iff_declared.mpr supported)
      exact (checkDeclared_eq_ok_iff (chip, engine)).mp passed

theorem genuine_of_buildAlong {defect : DispatchDefect} (visits : Visits walk registrations)
    (failure : buildAlong walk declared registrations = .error defect) :
    defect.Genuine declared registrations := by
  rcases buildAlong_cases walk declared registrations with
    ⟨found, stopped, failed⟩ | ⟨checked, ⟨found, stopped, failed⟩ | ⟨clean,
      ⟨found, stopped, failed⟩ | ⟨-, built⟩⟩⟩
  · rw [failed] at failure
    cases failure
    obtain ⟨before, registration, after, split, earlier, refused⟩ := forM_eq_error stopped
    have mismatch : ¬ registration.Matches := by
      intro matching
      rw [check_of_matches matching] at refused
      cases refused
    rw [check_of_mismatch mismatch] at refused
    cases refused
    exact ⟨before, registration.decoder, after, split, rfl, mismatch, matching_of_checked earlier⟩
  · rw [failed] at failure
    cases failure
    obtain ⟨before, registration, after, split, -, refused⟩ := forM_eq_error stopped
    have member : registration ∈ registrations :=
      visits.within registration (by simp [split])
    rcases checkVisited_eq_error refused with ⟨rfl, repeated⟩ | ⟨rfl, unknown⟩
    · exact ⟨matching_of_checked checked, rfl, repeated⟩
    · exact ⟨matching_of_checked checked, registered_of_mem member, unknown⟩
  · rw [failed] at failure
    cases failure
    obtain ⟨before, pair, after, split, -, refused⟩ := forM_eq_error stopped
    have member : pair ∈ pairs declared := by simp [split]
    obtain ⟨rfl, absent⟩ := checkDeclared_eq_error refused
    obtain ⟨distinct, known⟩ := visits.of_clean clean
    exact ⟨matching_of_checked checked, distinct, known, mem_pairs_iff_declared.mp member, absent⟩
  · rw [built] at failure
    cases failure

theorem decoderFor_eq_ok_iff (distinct : (registrations.map Registration.pair).Nodup)
    (decoder : Decoder) :
    decoderFor ⟨registrations⟩ chip engine = .ok decoder ↔
      ⟨chip, engine, decoder⟩ ∈ registrations := by
  unfold decoderFor
  split
  · rename_i registration found
    have member := List.mem_of_find?_eq_some found
    have serves := List.find?_some found
    simp only [Registration.serves, Bool.and_eq_true, beq_iff_eq] at serves
    obtain ⟨rfl, rfl⟩ := serves
    simp only [Except.ok.injEq]
    constructor
    · intro same
      subst same
      exact member
    · intro other
      have equal := List.inj_on_of_nodup_map distinct member other rfl
      exact congrArg Registration.decoder equal
  · rename_i absent
    constructor
    · intro found
      cases found
    · intro member
      have refused := List.find?_eq_none.mp absent _ member
      simp [Registration.serves] at refused

theorem decoderFor_of_unregistered (absent : ¬ Registered registrations chip engine) :
    decoderFor ⟨registrations⟩ chip engine = .error ⟨chip, engine⟩ := by
  have nowhere : (registrations.find? fun registration =>
      registration.serves chip engine) = none := by
    rw [List.find?_eq_none]
    intro registration member serves
    exact absent (any_serves_iff.mp (List.any_eq_true.mpr ⟨registration, member, serves⟩))
  simp only [decoderFor, nowhere]

theorem mem_enginesOn_iff :
    engine ∈ enginesOn ⟨registrations⟩ chip ↔ Registered registrations chip engine := by
  have listed : engine ∈ Engine.all := by cases engine <;> decide
  rw [enginesOn, List.mem_filter, any_serves_iff, and_iff_right listed]

/-- The tables are accepted exactly if they agree, whatever the order in which the
registered pairs are visited.  Lookups then find the one registered decoder of every
declared pair and none for any other, and a chip has its declared engines in engine
order.  A defect is given only if the tables have it. -/
theorem build_decides_consistency (declared : List Support) (registrations : List Registration) :
    build declared registrations = buildAlong registrations declared registrations ∧
      ∀ walk, Visits walk registrations →
        let outcome := buildAlong walk declared registrations
        ((∃ dispatcher, outcome = .ok dispatcher) ↔ Consistent declared registrations) ∧
        (∀ dispatcher, outcome = .ok dispatcher → ∀ chip,
          (∀ engine,
            (∀ decoder, dispatcher.decoderFor chip engine = .ok decoder ↔
              ⟨chip, engine, decoder⟩ ∈ registrations) ∧
            (Declared declared chip engine →
              ∃! decoder, (⟨chip, engine, decoder⟩ : Registration) ∈ registrations) ∧
            (¬ Declared declared chip engine →
              (∀ decoder, (⟨chip, engine, decoder⟩ : Registration) ∉ registrations) ∧
                dispatcher.decoderFor chip engine = .error ⟨chip, engine⟩) ∧
            (engine ∈ dispatcher.enginesOn chip ↔ Declared declared chip engine)) ∧
          (dispatcher.enginesOn chip).Sublist Engine.all ∧ (dispatcher.enginesOn chip).Nodup) ∧
        ∀ defect, outcome = .error defect → defect.Genuine declared registrations := by
  refine ⟨build_eq_buildAlong declared registrations, ?_⟩
  intro walk visits outcome
  refine ⟨?_, ?_, fun defect => genuine_of_buildAlong visits⟩
  · constructor
    · rintro ⟨dispatcher, success⟩
      exact (consistent_of_buildAlong visits success).1
    · intro consistent
      exact ⟨_, buildAlong_of_consistent visits consistent⟩
  · intro dispatcher success chip
    obtain ⟨consistent, rfl⟩ := consistent_of_buildAlong visits success
    refine ⟨?_, List.filter_sublist, ?_⟩
    · intro engine
      have lookup := @decoderFor_eq_ok_iff registrations chip engine consistent.distinct
      refine ⟨lookup, ?_, ?_, ?_⟩
      · intro supported
        obtain ⟨decoder, member⟩ := (consistent.agree chip engine).mpr supported
        refine ⟨decoder, member, ?_⟩
        intro other otherMember
        have found := (lookup decoder).mpr member
        rw [(lookup other).mpr otherMember] at found
        exact Except.ok.inj found
      · intro unsupported
        have absent : ¬ Registered registrations chip engine :=
          fun found => unsupported ((consistent.agree chip engine).mp found)
        exact ⟨fun decoder member => absent ⟨decoder, member⟩, decoderFor_of_unregistered absent⟩
      · exact mem_enginesOn_iff.trans (consistent.agree chip engine)
    · exact (by decide : Engine.all.Nodup).filter _

/-- Tables with a pair registered twice and an undeclared one: which of the two defects is
given depends on the walk.  With its first registration alone the table is accepted. -/
theorem build_decides_consistency_two_defects :
    let declared : List Support := [⟨.gen1, [.aiCpu]⟩]
    let first : Registration := ⟨.gen1, .aiCpu, .aiCpuV1⟩
    let registrations : List Registration :=
      [first, ⟨.gen1, .aiCpu, .aiCpuV4⟩, ⟨.gen1, .qos, .qos⟩]
    build declared registrations = .error (.duplicate .gen1 .aiCpu 2) ∧
      buildAlong registrations.reverse declared registrations = .error (.undeclared .gen1 .qos) ∧
      (DispatchDefect.undeclared .gen1 .qos).Genuine declared registrations ∧
      ¬ Consistent declared registrations ∧
      build declared [first] = .ok ⟨[first]⟩ ∧ Consistent declared [first] ∧
      ∃! decoder, (⟨.gen1, .aiCpu, decoder⟩ : Registration) ∈ [first] := by
  intro declared first registrations
  have visits : Visits registrations.reverse registrations :=
    ⟨by decide, by decide⟩
  obtain ⟨-, alongAny⟩ := build_decides_consistency declared registrations
  obtain ⟨accepted, -, genuine⟩ := alongAny registrations.reverse visits
  have failed : buildAlong registrations.reverse declared registrations =
      .error (.undeclared .gen1 .qos) := by rfl
  have inconsistent : ¬ Consistent declared registrations := by
    intro consistent
    obtain ⟨dispatcher, success⟩ := accepted.mpr consistent
    rw [failed] at success
    cases success
  obtain ⟨-, aloneAlong⟩ := build_decides_consistency declared [first]
  obtain ⟨acceptedAlone, lookups, -⟩ := aloneAlong [first] ⟨by decide, by decide⟩
  have succeeded : buildAlong [first] declared [first] = .ok ⟨[first]⟩ := by rfl
  obtain ⟨-, unique, -⟩ := (lookups _ succeeded .gen1).1 .aiCpu
  have isDeclared : Declared declared .gen1 .aiCpu := ⟨_, List.mem_singleton_self _, rfl, by decide⟩
  exact ⟨by rfl, failed, genuine _ failed, inconsistent, succeeded, acceptedAlone.mp ⟨_, succeeded⟩,
    unique isDeclared⟩

end Dispatcher

end AcceleratorTrace
