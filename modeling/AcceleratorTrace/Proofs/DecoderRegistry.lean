import AcceleratorTrace.Dispatch
import AcceleratorTrace.Proofs.FirstError

/-!
# What a registry knows

Registrations are read one by one.  After each of them the registry tells how often every pair
has been registered, and finds for a pair the decoder that was registered last.  A table
without repetitions is kept as it is.
-/

namespace AcceleratorTrace

theorem eraseDups_append_of_mem {α : Type} [BEq α] [LawfulBEq α] {items : List α} {last : α}
    (known : last ∈ items) : (items ++ [last]).eraseDups = items.eraseDups := by
  rw [List.eraseDups_append]
  simp [List.removeAll, known]

theorem eraseDups_append_of_not_mem {α : Type} [BEq α] [LawfulBEq α] {items : List α} {last : α}
    (fresh : last ∉ items) : (items ++ [last]).eraseDups = items.eraseDups ++ [last] := by
  rw [List.eraseDups_append]
  simp [List.removeAll, fresh, List.eraseDups_cons]

namespace Registration

theorem serves_iff {registration : Registration} {chip : Chip} {engine : Engine} :
    registration.serves chip engine = true ↔ registration.pair = (chip, engine) := by
  simp [serves, pair]

theorem mem_replaceIn {registration other : Registration} {table : List Registration}
    (member : other ∈ registration.replaceIn table) : other = registration ∨ other ∈ table := by
  induction table with
  | nil => exact .inl (List.mem_singleton.mp member)
  | cons earlier rest induction =>
      rw [replaceIn] at member
      split at member
      · exact (List.mem_cons.mp member).imp_right (List.mem_cons_of_mem _)
      · rcases List.mem_cons.mp member with rfl | later
        · exact .inr List.mem_cons_self
        · exact (induction later).imp_right (List.mem_cons_of_mem _)

theorem replaceIn_of_not_mem {registration : Registration} {table : List Registration}
    (absent : registration.pair ∉ table.map pair) :
    registration.replaceIn table = table ++ [registration] := by
  induction table with
  | nil => rfl
  | cons earlier rest induction =>
      rw [List.map_cons, List.mem_cons, not_or] at absent
      rw [replaceIn, if_neg (Ne.symm absent.1), induction absent.2, List.cons_append]

theorem find?_replaceIn (registration : Registration) (table : List Registration) (chip : Chip)
    (engine : Engine) :
    (registration.replaceIn table).find? (fun found => found.serves chip engine) =
      if registration.serves chip engine then some registration
      else table.find? fun found => found.serves chip engine := by
  induction table with
  | nil =>
      rw [replaceIn, List.find?_singleton]
      rfl
  | cons earlier rest induction =>
      rw [replaceIn]
      split
      · next same =>
          have alike : registration.serves chip engine = earlier.serves chip engine := by
            rw [Bool.eq_iff_iff, serves_iff, serves_iff, same]
          rw [List.find?_cons, List.find?_cons, ← alike]
          cases registration.serves chip engine <;> rfl
      · next other =>
          rw [List.find?_cons, List.find?_cons, induction]
          cases found : earlier.serves chip engine with
          | false => rfl
          | true =>
              have apart : registration.serves chip engine = false := by
                rw [← Bool.not_eq_true, serves_iff, ← serves_iff.mp found]
                exact Ne.symm other
              rw [apart]
              rfl

end Registration

namespace Registry

variable {registry : Registry} {done : List Registration}

theorem keys_countUp (pair : Chip × Engine) (counts : List ((Chip × Engine) × Nat)) :
    (countUp pair counts).map Prod.fst =
      if pair ∈ counts.map Prod.fst then counts.map Prod.fst
      else counts.map Prod.fst ++ [pair] := by
  induction counts with
  | nil => rfl
  | cons entry rest induction =>
      rw [countUp]
      by_cases same : entry.1 = pair
      · simp [same]
      · rw [if_neg same, List.map_cons, List.map_cons, induction]
        by_cases known : pair ∈ rest.map Prod.fst
        · rw [if_pos known, if_pos (List.mem_cons_of_mem _ known)]
        · have absent : pair ∉ entry.1 :: rest.map Prod.fst := by
            rw [List.mem_cons, not_or]
            exact ⟨Ne.symm same, known⟩
          rw [if_neg known, if_neg absent, List.cons_append]

theorem lookup_countUp (pair other : Chip × Engine) (counts : List ((Chip × Engine) × Nat)) :
    (countUp pair counts).lookup other =
      if other = pair then some ((counts.lookup pair).getD 0 + 1) else counts.lookup other := by
  induction counts with
  | nil =>
      rw [countUp, List.lookup_cons]
      by_cases same : other = pair
      · simp [same]
      · simp [same, beq_false_of_ne same]
  | cons entry rest induction =>
      obtain ⟨key, count⟩ := entry
      rw [countUp]
      by_cases here : key = pair
      · subst here
        by_cases same : other = key
        · simp [same]
        · simp [same, List.lookup_cons, beq_false_of_ne same]
      · simp only [if_neg here, List.lookup_cons, induction, beq_false_of_ne (Ne.symm here)]
        by_cases same : other = pair
        · simp [same, beq_false_of_ne (Ne.symm here)]
        · simp [same]

theorem lookup_of_mem {counts : List ((Chip × Engine) × Nat)} {entry : (Chip × Engine) × Nat}
    (distinct : (counts.map Prod.fst).Nodup) (member : entry ∈ counts) :
    counts.lookup entry.1 = some entry.2 := by
  induction counts with
  | nil => exact absurd member List.not_mem_nil
  | cons first rest induction =>
      obtain ⟨key, count⟩ := first
      rw [List.map_cons, List.nodup_cons] at distinct
      rw [List.lookup_cons]
      rcases List.mem_cons.mp member with rfl | later
      · simp
      · have apart : entry.1 ≠ key := by
          intro same
          exact distinct.1 (List.mem_map.mpr ⟨entry, later, same⟩)
        rw [beq_false_of_ne apart]
        exact induction distinct.2 later

/-- How often a pair was registered. -/
def count (registry : Registry) (pair : Chip × Engine) : Nat :=
  (registry.counts.lookup pair).getD 0

/-- The registry knows these registrations: how often each pair is among them, and which of a
pair comes last.  Without repetitions it has them all. -/
structure Reflects (registry : Registry) (done : List Registration) : Prop where
  keys : registry.counts.map Prod.fst = (done.map Registration.pair).eraseDups
  distinct : (registry.counts.map Prod.fst).Nodup
  counted : ∀ pair, registry.count pair = (done.map Registration.pair).count pair
  within : ∀ registration ∈ registry.latest, registration ∈ done
  last : ∀ chip engine,
    registry.latest.find? (fun registration => registration.serves chip engine) =
      done.reverse.find? fun registration => registration.serves chip engine
  kept : (done.map Registration.pair).Nodup → registry.latest = done

theorem Reflects.empty : Reflects {} [] :=
  ⟨rfl, List.nodup_nil, fun _ => rfl, List.forall_mem_nil _, fun _ _ => rfl, fun _ => rfl⟩

/-- One more registration is known after it is entered. -/
theorem Reflects.enter (reflects : Reflects registry done) (registration : Registration) :
    Reflects (registry.enter registration) (done ++ [registration]) := by
  have pairs : (done ++ [registration]).map Registration.pair =
      done.map Registration.pair ++ [registration.pair] := List.map_append
  have keys := keys_countUp registration.pair registry.counts
  have known : registration.pair ∈ registry.counts.map Prod.fst ↔
      registration.pair ∈ done.map Registration.pair := by
    rw [reflects.keys, List.mem_eraseDups]
  refine ⟨?_, ?_, ?_, ?_, ?_, ?_⟩
  · rw [Registry.enter, keys, pairs]
    by_cases again : registration.pair ∈ done.map Registration.pair
    · rw [if_pos (known.mpr again), reflects.keys, eraseDups_append_of_mem again]
    · rw [if_neg (again ∘ known.mp), reflects.keys, eraseDups_append_of_not_mem again]
  · rw [Registry.enter, keys]
    split
    · exact reflects.distinct
    · next fresh =>
        rw [List.nodup_append]
        refine ⟨reflects.distinct, by simp, ?_⟩
        intro key member other isPair same
        rw [same, List.mem_singleton.mp isPair] at member
        exact fresh member
  · intro pair
    have counted := reflects.counted
    simp only [count] at counted
    rw [count, Registry.enter, lookup_countUp, pairs, List.count_append, ← counted]
    by_cases same : pair = registration.pair
    · simp [same]
    · simp [same, Ne.symm same]
  · intro other member
    rcases Registration.mem_replaceIn member with rfl | earlier
    · simp
    · exact List.mem_append_left _ (reflects.within other earlier)
  · intro chip engine
    rw [Registry.enter, Registration.find?_replaceIn, List.reverse_append, List.reverse_singleton,
      List.singleton_append, List.find?_cons, reflects.last]
    cases registration.serves chip engine <;> rfl
  · intro distinct
    rw [pairs, List.nodup_append] at distinct
    obtain ⟨before, -, apart⟩ := distinct
    have absent : registration.pair ∉ done.map Registration.pair :=
      fun member => apart _ member _ (List.mem_singleton_self _) rfl
    rw [Registry.enter, reflects.kept before]
    exact Registration.replaceIn_of_not_mem absent

theorem Reflects.enter_all (reflects : Reflects registry done) (registrations : List Registration) :
    Reflects (registrations.foldl Registry.enter registry) (done ++ registrations) := by
  induction registrations generalizing registry done with
  | nil => rwa [List.append_nil]
  | cons registration rest induction =>
      have later := induction (reflects.enter registration)
      rwa [List.append_assoc] at later

/-- The registry of a whole table. -/
def ofTable (registrations : List Registration) : Registry :=
  registrations.foldl enter {}

theorem reflects_ofTable (registrations : List Registration) :
    (ofTable registrations).Reflects registrations :=
  Reflects.empty.enter_all registrations

theorem foldlM_register (registrations : List Registration) (registry : Registry) :
    registrations.foldlM register registry = do
      registrations.forM Registration.check
      return registrations.foldl enter registry := by
  induction registrations generalizing registry with
  | nil => rfl
  | cons registration rest induction =>
      rw [List.foldlM_cons, List.forM, register]
      cases registration.check with
      | error defect => rfl
      | ok value => exact induction (registry.enter registration)

/-- Each registered pair is visited once, with its count; visiting it at every registration
would not change the outcome. -/
theorem Reflects.forM_counts (reflects : Reflects registry done)
    (check : (Chip × Engine) × Nat → Except DispatchDefect Unit) :
    registry.counts.forM check =
      done.forM fun registration =>
        check (registration.pair, registry.count registration.pair) := by
  have entries : registry.counts =
      (done.map Registration.pair).eraseDups.map fun pair => (pair, registry.count pair) := by
    rw [← reflects.keys, List.map_map]
    conv => lhs; rw [← List.map_id registry.counts]
    apply List.map_congr_left
    intro entry member
    simp [count, lookup_of_mem reflects.distinct member]
  calc registry.counts.forM check
    _ = (done.map Registration.pair).eraseDups.forM
          fun pair => check (pair, registry.count pair) := by
        conv => lhs; rw [entries]
        exact List.forM_map
    _ = (done.map Registration.pair).forM fun pair => check (pair, registry.count pair) :=
        forM_eraseDups _ _
    _ = _ := List.forM_map

theorem Reflects.any_latest (reflects : Reflects registry done) (chip : Chip) (engine : Engine) :
    (registry.latest.any fun registration => registration.serves chip engine) =
      done.any fun registration => registration.serves chip engine := by
  rw [← List.isSome_find?, reflects.last, List.isSome_find?, List.any_reverse]

end Registry

namespace Dispatcher

theorem build_eq (declared : List Support) (registrations : List Registration) :
    build declared registrations = do
      registrations.forM Registration.check
      (Registry.ofTable registrations).counts.forM (checkCount declared)
      (pairs declared).forM (checkDeclared (Registry.ofTable registrations).latest)
      return ⟨(Registry.ofTable registrations).latest⟩ := by
  rw [build, Registry.foldlM_register]
  cases registrations.forM Registration.check with
  | error defect => rfl
  | ok value => rfl

theorem checked_of_build {declared : List Support} {registrations : List Registration}
    {dispatcher : Dispatcher} (built : build declared registrations = .ok dispatcher) :
    (∀ registration ∈ registrations, registration.check = .ok ()) ∧
      dispatcher = ⟨(Registry.ofTable registrations).latest⟩ := by
  rw [build_eq] at built
  obtain ⟨_, checked, built⟩ := bind_eq_ok built
  obtain ⟨_, -, built⟩ := bind_eq_ok built
  obtain ⟨_, -, built⟩ := bind_eq_ok built
  exact ⟨(forM_eq_ok_iff registrations _).mp checked, (Except.ok.inj built).symm⟩

end Dispatcher

end AcceleratorTrace
