import AcceleratorTrace.Pairing

/-!
# Which start meets which end

Pairing takes one push after the other and remembers only the starts that wait.
Here the pairs are described by their positions among all pushes: a start meets
the next end of its key, if nothing of that key and no other device stands
between them.  Both descriptions give the same spans in the same order.
-/

namespace AcceleratorTrace

/-- A record handed to a pairing, with its device. -/
abbrev Push := UInt32 × StarsLog

/-- The pairing after pushes. -/
def Pairing.ofPushes (pushes : List Push) : Pairing :=
  pushes.foldl (fun pairing push => pairing.push push.1 push.2) {}

/-- Whether a record is a start or an end of a key. -/
def StarsLog.Marks (record : StarsLog) (key : TaskKey) : Prop :=
  (record.funcType = .taskStart ∨ record.funcType = .taskEnd) ∧ record.key = key

instance (record : StarsLog) (key : TaskKey) : Decidable (record.Marks key) :=
  inferInstanceAs (Decidable (_ ∧ _))

/-- What comes next for a start: the first later record that is a start or an end of
its key is of this kind, and no other device comes before it. -/
def Meets (kind : FuncType) (pushes : List Push) (first last : Nat) : Prop :=
  first < last ∧ ∃ opening ∈ pushes[first]?, ∃ closing ∈ pushes[last]?,
    opening.2.funcType = .taskStart ∧ closing.2.funcType = kind ∧
      closing.2.key = opening.2.key ∧ closing.1 = opening.1 ∧
      ∀ middle, middle < last → first < middle → ∃ between ∈ pushes[middle]?,
        between.1 = opening.1 ∧ ¬ between.2.Marks opening.2.key

instance (kind : FuncType) (pushes : List Push) (first last : Nat) :
    Decidable (Meets kind pushes first last) :=
  inferInstanceAs (Decidable (_ ∧ _))

/-- A start and a later end belong together: they have the same key, all pushes
from one to the other are of one device, and no start or end of the key lies
between them. -/
def Paired (pushes : List Push) (first last : Nat) : Prop :=
  Meets .taskEnd pushes first last

instance (pushes : List Push) (first last : Nat) : Decidable (Paired pushes first last) :=
  inferInstanceAs (Decidable (Meets _ _ _ _))

/-- The pairs with a given end. -/
def pairsEndingAt (pushes : List Push) (last : Nat) : List (Nat × Nat) :=
  ((List.range last).filter fun first => Paired pushes first last).map fun first => (first, last)

/-- All pairs, in the order of their ends. -/
def pairs (pushes : List Push) : List (Nat × Nat) :=
  (List.range pushes.length).flatMap (pairsEndingAt pushes)

/-- The span of a pair, with the device of its segment. -/
def spanOfPair? (pushes : List Push) (pair : Nat × Nat) : Option (UInt32 × TaskSpan) := do
  let opening ← pushes[pair.1]?
  let closing ← pushes[pair.2]?
  return (opening.1, ⟨opening.2.streamId, opening.2.taskId, opening.2.coreId,
    opening.2.sysCycle, closing.2.sysCycle⟩)

/-- An end that belongs to no start. -/
def IsUnmatchedEnd (pushes : List Push) (last : Nat) : Prop :=
  (∃ closing ∈ pushes[last]?, closing.2.funcType = .taskEnd) ∧
    ∀ first, first < last → ¬ Paired pushes first last

instance (pushes : List Push) (last : Nat) : Decidable (IsUnmatchedEnd pushes last) :=
  inferInstanceAs (Decidable (_ ∧ _))

section Positions

variable {kind : FuncType} {pushes : List Push} {push : Push} {first last : Nat}

theorem Meets.of_agree {others : List Push}
    (same : ∀ position, position ≤ last → pushes[position]? = others[position]?)
    (meets : Meets kind pushes first last) : Meets kind others first last := by
  obtain ⟨order, opening, atFirst, closing, atLast, starts, ends, key, device, between⟩ := meets
  refine ⟨order, opening, ?_, closing, ?_, starts, ends, key, device, ?_⟩
  · rwa [← same first (Nat.le_of_lt order)]
  · rwa [← same last (Nat.le_refl last)]
  · intro middle before after
    rw [← same middle (Nat.le_of_lt before)]
    exact between middle before after

theorem meets_append_of_lt (inside : last < pushes.length) :
    Meets kind (pushes ++ [push]) first last ↔ Meets kind pushes first last := by
  have same : ∀ position, position ≤ last → (pushes ++ [push])[position]? = pushes[position]? :=
    fun position below => List.getElem?_append_left (Nat.lt_of_le_of_lt below inside)
  exact ⟨.of_agree same, .of_agree fun position below => (same position below).symm⟩

theorem paired_append_of_lt (inside : last < pushes.length) :
    Paired (pushes ++ [push]) first last ↔ Paired pushes first last :=
  meets_append_of_lt inside

theorem pairsEndingAt_append_of_lt (inside : last < pushes.length) :
    pairsEndingAt (pushes ++ [push]) last = pairsEndingAt pushes last := by
  simp only [pairsEndingAt, paired_append_of_lt inside]

theorem isUnmatchedEnd_append_of_lt (inside : last < pushes.length) :
    IsUnmatchedEnd (pushes ++ [push]) last ↔ IsUnmatchedEnd pushes last := by
  simp only [IsUnmatchedEnd, paired_append_of_lt inside, List.getElem?_append_left inside]

end Positions

/-- The push at a position is a start that would meet an end of its key if that
came next on its device. -/
def Waits (pushes : List Push) (first : Nat) (device : UInt32) (start : StarsLog) : Prop :=
  pushes[first]? = some (device, start) ∧ start.funcType = .taskStart ∧
    ∀ later, first < later → ∀ push ∈ pushes[later]?,
      push.1 = device ∧ ¬ push.2.Marks start.key

section Waiting

variable {pushes : List Push} {push : Push} {first : Nat} {device : UInt32} {start : StarsLog}

theorem Waits.lt_length (waits : Waits pushes first device start) : first < pushes.length :=
  (List.getElem?_eq_some_iff.mp waits.1).1

theorem Waits.last_device (waits : Waits pushes first device start) :
    pushes.getLast?.map Prod.fst = some device := by
  have inside := waits.lt_length
  rw [List.getLast?_eq_getElem?]
  by_cases final : first = pushes.length - 1
  · rw [← final, waits.1]
    rfl
  · have present := List.getElem?_eq_getElem (show pushes.length - 1 < pushes.length by omega)
    rw [present]
    exact congrArg some (waits.2.2 (pushes.length - 1) (by omega) _ present).1

theorem Waits.unique {other : Nat} {otherDevice : UInt32} {otherStart : StarsLog}
    (left : Waits pushes first device start) (right : Waits pushes other otherDevice otherStart)
    (key : start.key = otherStart.key) : first = other ∧ device = otherDevice := by
  rcases Nat.lt_trichotomy first other with before | same | after
  · exact absurd ⟨.inl right.2.1, key.symm⟩ (left.2.2 other before _ right.1).2
  · subst same
    have equal := left.1.symm.trans right.1
    cases equal
    exact ⟨rfl, rfl⟩
  · exact absurd ⟨.inl left.2.1, key⟩ (right.2.2 first after _ left.1).2

/-- The starts that wait after one more push: those that the push leaves alone,
and the push itself if it is a start. -/
theorem waits_append_iff :
    Waits (pushes ++ [push]) first device start ↔
      Waits pushes first device start ∧ push.1 = device ∧ ¬ push.2.Marks start.key ∨
        first = pushes.length ∧ push = (device, start) ∧ start.funcType = .taskStart := by
  have atEnd : (pushes ++ [push])[pushes.length]? = some push := by simp
  constructor
  · rintro ⟨atFirst, starts, after⟩
    have bound : first < (pushes ++ [push]).length := (List.getElem?_eq_some_iff.mp atFirst).1
    rw [List.length_append, List.length_singleton] at bound
    by_cases inside : first < pushes.length
    · rw [List.getElem?_append_left inside] at atFirst
      refine .inl ⟨⟨atFirst, starts, ?_⟩, after pushes.length inside push atEnd⟩
      intro later behind event present
      have small := (List.getElem?_eq_some_iff.mp present).1
      exact after later behind event (by rwa [List.getElem?_append_left small])
    · have final : first = pushes.length := by omega
      rw [final, atEnd] at atFirst
      exact .inr ⟨final, Option.some.inj atFirst, starts⟩
  · rintro (⟨waits, sameDevice, unmarked⟩ | ⟨rfl, rfl, starts⟩)
    · refine ⟨?_, waits.2.1, ?_⟩
      · rw [List.getElem?_append_left waits.lt_length]
        exact waits.1
      · intro later behind event present
        by_cases inside : later < pushes.length
        · rw [List.getElem?_append_left inside] at present
          exact waits.2.2 later behind event present
        · have bound := (List.getElem?_eq_some_iff.mp present).1
          rw [List.length_append, List.length_singleton] at bound
          have final : later = pushes.length := by omega
          rw [final, atEnd] at present
          cases present
          exact ⟨sameDevice, unmarked⟩
    · refine ⟨atEnd, starts, ?_⟩
      intro later behind event present
      have bound := (List.getElem?_eq_some_iff.mp present).1
      rw [List.length_append, List.length_singleton] at bound
      omega

theorem exists_waits_append_iff {record : StarsLog} :
    (∃ first found, Waits (pushes ++ [(device, record)]) first found start) ↔
      (∃ first, Waits pushes first device start) ∧ ¬ record.Marks start.key ∨
        record = start ∧ record.funcType = .taskStart := by
  simp only [waits_append_iff]
  constructor
  · rintro ⟨first, found, ⟨waits, rfl, unmarked⟩ | ⟨-, same, starts⟩⟩
    · exact .inl ⟨⟨first, waits⟩, unmarked⟩
    · cases same
      exact .inr ⟨rfl, starts⟩
  · rintro (⟨⟨first, waits⟩, unmarked⟩ | ⟨rfl, starts⟩)
    · exact ⟨first, device, .inl ⟨waits, rfl, unmarked⟩⟩
    · exact ⟨pushes.length, device, .inr ⟨rfl, rfl, starts⟩⟩

/-- The start of its key that waits is the one that meets a push. -/
theorem meets_append_last {kind : FuncType} :
    Meets kind (pushes ++ [push]) first pushes.length ↔
      push.2.funcType = kind ∧
        ∃ start, Waits pushes first push.1 start ∧ push.2.key = start.key := by
  have atEnd : (pushes ++ [push])[pushes.length]? = some push := by simp
  have within : ∀ {position}, position < pushes.length →
      (pushes ++ [push])[position]? = pushes[position]? := fun inside =>
    List.getElem?_append_left inside
  constructor
  · rintro ⟨order, opening, atFirst, closing, atLast, starts, ends, key, device, between⟩
    rw [atEnd] at atLast
    cases atLast
    rw [within order] at atFirst
    refine ⟨ends, opening.2, ⟨?_, starts, ?_⟩, key⟩
    · rw [device]
      exact atFirst
    · intro later behind event present
      have inside := (List.getElem?_eq_some_iff.mp present).1
      obtain ⟨found, atLater, foundDevice, unmarked⟩ := between later inside behind
      rw [within inside, present] at atLater
      cases atLater
      exact ⟨foundDevice.trans device.symm, unmarked⟩
  · rintro ⟨ends, start, ⟨atFirst, starts, after⟩, key⟩
    have order := (List.getElem?_eq_some_iff.mp atFirst).1
    refine ⟨order, (push.1, start), ?_, push, atEnd, starts, ends, key, rfl, ?_⟩
    · rw [within order]
      exact atFirst
    · intro middle inside behind
      have present := List.getElem?_eq_getElem inside
      exact ⟨pushes[middle], by rw [within inside]; exact present,
        after middle behind _ present⟩

/-- A push ends a pair exactly if it is an end and the start of its key waits. -/
theorem paired_append_last :
    Paired (pushes ++ [push]) first pushes.length ↔
      push.2.funcType = .taskEnd ∧
        ∃ start, Waits pushes first push.1 start ∧ push.2.key = start.key :=
  meets_append_last

end Waiting

section OneMore

variable {pushes : List Push} {push : Push}

private theorem filter_range_of_unique {count position : Nat} {test : Nat → Bool}
    (inside : position < count) (holds : test position = true)
    (unique : ∀ other, test other = true → other = position) :
    (List.range count).filter test = [position] := by
  induction count with
  | zero => omega
  | succ count induction =>
      rw [List.range_succ, List.filter_append]
      by_cases final : position = count
      · have none : (List.range count).filter test = [] := by
          rw [List.filter_eq_nil_iff]
          intro other member holdsThere
          have small := List.mem_range.mp member
          have equal := unique other holdsThere
          omega
        rw [none, ← final]
        simp [holds]
      · have fails : test count = false := by
          rw [Bool.eq_false_iff]
          exact fun holdsThere => final (unique count holdsThere).symm
        rw [induction (by omega)]
        simp [fails]

theorem pairsEndingAt_append_of_waits {first : Nat} {start : StarsLog}
    (ends : push.2.funcType = .taskEnd) (waits : Waits pushes first push.1 start)
    (key : push.2.key = start.key) :
    pairsEndingAt (pushes ++ [push]) pushes.length = [(first, pushes.length)] := by
  have only : ∀ other, decide (Paired (pushes ++ [push]) other pushes.length) = true →
      other = first := by
    intro other paired
    obtain ⟨-, otherStart, otherWaits, otherKey⟩ :=
      paired_append_last.mp (of_decide_eq_true paired)
    exact (otherWaits.unique waits (otherKey.symm.trans key)).1
  rw [pairsEndingAt, filter_range_of_unique waits.lt_length
    (decide_eq_true (paired_append_last.mpr ⟨ends, start, waits, key⟩)) only]
  rfl

theorem pairsEndingAt_append_of_not
    (alone : ∀ first, ¬ Paired (pushes ++ [push]) first pushes.length) :
    pairsEndingAt (pushes ++ [push]) pushes.length = [] := by
  simp [pairsEndingAt, alone]

theorem pairs_append :
    pairs (pushes ++ [push]) =
      pairs pushes ++ pairsEndingAt (pushes ++ [push]) pushes.length := by
  have earlier : (List.range pushes.length).flatMap (pairsEndingAt (pushes ++ [push])) =
      pairs pushes := by
    rw [pairs, List.flatMap_def, List.flatMap_def]
    congr 1
    apply List.map_congr_left
    intro last member
    exact pairsEndingAt_append_of_lt (List.mem_range.mp member)
  rw [pairs, List.length_append, List.length_singleton, List.range_succ, List.flatMap_append,
    earlier]
  simp

theorem lt_of_mem_pairs {pair : Nat × Nat} (member : pair ∈ pairs pushes) :
    pair.1 < pair.2 ∧ pair.2 < pushes.length := by
  obtain ⟨last, inside, ending⟩ := List.mem_flatMap.mp member
  obtain ⟨first, kept, rfl⟩ := List.mem_map.mp ending
  exact ⟨List.mem_range.mp (List.mem_filter.mp kept).1, List.mem_range.mp inside⟩

theorem map_spanOfPair?_append :
    (pairs pushes).map (spanOfPair? (pushes ++ [push])) =
      (pairs pushes).map (spanOfPair? pushes) := by
  apply List.map_congr_left
  intro pair member
  obtain ⟨order, inside⟩ := lt_of_mem_pairs member
  simp only [spanOfPair?, List.getElem?_append_left inside,
    List.getElem?_append_left (Nat.lt_trans order inside)]

theorem countP_isUnmatchedEnd_append :
    (List.range (pushes ++ [push]).length).countP
        (fun last => IsUnmatchedEnd (pushes ++ [push]) last) =
      (List.range pushes.length).countP (fun last => IsUnmatchedEnd pushes last) +
        if IsUnmatchedEnd (pushes ++ [push]) pushes.length then 1 else 0 := by
  rw [List.length_append, List.length_singleton, List.range_succ, List.countP_append]
  congr 1
  · apply List.countP_congr
    intro last member
    simp only [isUnmatchedEnd_append_of_lt (List.mem_range.mp member)]
  · simp

theorem isUnmatchedEnd_append_last :
    IsUnmatchedEnd (pushes ++ [push]) pushes.length ↔
      push.2.funcType = .taskEnd ∧
        ∀ first, ¬ Paired (pushes ++ [push]) first pushes.length := by
  have atEnd : (pushes ++ [push])[pushes.length]? = some push := by simp
  constructor
  · rintro ⟨⟨closing, present, ends⟩, alone⟩
    rw [atEnd] at present
    cases present
    exact ⟨ends, fun first paired => alone first paired.1 paired⟩
  · rintro ⟨ends, alone⟩
    exact ⟨⟨push, atEnd, ends⟩, fun first _ => alone first⟩

end OneMore

namespace Pairing

theorem waitingFor?_without (waiting : List StarsLog) (removed key : TaskKey) :
    waitingFor? (without waiting removed) key =
      if removed = key then none else waitingFor? waiting key := by
  simp only [waitingFor?, without, List.find?_filter]
  split
  · rename_i same
    subst same
    simp
  · rename_i different
    congr 1
    funext start
    by_cases here : start.key = key
    · simp [here, Ne.symm different]
    · simp [here]

theorem waitingFor?_cons (record : StarsLog) (waiting : List StarsLog) (key : TaskKey) :
    waitingFor? (record :: waiting) key =
      if record.key = key then some record else waitingFor? waiting key := by
  by_cases here : record.key = key <;> simp [waitingFor?, here]

/-- What a pairing holds after pushes, in terms of their positions. -/
structure Describes (pushes : List Push) (pairing : Pairing) : Prop where
  device : pairing.device = pushes.getLast?.map Prod.fst
  waiting : ∀ key start, waitingFor? pairing.waiting key = some start ↔
    start.key = key ∧ ∃ first device, Waits pushes first device start
  spans : pairing.spans.map some = (pairs pushes).map (spanOfPair? pushes)
  unmatchedEnds : pairing.unmatchedEnds =
    (List.range pushes.length).countP fun last => IsUnmatchedEnd pushes last

section Step

variable {pushes : List Push} {pairing : Pairing} {device : UInt32} {record : StarsLog}

@[simp] theorem enter_spans : (pairing.enter device).spans = pairing.spans := by
  unfold enter
  split <;> rfl

@[simp] theorem enter_unmatchedEnds :
    (pairing.enter device).unmatchedEnds = pairing.unmatchedEnds := by
  unfold enter
  split <;> rfl

/-- A start that is given up is counted, so it stays among those without an end. -/
@[simp] theorem enter_openStarts : (pairing.enter device).openStarts = pairing.openStarts := by
  unfold enter openStarts
  split <;> simp

@[simp] theorem enter_device : (pairing.enter device).device = some device := by
  unfold enter
  split
  · assumption
  · rfl

theorem push_of_unknown {code : UInt8} (unknown : record.funcType = .unknown code) :
    pairing.push device record = pairing.enter device := by
  simp only [push, take, unknown]

theorem Describes.enter_waiting (describes : Describes pushes pairing) (key : TaskKey)
    (start : StarsLog) :
    waitingFor? (pairing.enter device).waiting key = some start ↔
      start.key = key ∧ ∃ first, Waits pushes first device start := by
  unfold enter
  split
  · rename_i same
    rw [describes.waiting]
    refine and_congr_right fun _ => ⟨?_, fun ⟨first, waits⟩ => ⟨first, device, waits⟩⟩
    rintro ⟨first, found, waits⟩
    have equal := waits.last_device
    rw [← describes.device, same] at equal
    cases equal
    exact ⟨first, waits⟩
  · rename_i different
    constructor
    · intro found
      cases found
    · rintro ⟨-, first, waits⟩
      rw [describes.device, waits.last_device] at different
      exact absurd rfl different

theorem Describes.of_not_end {next : Pairing} (describes : Describes pushes pairing)
    (notEnd : record.funcType ≠ .taskEnd) (nextDevice : next.device = some device)
    (nextWaiting : ∀ key start, waitingFor? next.waiting key = some start ↔
      start.key = key ∧ ∃ first found, Waits (pushes ++ [(device, record)]) first found start)
    (nextSpans : next.spans = pairing.spans)
    (nextEnds : next.unmatchedEnds = pairing.unmatchedEnds) :
    Describes (pushes ++ [(device, record)]) next := by
  have alone : ∀ first, ¬ Paired (pushes ++ [(device, record)]) first pushes.length :=
    fun first paired => notEnd (paired_append_last.mp paired).1
  have matched : ¬ IsUnmatchedEnd (pushes ++ [(device, record)]) pushes.length := by
    rw [isUnmatchedEnd_append_last]
    exact fun unmatched => notEnd unmatched.1
  refine ⟨?_, nextWaiting, ?_, ?_⟩
  · simp [nextDevice]
  · rw [nextSpans, describes.spans, pairs_append, pairsEndingAt_append_of_not alone,
      List.append_nil, map_spanOfPair?_append]
  · rw [nextEnds, describes.unmatchedEnds, countP_isUnmatchedEnd_append, if_neg matched,
      Nat.add_zero]

/-- A start takes the place of the waiting start of its key. -/
theorem Describes.push_start (describes : Describes pushes pairing)
    (starts : record.funcType = .taskStart) :
    Describes (pushes ++ [(device, record)]) (pairing.push device record) := by
  have taken : pairing.push device record =
      { pairing.enter device with
        waiting := record :: without (pairing.enter device).waiting record.key } := by
    simp only [push, take, starts]
  rw [taken]
  refine describes.of_not_end (by simp [starts]) enter_device ?_ enter_spans enter_unmatchedEnds
  intro key start
  rw [waitingFor?_cons, waitingFor?_without, exists_waits_append_iff]
  have marks : record.Marks start.key ↔ record.key = start.key :=
    ⟨And.right, fun same => ⟨.inl starts, same⟩⟩
  by_cases here : record.key = key
  · subst here
    simp only [if_true, Option.some.injEq, marks]
    constructor
    · rintro rfl
      exact ⟨rfl, .inr ⟨rfl, starts⟩⟩
    · rintro ⟨same, ⟨-, other⟩ | ⟨equal, -⟩⟩
      · exact absurd same.symm other
      · exact equal
  · rw [if_neg here, if_neg here, describes.enter_waiting, marks]
    constructor
    · rintro ⟨same, waits⟩
      exact ⟨same, .inl ⟨waits, fun equal => here (equal.trans same)⟩⟩
    · rintro ⟨same, ⟨waits, -⟩ | ⟨equal, -⟩⟩
      · exact ⟨same, waits⟩
      · exact absurd ((congrArg StarsLog.key equal).trans same) here

theorem Describes.push_unknown (describes : Describes pushes pairing) {code : UInt8}
    (unknown : record.funcType = .unknown code) :
    Describes (pushes ++ [(device, record)]) (pairing.push device record) := by
  rw [push_of_unknown unknown]
  refine describes.of_not_end (by simp [unknown]) enter_device ?_ enter_spans enter_unmatchedEnds
  intro key start
  have unmarked : ¬ record.Marks start.key := by
    simp [StarsLog.Marks, unknown]
  rw [describes.enter_waiting, exists_waits_append_iff]
  simp [unmarked, unknown]

theorem Describes.without_waiting (describes : Describes pushes pairing)
    (ends : record.funcType = .taskEnd) (key : TaskKey) (start : StarsLog) :
    waitingFor? (without (pairing.enter device).waiting record.key) key = some start ↔
      start.key = key ∧
        ∃ first found, Waits (pushes ++ [(device, record)]) first found start := by
  have marks : record.Marks start.key ↔ record.key = start.key :=
    ⟨And.right, fun same => ⟨.inr ends, same⟩⟩
  have notStart : ¬ (record = start ∧ record.funcType = .taskStart) := by
    simp [ends]
  rw [waitingFor?_without, exists_waits_append_iff, marks, or_iff_left notStart]
  split
  · rename_i here
    constructor
    · intro found
      cases found
    · rintro ⟨same, -, other⟩
      exact absurd (here.trans same.symm) other
  · rename_i different
    rw [describes.enter_waiting]
    refine and_congr_right fun same => ?_
    exact ⟨fun waits => ⟨waits, fun equal => different (equal.trans same)⟩, And.left⟩

/-- An end takes the waiting start of its key. -/
theorem Describes.push_matched (describes : Describes pushes pairing)
    (ends : record.funcType = .taskEnd) {start : StarsLog}
    (found : waitingFor? (pairing.enter device).waiting record.key = some start) :
    Describes (pushes ++ [(device, record)]) (pairing.push device record) := by
  have taken : pairing.push device record =
      { pairing.enter device with
        waiting := without (pairing.enter device).waiting record.key
        spans := (pairing.enter device).spans ++ [(device, spanOf start record)] } := by
    simp only [push, take, ends, found]
  obtain ⟨key, first, waits⟩ := (describes.enter_waiting record.key start).mp found
  have paired : Paired (pushes ++ [(device, record)]) first pushes.length :=
    paired_append_last.mpr ⟨ends, start, waits, key.symm⟩
  have span : spanOfPair? (pushes ++ [(device, record)]) (first, pushes.length) =
      some (device, spanOf start record) := by
    simp [spanOfPair?, List.getElem?_append_left waits.lt_length, waits.1, spanOf]
  have matched : ¬ IsUnmatchedEnd (pushes ++ [(device, record)]) pushes.length := by
    rw [isUnmatchedEnd_append_last]
    exact fun unmatched => unmatched.2 first paired
  rw [taken]
  refine ⟨by simp, describes.without_waiting ends, ?_, ?_⟩
  · rw [pairs_append, pairsEndingAt_append_of_waits ends waits key.symm, List.map_append,
      List.map_append, map_spanOfPair?_append, enter_spans, describes.spans]
    simp [span]
  · rw [countP_isUnmatchedEnd_append, if_neg matched, Nat.add_zero, enter_unmatchedEnds,
      describes.unmatchedEnds]

/-- An end without a waiting start is counted. -/
theorem Describes.push_unmatched (describes : Describes pushes pairing)
    (ends : record.funcType = .taskEnd)
    (absent : waitingFor? (pairing.enter device).waiting record.key = none) :
    Describes (pushes ++ [(device, record)]) (pairing.push device record) := by
  have taken : pairing.push device record =
      { pairing.enter device with
        unmatchedEnds := (pairing.enter device).unmatchedEnds + 1 } := by
    simp only [push, take, ends, absent]
  have alone : ∀ first, ¬ Paired (pushes ++ [(device, record)]) first pushes.length := by
    intro first paired
    obtain ⟨-, start, waits, key⟩ := paired_append_last.mp paired
    rw [(describes.enter_waiting record.key start).mpr ⟨key.symm, first, waits⟩] at absent
    cases absent
  have unmatched : IsUnmatchedEnd (pushes ++ [(device, record)]) pushes.length :=
    isUnmatchedEnd_append_last.mpr ⟨ends, alone⟩
  have unchanged : ∀ key, waitingFor? (pairing.enter device).waiting key =
      waitingFor? (without (pairing.enter device).waiting record.key) key := by
    intro key
    rw [waitingFor?_without]
    split
    · rename_i here
      rw [← here, absent]
    · rfl
  rw [taken]
  refine ⟨by simp, ?_, ?_, ?_⟩
  · intro key start
    rw [unchanged]
    exact describes.without_waiting ends key start
  · rw [pairs_append, pairsEndingAt_append_of_not alone, List.append_nil, map_spanOfPair?_append,
      enter_spans, describes.spans]
  · rw [countP_isUnmatchedEnd_append, if_pos unmatched, enter_unmatchedEnds,
      describes.unmatchedEnds]

/-- One push keeps the description. -/
theorem Describes.push (describes : Describes pushes pairing) (device : UInt32)
    (record : StarsLog) :
    Describes (pushes ++ [(device, record)]) (pairing.push device record) := by
  cases kind : record.funcType with
  | taskStart => exact describes.push_start kind
  | taskEnd =>
      cases found : waitingFor? (pairing.enter device).waiting record.key with
      | some start => exact describes.push_matched kind found
      | none => exact describes.push_unmatched kind found
  | unknown code => exact describes.push_unknown kind

end Step

theorem ofPushes_append (before after : List Push) :
    ofPushes (before ++ after) =
      after.foldl (fun pairing push => pairing.push push.1 push.2) (ofPushes before) :=
  List.foldl_append

theorem describes_nil : Describes [] {} := by
  refine ⟨rfl, ?_, rfl, rfl⟩
  intro key start
  constructor
  · intro found
    cases found
  · rintro ⟨-, first, device, waits⟩
    exact absurd waits.lt_length (Nat.not_lt_zero first)

theorem Describes.foldl {done : List Push} {pairing : Pairing}
    (describes : Describes done pairing) (pushes : List Push) :
    Describes (done ++ pushes)
      (pushes.foldl (fun pairing push => pairing.push push.1 push.2) pairing) := by
  induction pushes generalizing done pairing with
  | nil => simpa using describes
  | cons first rest induction =>
      have next := induction (describes.push first.1 first.2)
      simpa using next

theorem describes_ofPushes (pushes : List Push) : Describes pushes (ofPushes pushes) :=
  describes_nil.foldl pushes

section Unknown

variable {pairing : Pairing} {device other : UInt32}

end Unknown

end Pairing

theorem Paired.unique {pushes : List Push} {first other last : Nat}
    (left : Paired pushes first last) (right : Paired pushes other last) : first = other := by
  obtain ⟨before, opening, atFirst, closing, atLast, starts, -, key, -, between⟩ := left
  obtain ⟨otherBefore, otherOpening, atOther, otherClosing, otherAtLast, otherStarts, -, otherKey,
    -, otherBetween⟩ := right
  cases atLast.symm.trans otherAtLast
  have sameKey : opening.2.key = otherOpening.2.key := key.symm.trans otherKey
  rcases Nat.lt_trichotomy first other with earlier | same | later
  · obtain ⟨found, present, -, unmarked⟩ := between other otherBefore earlier
    cases present.symm.trans atOther
    exact absurd ⟨.inl otherStarts, sameKey.symm⟩ unmarked
  · exact same
  · obtain ⟨found, present, -, unmarked⟩ := otherBetween first before later
    cases present.symm.trans atFirst
    exact absurd ⟨.inl starts, sameKey⟩ unmarked

-- The second start of task 1 counts; task 2 is cut in two by a record of another device.
example :
    let event (kind : FuncType) (task : UInt16) : StarsLog := ⟨kind, 0, 0, task, 0, 0, 0⟩
    pairs [(0, event .taskStart 1), (0, event .taskStart 1), (0, event .taskEnd 1),
      (0, event .taskStart 2), (1, event (.unknown 9) 0), (0, event .taskEnd 2)] = [(1, 2)] := by
  decide

end AcceleratorTrace
