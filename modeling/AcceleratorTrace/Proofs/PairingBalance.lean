import AcceleratorTrace.Proofs.PairedPositions
import Mathlib.Data.Finset.Card
import Mathlib.Data.Finset.Range

/-!
# Starts and ends add up

Every end is part of a span or counted as unmatched.  A start has a third fate: if
another start of its key comes before its end, the other one waits in its place,
and the first is neither part of a span nor counted.  With these replaced starts
the starts add up too.
-/

namespace AcceleratorTrace

/-- Another start of its key comes where the end of this one was due. -/
def IsReplaced (pushes : List Push) (first : Nat) : Prop :=
  ∃ last ∈ List.range pushes.length, Meets .taskStart pushes first last

instance (pushes : List Push) : DecidablePred (IsReplaced pushes) := fun first =>
  inferInstanceAs (Decidable (∃ last ∈ List.range pushes.length,
    Meets .taskStart pushes first last))

/-- The positions of the starts that another start replaces. -/
def replacedStarts (pushes : List Push) : Finset Nat :=
  (Finset.range pushes.length).filter (IsReplaced pushes)

section Replaced

variable {pushes : List Push} {push : Push} {first : Nat}

theorem Meets.last_lt {kind : FuncType} {last : Nat} (meets : Meets kind pushes first last) :
    last < pushes.length := by
  obtain ⟨-, opening, -, closing, atLast, -⟩ := meets
  exact (List.getElem?_eq_some_iff.mp atLast).1

theorem isReplaced_iff : IsReplaced pushes first ↔ ∃ last, Meets .taskStart pushes first last := by
  constructor
  · rintro ⟨last, -, meets⟩
    exact ⟨last, meets⟩
  · rintro ⟨last, meets⟩
    exact ⟨last, List.mem_range.mpr meets.last_lt, meets⟩

theorem mem_replacedStarts : first ∈ replacedStarts pushes ↔ IsReplaced pushes first := by
  rw [replacedStarts, Finset.mem_filter, Finset.mem_range]
  constructor
  · exact And.right
  · intro replaced
    obtain ⟨last, meets⟩ := isReplaced_iff.mp replaced
    exact ⟨Nat.lt_trans meets.1 meets.last_lt, replaced⟩

/-- One more push replaces the start of its key that waits, if it is a start. -/
theorem isReplaced_append :
    IsReplaced (pushes ++ [push]) first ↔
      IsReplaced pushes first ∨ push.2.funcType = .taskStart ∧
        ∃ start, Waits pushes first push.1 start ∧ push.2.key = start.key := by
  rw [isReplaced_iff, isReplaced_iff]
  constructor
  · rintro ⟨last, meets⟩
    have bound := meets.last_lt
    rw [List.length_append, List.length_singleton] at bound
    by_cases inside : last < pushes.length
    · exact .inl ⟨last, (meets_append_of_lt inside).mp meets⟩
    · have final : last = pushes.length := by omega
      subst final
      exact .inr (meets_append_last.mp meets)
  · rintro (⟨last, meets⟩ | replacing)
    · exact ⟨last, (meets_append_of_lt meets.last_lt).mpr meets⟩
    · exact ⟨pushes.length, meets_append_last.mpr replacing⟩

theorem Waits.not_isReplaced {device : UInt32} {start : StarsLog}
    (waits : Waits pushes first device start) : ¬ IsReplaced pushes first := by
  intro replaced
  obtain ⟨last, order, opening, atFirst, closing, atLast, -, starts, key, -⟩ :=
    isReplaced_iff.mp replaced
  cases atFirst.symm.trans waits.1
  exact (waits.2.2 last order closing atLast).2 ⟨.inl starts, key⟩

theorem replacedStarts_append_of_not
    (alone : ∀ first, ¬ (push.2.funcType = .taskStart ∧
      ∃ start, Waits pushes first push.1 start ∧ push.2.key = start.key)) :
    replacedStarts (pushes ++ [push]) = replacedStarts pushes := by
  ext first
  rw [mem_replacedStarts, mem_replacedStarts, isReplaced_append, or_iff_left (alone first)]

theorem card_replacedStarts_append_of_waits {start : StarsLog}
    (starts : push.2.funcType = .taskStart) (waits : Waits pushes first push.1 start)
    (key : push.2.key = start.key) :
    (replacedStarts (pushes ++ [push])).card = (replacedStarts pushes).card + 1 := by
  have fresh : first ∉ replacedStarts pushes :=
    fun member => waits.not_isReplaced (mem_replacedStarts.mp member)
  have inserted : replacedStarts (pushes ++ [push]) = insert first (replacedStarts pushes) := by
    ext other
    rw [Finset.mem_insert, mem_replacedStarts, mem_replacedStarts, isReplaced_append, or_comm]
    apply or_congr_left
    constructor
    · rintro ⟨-, otherStart, otherWaits, otherKey⟩
      exact (otherWaits.unique waits (otherKey.symm.trans key)).1
    · rintro rfl
      exact ⟨starts, start, waits, key⟩
  rw [inserted, Finset.card_insert_of_notMem fresh]

end Replaced

namespace Pairing

section Waiting

variable {waiting : List StarsLog} {key : TaskKey}

theorem without_of_absent (absent : waitingFor? waiting key = none) :
    without waiting key = waiting := by
  rw [waitingFor?, List.find?_eq_none] at absent
  rw [without, List.filter_eq_self]
  intro start member
  simpa using absent start member

theorem length_without_of_found {start : StarsLog}
    (distinct : (waiting.map StarsLog.key).Nodup)
    (found : waitingFor? waiting key = some start) :
    (without waiting key).length + 1 = waiting.length := by
  induction waiting with
  | nil => cases found
  | cons head rest induction =>
      rw [List.map_cons, List.nodup_cons] at distinct
      rw [waitingFor?_cons] at found
      by_cases here : head.key = key
      · -- No other start of the key waits, so the rest stays whole.
        have absent : waitingFor? rest key = none := by
          rw [waitingFor?, List.find?_eq_none]
          intro other member same
          apply distinct.1
          rw [List.mem_map]
          exact ⟨other, member, (beq_iff_eq.mp same).trans here.symm⟩
        have gone : without (head :: rest) key = without rest key := by
          simp [without, here]
        rw [gone, without_of_absent absent, List.length_cons]
      · rw [if_neg here] at found
        have kept : without (head :: rest) key = head :: without rest key := by
          simp [without, here]
        rw [kept, List.length_cons, List.length_cons, induction distinct.2 found]

theorem nodup_without (distinct : (waiting.map StarsLog.key).Nodup) :
    ((without waiting key).map StarsLog.key).Nodup := by
  apply List.Nodup.sublist _ distinct
  exact List.Sublist.map _ List.filter_sublist

theorem nodup_start_without (record : StarsLog) (distinct : (waiting.map StarsLog.key).Nodup) :
    ((record :: without waiting record.key).map StarsLog.key).Nodup := by
  rw [List.map_cons, List.nodup_cons]
  refine ⟨?_, nodup_without distinct⟩
  intro member
  obtain ⟨other, kept, same⟩ := List.mem_map.mp member
  have different := (List.mem_filter.mp kept).2
  simp [same] at different

end Waiting

def startCount (pushes : List Push) : Nat :=
  pushes.countP fun push => push.2.funcType = .taskStart

def endCount (pushes : List Push) : Nat :=
  pushes.countP fun push => push.2.funcType = .taskEnd

/-- The starts and ends so far are in spans, counted, waiting or replaced, and each
waiting start has its own key. -/
structure Balanced (pushes : List Push) (pairing : Pairing) : Prop where
  distinct : (pairing.waiting.map StarsLog.key).Nodup
  starts : startCount pushes =
    pairing.spans.length + pairing.openStarts + (replacedStarts pushes).card
  ends : endCount pushes = pairing.spans.length + pairing.unmatchedEnds

section Step

variable {pushes : List Push} {pairing : Pairing} {device : UInt32} {record : StarsLog}

theorem Balanced.enter (balanced : Balanced pushes pairing) (device : UInt32) :
    Balanced pushes (pairing.enter device) := by
  refine ⟨?_, ?_, ?_⟩
  · unfold Pairing.enter
    split
    · exact balanced.distinct
    · exact List.nodup_nil
  · rw [enter_spans, enter_openStarts]
    exact balanced.starts
  · rw [enter_spans, enter_unmatchedEnds]
    exact balanced.ends

/-- A start waits, and the start of its key that waited is replaced. -/
theorem Balanced.push_start (balanced : Balanced pushes pairing)
    (describes : Describes pushes pairing) (starts : record.funcType = .taskStart) :
    Balanced (pushes ++ [(device, record)]) (pairing.push device record) := by
  have entered := balanced.enter device
  have taken : pairing.push device record =
      { pairing.enter device with
        waiting := record :: without (pairing.enter device).waiting record.key } := by
    simp only [Pairing.push, take, starts]
  have counted : startCount (pushes ++ [(device, record)]) = startCount pushes + 1 := by
    simp [startCount, starts]
  have uncounted : endCount (pushes ++ [(device, record)]) = endCount pushes := by
    simp [endCount, starts]
  have before := entered.starts
  rw [taken]
  refine ⟨nodup_start_without record entered.distinct, ?_, ?_⟩
  · rw [counted]
    cases found : waitingFor? (pairing.enter device).waiting record.key with
    | some start =>
        obtain ⟨key, first, waits⟩ := (describes.enter_waiting record.key start).mp found
        have removed := length_without_of_found entered.distinct found
        rw [card_replacedStarts_append_of_waits starts waits key.symm]
        simp only [openStarts, List.length_cons] at before ⊢
        omega
    | none =>
        have alone : ∀ first, ¬ (record.funcType = .taskStart ∧
            ∃ start, Waits pushes first device start ∧ record.key = start.key) := by
          rintro first ⟨-, start, waits, key⟩
          rw [(describes.enter_waiting record.key start).mpr ⟨key.symm, first, waits⟩] at found
          cases found
        rw [replacedStarts_append_of_not alone, without_of_absent found]
        simp only [openStarts, List.length_cons] at before ⊢
        omega
  · rw [uncounted]
    exact entered.ends

/-- An end makes a span with the start of its key that waits, or it is counted. -/
theorem Balanced.push_end (balanced : Balanced pushes pairing)
    (ends : record.funcType = .taskEnd) :
    Balanced (pushes ++ [(device, record)]) (pairing.push device record) := by
  have entered := balanced.enter device
  have uncounted : startCount (pushes ++ [(device, record)]) = startCount pushes := by
    simp [startCount, ends]
  have counted : endCount (pushes ++ [(device, record)]) = endCount pushes + 1 := by
    simp [endCount, ends]
  have replaced : replacedStarts (pushes ++ [(device, record)]) = replacedStarts pushes := by
    apply replacedStarts_append_of_not
    simp [ends]
  have startsBefore := entered.starts
  have endsBefore := entered.ends
  cases found : waitingFor? (pairing.enter device).waiting record.key with
  | some start =>
      have removed := length_without_of_found entered.distinct found
      have taken : pairing.push device record =
          { pairing.enter device with
            waiting := without (pairing.enter device).waiting record.key
            spans := (pairing.enter device).spans ++ [(device, spanOf start record)] } := by
        simp only [Pairing.push, take, ends, found]
      rw [taken]
      refine ⟨nodup_without entered.distinct, ?_, ?_⟩
      · rw [uncounted, replaced]
        simp only [openStarts, List.length_append, List.length_singleton] at startsBefore ⊢
        omega
      · rw [counted]
        simp only [List.length_append, List.length_singleton]
        omega
  | none =>
      have taken : pairing.push device record =
          { pairing.enter device with
            unmatchedEnds := (pairing.enter device).unmatchedEnds + 1 } := by
        simp only [Pairing.push, take, ends, found]
      rw [taken]
      refine ⟨entered.distinct, ?_, ?_⟩
      · rw [uncounted, replaced]
        exact startsBefore
      · rw [counted]
        simp only
        omega

theorem Balanced.push_unknown (balanced : Balanced pushes pairing) {code : UInt8}
    (unknown : record.funcType = .unknown code) :
    Balanced (pushes ++ [(device, record)]) (pairing.push device record) := by
  have entered := balanced.enter device
  rw [push_of_unknown unknown]
  refine ⟨entered.distinct, ?_, ?_⟩
  · have replaced : replacedStarts (pushes ++ [(device, record)]) = replacedStarts pushes := by
      apply replacedStarts_append_of_not
      simp [unknown]
    have uncounted : startCount (pushes ++ [(device, record)]) = startCount pushes := by
      simp [startCount, unknown]
    rw [replaced, uncounted]
    exact entered.starts
  · have uncounted : endCount (pushes ++ [(device, record)]) = endCount pushes := by
      simp [endCount, unknown]
    rw [uncounted]
    exact entered.ends

theorem Balanced.push (balanced : Balanced pushes pairing) (describes : Describes pushes pairing)
    (device : UInt32) (record : StarsLog) :
    Balanced (pushes ++ [(device, record)]) (pairing.push device record) := by
  cases kind : record.funcType with
  | taskStart => exact balanced.push_start describes kind
  | taskEnd => exact balanced.push_end kind
  | unknown code => exact balanced.push_unknown kind

end Step

theorem balanced_ofPushes (pushes : List Push) : Balanced pushes (ofPushes pushes) := by
  induction pushes using List.reverseRecOn with
  | nil => exact ⟨List.nodup_nil, rfl, rfl⟩
  | append_singleton before push induction =>
      rw [ofPushes_append]
      exact induction.push (describes_ofPushes before) push.1 push.2

end Pairing

/-- Every end pushed is in a span or counted as unmatched.  Every start pushed is in
a span, counted as unmatched, or replaced by another start of its key; so the spans
and the count cover all starts exactly if none is replaced. -/
theorem starts_and_ends_balance (clock : Clock) (pushes : List Push) :
    let summary := (Pairing.ofPushes pushes).finish clock
    let starts := pushes.countP fun push => push.2.funcType = .taskStart
    let ends := pushes.countP fun push => push.2.funcType = .taskEnd
    ends = summary.records.length + summary.unmatchedEnds ∧
      starts = summary.records.length + summary.unmatchedStarts + (replacedStarts pushes).card ∧
      (starts = summary.records.length + summary.unmatchedStarts ↔
        ∀ first last, ¬ Meets .taskStart pushes first last) := by
  intro summary starts ends
  have balanced := Pairing.balanced_ofPushes pushes
  have spans : summary.records.length = (Pairing.ofPushes pushes).spans.length := by
    simp [summary, Pairing.finish]
  have total : starts =
      summary.records.length + summary.unmatchedStarts + (replacedStarts pushes).card := by
    rw [spans]
    exact balanced.starts
  refine ⟨?_, total, ?_⟩
  · rw [spans]
    exact balanced.ends
  · have none : (replacedStarts pushes).card = 0 ↔
        ∀ first last, ¬ Meets .taskStart pushes first last := by
      rw [Finset.card_eq_zero, Finset.eq_empty_iff_forall_notMem]
      simp only [mem_replacedStarts, isReplaced_iff, not_exists]
    rw [← none, total]
    omega

/-- Of two starts and an end of one task, one start is in the span, and the other
is not counted. -/
theorem replaced_start_is_not_counted :
    let event (kind : FuncType) : StarsLog := ⟨kind, 0, 0, 1, 0, 0, 0⟩
    let pushes : List Push := [(0, event .taskStart), (0, event .taskStart), (0, event .taskEnd)]
    let summary := (Pairing.ofPushes pushes).finish ⟨⟨0, 0, 1.0⟩, 1000000, none, by decide⟩
    pushes.countP (fun push => push.2.funcType = .taskStart) = 2 ∧
      summary.records.length + summary.unmatchedStarts = 1 := by
  decide

end AcceleratorTrace
