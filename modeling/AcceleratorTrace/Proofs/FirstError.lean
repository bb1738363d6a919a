/-!
# Up to the first error

A computation that may fail gives its first error.  A list is visited up to the first item
that fails, so a visit that succeeds tells something about every item, and one that fails
about all items up to the failing one.
-/

namespace AcceleratorTrace

theorem bind_eq_ok {ε α β : Type} {computation : Except ε α} {next : α → Except ε β} {result : β}
    (success : computation >>= next = .ok result) :
    ∃ found, computation = .ok found ∧ next found = .ok result := by
  cases computation with
  | error fault => contradiction
  | ok found => exact ⟨found, rfl, success⟩

theorem forM_eq_ok_iff {α ε : Type} (items : List α) (check : α → Except ε Unit) :
    items.forM check = .ok () ↔ ∀ item ∈ items, check item = .ok () := by
  induction items with
  | nil => simp [List.forM, pure, Except.pure]
  | cons first rest induction =>
      cases outcome : check first with
      | error error => simp [List.forM, outcome, bind, Except.bind]
      | ok value => simpa [List.forM, outcome, bind, Except.bind] using induction

theorem forM_eq_error {α ε : Type} {items : List α} {check : α → Except ε Unit} {error : ε}
    (failed : items.forM check = .error error) :
    ∃ before item after, items = before ++ item :: after ∧
      (∀ earlier ∈ before, check earlier = .ok ()) ∧ check item = .error error := by
  induction items with
  | nil => cases failed
  | cons first rest induction =>
      cases outcome : check first with
      | error found =>
          have same : found = error := by
            simpa [List.forM, outcome, bind, Except.bind] using failed
          subst same
          exact ⟨[], first, rest, rfl, List.forall_mem_nil _, outcome⟩
      | ok value =>
          have later : rest.forM check = .error error := by
            simpa [List.forM, outcome, bind, Except.bind] using failed
          obtain ⟨before, item, after, split, sound, refused⟩ := induction later
          subst split
          refine ⟨first :: before, item, after, rfl, ?_, refused⟩
          rw [List.forall_mem_cons]
          exact ⟨outcome, sound⟩

theorem forM_filter_ne {α ε : Type} [BEq α] [LawfulBEq α] {check : α → Except ε Unit} {done : α}
    (passed : check done = .ok ()) (items : List α) :
    (items.filter fun item => !item == done).forM check = items.forM check := by
  induction items with
  | nil => rfl
  | cons first rest induction =>
      by_cases same : first = done
      · subst same
        rw [List.filter_cons_of_neg (by simp), List.forM, passed, induction]
        rfl
      · rw [List.filter_cons_of_pos (by simp [same]), List.forM, List.forM, induction]

/-- What is checked once need not be checked again. -/
theorem forM_eraseDups {α ε : Type} [BEq α] [LawfulBEq α] (check : α → Except ε Unit)
    (items : List α) : items.eraseDups.forM check = items.forM check := by
  induction length : items.length using Nat.strongRecOn generalizing items with
  | _ count induction =>
      cases items with
      | nil => rfl
      | cons first rest =>
          rw [List.eraseDups_cons, List.forM, List.forM]
          cases outcome : check first with
          | error error => rfl
          | ok value =>
              have shorter : (rest.filter fun item => !item == first).length < count := by
                have least := List.length_filter_le (fun item => !item == first) rest
                rw [List.length_cons] at length
                omega
              have later := induction _ shorter _ rfl
              rw [later, forM_filter_ne outcome]

end AcceleratorTrace
