import AcceleratorTrace.Log

/-!
# The error budget

Failed tasks are counted.  Once more have failed than the budget allows, the
run is cancelled: running tasks finish, and no further task starts.
-/

namespace AcceleratorTrace

/-- Failures counted so far, and whether the run is cancelled. -/
structure Budget where
  failures : Nat := 0
  cancelled : Bool := false
  deriving DecidableEq, Repr

namespace Budget

def exceededLine (failures allowed : Nat) : LogLine :=
  .warn s!"{failures} tasks failed, over the budget of {allowed}; cancelling"

/-- Raises the flag, and says so, if this number of failures is too great. -/
def trip (budget : Budget) (allowed? : Option Nat) (failures : Nat) : Budget × List LogLine :=
  match allowed? with
  | none => (budget, [])
  | some allowed =>
      if allowed < failures ∧ budget.cancelled = false then
        ({ budget with cancelled := true }, [exceededLine failures allowed])
      else (budget, [])

/-- Counts one failed task. -/
def charge (budget : Budget) (allowed? : Option Nat) : Budget × List LogLine :=
  let failures := budget.failures + 1
  trip { budget with failures } allowed? failures

end Budget

end AcceleratorTrace
