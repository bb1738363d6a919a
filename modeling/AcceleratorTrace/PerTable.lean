import AcceleratorTrace.Table

/-!
# One value per table

A total map from the tables, as a record, so that two maps are equal exactly
when they agree on every table.
-/

namespace AcceleratorTrace

/-- A value for each table. -/
structure PerTable (α : Type) where
  blockLog : α
  starsLog : α
  aiCpu : α
  qos : α
  hccl : α
  npuMem : α
  taskTime : α
  deriving DecidableEq, Repr

namespace PerTable

variable {α : Type}

/-- The same value for every table. -/
def replicate (value : α) : PerTable α := ⟨value, value, value, value, value, value, value⟩

def get (values : PerTable α) : Table → α
  | .blockLog => values.blockLog
  | .starsLog => values.starsLog
  | .aiCpu => values.aiCpu
  | .qos => values.qos
  | .hccl => values.hccl
  | .npuMem => values.npuMem
  | .taskTime => values.taskTime

def set (values : PerTable α) (table : Table) (value : α) : PerTable α :=
  match table with
  | .blockLog => { values with blockLog := value }
  | .starsLog => { values with starsLog := value }
  | .aiCpu => { values with aiCpu := value }
  | .qos => { values with qos := value }
  | .hccl => { values with hccl := value }
  | .npuMem => { values with npuMem := value }
  | .taskTime => { values with taskTime := value }

@[simp] theorem get_replicate (value : α) (table : Table) :
    (replicate value).get table = value := by
  cases table <;> rfl

@[simp] theorem get_set_self (values : PerTable α) (table : Table) (value : α) :
    (values.set table value).get table = value := by
  cases table <;> rfl

theorem get_set_of_ne (values : PerTable α) {table other : Table} (value : α)
    (different : other ≠ table) : (values.set table value).get other = values.get other := by
  cases table <;> cases other <;> first | rfl | exact absurd rfl different

@[simp] theorem set_get_self (values : PerTable α) (table : Table) :
    values.set table (values.get table) = values := by
  cases table <;> rfl

@[simp] theorem set_set (values : PerTable α) (table : Table) (first second : α) :
    (values.set table first).set table second = values.set table second := by
  cases table <;> rfl

end PerTable

end AcceleratorTrace
