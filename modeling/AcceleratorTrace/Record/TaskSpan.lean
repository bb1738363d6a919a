/-!
# Task spans

The scheduler log has no durations.  A task's span is rebuilt from its start
and end records.
-/

namespace AcceleratorTrace

/-- One execution of a task, from its start record to its end record. -/
structure TaskSpan where
  streamId : UInt16
  taskId : UInt16
  coreId : UInt16
  startCycle : UInt64
  endCycle : UInt64
  deriving DecidableEq, Repr

/-- The length of a span; a span that ends before it starts has none. -/
def TaskSpan.durationCycles (span : TaskSpan) : UInt64 :=
  if span.startCycle ≤ span.endCycle then span.endCycle - span.startCycle else 0

end AcceleratorTrace
