import AcceleratorTrace.Slice

/-!
# Pairing starts with ends

A task's span runs from its start record to the next end record of the same
stream and task on the same device.  Records are taken in write order.  A
second start of the same task takes the place of the first, and all starts
still waiting when the records move on to another device are given up.
-/

namespace AcceleratorTrace

/-- What a start and its end have in common. -/
abbrev TaskKey := UInt16 × UInt16

def StarsLog.key (record : StarsLog) : TaskKey := (record.streamId, record.taskId)

/-- Pairing in progress. -/
structure Pairing where
  device : Option UInt32 := none
  /-- Starts waiting for their end, at most one per key. -/
  waiting : List StarsLog := []
  /-- Finished spans with their device, in the order of their ends. -/
  spans : List (UInt32 × TaskSpan) := []
  unmatchedStarts : Nat := 0
  unmatchedEnds : Nat := 0
  deriving DecidableEq, Repr

namespace Pairing

/-- The span from a start record to an end record. -/
def spanOf (start stop : StarsLog) : TaskSpan where
  streamId := start.streamId
  taskId := start.taskId
  coreId := start.coreId
  startCycle := start.sysCycle
  endCycle := stop.sysCycle

/-- The start that waits for an end of this key. -/
def waitingFor? (waiting : List StarsLog) (key : TaskKey) : Option StarsLog :=
  waiting.find? fun start => start.key == key

/-- The waiting starts of all other keys. -/
def without (waiting : List StarsLog) (key : TaskKey) : List StarsLog :=
  waiting.filter fun start => start.key != key

/-- Gives up the waiting starts if the records move on to another device. -/
def enter (pairing : Pairing) (device : UInt32) : Pairing :=
  if pairing.device = some device then pairing
  else
    { pairing with
      device := some device
      waiting := []
      unmatchedStarts := pairing.unmatchedStarts + pairing.waiting.length }

/-- Takes a record of the current device. -/
def take (pairing : Pairing) (device : UInt32) (record : StarsLog) : Pairing :=
  match record.funcType with
  | .taskStart => { pairing with waiting := record :: without pairing.waiting record.key }
  | .taskEnd =>
      match waitingFor? pairing.waiting record.key with
      | some start =>
          { pairing with
            waiting := without pairing.waiting record.key
            spans := pairing.spans ++ [(device, spanOf start record)] }
      | none => { pairing with unmatchedEnds := pairing.unmatchedEnds + 1 }
  | .unknown _ => pairing

/-- Takes the next record. -/
def push (pairing : Pairing) (device : UInt32) (record : StarsLog) : Pairing :=
  (pairing.enter device).take device record

/-- Takes the scheduler records out of a stream of any records. -/
def extend (pairing : Pairing) (records : List TimedRecord) : Pairing :=
  records.foldl (fun pairing timed =>
    match timed.record with
    | .starsLog record => pairing.push timed.device record
    | _ => pairing) pairing

/-- All starts without an end, those still waiting included. -/
def openStarts (pairing : Pairing) : Nat :=
  pairing.unmatchedStarts + pairing.waiting.length

end Pairing

/-- The spans of a stream of scheduler records, stamped. -/
structure PairingSummary where
  records : List TimedRecord
  warnings : List TimeWarning
  unmatchedStarts : Nat
  unmatchedEnds : Nat
  deriving DecidableEq, Repr

/-- Ends the pairing and stamps the spans in order. -/
def Pairing.finish (pairing : Pairing) (clock : Clock) : PairingSummary :=
  let stamped := pairing.spans.map fun (device, span) => clock.timeRecord device (.taskTime span)
  { records := stamped.map Prod.fst
    warnings := stamped.flatMap Prod.snd
    unmatchedStarts := pairing.openStarts
    unmatchedEnds := pairing.unmatchedEnds }

/-- The log of a finished pairing. -/
def PairingSummary.logLines (summary : PairingSummary) : List LogLine :=
  let starts := summary.unmatchedStarts
  let ends := summary.unmatchedEnds
  let counts :=
    if 0 < ends ∨ 0 < starts then
      [.debug s!"task time pairing: {ends} unmatched ends, {starts} unmatched starts"]
    else []
  counts ++ summary.warnings.map TimeWarning.logLine

end AcceleratorTrace
