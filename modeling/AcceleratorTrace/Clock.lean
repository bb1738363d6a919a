import AcceleratorTrace.Number.Clamp
import AcceleratorTrace.Number.Text

/-!
# The clock of a run

A run records one reference sample: a cycle count taken at a known wall time,
and the frequency of the counter.  Every other count is mapped linearly around
that point.  The frequency is held as a whole number of cycles per second, so
the conversion is exact integer division, truncated toward the reference and
clamped to 64 bits.

A run may also declare the window of wall time that it covers.  A time outside
it is kept and flagged.
-/

namespace AcceleratorTrace

/-- Wall time covered by a run, both ends included. -/
structure Window where
  startNs : Int64
  endNs : Int64
  deriving DecidableEq, Repr

def Window.contains (window : Window) (wallNs : Int64) : Bool :=
  window.startNs ≤ wallNs && wallNs ≤ window.endNs

/-- A time outside the window of the run. -/
structure TimeWarning where
  cycle : UInt64
  wallNs : Int64
  window : Window
  deriving DecidableEq, Repr

def TimeWarning.message (warning : TimeWarning) : String :=
  let bounds := s!"[{warning.window.startNs.toInt}, {warning.window.endNs.toInt}]"
  s!"cycle {warning.cycle.toNat} maps to {warning.wallNs.toInt} ns, outside run bounds {bounds}"

/-- The reference sample of a run; the frequency is in cycles per microsecond. -/
structure ClockReference where
  cycle : UInt64
  wallNs : Int64
  frequency : Float

/-- A frequency that is not a positive finite number of cycles per second. -/
structure BadFrequency where
  frequency : Float

def BadFrequency.message (bad : BadFrequency) : String :=
  s!"cycle frequency must be positive and finite, got {plainText bad.frequency}"

/-- Converts the cycle counts of one run. -/
structure Clock where
  reference : ClockReference
  cyclesPerSecond : Nat
  window : Option Window
  cyclesPerSecond_pos : 0 < cyclesPerSecond

namespace Clock

/-- The largest number of cycles per second that a clock holds. -/
def cyclesLimit : Nat := Nat.pow 2 127 - 1

/-- Cycles per second of a positive frequency: a half rounds up, and a product
too large for a double counts as the limit. -/
def roundedCycles (frequency : Float) : Nat :=
  match Binary64.ofFloat? (frequency * 1000000.0) with
  | some product => min product.roundMagnitude cyclesLimit
  | none => cyclesLimit

/-- Whether the frequency is a finite number above zero. -/
def isUsable (frequency : Float) : Bool :=
  match Binary64.ofFloat? frequency with
  | some parts => parts.isPositive
  | none => false

/-- Builds a clock, unless the frequency rounds to no cycles at all. -/
def create (reference : ClockReference) (window : Option Window) : Except BadFrequency Clock :=
  let cycles := roundedCycles reference.frequency
  if isUsable reference.frequency then
    if positive : 0 < cycles then .ok ⟨reference, cycles, window, positive⟩
    else .error ⟨reference.frequency⟩
  else .error ⟨reference.frequency⟩

def nanosPerSecond : Int := 1000000000

/-- The wall time of a cycle count, in nanoseconds. -/
def wallNs (clock : Clock) (cycle : UInt64) : Int64 :=
  let delta : Int := (cycle.toNat : Int) - (clock.reference.cycle.toNat : Int)
  let offset := (delta * nanosPerSecond).tdiv clock.cyclesPerSecond
  clampInt64 (clock.reference.wallNs.toInt + offset)

/-- The length of a number of cycles, in nanoseconds. -/
def spanNs (clock : Clock) (cycles : UInt64) : Int64 :=
  clampInt64 (((cycles.toNat : Int) * nanosPerSecond).tdiv clock.cyclesPerSecond)

/-- The warning for a wall time, if it lies outside the window. -/
def warning? (clock : Clock) (cycle : UInt64) (wallNs : Int64) : Option TimeWarning :=
  match clock.window with
  | none => none
  | some window => if window.contains wallNs then none else some ⟨cycle, wallNs, window⟩

/-- The wall time of a cycle count, with a warning if it is outside the window. -/
def observe (clock : Clock) (cycle : UInt64) : Int64 × Option TimeWarning :=
  let wallNs := clock.wallNs cycle
  (wallNs, clock.warning? cycle wallNs)

end Clock

end AcceleratorTrace
