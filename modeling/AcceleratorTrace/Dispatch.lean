import AcceleratorTrace.Chip
import AcceleratorTrace.Decoder

/-!
# Dispatch

Which decoder serves an engine on a chip.  Two tables say so: the engines that
each chip is declared to support, and the decoder registered for each pair.
`Dispatcher.build` reads the registrations one by one into a registry and
accepts the tables only if they agree; after that a lookup cannot find a
half-configured pair.
-/

namespace AcceleratorTrace

/-- The engines that a chip is declared to support. -/
structure Support where
  chip : Chip
  engines : List Engine
  deriving DecidableEq, Repr

/-- The decoder registered for an engine on a chip. -/
structure Registration where
  chip : Chip
  engine : Engine
  decoder : Decoder
  deriving DecidableEq, Repr

/-- Why the two tables are inconsistent. -/
inductive DispatchDefect where
  | missing (chip : Chip) (engine : Engine)
  | duplicate (chip : Chip) (engine : Engine) (count : Nat)
  | undeclared (chip : Chip) (engine : Engine)
  | engineMismatch (chip : Chip) (engine actual : Engine)
  | badLayout (layout : String) (fault : LayoutFault)
  deriving DecidableEq, Repr

def DispatchDefect.message : DispatchDefect → String
  | .missing chip engine =>
      s!"{engine.stem} on {chip.name} is declared supported but has no decoder"
  | .duplicate chip engine count =>
      s!"{engine.stem} on {chip.name} has {count} decoders registered"
  | .undeclared chip engine =>
      s!"{engine.stem} on {chip.name} has a decoder but is not declared supported"
  | .engineMismatch chip engine actual =>
      s!"decoder for {engine.stem} on {chip.name} handles {actual.stem} records"
  | .badLayout layout fault => s!"layout {layout}: {fault.message}"

/-- No decoder is registered for the pair. -/
structure Unsupported where
  chip : Chip
  engine : Engine
  deriving DecidableEq, Repr

def Unsupported.message (pair : Unsupported) : String :=
  s!"no decoder registered for {pair.engine.stem} on {pair.chip.name}"

/-- The decoders of all supported pairs. -/
structure Dispatcher where
  registrations : List Registration
  deriving DecidableEq, Repr

/-- What is known of the registrations read so far. -/
structure Registry where
  /-- How often each pair was registered. -/
  counts : List ((Chip × Engine) × Nat) := []
  /-- The registration of each pair that was read last. -/
  latest : List Registration := []
  deriving DecidableEq, Repr

namespace Registration

def pair (registration : Registration) : Chip × Engine :=
  (registration.chip, registration.engine)

def serves (registration : Registration) (chip : Chip) (engine : Engine) : Bool :=
  registration.chip == chip && registration.engine == engine

/-- Checks one registration by itself: the engine, then the layout. -/
def check (registration : Registration) : Except DispatchDefect Unit :=
  let decoder := registration.decoder
  if decoder.engine ≠ registration.engine then
    .error (.engineMismatch registration.chip registration.engine decoder.engine)
  else
    match decoder.layout.check with
    | .error fault => .error (.badLayout decoder.name fault)
    | .ok () => .ok ()

/-- Takes the place of an earlier registration of the pair, or a place of its
own after all others. -/
def replaceIn (registration : Registration) : List Registration → List Registration
  | [] => [registration]
  | earlier :: rest =>
      if earlier.pair = registration.pair then registration :: rest
      else earlier :: registration.replaceIn rest

end Registration

namespace Registry

/-- Counts a pair once more. -/
def countUp (pair : Chip × Engine) :
    List ((Chip × Engine) × Nat) → List ((Chip × Engine) × Nat)
  | [] => [(pair, 1)]
  | entry :: rest =>
      if entry.1 = pair then (pair, entry.2 + 1) :: rest else entry :: countUp pair rest

def enter (registry : Registry) (registration : Registration) : Registry :=
  ⟨countUp registration.pair registry.counts, registration.replaceIn registry.latest⟩

/-- Checks a registration by itself and enters it. -/
def register (registry : Registry) (registration : Registration) :
    Except DispatchDefect Registry := do
  registration.check
  return registry.enter registration

end Registry

namespace Dispatcher

/-- Whether the pair is in the declared table. -/
def declares (declared : List Support) (chip : Chip) (engine : Engine) : Bool :=
  declared.any fun support => support.chip == chip && support.engines.contains engine

/-- Checks a registered pair, with the number of its registrations, against the
declared table. -/
def checkCount (declared : List Support) (entry : (Chip × Engine) × Nat) :
    Except DispatchDefect Unit :=
  if 1 < entry.2 then .error (.duplicate entry.1.1 entry.1.2 entry.2)
  else if declares declared entry.1.1 entry.1.2 then .ok ()
  else .error (.undeclared entry.1.1 entry.1.2)

/-- The declared pairs, in table order. -/
def pairs (declared : List Support) : List (Chip × Engine) :=
  declared.flatMap fun support => support.engines.map fun engine => (support.chip, engine)

/-- Checks that a declared pair has a registration. -/
def checkDeclared (registrations : List Registration) (pair : Chip × Engine) :
    Except DispatchDefect Unit :=
  if registrations.any fun registration => registration.serves pair.1 pair.2 then .ok ()
  else .error (.missing pair.1 pair.2)

/-- Registers one after the other, then checks every registered pair, then
every declared pair; the first defect is given. -/
def build (declared : List Support) (registrations : List Registration) :
    Except DispatchDefect Dispatcher := do
  let registry ← registrations.foldlM Registry.register {}
  registry.counts.forM (checkCount declared)
  (pairs declared).forM (checkDeclared registry.latest)
  return ⟨registry.latest⟩

/-- The decoder for a pair. -/
def decoderFor (dispatcher : Dispatcher) (chip : Chip) (engine : Engine) :
    Except Unsupported Decoder :=
  match dispatcher.registrations.find? fun registration => registration.serves chip engine with
  | some registration => .ok registration.decoder
  | none => .error ⟨chip, engine⟩

/-- The engines with a decoder on a chip, in engine order. -/
def enginesOn (dispatcher : Dispatcher) (chip : Chip) : List Engine :=
  Engine.all.filter fun engine =>
    dispatcher.registrations.any fun registration => registration.serves chip engine

/-- What each chip generation claims to support. -/
def builtinSupport : List Support :=
  [⟨.gen1, [.taskTrack, .aiCpu, .npuMem]⟩,
    ⟨.gen2, [.taskTrack, .aiCpu, .qos, .hccl, .npuMem]⟩,
    ⟨.gen3, [.taskTrack, .aiCpu, .npuMem]⟩,
    ⟨.gen4, [.starsLog, .aiCpu, .qos, .hccl, .npuMem]⟩]

/-- The decoder of each supported pair. -/
def builtinRegistrations : List Registration :=
  [⟨.gen1, .taskTrack, .blockLog⟩, ⟨.gen1, .aiCpu, .aiCpuV1⟩, ⟨.gen1, .npuMem, .npuMem⟩,
    ⟨.gen2, .taskTrack, .blockLog⟩, ⟨.gen2, .aiCpu, .aiCpuV1⟩, ⟨.gen2, .qos, .qos⟩,
    ⟨.gen2, .hccl, .hccl⟩, ⟨.gen2, .npuMem, .npuMem⟩,
    ⟨.gen3, .taskTrack, .blockLog⟩, ⟨.gen3, .aiCpu, .aiCpuV1⟩, ⟨.gen3, .npuMem, .npuMem⟩,
    ⟨.gen4, .starsLog, .starsLog⟩, ⟨.gen4, .aiCpu, .aiCpuV4⟩, ⟨.gen4, .qos, .qos⟩,
    ⟨.gen4, .hccl, .hccl⟩, ⟨.gen4, .npuMem, .npuMem⟩]

def builtin : Except DispatchDefect Dispatcher :=
  build builtinSupport builtinRegistrations

end Dispatcher

end AcceleratorTrace
