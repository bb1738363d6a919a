import AcceleratorTrace.Clock
import AcceleratorTrace.Descriptor.Value
import AcceleratorTrace.Json.Skip

/-!
# Run descriptors

A run directory holds a JSON text that names the chip and gives the clock
reference of the run, and maybe the window of wall time that it covers.  The
text is an object with its members in any order, other members being passed
over, or an array of the values in declaration order.  The first problem in
text order is reported.
-/

namespace AcceleratorTrace

/-- The chip and the clock reference of a run. -/
structure Descriptor where
  chip : Chip
  referenceCycle : UInt64
  referenceWallNs : Int64
  /-- Cycles per microsecond. -/
  frequency : Float
  runStartNs : Option Int64
  runEndNs : Option Int64

namespace Descriptor

/-- The window of the run, if both of its ends are given. -/
def window? (descriptor : Descriptor) : Option Window :=
  match descriptor.runStartNs, descriptor.runEndNs with
  | some startNs, some endNs => some ⟨startNs, endNs⟩
  | _, _ => none

def reference (descriptor : Descriptor) : ClockReference where
  cycle := descriptor.referenceCycle
  wallNs := descriptor.referenceWallNs
  frequency := descriptor.frequency

/-- The clock of the run. -/
def clock (descriptor : Descriptor) : Except BadFrequency Clock :=
  Clock.create descriptor.reference descriptor.window?

/-- The members of a descriptor, in declaration order. -/
inductive Member where
  | chip
  | referenceCycle
  | referenceWallNs
  | frequency
  | runStartNs
  | runEndNs
  deriving DecidableEq, Repr

namespace Member

def all : List Member :=
  [.chip, .referenceCycle, .referenceWallNs, .frequency, .runStartNs, .runEndNs]

def name : Member → String
  | .chip => "chip"
  | .referenceCycle => "reference_cycle_count"
  | .referenceWallNs => "reference_wall_time_ns"
  | .frequency => "cycles_per_microsecond"
  | .runStartNs => "run_start_ns"
  | .runEndNs => "run_end_ns"

def ofName? (text : String) : Option Member :=
  all.find? fun member => member.name == text

end Member

/-- The members read so far. -/
structure Draft where
  chip : Option Chip := none
  referenceCycle : Option UInt64 := none
  referenceWallNs : Option Int64 := none
  frequency : Option Float := none
  runStartNs : Option (Option Int64) := none
  runEndNs : Option (Option Int64) := none

namespace Draft

def has (draft : Draft) : Member → Bool
  | .chip => draft.chip.isSome
  | .referenceCycle => draft.referenceCycle.isSome
  | .referenceWallNs => draft.referenceWallNs.isSome
  | .frequency => draft.frequency.isSome
  | .runStartNs => draft.runStartNs.isSome
  | .runEndNs => draft.runEndNs.isSome

/-- Reads the value of a member into the draft. -/
def fill (draft : Draft) (member : Member) (text : List Char) : Reading Draft :=
  match member with
  | .chip =>
      (Reading.chip text).map fun (value, rest) => ({ draft with chip := some value }, rest)
  | .referenceCycle =>
      (Reading.unsigned text).map fun (value, rest) =>
        ({ draft with referenceCycle := some value }, rest)
  | .referenceWallNs =>
      (Reading.signed text).map fun (value, rest) =>
        ({ draft with referenceWallNs := some value }, rest)
  | .frequency =>
      (Reading.double text).map fun (value, rest) =>
        ({ draft with frequency := some value }, rest)
  | .runStartNs =>
      (Reading.optionalSigned text).map fun (value, rest) =>
        ({ draft with runStartNs := some value }, rest)
  | .runEndNs =>
      (Reading.optionalSigned text).map fun (value, rest) =>
        ({ draft with runEndNs := some value }, rest)

/-- A member that has to be there. -/
def require {α : Type} (member : Member) : Option α → Except DescriptorFault α
  | some value => .ok value
  | none => .error (.content (.missingField member.name))

/-- The descriptor of a draft.  The first missing member is reported; the ends
of the window may be left out. -/
def complete (draft : Draft) : Except DescriptorFault Descriptor := do
  let chip ← require .chip draft.chip
  let referenceCycle ← require .referenceCycle draft.referenceCycle
  let referenceWallNs ← require .referenceWallNs draft.referenceWallNs
  let frequency ← require .frequency draft.frequency
  return { chip, referenceCycle, referenceWallNs, frequency,
           runStartNs := draft.runStartNs.join, runEndNs := draft.runEndNs.join }

end Draft

/-- Reads one member after the opening quote of its key.  A second occurrence
is refused as soon as its key is read. -/
def readMember (draft : Draft) (text : List Char) :
    Except DescriptorFault (Draft × List Char) := do
  let (key, rest) ← Reading.ofText (Json.readString text)
  match Member.ofName? (String.ofList key) with
  | none =>
      let rest ← Reading.ofText (Json.expectMark ':' rest)
      let rest ← Reading.ofText (Json.skipValue rest)
      return (draft, rest)
  | some member =>
      if draft.has member then Reading.fail (.duplicateField member.name)
      else
        let rest ← Reading.ofText (Json.expectMark ':' rest)
        draft.fill member rest

/-- Reads the members after a first one, up to the end of the object.  The
fuel bounds their number. -/
def readMoreMembers :
    (fuel : Nat) → Draft → List Char → Except DescriptorFault (Draft × List Char)
  | 0, _, _ => .error (.text .endOfInput)
  | fuel + 1, draft, text =>
      match Json.skipSpace text with
      | '\x7d' :: rest => .ok (draft, rest)
      | ',' :: rest => do
          let rest ← Reading.ofText (Json.expectMark '"' rest)
          let (draft, rest) ← readMember draft rest
          readMoreMembers fuel draft rest
      | text => .error (.text (Json.unexpected text))

/-- Reads the members of an object after its opening brace. -/
def readMembers (text : List Char) : Except DescriptorFault (Draft × List Char) :=
  match Json.skipSpace text with
  | '\x7d' :: rest => .ok ({}, rest)
  | '"' :: rest => do
      let (draft, rest) ← readMember {} rest
      readMoreMembers (rest.length + 1) draft rest
  | text => .error (.text (Json.unexpected text))

/-- Reads a descriptor after an opening brace. -/
def readObject (text : List Char) : Except DescriptorFault (Descriptor × List Char) := do
  let (draft, rest) ← readMembers text
  let descriptor ← draft.complete
  return (descriptor, rest)

/-- The text where the next element of an array starts, if there is one. -/
def nextElement? (first : Bool) (text : List Char) :
    Except DescriptorFault (Option (List Char)) :=
  match Json.skipSpace text with
  | [] => .error (.text .endOfInput)
  | ']' :: _ => .ok none
  | ',' :: rest =>
      if first then .ok (some (',' :: rest))
      else
        match Json.skipSpace rest with
        | [] => .error (.text .endOfInput)
        | ']' :: _ => .error (.text .malformed)
        | rest => .ok (some rest)
  | text => if first then .ok (some text) else .error (.text .malformed)

/-- Reads an element that has to be there. -/
def readElement {α : Type} (index : Nat) (read : List Char → Reading α) (text : List Char) :
    Except DescriptorFault (α × List Char) := do
  match ← nextElement? (index == 0) text with
  | some element => read element
  | none => Reading.fail (.tooFewElements index)

/-- Reads an element that may be left off at the end. -/
def readOptionalElement (text : List Char) :
    Except DescriptorFault (Option Int64 × List Char) := do
  match ← nextElement? false text with
  | some element => Reading.optionalSigned element
  | none => return (none, text)

/-- Reads a descriptor after an opening bracket. -/
def readArray (text : List Char) : Except DescriptorFault (Descriptor × List Char) := do
  let (chip, rest) ← readElement 0 Reading.chip text
  let (referenceCycle, rest) ← readElement 1 Reading.unsigned rest
  let (referenceWallNs, rest) ← readElement 2 Reading.signed rest
  let (frequency, rest) ← readElement 3 Reading.double rest
  let (runStartNs, rest) ← readOptionalElement rest
  let (runEndNs, rest) ← readOptionalElement rest
  let rest ← Reading.ofText (Json.expectMark ']' rest)
  return ({ chip, referenceCycle, referenceWallNs, frequency, runStartNs, runEndNs }, rest)

/-- Reads a descriptor at the start of a text. -/
def read (text : List Char) : Reading Descriptor :=
  match Json.skipSpace text with
  | [] => .error (.text .endOfInput)
  | '\x7b' :: rest => readObject rest
  | '[' :: rest => readArray rest
  | text => Reading.wrongType "struct RunDescriptor" text

/-- Reads a text that is a descriptor and nothing else. -/
def parse (text : String) : Except DescriptorFault Descriptor := do
  let (descriptor, rest) ← read text.toList
  if (Json.skipSpace rest).isEmpty then return descriptor
  else .error (.text .malformed)

end Descriptor

end AcceleratorTrace
