import AcceleratorTrace.Engine
import AcceleratorTrace.Number.Digits

/-!
# Names of slice files

An engine writes `<stem>.data.<device>.slice_<number>`.  Both numbers are
decimal and fit 32 bits; leading zeros are allowed.
-/

namespace AcceleratorTrace

/-- What the name of a slice file says. -/
structure SliceName where
  engine : Engine
  device : UInt32
  slice : UInt32
  deriving DecidableEq, Repr

namespace SliceName

/-- Reads at least one decimal digit as a number of 32 bits. -/
def number? (digits : List Char) : Option UInt32 :=
  if digits.isEmpty || !digits.all Char.isDigit then none
  else if digitsValue digits < UInt32.size then some (UInt32.ofNat (digitsValue digits))
  else none

def dataMark : List Char := ".data.".toList

def sliceMark : List Char := ".slice_".toList

/-- Reads a name that has to belong to this engine. -/
def parseFor? (engine : Engine) (name : List Char) : Option SliceName := do
  let afterStem ← engine.stem.toList.isPrefixOf? name
  let numbers ← dataMark.isPrefixOf? afterStem
  let device ← number? (numbers.takeWhile Char.isDigit)
  let digits ← sliceMark.isPrefixOf? (numbers.dropWhile Char.isDigit)
  let slice ← number? digits
  return ⟨engine, device, slice⟩

/-- Reads the name of a slice file of any engine. -/
def parse? (name : String) : Option SliceName :=
  Engine.all.findSome? fun engine => parseFor? engine name.toList

/-- The name without leading zeros. -/
def render (name : SliceName) : String :=
  s!"{name.engine.stem}.data.{name.device.toNat}.slice_{name.slice.toNat}"

end SliceName

end AcceleratorTrace
