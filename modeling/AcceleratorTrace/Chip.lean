/-!
# Chip generations

The generation of the accelerator decides which binary layouts its engines
write.  A run descriptor names it exactly; a user may also type it in any
letter case, or by its digit alone.
-/

namespace AcceleratorTrace

/-- Hardware and firmware generation whose layouts apply. -/
inductive Chip where
  | gen1
  | gen2
  | gen3
  | gen4
  deriving DecidableEq, Repr

namespace Chip

/-- Every generation, oldest first. -/
def all : List Chip := [.gen1, .gen2, .gen3, .gen4]

def name : Chip → String
  | .gen1 => "gen1"
  | .gen2 => "gen2"
  | .gen3 => "gen3"
  | .gen4 => "gen4"

/-- The short spelling a user may type instead of the name. -/
def digit : Chip → String
  | .gen1 => "1"
  | .gen2 => "2"
  | .gen3 => "3"
  | .gen4 => "4"

/-- The generation with exactly this name. -/
def ofName? (text : String) : Option Chip :=
  all.find? fun chip => chip.name == text

/-- A text that names no generation, with its ASCII letters in lower case. -/
structure Unknown where
  lowered : String
  deriving DecidableEq, Repr

def Unknown.message (unknown : Unknown) : String :=
  s!"unknown chip generation '{unknown.lowered}'"

/-- Reads a generation as a user types it: by name in any ASCII letter case,
or by its digit. -/
def parse (text : String) : Except Unknown Chip :=
  let lowered := text.map Char.toLower
  match all.find? fun chip => chip.name == lowered || chip.digit == lowered with
  | some chip => .ok chip
  | none => .error ⟨lowered⟩

end Chip

end AcceleratorTrace
