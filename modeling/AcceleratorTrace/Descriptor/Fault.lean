import AcceleratorTrace.Json.Text
import AcceleratorTrace.Number.Text
import AcceleratorTrace.Text.Quoted

/-!
# Why a descriptor is refused

A text that is no JSON is told apart from JSON that does not describe a run;
only the latter has a cause to report.
-/

namespace AcceleratorTrace

/-- What stands where a value of another type is expected. -/
inductive Found where
  | null
  | boolean (value : Bool)
  | integer (value : Int)
  | real (value : Float)
  | string (value : String)
  | sequence
  | map

def Found.message : Found → String
  | .null => "null"
  | .boolean value => s!"boolean `{value}`"
  | .integer value => s!"integer `{value}`"
  | .real value => s!"floating point `{floatText value}`"
  | .string value => "string " ++ quoted value
  | .sequence => "sequence"
  | .map => "map"

/-- What is wrong with a JSON text as a run descriptor. -/
inductive DescriptorCause where
  | missingField (name : String)
  | duplicateField (name : String)
  | unknownChip (name : String)
  | wrongType (found : Found) (expected : String)
  | outOfRange (value : Int) (expected : String)
  | tooFewElements (count : Nat)

def DescriptorCause.message : DescriptorCause → String
  | .missingField name => s!"missing field `{name}`"
  | .duplicateField name => s!"duplicate field `{name}`"
  | .unknownChip name =>
      s!"unknown variant `{name}`, expected one of `gen1`, `gen2`, `gen3`, `gen4`"
  | .wrongType found expected => s!"invalid type: {found.message}, expected {expected}"
  | .outOfRange value expected => s!"invalid value: integer `{value}`, expected {expected}"
  | .tooFewElements count =>
      s!"invalid length {count}, expected struct RunDescriptor with 6 elements"

/-- Why a text is no run descriptor. -/
inductive DescriptorFault where
  | text (fault : Json.Fault)
  | content (cause : DescriptorCause)

end AcceleratorTrace
