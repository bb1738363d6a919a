import AcceleratorTrace.Chip
import AcceleratorTrace.Descriptor.Fault
import AcceleratorTrace.Json.Number

/-!
# Typed values of a descriptor

Each reader takes the text where a value has to stand and gives the value and
what is left.  A value of another type is reported as what it is.
-/

namespace AcceleratorTrace

/-- The result of reading a value: the value and the text after it. -/
abbrev Reading (α : Type) := Except DescriptorFault (α × List Char)

namespace Reading

/-- A reading of JSON text, with its fault as a fault of the descriptor. -/
def ofText {α : Type} (reading : Except Json.Fault α) : Except DescriptorFault α :=
  reading.mapError .text

def fail {α : Type} (cause : DescriptorCause) : Except DescriptorFault α :=
  .error (.content cause)

/-- What a number is reported as. -/
def foundNumber : Json.Number → Found
  | .integer value => .integer value
  | .real value => .real value

/-- What stands at the start of a text that is not blank there. -/
def found : List Char → Except Json.Fault Found
  | 'n' :: rest => (Json.expectWord ['u', 'l', 'l'] rest).map fun _ => .null
  | 't' :: rest => (Json.expectWord ['r', 'u', 'e'] rest).map fun _ => .boolean true
  | 'f' :: rest => (Json.expectWord ['a', 'l', 's', 'e'] rest).map fun _ => .boolean false
  | '"' :: rest => (Json.readString rest).map fun result => .string (String.ofList result.1)
  | '-' :: rest => (Json.readNumber true rest).map fun result => foundNumber result.1
  | '[' :: _ => .ok .sequence
  | '\x7b' :: _ => .ok .map
  | c :: rest =>
      if c.isDigit then (Json.readNumber false (c :: rest)).map fun result => foundNumber result.1
      else .error .malformed
  | [] => .error .endOfInput

/-- Refuses a value of another type than the expected one. -/
def wrongType {α : Type} (expected : String) (text : List Char) : Except DescriptorFault α :=
  match found text with
  | .error fault => .error (.text fault)
  | .ok found => fail (.wrongType found expected)

/-- Reads a number where one of the expected type has to stand. -/
def number (expected : String) (text : List Char) : Reading Json.Number :=
  match Json.skipSpace text with
  | '-' :: rest => ofText (Json.readNumber true rest)
  | [] => .error (.text .endOfInput)
  | c :: rest =>
      if c.isDigit then ofText (Json.readNumber false (c :: rest))
      else wrongType expected (c :: rest)

/-- Reads an integer between two bounds, both included. -/
def integerBetween (least greatest : Int) (expected : String) (text : List Char) : Reading Int :=
  match number expected text with
  | .error fault => .error fault
  | .ok (.real value, _) => fail (.wrongType (.real value) expected)
  | .ok (.integer value, rest) =>
      if least ≤ value ∧ value ≤ greatest then .ok (value, rest)
      else fail (.outOfRange value expected)

/-- Reads an unsigned 64-bit integer. -/
def unsigned (text : List Char) : Reading UInt64 :=
  (integerBetween 0 (UInt64.size - 1) "u64" text).map fun (value, rest) =>
    (UInt64.ofNat value.toNat, rest)

/-- Reads a signed 64-bit integer. -/
def signed (text : List Char) : Reading Int64 :=
  (integerBetween Int64.minValue.toInt Int64.maxValue.toInt "i64" text).map fun (value, rest) =>
    (Int64.ofInt value, rest)

/-- Reads a signed 64-bit integer or null. -/
def optionalSigned (text : List Char) : Reading (Option Int64) :=
  match Json.skipSpace text with
  | 'n' :: rest =>
      (ofText (Json.expectWord ['u', 'l', 'l'] rest)).map fun rest => (none, rest)
  | text => (signed text).map fun (value, rest) => (some value, rest)

/-- The double nearest to an integer of at most 64 bits. -/
def doubleOfInteger (value : Int) : Float :=
  let magnitude := (UInt64.ofNat value.natAbs).toFloat
  if value < 0 then -magnitude else magnitude

/-- Reads any number as a double. -/
def double (text : List Char) : Reading Float :=
  (number "f64" text).map fun (number, rest) =>
    match number with
    | .integer value => (doubleOfInteger value, rest)
    | .real value => (value, rest)

/-- Reads the name of a chip after its opening quote. -/
def chipName (text : List Char) : Reading Chip :=
  match Json.readString text with
  | .error fault => .error (.text fault)
  | .ok (name, rest) =>
      match Chip.ofName? (String.ofList name) with
      | some chip => .ok (chip, rest)
      | none => fail (.unknownChip (String.ofList name))

/-- Reads null. -/
def null (text : List Char) : Except DescriptorFault (List Char) :=
  match Json.skipSpace text with
  | 'n' :: rest => ofText (Json.expectWord ['u', 'l', 'l'] rest)
  | [] => .error (.text .endOfInput)
  | text => wrongType "unit" text

/-- Reads a chip in an object, after the opening brace: its name as the only
key, with null as the value. -/
def chipObject (text : List Char) : Except DescriptorFault (Chip × List Char) :=
  match Json.skipSpace text with
  | '"' :: rest => do
      let (chip, rest) ← chipName rest
      let rest ← ofText (Json.expectMark ':' rest)
      let rest ← null rest
      let rest ← ofText (Json.expectMark '\x7d' rest)
      return (chip, rest)
  | text => .error (.text (Json.unexpected text))

/-- Reads a chip: its name, or an object with the name as its only key. -/
def chip (text : List Char) : Reading Chip :=
  match Json.skipSpace text with
  | '"' :: rest => chipName rest
  | '\x7b' :: rest => chipObject rest
  | text => .error (.text (Json.unexpected text))

end Reading

end AcceleratorTrace
