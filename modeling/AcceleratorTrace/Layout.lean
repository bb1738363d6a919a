/-!
# Record layouts

A layout declares the bytes of a fixed-size record once, as fields in offset
order.  Fields narrower than a byte are bit fields inside an integer field.
Decoders read only through a layout, so where each value sits is written down
in one place, and `Layout.check` decides whether the declared fields tile the
record.
-/

namespace AcceleratorTrace

/-- Byte order of the integer fields of a layout. -/
inductive ByteOrder where
  | little
  | big
  deriving DecidableEq, Repr

/-- The integer written by these bytes.  More than eight bytes leave only what
the last eight shifts keep. -/
def ByteOrder.value : ByteOrder → List UInt8 → UInt64
  | .little, bytes => bytes.foldr (fun byte acc => acc <<< 8 ||| byte.toUInt64) 0
  | .big, bytes => bytes.foldl (fun acc byte => acc <<< 8 ||| byte.toUInt64) 0

/-- Bits `lsb` to `msb` of a parent integer, both included, counted from its
least significant bit. -/
structure BitField where
  name : String
  msb : Nat
  lsb : Nat
  deriving DecidableEq, Repr

namespace BitField

def width (bit : BitField) : Nat := bit.msb + 1 - bit.lsb

/-- Whether the field lies in a parent of 64 bits. -/
def InWord (bit : BitField) : Prop := bit.lsb ≤ bit.msb ∧ bit.msb < 64

instance (bit : BitField) : Decidable bit.InWord := inferInstanceAs (Decidable (_ ∧ _))

/-- A word with its lowest bits set, as many as are asked for. -/
def lowBits (width : Nat) : UInt64 :=
  if 64 ≤ width then 0xFFFFFFFFFFFFFFFF else (1 <<< UInt64.ofNat width) - 1

/-- The bits of the parent that this field occupies, if it lies in a word. -/
def mask (bit : BitField) : UInt64 := lowBits bit.width <<< UInt64.ofNat bit.lsb

/-- Shifts the bits above the field out at the top, then those below it out at
the bottom. -/
def extract (bit : BitField) (parent : UInt64) : UInt64 :=
  let above := 63 - bit.msb
  (parent <<< UInt64.ofNat above) >>> UInt64.ofNat (above + bit.lsb)

end BitField

/-- One field of a record; a packed field also names its bit fields. -/
structure Field where
  name : String
  offset : Nat
  width : Nat
  bits : List BitField := []
  deriving DecidableEq, Repr

namespace Field

/-- The offset just past the field. -/
def stop (field : Field) : Nat := field.offset + field.width

/-- The bytes of the field, unless it reaches past the end. -/
def bytes? (field : Field) (raw : List UInt8) : Option (List UInt8) :=
  if field.stop ≤ raw.length then some ((raw.drop field.offset).take field.width) else none

end Field

/-- The bytes of one record kind. -/
structure Layout where
  name : String
  size : Nat
  order : ByteOrder
  fields : List Field
  deriving DecidableEq, Repr

/-- Why a layout does not describe its record. -/
inductive LayoutFault where
  | emptyRecord
  | zeroWidth (field : String)
  | misplaced (field : String) (offset expected : Nat)
  | packedTooWide (field : String)
  | bitsOutside (field bit : String) (lsb msb room : Nat)
  | bitsOverlap (field bit : String)
  /-- The field ends past the last offset of 64 bits. -/
  | endOutOfRange (field : String)
  | coverage (covered size : Nat)
  deriving DecidableEq, Repr

def LayoutFault.message : LayoutFault → String
  | .emptyRecord => "record size is zero"
  | .zeroWidth field => s!"field {field} has zero width"
  | .misplaced field offset expected =>
      s!"field {field} starts at {offset} but the previous field ends at {expected}"
  | .packedTooWide field => s!"packed field {field} is wider than 8 bytes"
  | .bitsOutside field bit lsb msb room =>
      s!"bit field {field}.{bit} ({lsb}..={msb}) does not fit in {room} bits"
  | .bitsOverlap field bit => s!"bit field {field}.{bit} overlaps another sub-field"
  | .endOutOfRange field => s!"field {field} ends out of range"
  | .coverage covered size => s!"fields cover {covered} bytes but the record is {size} bytes"

/-- A record whose byte count is not that of its layout. -/
structure WrongLength where
  layout : String
  expected : Nat
  actual : Nat
  deriving DecidableEq, Repr

def WrongLength.message (wrong : WrongLength) : String :=
  s!"{wrong.layout}: expected {wrong.expected} bytes, got {wrong.actual}"

namespace Layout

/-- Checks bit fields from left to right; `used` holds the bits of those
before. -/
def checkBits (field : Field) : (used : UInt64) → List BitField → Except LayoutFault Unit
  | _, [] => .ok ()
  | used, bit :: rest =>
      let room := field.width * 8
      if bit.msb < bit.lsb ∨ room ≤ bit.msb then
        .error (.bitsOutside field.name bit.name bit.lsb bit.msb room)
      else if used &&& bit.mask ≠ 0 then
        .error (.bitsOverlap field.name bit.name)
      else checkBits field (used ||| bit.mask) rest

/-- Checks one field that has to start at `cursor`. -/
def checkField (cursor : Nat) (field : Field) : Except LayoutFault Unit :=
  if field.width = 0 then .error (.zeroWidth field.name)
  else if field.offset ≠ cursor then .error (.misplaced field.name field.offset cursor)
  else if field.bits ≠ [] ∧ 8 < field.width then .error (.packedTooWide field.name)
  else checkBits field 0 field.bits

/-- Checks fields from left to right and gives the offset just past the last. -/
def checkFields : (cursor : Nat) → List Field → Except LayoutFault Nat
  | cursor, [] => .ok cursor
  | cursor, field :: rest =>
      match checkField cursor field with
      | .error fault => .error fault
      | .ok () =>
          if field.stop < UInt64.size then checkFields field.stop rest
          else .error (.endOutOfRange field.name)

/-- Accepts a layout whose fields, in offset order, tile the record, with bit
fields that fit their parent and do not overlap.  The first fault is given. -/
def check (layout : Layout) : Except LayoutFault Unit :=
  if layout.size = 0 then .error .emptyRecord
  else
    match checkFields 0 layout.fields with
    | .error fault => .error fault
    | .ok covered =>
        if covered ≠ layout.size then .error (.coverage covered layout.size) else .ok ()

/-- Accepts exactly one record. -/
def checkLength (layout : Layout) (raw : List UInt8) : Except WrongLength Unit :=
  if raw.length ≠ layout.size then .error ⟨layout.name, layout.size, raw.length⟩ else .ok ()

/-- The integer in a field, unless the field reaches past the end. -/
def read? (layout : Layout) (raw : List UInt8) (field : Field) : Option UInt64 :=
  (field.bytes? raw).map layout.order.value

def readU8? (layout : Layout) (raw : List UInt8) (field : Field) : Option UInt8 :=
  (layout.read? raw field).map UInt64.toUInt8

def readU16? (layout : Layout) (raw : List UInt8) (field : Field) : Option UInt16 :=
  (layout.read? raw field).map UInt64.toUInt16

def readU32? (layout : Layout) (raw : List UInt8) (field : Field) : Option UInt32 :=
  (layout.read? raw field).map UInt64.toUInt32

/-- A bit field of a packed field, unless it lies outside a 64-bit integer.  Bits
past the width of the packed field are zero. -/
def readBitField? (layout : Layout) (raw : List UInt8) (field : Field) (bit : BitField) :
    Option UInt64 :=
  if bit.InWord then (layout.read? raw field).map bit.extract else none

end Layout

end AcceleratorTrace
