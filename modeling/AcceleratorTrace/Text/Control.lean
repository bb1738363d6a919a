/-!
# Control sequences

Text for a terminal may carry control sequences, which set colours and the like
and are not part of what is read.  `withoutControls` is what a stream without a
terminal keeps of such a text: the characters outside all sequences, and of the
control characters only the blank ones.
-/

namespace AcceleratorTrace

/-- Puts text in a rendition, and goes back to the plain one after it. -/
def rendered (rendition : String) (text : String) : String :=
  "\x1b[" ++ rendition ++ "m" ++ text ++ "\x1b[0m"

/-- Where the reading of control sequences stands. -/
inductive ControlState where
  /-- Outside all sequences. -/
  | ground
  /-- After the escape character. -/
  | escape
  /-- In a sequence of the escape character and intermediate bytes. -/
  | intermediate
  /-- In a control sequence with parameters. -/
  | parameters
  /-- At the start of a device control string. -/
  | device
  /-- In the parameters of a device control string. -/
  | deviceParameters
  /-- In the intermediate bytes of a device control string. -/
  | deviceIntermediate
  /-- In a string that is not read. -/
  | string
  /-- In a command to the system around the terminal. -/
  | command
  deriving DecidableEq, Repr

namespace ControlState

/-- The state after the byte that follows the escape character. -/
def ofEscape? (byte : UInt8) : Option ControlState :=
  if byte == 0x5b then some .parameters
  else if byte == 0x5d then some .command
  else if byte == 0x50 then some .device
  else if byte == 0x58 || byte == 0x5e || byte == 0x5f then some .string
  else if 0x20 ≤ byte && byte ≤ 0x2f then some .intermediate
  else if 0x30 ≤ byte && byte ≤ 0x7e then some .ground
  else none

/-- The state after a byte, if the byte changes it.  Some bytes end a sequence
of any kind, or start a new one. -/
def next? (state : ControlState) (byte : UInt8) : Option ControlState :=
  if byte == 0x18 || byte == 0x1a then some .ground
  else if byte == 0x1b then some .escape
  else
    match state with
    | .ground => none
    | .escape => ofEscape? byte
    | .intermediate => if 0x30 ≤ byte && byte ≤ 0x7e then some .ground else none
    | .parameters => if 0x40 ≤ byte && byte ≤ 0x7e then some .ground else none
    | .device =>
        if 0x20 ≤ byte && byte ≤ 0x2f then some .deviceIntermediate
        else if 0x30 ≤ byte && byte ≤ 0x3f then some .deviceParameters
        else if 0x40 ≤ byte && byte ≤ 0x7e then some .string
        else none
    | .deviceParameters =>
        if 0x20 ≤ byte && byte ≤ 0x2f then some .deviceIntermediate
        else if 0x3c ≤ byte && byte ≤ 0x7e then some .string
        else none
    | .deviceIntermediate => if 0x30 ≤ byte && byte ≤ 0x7e then some .string else none
    | .string => if byte == 0x9c then some .ground else none
    | .command => if byte == 0x07 then some .ground else none

/-- Whether a byte is a blank control character. -/
def isBlankControl (byte : UInt8) : Bool :=
  byte == 0x09 || byte == 0x0a || byte == 0x0c || byte == 0x0d

/-- The number of bytes that follow the first byte of a character. -/
def tailLength (byte : UInt8) : Nat :=
  if 0xc2 ≤ byte && byte ≤ 0xdf then 1
  else if 0xe0 ≤ byte && byte ≤ 0xef then 2
  else if 0xf0 ≤ byte && byte ≤ 0xf4 then 3
  else 0

/-- Whether a byte is kept.  A blank control character is kept inside a sequence
too, unless the sequence is a string. -/
def keeps (state : ControlState) (byte : UInt8) : Bool :=
  match state with
  | .ground => (0x20 ≤ byte && byte ≤ 0x7e) || tailLength byte != 0 || isBlankControl byte
  | .escape | .intermediate | .parameters => isBlankControl byte
  | _ => false

end ControlState

/-- Where the reading of a text with control sequences stands. -/
structure ControlReader where
  state : ControlState := .ground
  /-- Whether the byte before was kept.  After a byte that was kept the next one
  is taken as outside all sequences. -/
  keeping : Bool := false
  /-- The number of bytes that belong to a character that was begun. -/
  tail : Nat := 0
  deriving DecidableEq, Repr

namespace ControlReader

/-- Takes a byte and tells whether it is kept. -/
def take (reader : ControlReader) (byte : UInt8) : Bool × ControlReader :=
  match reader.tail with
  | tail + 1 => (true, { reader with tail })
  | 0 =>
      let view := if reader.keeping then .ground else reader.state
      let state := (view.next? byte).getD reader.state
      if view.keeps byte then
        let tail := ControlState.tailLength byte
        (true, { state := if tail == 0 then state else .ground, keeping := true, tail })
      else (false, { state })

/-- The bytes that are kept. -/
def keptBytes : ControlReader → List UInt8 → List UInt8
  | _, [] => []
  | reader, byte :: rest =>
      match reader.take byte with
      | (true, next) => byte :: keptBytes next rest
      | (false, next) => keptBytes next rest

end ControlReader

/-- A text without its control sequences. -/
def withoutControls (text : String) : String :=
  let kept := ControlReader.keptBytes {} text.toUTF8.toList
  (String.fromUTF8? ⟨kept.toArray⟩).getD ""

/-- The lines of a text as they are read from a stream: a line ends in a line
feed, or in a carriage return and a line feed. -/
def streamLines (text : String) : List String :=
  (text.splitOn "\n").map fun line =>
    if line.endsWith "\r" then (line.dropEnd 1).toString else line

end AcceleratorTrace
