/-!
# Bytes as text

Names of files are bytes.  Those that are UTF-8 are texts; of any others only a
likeness can be shown, with one replacement character for each byte that starts
no character and for each character that breaks off.
-/

namespace AcceleratorTrace

/-- The text that bytes are, if they are UTF-8. -/
def textOfBytes? (bytes : List UInt8) : Option String :=
  String.fromUTF8? ⟨bytes.toArray⟩

theorem textOfBytes?_eq_some_iff {bytes : List UInt8} {text : String} :
    textOfBytes? bytes = some text ↔ bytes = text.toUTF8.data.toList := by
  rw [textOfBytes?, String.fromUTF8?]
  constructor
  · intro decoded
    split at decoded
    · obtain rfl := Option.some.inj decoded
      rfl
    · cases decoded
  · rintro rfl
    exact dif_pos text.isValidUTF8

/-- Stands for bytes that are no text. -/
def replacementChar : Char := '\ufffd'

/-- A character of which some bytes are read. -/
structure StartedChar where
  /-- The number of bytes to come. -/
  missing : Nat
  /-- The bits read so far. -/
  code : Nat
  /-- The least next byte. -/
  least : UInt8 := 0x80
  /-- The greatest next byte. -/
  greatest : UInt8 := 0xbf
  deriving DecidableEq, Repr

namespace StartedChar

/-- The character that a first byte starts.  Some first bytes narrow the second
one down, so that no character has two forms and none is a surrogate. -/
def ofFirst? (byte : UInt8) : Option StartedChar :=
  if 0xc2 ≤ byte && byte ≤ 0xdf then some { missing := 1, code := byte.toNat - 0xc0 }
  else if byte == 0xe0 then some { missing := 2, code := 0x0, least := 0xa0 }
  else if byte == 0xed then some { missing := 2, code := 0xd, greatest := 0x9f }
  else if 0xe1 ≤ byte && byte ≤ 0xef then some { missing := 2, code := byte.toNat - 0xe0 }
  else if byte == 0xf0 then some { missing := 3, code := 0x0, least := 0x90 }
  else if byte == 0xf4 then some { missing := 3, code := 0x4, greatest := 0x8f }
  else if 0xf1 ≤ byte && byte ≤ 0xf3 then some { missing := 3, code := byte.toNat - 0xf0 }
  else none

/-- Reads on with a byte, if it can follow: to the end of the character, or to a
character with one byte less to come. -/
def follow? (started : StartedChar) (byte : UInt8) : Option (Option StartedChar × List Char) :=
  if started.least ≤ byte && byte ≤ started.greatest then
    let code := 64 * started.code + (byte.toNat - 0x80)
    match started.missing with
    | 0 | 1 => some (none, [Char.ofNat code])
    | missing + 1 => some (some { missing, code }, [])
  else none

/-- What is shown of a character that breaks off. -/
def brokenOff (state : Option StartedChar) : List Char :=
  if state.isSome then [replacementChar] else []

/-- The state after a byte, and what is shown up to it. -/
def next (state : Option StartedChar) (byte : UInt8) : Option StartedChar × List Char :=
  match state.bind fun started => started.follow? byte with
  | some outcome => outcome
  | none =>
      if byte < 0x80 then (none, brokenOff state ++ [Char.ofNat byte.toNat])
      else
        match ofFirst? byte with
        | some started => (some started, brokenOff state)
        | none => (none, brokenOff state ++ [replacementChar])

end StartedChar

/-- What is shown of bytes, from a state on. -/
def shownFrom : Option StartedChar → List UInt8 → List Char
  | state, [] => StartedChar.brokenOff state
  | state, byte :: rest =>
      let (next, shown) := StartedChar.next state byte
      shown ++ shownFrom next rest

/-- Bytes as a text: the text that they are, or else its likeness. -/
def shownBytes (bytes : List UInt8) : String :=
  (textOfBytes? bytes).getD (String.ofList (shownFrom none bytes))

end AcceleratorTrace
