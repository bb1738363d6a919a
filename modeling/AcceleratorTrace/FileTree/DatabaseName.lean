import AcceleratorTrace.Text.Utf8

/-!
# Names of databases

A database is named by a path, or by a text that starts with `file:` and is read
as a URI: after an empty or local authority its path follows, with escapes in
hexadecimal digits, and goes up to a query or a fragment.
-/

namespace AcceleratorTrace

namespace DatabaseName

/-- The value of a hexadecimal digit. -/
def escapeDigit? (byte : UInt8) : Option UInt8 :=
  if 0x30 ≤ byte && byte ≤ 0x39 then some (byte - 0x30)
  else if 0x41 ≤ byte && byte ≤ 0x46 then some (byte - 0x37)
  else if 0x61 ≤ byte && byte ≤ 0x66 then some (byte - 0x57)
  else none

/-- The byte that is escaped after a percent sign, and what follows. -/
def escaped? : List UInt8 → Option (UInt8 × List UInt8)
  | high :: low :: rest => do
      let high ← escapeDigit? high
      let low ← escapeDigit? low
      return (16 * high + low, rest)
  | _ => none

/-- The path at the start of a URI without its scheme and authority.  An escaped
NUL ends it too, and a percent sign without digits stands for itself.  At most
`count` bytes are read. -/
def uriPath : (count : Nat) → List UInt8 → List UInt8
  | 0, _ | _, [] => []
  | count + 1, byte :: rest =>
      if byte == 0x23 || byte == 0x3f then []
      else if byte == 0x25 then
        match escaped? rest with
        | none => byte :: uriPath count rest
        | some (0, _) => []
        | some (octet, rest) => octet :: uriPath count rest
      else byte :: uriPath count rest

/-- Why a name stands for no path. -/
inductive Fault where
  | authority (text : String)
  | notText
  deriving DecidableEq, Repr

/-- Drops the authority at the start of a URI without its scheme.  It has to be
empty or the local host. -/
def dropAuthority (text : List Char) : Except Fault (List Char) :=
  match text with
  | '/' :: '/' :: rest =>
      let authority := String.ofList (rest.takeWhile (· != '/'))
      if authority == "" || authority == "localhost" then .ok (rest.dropWhile (· != '/'))
      else .error (.authority authority)
  | _ => .ok text

/-- The path that a name stands for. -/
def path (name : String) : Except Fault String :=
  match name.toList with
  | 'f' :: 'i' :: 'l' :: 'e' :: ':' :: rest =>
      match dropAuthority rest with
      | .error fault => .error fault
      | .ok rest =>
          let bytes := (String.ofList rest).toUTF8.toList
          match textOfBytes? (uriPath bytes.length bytes) with
          | none => .error .notText
          | some path => .ok path
  | _ => .ok name

end DatabaseName

end AcceleratorTrace
