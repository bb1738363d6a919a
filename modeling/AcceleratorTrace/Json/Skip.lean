import AcceleratorTrace.Json.Text

/-!
# Passing over JSON values

Members that nobody asked for may hold any well-formed value, nested to any
depth.  Numbers are only checked for their form here, so one that is cut off is
malformed.
-/

namespace AcceleratorTrace.Json

/-- Passes over at least one digit. -/
def skipDigits (text : List Char) : Except Fault (List Char) :=
  match text.takeWhile Char.isDigit with
  | [] => .error .malformed
  | _ => .ok (text.dropWhile Char.isDigit)

/-- Passes over an exponent, if one follows. -/
def skipExponent (text : List Char) : Except Fault (List Char) :=
  match text with
  | 'e' :: rest | 'E' :: rest =>
      match rest with
      | '+' :: rest | '-' :: rest => skipDigits rest
      | _ => skipDigits rest
  | _ => .ok text

/-- Passes over a fraction and an exponent, if they follow. -/
def skipFraction (text : List Char) : Except Fault (List Char) :=
  match text with
  | '.' :: rest => skipDigits rest >>= skipExponent
  | _ => skipExponent text

/-- Passes over a number after its sign. -/
def skipNumber (text : List Char) : Except Fault (List Char) :=
  match text with
  | '0' :: rest =>
      match rest.takeWhile Char.isDigit with
      | [] => skipFraction rest
      | _ => .error .malformed
  | _ => skipDigits text >>= skipFraction

mutual

/-- Passes over one value.  The fuel bounds the steps. -/
def skipValueWith : (fuel : Nat) → List Char → Except Fault (List Char)
  | 0, _ => .error .endOfInput
  | fuel + 1, text =>
      match skipSpace text with
      | [] => .error .endOfInput
      | 'n' :: rest => expectWord ['u', 'l', 'l'] rest
      | 't' :: rest => expectWord ['r', 'u', 'e'] rest
      | 'f' :: rest => expectWord ['a', 'l', 's', 'e'] rest
      | '-' :: rest => skipNumber rest
      | '"' :: rest => skipString rest
      | '[' :: rest =>
          match skipSpace rest with
          | [] => .error .endOfInput
          | ']' :: rest => .ok rest
          | rest => skipElementsWith fuel rest
      | '\x7b' :: rest =>
          match skipSpace rest with
          | [] => .error .endOfInput
          | '\x7d' :: rest => .ok rest
          | rest => skipMembersWith fuel rest
      | c :: rest => if c.isDigit then skipNumber (c :: rest) else .error .malformed

/-- Passes over the elements of an array up to its end. -/
def skipElementsWith : (fuel : Nat) → List Char → Except Fault (List Char)
  | 0, _ => .error .endOfInput
  | fuel + 1, text =>
      match skipValueWith fuel text with
      | .error fault => .error fault
      | .ok rest =>
          match skipSpace rest with
          | [] => .error .endOfInput
          | ',' :: rest => skipElementsWith fuel rest
          | ']' :: rest => .ok rest
          | _ => .error .malformed

/-- Passes over the members of an object up to its end. -/
def skipMembersWith : (fuel : Nat) → List Char → Except Fault (List Char)
  | 0, _ => .error .endOfInput
  | fuel + 1, text =>
      match expectMark '"' text >>= skipString >>= expectMark ':' >>= skipValueWith fuel with
      | .error fault => .error fault
      | .ok rest =>
          match skipSpace rest with
          | [] => .error .endOfInput
          | ',' :: rest => skipMembersWith fuel rest
          | '\x7d' :: rest => .ok rest
          | _ => .error .malformed

end

/-- Passes over one value.  Between two steps that read nothing at least one
character is read, so twice the length is enough fuel. -/
def skipValue (text : List Char) : Except Fault (List Char) :=
  skipValueWith (2 * text.length + 2) text

end AcceleratorTrace.Json
