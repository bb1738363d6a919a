/-!
# Blanks, words and strings of JSON text

Readers take the text from where they stand and give back what is left.  They
tell apart a text that ends too early and one that is malformed, because a
descriptor cut short while it is being written is a different mistake from one
that was written wrong.
-/

namespace AcceleratorTrace.Json

/-- Why a text is not JSON. -/
inductive Fault where
  | endOfInput
  | malformed
  deriving DecidableEq, Repr

def isSpace (c : Char) : Bool := c == ' ' || c == '\n' || c == '\t' || c == '\r'

def skipSpace (text : List Char) : List Char := text.dropWhile isSpace

/-- The fault of a place where something else had to stand. -/
def unexpected (text : List Char) : Fault :=
  if text.isEmpty then .endOfInput else .malformed

/-- Reads exactly these letters. -/
def expectWord : (word text : List Char) → Except Fault (List Char)
  | [], text => .ok text
  | _ :: _, [] => .error .endOfInput
  | letter :: word, c :: text => if c = letter then expectWord word text else .error .malformed

/-- Reads one mark after blanks. -/
def expectMark (mark : Char) (text : List Char) : Except Fault (List Char) :=
  match skipSpace text with
  | [] => .error .endOfInput
  | c :: rest => if c = mark then .ok rest else .error .malformed

def hexValue? (c : Char) : Option Nat :=
  if '0' ≤ c ∧ c ≤ '9' then some (c.toNat - '0'.toNat)
  else if 'a' ≤ c ∧ c ≤ 'f' then some (c.toNat - 'a'.toNat + 10)
  else if 'A' ≤ c ∧ c ≤ 'F' then some (c.toNat - 'A'.toNat + 10)
  else none

/-- The code unit of four hexadecimal digits. -/
def hexCode? (a b c d : Char) : Option Nat := do
  let a ← hexValue? a
  let b ← hexValue? b
  let c ← hexValue? c
  let d ← hexValue? d
  return ((a * 16 + b) * 16 + c) * 16 + d

def utf8Length (text : List Char) : Nat := text.foldr (fun c total => c.utf8Size + total) 0

/-- The fault where four hexadecimal digits had to stand: the text ends too
early if it has fewer than four bytes left. -/
def hexFault (text : List Char) : Fault :=
  if utf8Length text < 4 then .endOfInput else .malformed

/-- The character of a one-letter escape. -/
def simpleEscape? : Char → Option Char
  | '"' => some '"'
  | '\\' => some '\\'
  | '/' => some '/'
  | 'b' => some '\x08'
  | 'f' => some '\x0c'
  | 'n' => some '\n'
  | 'r' => some '\r'
  | 't' => some '\t'
  | _ => none

def isControl (c : Char) : Bool := c.toNat < 0x20

def isHighSurrogate (code : Nat) : Bool := 0xD800 ≤ code && code ≤ 0xDBFF

def isLowSurrogate (code : Nat) : Bool := 0xDC00 ≤ code && code ≤ 0xDFFF

/-- The character of two code units. -/
def pairedChar (high low : Nat) : Char :=
  Char.ofNat ((high - 0xD800) * 0x400 + (low - 0xDC00) + 0x10000)

/-- Puts a character before the rest of a string. -/
def prepend (c : Char) (result : List Char × List Char) : List Char × List Char :=
  (c :: result.1, result.2)

/-- Reads a string after its opening quote: its characters and what follows
the closing quote.  Surrogates have to come in pairs. -/
def readString : List Char → Except Fault (List Char × List Char)
  | [] => .error .endOfInput
  | '"' :: rest => .ok ([], rest)
  | '\\' :: [] => .error .endOfInput
  | '\\' :: 'u' :: a :: b :: c :: d :: rest =>
      match hexCode? a b c d with
      | none => .error (hexFault (a :: b :: c :: d :: rest))
      | some code =>
          if isLowSurrogate code then .error .malformed
          else if isHighSurrogate code then
            match rest with
            | [] => .error .endOfInput
            | '\\' :: [] => .error .endOfInput
            | '\\' :: 'u' :: e :: f :: g :: h :: rest =>
                match hexCode? e f g h with
                | none => .error (hexFault (e :: f :: g :: h :: rest))
                | some low =>
                    if isLowSurrogate low then
                      (readString rest).map (prepend (pairedChar code low))
                    else .error .malformed
            | '\\' :: 'u' :: digits => .error (hexFault digits)
            | _ => .error .malformed
          else (readString rest).map (prepend (Char.ofNat code))
  | '\\' :: 'u' :: digits => .error (hexFault digits)
  | '\\' :: c :: rest =>
      match simpleEscape? c with
      | none => .error .malformed
      | some escaped => (readString rest).map (prepend escaped)
  | c :: rest =>
      if isControl c then .error .malformed else (readString rest).map (prepend c)

/-- Passes over a string after its opening quote.  Escapes have to be well
formed, but a surrogate may stand alone. -/
def skipString : List Char → Except Fault (List Char)
  | [] => .error .endOfInput
  | '"' :: rest => .ok rest
  | '\\' :: [] => .error .endOfInput
  | '\\' :: 'u' :: a :: b :: c :: d :: rest =>
      match hexCode? a b c d with
      | none => .error (hexFault (a :: b :: c :: d :: rest))
      | some _ => skipString rest
  | '\\' :: 'u' :: digits => .error (hexFault digits)
  | '\\' :: c :: rest =>
      match simpleEscape? c with
      | none => .error .malformed
      | some _ => skipString rest
  | c :: rest => if isControl c then .error .malformed else skipString rest

end AcceleratorTrace.Json
