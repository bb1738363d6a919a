import AcceleratorTrace.Json.Text
import AcceleratorTrace.Number.Binary64
import AcceleratorTrace.Number.Digits

/-!
# Numbers of JSON text

A number without fraction and exponent that fits 64 bits is an integer and
stays exact.  Any other number is a double: its first digits, as many as fit 64
bits, are scaled by one power of ten.
-/

namespace AcceleratorTrace.Json

/-- A number of JSON text. -/
inductive Number where
  /-- From `-2 ^ 63` to `2 ^ 64 - 1`, but not minus zero. -/
  | integer (value : Int)
  | real (value : Float)

/-- Digits read so far, as long as they fit 64 bits. -/
structure Significand where
  value : Nat
  /-- Digits of the whole part that no longer fit. -/
  dropped : Nat

/-- Appends a digit to a whole part. -/
def Significand.push (significand : Significand) (c : Char) : Significand :=
  let next := significand.value * 10 + digitValue c
  if significand.dropped = 0 ∧ next < UInt64.size then { significand with value := next }
  else { significand with dropped := significand.dropped + 1 }

/-- Appends digits of a fraction until one no longer fits; gives the value and
the number of digits appended. -/
def pushFraction : (value places : Nat) → List Char → Nat × Nat
  | value, places, [] => (value, places)
  | value, places, c :: rest =>
      let next := value * 10 + digitValue c
      if next < UInt64.size then pushFraction next (places + 1) rest else (value, places)

/-- The double nearest to `10 ^ exponent`. -/
def powerOfTen (exponent : Nat) : Float := Float.ofScientific 1 false exponent

/-- The greatest power of ten that is a double. -/
def greatestPower : Nat := 308

/-- Divides by a power of ten, in steps if it is no double. -/
def divideByPower (value : Float) (places : Nat) : Float :=
  if places ≤ greatestPower then value / powerOfTen places
  else if value == 0.0 then value
  else divideByPower (value / powerOfTen greatestPower) (places - greatestPower)
termination_by places
decreasing_by simp only [greatestPower] at *; omega

/-- The double of `value · 10 ^ exponent`; one beyond all doubles is
malformed. -/
def scale (value : Nat) (exponent : Int) : Except Fault Float :=
  let whole := (UInt64.ofNat value).toFloat
  if exponent < 0 then .ok (divideByPower whole exponent.natAbs)
  else if exponent.natAbs ≤ greatestPower then
    let scaled := whole * powerOfTen exponent.natAbs
    if (Binary64.ofFloat? scaled).isNone then .error .malformed else .ok scaled
  else if value = 0 then .ok whole
  else .error .malformed

def negate (negative : Bool) (value : Float) : Float := if negative then -value else value

def scaled (negative : Bool) (value : Nat) (exponent : Int) : Except Fault Number :=
  (scale value exponent).map fun value => .real (negate negative value)

def digits (text : List Char) : List Char := text.takeWhile Char.isDigit

def afterDigits (text : List Char) : List Char := text.dropWhile Char.isDigit

/-- Exponents beyond this are not added to the places. -/
def exponentLimit : Nat := Nat.pow 2 31 - 1

/-- Reads an exponent after its mark. -/
def readExponent (negative : Bool) (value : Nat) (places : Int) (text : List Char) :
    Except Fault (Number × List Char) :=
  let (negativeExponent, text) := match text with
    | '+' :: rest => (false, rest)
    | '-' :: rest => (true, rest)
    | _ => (false, text)
  if (digits text).isEmpty then .error (unexpected text)
  else
    let exponent := digitsValue (digits text)
    let rest := afterDigits text
    if exponentLimit < exponent then
      if value ≠ 0 ∧ negativeExponent = false then .error .malformed
      else .ok (.real (negate negative 0.0), rest)
    else
      let total := if negativeExponent then places - exponent else places + exponent
      (scaled negative value total).map fun number => (number, rest)

/-- Reads what may follow the digits of a number. -/
def readTail (negative : Bool) (value : Nat) (places : Int) (text : List Char) :
    Except Fault (Number × List Char) :=
  match text with
  | 'e' :: rest | 'E' :: rest => readExponent negative value places rest
  | _ => (scaled negative value places).map fun number => (number, text)

/-- An integer with its sign, or the double of minus zero and of integers
below 64 bits. -/
def signed (negative : Bool) (value : Nat) : Number :=
  if negative = false then .integer value
  else if value ≠ 0 ∧ value ≤ Nat.pow 2 63 then .integer (-value)
  else .real (-(UInt64.ofNat value).toFloat)

/-- Reads what follows the whole part of a number. -/
def readAfterWhole (negative : Bool) (whole : Significand) (text : List Char) :
    Except Fault (Number × List Char) :=
  match text with
  | '.' :: rest =>
      if (digits rest).isEmpty then .error (unexpected rest)
      else
        let (value, places) := pushFraction whole.value 0 (digits rest)
        readTail negative value ((whole.dropped : Int) - places) (afterDigits rest)
  | 'e' :: rest | 'E' :: rest => readExponent negative whole.value whole.dropped rest
  | _ =>
      if whole.dropped = 0 then .ok (signed negative whole.value, text)
      else (scaled negative whole.value whole.dropped).map fun number => (number, text)

/-- Reads a number after its sign.  A whole part has no leading zero. -/
def readNumber (negative : Bool) (text : List Char) : Except Fault (Number × List Char) :=
  match text with
  | '0' :: rest =>
      if (digits rest).isEmpty then readAfterWhole negative ⟨0, 0⟩ rest else .error .malformed
  | _ =>
      if (digits text).isEmpty then .error (unexpected text)
      else readAfterWhole negative ((digits text).foldl Significand.push ⟨0, 0⟩) (afterDigits text)

end AcceleratorTrace.Json
