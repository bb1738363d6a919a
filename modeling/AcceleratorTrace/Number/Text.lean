import AcceleratorTrace.Number.Shortest

/-!
# Numbers in messages

Two ways to write a double out, both with its shortest digits.  One is always
positional and writes a whole number without a point.  The other always shows
that the number is not an integer, by a point or by an exponent.
-/

namespace AcceleratorTrace

namespace Decimal

def zeros (count : Nat) : String := String.ofList (List.replicate count '0')

/-- The digits with the point where the exponent puts it. -/
def positional (decimal : Decimal) : String :=
  let digits := Nat.toDigits 10 decimal.digits
  if 0 ≤ decimal.exponent then
    String.ofList digits ++ zeros decimal.exponent.toNat
  else
    let places := (-decimal.exponent).toNat
    if places < digits.length then
      let whole := digits.length - places
      String.ofList (digits.take whole) ++ "." ++ String.ofList (digits.drop whole)
    else "0." ++ zeros (places - digits.length) ++ String.ofList digits

/-- The power of ten of the first digit. -/
def leading (decimal : Decimal) : Int :=
  decimal.exponent + (digitCount decimal.digits : Int) - 1

/-- One digit, a point if more follow, and a signed exponent. -/
def scientific (decimal : Decimal) : String :=
  let digits := Nat.toDigits 10 decimal.digits
  let fraction := digits.drop 1
  let point := if fraction.isEmpty then "" else "."
  let exponent := decimal.leading
  let sign := if exponent < 0 then "-" else "+"
  String.ofList (digits.take 1) ++ point ++ String.ofList fraction ++ "e" ++ sign ++
    toString exponent.natAbs

end Decimal

namespace Binary64

def sign (x : Binary64) : String := if x.negative then "-" else ""

end Binary64

/-- A double in plain positional digits; of two equally near the larger. -/
def plainText (x : Float) : String :=
  match Binary64.ofFloat? x with
  | some parts => parts.sign ++ (parts.shortest .up).positional
  | none =>
      if Binary64.fractionBits x ≠ 0 then "NaN"
      else if Binary64.signOf x then "-inf"
      else "inf"

/-- A finite double that shows it is one: positional with at least one place
from `10 ^ -5` to below `10 ^ 16`, else with an exponent.  Of two equally near
digits the even one is taken. -/
def floatText (x : Float) : String :=
  match Binary64.ofFloat? x with
  | some parts =>
      let decimal := parts.shortest .toEven
      let leading := decimal.leading
      if parts.mantissa = 0 then parts.sign ++ "0.0"
      else if -5 ≤ leading ∧ leading ≤ 15 then
        let point := if 0 ≤ decimal.exponent then ".0" else ""
        parts.sign ++ decimal.positional ++ point
      else parts.sign ++ decimal.scientific
  | none => plainText x

end AcceleratorTrace
