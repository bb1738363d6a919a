/-!
# Doubles as exact numbers

A finite double is a sign, a whole mantissa and a power of two.  Rounding and
printing work on those three, so they are exact integer arithmetic.
-/

namespace AcceleratorTrace

/-- The finite double `± mantissa · 2 ^ exponent`. -/
structure Binary64 where
  negative : Bool
  mantissa : Nat
  exponent : Int
  deriving DecidableEq, Repr

namespace Binary64

/-- The exponent of the smallest doubles. -/
def leastExponent : Int := -1074

/-- The mantissa at which a binade starts. -/
def hiddenBit : Nat := Nat.pow 2 52

def signOf (x : Float) : Bool := x.toBits >>> 63 == 1

/-- The biased exponent in the bits of a double. -/
def exponentBits (x : Float) : Nat := ((x.toBits >>> 52) &&& 0x7ff).toNat

/-- The fraction in the bits of a double. -/
def fractionBits (x : Float) : Nat := (x.toBits &&& 0xfffffffffffff).toNat

/-- The parts of a double; infinities and not-a-number have none. -/
def ofFloat? (x : Float) : Option Binary64 :=
  let biased := exponentBits x
  if biased = 0x7ff then none
  else if biased = 0 then some ⟨signOf x, fractionBits x, leastExponent⟩
  else some ⟨signOf x, hiddenBit + fractionBits x, leastExponent + (biased - 1 : Nat)⟩

/-- Whether the value is above zero. -/
def isPositive (x : Binary64) : Bool := !x.negative && x.mantissa != 0

/-- The whole number nearest to the magnitude; a half goes up. -/
def roundMagnitude (x : Binary64) : Nat :=
  if 0 ≤ x.exponent then x.mantissa * Nat.pow 2 x.exponent.toNat
  else
    let unit := Nat.pow 2 (-x.exponent).toNat
    (2 * x.mantissa + unit) / (2 * unit)

end Binary64

end AcceleratorTrace
