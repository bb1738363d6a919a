import AcceleratorTrace.Number.Binary64

/-!
# The fewest digits that read back

A double stands for every real number nearer to it than to its neighbours.
Its shortest decimal is the one with the fewest digits inside that interval,
and of two of the same length the nearer one.  All comparisons are exact: both
sides are scaled to whole numbers first.
-/

namespace AcceleratorTrace

/-- The number `digits · 10 ^ exponent`. -/
structure Decimal where
  digits : Nat
  exponent : Int
  deriving DecidableEq, Repr

/-- Which of two equally near neighbours is taken. -/
inductive Tie where
  | up
  | toEven
  deriving DecidableEq, Repr

namespace Decimal

/-- Compares `left · 10 ^ tens` with `right · 2 ^ twos`. -/
def compareScaled (left : Nat) (tens : Int) (right : Nat) (twos : Int) : Ordering :=
  compare (left * Nat.pow 10 tens.toNat * Nat.pow 2 (-twos).toNat)
    (right * Nat.pow 2 twos.toNat * Nat.pow 10 (-tens).toNat)

/-- Drops trailing zeros, at most `fuel` of them. -/
def trim : (fuel : Nat) → Decimal → Decimal
  | 0, decimal => decimal
  | fuel + 1, decimal =>
      if decimal.digits ≠ 0 ∧ decimal.digits % 10 = 0 then
        trim fuel ⟨decimal.digits / 10, decimal.exponent + 1⟩
      else decimal

/-- The number of decimal digits of a whole number. -/
def digitCount (n : Nat) : Nat := (Nat.toDigits 10 n).length

end Decimal

namespace Binary64

/-! The value and the two ends of its interval, in quarters of the last place. -/

def quarters (x : Binary64) : Nat := 4 * x.mantissa

def upperQuarters (x : Binary64) : Nat := 4 * x.mantissa + 2

/-- Below the start of a binade the neighbour is only half as far. -/
def lowerQuarters (x : Binary64) : Nat :=
  if x.mantissa = hiddenBit ∧ leastExponent < x.exponent then 4 * x.mantissa - 1
  else 4 * x.mantissa - 2

def quarterExponent (x : Binary64) : Int := x.exponent - 2

/-- Whether `digits · 10 ^ tens` reads back as the magnitude of `x`.  The ends
of the interval do iff the mantissa is even. -/
def readsBack (x : Binary64) (digits : Nat) (tens : Int) : Bool :=
  let below := Decimal.compareScaled digits tens x.lowerQuarters x.quarterExponent
  let above := Decimal.compareScaled digits tens x.upperQuarters x.quarterExponent
  if x.mantissa % 2 = 0 then below != .lt && above != .gt else below == .gt && above == .lt

/-- The whole part of the magnitude divided by `10 ^ tens`. -/
def floorTens (x : Binary64) (tens : Int) : Nat :=
  (x.mantissa * Nat.pow 2 x.exponent.toNat * Nat.pow 10 (-tens).toNat) /
    (Nat.pow 2 (-x.exponent).toNat * Nat.pow 10 tens.toNat)

/-- The power of ten of the first digit of the magnitude. -/
def leadingTens (x : Binary64) : Int :=
  let whole := x.floorTens 0
  if whole ≠ 0 then (Decimal.digitCount whole : Int) - 1
  else
    let places := 400
    (Decimal.digitCount (x.floorTens (-places)) : Int) - 1 - places

/-- Whether the lower of two grid neighbours is chosen: it is if twice the
value is below their sum, and a tie goes as asked. -/
def prefersLower (x : Binary64) (tie : Tie) (lower : Nat) (tens : Int) : Bool :=
  match Decimal.compareScaled (2 * lower + 1) tens (2 * x.quarters) x.quarterExponent with
  | .gt => true
  | .lt => false
  | .eq =>
      match tie with
      | .up => false
      | .toEven => lower % 2 == 0

/-- A decimal with `count` digits that reads back, the nearer one if both
neighbours on that grid do. -/
def decimalWith? (x : Binary64) (tie : Tie) (count : Nat) : Option Decimal :=
  let tens := x.leadingTens - (count : Int) + 1
  let lower := x.floorTens tens
  match x.readsBack lower tens, x.readsBack (lower + 1) tens with
  | true, true => some ⟨if x.prefersLower tie lower tens then lower else lower + 1, tens⟩
  | true, false => some ⟨lower, tens⟩
  | false, true => some ⟨lower + 1, tens⟩
  | false, false => none

/-- The shortest decimal that reads back as the magnitude.  Seventeen digits
always do. -/
def shortest (x : Binary64) (tie : Tie) : Decimal :=
  if x.mantissa = 0 then ⟨0, 0⟩
  else
    match (List.range 17).findSome? fun index => x.decimalWith? tie (index + 1) with
    | some decimal => decimal.trim 17
    | none => ⟨x.mantissa, 0⟩

end Binary64

end AcceleratorTrace
