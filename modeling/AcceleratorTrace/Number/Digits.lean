/-!
# Decimal digits

The value of digits as they stand in names, arguments and JSON text.
-/

namespace AcceleratorTrace

/-- The value of a decimal digit. -/
def digitValue (digit : Char) : Nat := digit.toNat - '0'.toNat

/-- The value of digits, the most significant first. -/
def digitsValue (digits : List Char) : Nat :=
  digits.foldl (fun value digit => 10 * value + digitValue digit) 0

end AcceleratorTrace
