/-!
# Saturation

Times outside 64 bits become the nearest time that fits.
-/

namespace AcceleratorTrace

/-- The nearest 64-bit integer. -/
def clampInt64 (value : Int) : Int64 :=
  Int64.ofInt (max Int64.minValue.toInt (min value Int64.maxValue.toInt))

end AcceleratorTrace
