import SetProtocol.Lib.SafeMath

/-!
# Conversion between precise units and the decimals of a token

The library `UnitConversionUtils`.
-/

namespace SetProtocol.UnitConversionUtils

/-- `10**(18 - decimals)`.  With more than 18 decimals the exponent wraps around, and the power, a
multiple of `2 ^ 256`, becomes zero. -/
def decimalScale (decimals : ℕ) : ℕ :=
  if decimals ≤ 18 then 10 ^ (18 - decimals) else 0

def fromPreciseUnitToDecimals (amount decimals : ℕ) : Outcome ℕ :=
  SafeMath.div amount (decimalScale decimals)

/-- The `int256` overload. -/
def fromPreciseUnitToDecimalsInt (amount : ℤ) (decimals : ℕ) : Outcome ℤ :=
  SignedSafeMath.div amount (decimalScale decimals)

def toPreciseUnitsFromDecimals (amount decimals : ℕ) : Outcome ℕ :=
  SafeMath.mul amount (decimalScale decimals)

/-- The `int256` overload. -/
def toPreciseUnitsFromDecimalsInt (amount : ℤ) (decimals : ℕ) : Outcome ℤ :=
  SignedSafeMath.mul amount (decimalScale decimals)

end SetProtocol.UnitConversionUtils
