import MatrixBridge.Number.Magnitude
import MatrixBridge.Number.Rounding

/-!
# Decimals of a fixed precision

A quotient of naturals as a decimal with a given number of significant digits, a tie going to the
even last digit. Where the point goes and which zeros are written is for the format that uses it.
-/

namespace MatrixBridge

/-- The decimal `coefficient * 10 ^ (exponent - digits)` in which `exponent` counts from the first
significant digit. -/
structure Decimal where
  coefficient : Nat
  exponent : Int
deriving DecidableEq, Repr

/--
The decimal of `digits + 1` significant digits nearest to the positive quotient `num / den`.

Rounding can carry into one digit more; the coefficient is then a power of ten, and the exponent
goes up instead.
-/
def Decimal.ofRatio (digits num den : Nat) : Decimal :=
  let exponent := floorLogRatio 10 num den
  let (above, below) := scaleRatio 10 (digits - exponent) num den
  let coefficient := roundDiv above below
  if coefficient = Nat.pow 10 (digits + 1) then ⟨Nat.pow 10 digits, exponent + 1⟩
  else ⟨coefficient, exponent⟩

end MatrixBridge
