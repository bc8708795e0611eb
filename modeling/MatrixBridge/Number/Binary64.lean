import MatrixBridge.Number.Magnitude
import MatrixBridge.Number.Rounding

/-!
# Double-precision numbers

Both runtimes compute with IEEE 754 binary64 numbers. The bridge only carries them, reads them
from numerals and writes them as text, so a number is kept as its 64 bits: two numbers are equal
here when their bits are, and nothing that passes the bridge changes a bit.
-/

namespace MatrixBridge

structure Binary64 where
  bits : UInt64
deriving DecidableEq, Repr, Inhabited

namespace Binary64

/-- The weight of the hidden bit of a normal significand: the bit above the 52 of the fraction. -/
def hiddenBit : Nat := 0x10_0000_0000_0000

def signBit : Nat := 0x8000_0000_0000_0000

def topExponent : Nat := 2047

def isNegative (x : Binary64) : Bool := x.bits.toNat / signBit == 1

def exponentField (x : Binary64) : Nat := x.bits.toNat / hiddenBit % 2048

def fractionField (x : Binary64) : Nat := x.bits.toNat % hiddenBit

def isFinite (x : Binary64) : Bool := x.exponentField != topExponent

def isNaN (x : Binary64) : Bool := x.exponentField == topExponent && x.fractionField != 0

/-- The integer `s` with `|x| = s * 2 ^ x.scale`, for a finite `x`. -/
def significand (x : Binary64) : Nat :=
  if x.exponentField = 0 then x.fractionField else hiddenBit + x.fractionField

def scale (x : Binary64) : Int :=
  if x.exponentField = 0 then -1074 else (x.exponentField : Int) - 1075

def absRatio (x : Binary64) : Nat × Nat := scaleRatio 2 x.scale x.significand 1

def ofMagnitude (negative : Bool) (magnitude : Nat) : Binary64 :=
  ⟨UInt64.ofNat (if negative then signBit + magnitude else magnitude)⟩

def infiniteMagnitude : Nat := topExponent * hiddenBit

/-- The one value that is not a number which the bridge itself produces. -/
def nan : Binary64 := ofMagnitude false (infiniteMagnitude + hiddenBit / 2)

instance : Zero Binary64 := ⟨⟨0⟩⟩

/--
The number nearest to `num / den`, a tie going to the even significand.

The spacing of the numbers around the quotient is `2 ^ unit`: 52 places below its leading bit, but
never finer than the subnormal spacing. Counting the quotient in that spacing and adding the count
to the exponent field gives the bits, a carry out of the significand included.
-/
def ofRatio (negative : Bool) (num den : Nat) : Binary64 :=
  if num = 0 then ofMagnitude negative 0
  else
    let unit := max (floorLogRatio 2 num den - 52) (-1074)
    let (above, below) := scaleRatio 2 (-unit) num den
    let magnitude := (unit + 1074).toNat * hiddenBit + roundDiv above below
    ofMagnitude negative (min magnitude infiniteMagnitude)

def ofInt (n : Int) : Binary64 := ofRatio (n < 0) n.natAbs 1

def ofNat (n : Nat) : Binary64 := ofRatio false n 1

def toInt? (x : Binary64) : Option Int :=
  let (num, den) := x.absRatio
  if x.isFinite ∧ num % den = 0 then
    let size : Int := (num / den : Nat)
    some (if x.isNegative then -size else size)
  else none

end Binary64

end MatrixBridge
