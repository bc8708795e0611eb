/-!
# Orders of magnitude

How many digits a natural has in a base, and the order of magnitude of a quotient of two
naturals. `floorLogRatio` needs one comparison: the digit counts leave two candidates.
-/

namespace MatrixBridge

def digitCount (base n : Nat) : Nat :=
  if _h : 1 < base ∧ 0 < n then digitCount base (n / base) + 1 else 0
termination_by n
decreasing_by exact Nat.div_lt_self (by omega) (by omega)

def scaleRatio (base : Nat) (power : Int) (num den : Nat) : Nat × Nat :=
  if power < 0 then (num, den * Nat.pow base (-power).toNat)
  else (num * Nat.pow base power.toNat, den)

/-- The greatest `e` with `base ^ e ≤ num / den`, for positive arguments. -/
def floorLogRatio (base num den : Nat) : Int :=
  let guess := (digitCount base num : Int) - digitCount base den
  let (above, below) := scaleRatio base (-guess) num den
  if below ≤ above then guess else guess - 1

end MatrixBridge
