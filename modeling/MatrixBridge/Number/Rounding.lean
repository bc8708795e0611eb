/-!
# Rounding a quotient

The nearest integer to a quotient of naturals, a tie going to the even neighbour. Reading a
numeral and writing a number both end in this one step.
-/

namespace MatrixBridge

def roundDiv (num den : Nat) : Nat :=
  let below := num / den
  let rest := 2 * (num % den)
  if rest < den then below
  else if den < rest then below + 1
  else below + below % 2

end MatrixBridge
