import MatrixBridge.Lua.Numeral
import MatrixBridge.Number.Decimal

/-!
# Numbers as text

An integer is written in decimal. A float is written with at most 14 significant digits, without
trailing zeros: positionally while its decimal exponent is between -4 and 13, with an exponent of
at least two digits otherwise. A float that would read as an integer gets a final `.0`. What is not
a number is written `nan`, with its sign.
-/

namespace MatrixBridge.Lua.NumberText

/-- How many digits follow the first significant one. -/
def fractionDigits : Nat := 13

def dropTrailingZeros (cs : List Char) : List Char := (cs.reverse.dropWhile (· = '0')).reverse

def pointed (cs : List Char) : List Char :=
  match dropTrailingZeros cs with
  | [] => []
  | cs => '.' :: cs

def zeros (n : Nat) : List Char := List.replicate n '0'

def exponentText (e : Int) : List Char :=
  let ds := Nat.toDigits 10 e.natAbs
  (if e < 0 then '-' else '+') :: (zeros (2 - ds.length) ++ ds)

def decimalText (d : Decimal) : List Char :=
  let ds := Nat.toDigits 10 d.coefficient
  if d.exponent < -4 ∨ fractionDigits < d.exponent then
    ds.take 1 ++ pointed (ds.drop 1) ++ 'e' :: exponentText d.exponent
  else if d.exponent < 0 then '0' :: pointed (zeros (-d.exponent - 1).toNat ++ ds)
  else
    let whole := d.exponent.toNat + 1
    ds.take whole ++ pointed (ds.drop whole)

def markFloat (cs : List Char) : List Char := if cs.all Char.isDigit then cs ++ ['.', '0'] else cs

def ofFloat (x : Binary64) : String :=
  let (num, den) := x.absRatio
  let size :=
    if x.isNaN then "nan".toList
    else if ¬ x.isFinite then "inf".toList
    else if num = 0 then markFloat ['0']
    else markFloat (decimalText (.ofRatio fractionDigits num den))
  .ofList (if x.isNegative then '-' :: size else size)

def ofNumber : Number → String
  | .integer n => toString n.toInt
  | .float x => ofFloat x

end MatrixBridge.Lua.NumberText
