import MatrixBridge.Lua.Text
import MatrixBridge.Number.Binary64

/-!
# Numerals

A Lua string that reads as a number is taken for that number. Blanks around the numeral are
skipped; one sign is allowed. A hexadecimal integer wraps around at 64 bits, a decimal one that
does not fit becomes a float. A fraction or an exponent makes a float, read to the nearest
binary64. Neither infinities nor values that are not numbers have a numeral.
-/

namespace MatrixBridge.Lua

inductive Number where
  | integer (n : Int64)
  | float (x : Binary64)
deriving DecidableEq, Repr

namespace Number

def toFloat : Number → Binary64
  | .integer n => .ofInt n.toInt
  | .float x => x

def fitInt64? (n : Int) : Option Int64 :=
  if Int64.minValue.toInt ≤ n ∧ n ≤ Int64.maxValue.toInt then some (.ofInt n) else none

def toInteger? : Number → Option Int64
  | .integer n => some n
  | .float x => x.toInt?.bind fitInt64?

end Number

namespace Numeral

/-- The blanks of the C locale: space, tab, line feed, vertical tab, form feed, return. -/
def isBlank (b : UInt8) : Bool := b == 0x20 || (0x09 ≤ b && b ≤ 0x0D)

def digit? (base : Nat) (b : UInt8) : Option Nat :=
  let value :=
    if 0x30 ≤ b && b ≤ 0x39 then b.toNat - 0x30
    else if 0x61 ≤ b && b ≤ 0x66 then b.toNat - 0x61 + 10
    else if 0x41 ≤ b && b ≤ 0x46 then b.toNat - 0x41 + 10
    else 16
  if value < base then some value else none

def digits (base : Nat) : Bytes → List Nat × Bytes
  | [] => ([], [])
  | b :: rest =>
    match digit? base b with
    | some d => let (ds, after) := digits base rest; (d :: ds, after)
    | none => ([], b :: rest)

def value (base : Nat) (ds : List Nat) : Nat := ds.foldl (fun n d => n * base + d) 0

def dropBlanks (bytes : Bytes) : Bytes := bytes.dropWhile isBlank

def trim (bytes : Bytes) : Bytes := (dropBlanks (dropBlanks bytes).reverse).reverse

def sign : Bytes → Bool × Bytes
  | 0x2D :: rest => (true, rest)
  | 0x2B :: rest => (false, rest)
  | bytes => (false, bytes)

/-- The float nearest to `± m * base ^ power`. A power beyond every binary64 is decided without
computing it. -/
def nearestFloat (negative : Bool) (base m : Nat) (power : Int) : Binary64 :=
  let order := power + digitCount base m
  if m = 0 ∨ order < -1200 then .ofRatio negative 0 1
  else if 1200 < order then .ofMagnitude negative Binary64.infiniteMagnitude
  else
    let (num, den) := scaleRatio base power m 1
    .ofRatio negative num den

def exponent? (mark : UInt8) : Bytes → Option Int
  | [] => some 0
  | b :: rest =>
    if b = mark ∨ b + 0x20 = mark then
      let (negative, rest) := sign rest
      match digits 10 rest with
      | (d :: ds, []) => let n : Int := value 10 (d :: ds); some (if negative then -n else n)
      | _ => none
    else none

def fraction (base : Nat) : Bytes → List Nat × Bytes
  | 0x2E :: rest => digits base rest
  | rest => ([], rest)

/-- A float: digits with at most one point among them, then an exponent that counts powers of
`expBase`, of which a digit is worth `perDigit`. -/
def float? (base expBase perDigit : Nat) (mark : UInt8) (negative : Bool) (body : Bytes) :
    Option Binary64 := do
  let (whole, rest) := digits base body
  let (part, rest) := fraction base rest
  guard (whole ++ part ≠ [])
  let power ← exponent? mark rest
  return nearestFloat negative expBase (value base (whole ++ part)) (power - part.length * perDigit)

def hexadecimal? (negative : Bool) (body : Bytes) : Option Number :=
  match digits 16 body with
  | (d :: ds, []) =>
    let n := Int64.ofNat (value 16 (d :: ds))
    some (.integer (if negative then -n else n))
  | _ => .float <$> float? 16 2 4 0x70 negative body

def decimal? (negative : Bool) (body : Bytes) : Option Number :=
  let integer := match digits 10 body with
    | (d :: ds, []) =>
      let n : Int := value 10 (d :: ds)
      Number.fitInt64? (if negative then -n else n)
    | _ => none
  match integer with
  | some n => some (.integer n)
  | none => .float <$> float? 10 10 1 0x65 negative body

def read? (bytes : Bytes) : Option Number :=
  let (negative, body) := sign (trim bytes)
  match body with
  | 0x30 :: 0x78 :: rest | 0x30 :: 0x58 :: rest => hexadecimal? negative rest
  | body => decimal? negative body

end Numeral

end MatrixBridge.Lua
