import MatrixBridge.Matrix
import MatrixBridge.Number.Binary64

/-!
# Values of the numeric runtime

What the numeric runtime hands over: a real matrix, or something the bridge can name but not
convert, of which only the shape is carried. A single number is a matrix of one entry.
-/

namespace MatrixBridge

inductive NumericValue where
  /-- An unbound variable or a missing output. -/
  | undefined
  | matrix (m : Matrix Binary64)
  | complex (rows cols : Nat)
  /-- A real array with any number of dimensions but two. -/
  | array (dims : List Nat)
  /-- A character matrix, one text a row. -/
  | text (rows : List String)
deriving DecidableEq

namespace NumericValue

def scalar (x : Binary64) : NumericValue := .matrix (.scalar x)

/-- The dimension vector. The width of a character matrix is the length of its first row. -/
def dims : NumericValue → List Nat
  | .undefined => [0, 0]
  | .matrix m => [m.rows, m.cols]
  | .complex rows cols => [rows, cols]
  | .array dims => dims
  | .text rows => [rows.length, (rows.head?.map String.length).getD 0]

def className : NumericValue → String
  | .undefined => "undefined"
  | .matrix _ | .array _ => "double"
  | .complex _ _ => "complex"
  | .text _ => "char"

def isMatrix : NumericValue → Bool
  | .matrix _ => true
  | _ => false

end NumericValue

end MatrixBridge
