import MatrixBridge.NumericValue
import MatrixBridge.ScriptValue

/-!
# Conversion between the two value models

A matrix is written as the smallest table that holds its entries row by row: nothing for an empty
matrix, a bare number for a single entry, a flat table for a vector, a table of rows otherwise.
A table is classified before anything is built from it, so a malformed table never yields part of
a matrix, and the first offence in reading order is the one reported.
-/

namespace MatrixBridge

inductive EntryKind where
  | numberOrTable
  | number
  | table
deriving DecidableEq, Repr

def EntryKind.description : EntryKind → String
  | .numberOrTable => "number or table"
  | .number => "number"
  | .table => "table"

/-- Why a value has no counterpart on the other side. Positions count from one. -/
inductive CodecError where
  | undefined
  | tooManyDimensions (count : Nat)
  | complex
  | notReal (className : String)
  | notNumeric (typeName : String)
  | mixedEntries (position : Nat) (expected : EntryKind) (found : String)
  | raggedRows (row expected found : Nat)
  | nonNumericLeaf (row col : Nat) (found : String)
deriving DecidableEq, Repr

def CodecError.message : CodecError → String
  | .undefined => "undefined value"
  | .tooManyDimensions count => s!"{count}-dimensional arrays are not supported"
  | .complex => "complex values are not supported"
  | .notReal className => s!"{className} values are not supported"
  | .notNumeric typeName => s!"expected number or table, got {typeName}"
  | .mixedEntries position expected found =>
    s!"table entry #{position} is a {found}, expected {expected.description}"
  | .raggedRows row expected found => s!"table row #{row} has {found} entries, expected {expected}"
  | .nonNumericLeaf row col found => s!"table row #{row} entry #{col} is a {found}, expected number"

/-! ## Toward the scripting runtime -/

def Matrix.toScript (m : Matrix Binary64) : ScriptValue :=
  if m.isEmpty then .table []
  else match m.rowMajor with
    | [x] => .number x
    | xs => if m.rows = 1 ∨ m.cols = 1 then .list xs else .rows m.toRows

def NumericValue.toScript : NumericValue → Except CodecError ScriptValue
  | .matrix m => .ok m.toScript
  | .undefined => .error .undefined
  | .complex _ _ => .error .complex
  | .array dims => .error (.tooManyDimensions dims.length)
  | v@(.text _) => .error (.notReal v.className)

/-! ## Toward the numeric runtime -/

inductive TableShape where
  | empty
  /-- Every entry is a number. -/
  | flat
  /-- Every entry is a table of this many numbers. -/
  | rows (width : Nat)
deriving DecidableEq, Repr

namespace TableShape

def ofFirst : ScriptValue → Except CodecError TableShape
  | .number _ => .ok .flat
  | .table row => .ok (.rows row.length)
  | v => .error (.mixedEntries 1 .numberOrTable v.typeName)

def checkLeaves (row : Nat) (leaves : List ScriptValue) : Except CodecError Unit :=
  (leaves.zipIdx 1).forM fun (leaf, col) =>
    match leaf with
    | .number _ => .ok ()
    | v => .error (.nonNumericLeaf row col v.typeName)

/-- The entry at a position fits the announced shape. A row of another length is reported as such
before its leaves are looked at. -/
def checkEntry (shape : TableShape) (position : Nat) (entry : ScriptValue) :
    Except CodecError Unit :=
  match shape, entry with
  | .rows width, .table row =>
    if row.length = width then checkLeaves position row
    else .error (.raggedRows position width row.length)
  | .rows _, v => .error (.mixedEntries position .table v.typeName)
  | _, .number _ => .ok ()
  | _, v => .error (.mixedEntries position .number v.typeName)

def ofEntries (entries : List ScriptValue) : Except CodecError TableShape :=
  match entries with
  | [] => .ok .empty
  | first :: _ => do
    let shape ← ofFirst first
    (entries.zipIdx 1).forM fun (entry, position) => checkEntry shape position entry
    return shape

/-- The number at a place of a table of rows, and zero where there is none. -/
def leafAt (entries : List ScriptValue) (i j : Nat) : Binary64 :=
  match entries[i]? with
  | some (.table row) => (row[j]?.bind ScriptValue.number?).getD 0
  | _ => 0

def build (entries : List ScriptValue) : TableShape → Matrix Binary64
  | .empty => .empty
  | .flat => .rowVector (entries.filterMap ScriptValue.number?)
  | .rows width => .ofFn entries.length width fun i j => leafAt entries i j

end TableShape

def ScriptValue.toMatrix : ScriptValue → Except CodecError (Matrix Binary64)
  | .number x => .ok (.scalar x)
  | .table entries => do
    let shape ← TableShape.ofEntries entries
    return shape.build entries
  | v => .error (.notNumeric v.typeName)

def ScriptValue.toNumeric (v : ScriptValue) : Except CodecError NumericValue :=
  v.toMatrix.map .matrix

/-! ## Lists of values -/

/-- Converts every member of a list in order. The first that has no counterpart fails the whole
list and is named by its position, counted from one. -/
def convertAll {α β ε δ : Type} (convert : α → Except ε β) (fail : Nat → ε → δ) (xs : List α) :
    Except δ (List β) :=
  (xs.zipIdx 1).mapM fun (x, position) => (convert x).mapError (fail position)

end MatrixBridge
