/-!
# Matrices in column-major storage

A matrix is a rectangle of entries stored column after column: entry `(i, j)` is in cell
`j * rows + i`. Every constructor fills the storage exactly, so a position inside the rectangle
always has a cell and the only failure is a position outside it. A matrix may have no rows or no
columns and still have any number of the other. Storage is not allocated, so no size is too large.
-/

namespace MatrixBridge

structure Matrix (α : Type) where
  rows : Nat
  cols : Nat
  data : Array α
  size_data : data.size = rows * cols
deriving DecidableEq

namespace Matrix

variable {α : Type}

inductive AccessError where
  | outOfBounds
deriving DecidableEq, Repr

def AccessError.message : AccessError → String
  | .outOfBounds => "matrix index out of bounds"

theorem cell_lt {rows cols i j : Nat} (hi : i < rows) (hj : j < cols) :
    j * rows + i < rows * cols := by
  calc
    j * rows + i < j * rows + rows := by omega
    _ = (j + 1) * rows := by rw [Nat.add_mul, Nat.one_mul]
    _ ≤ cols * rows := Nat.mul_le_mul_right _ hj
    _ = rows * cols := Nat.mul_comm _ _

def ofFn (rows cols : Nat) (entry : Fin rows → Fin cols → α) : Matrix α where
  rows := rows
  cols := cols
  data := Array.ofFn fun cell : Fin (rows * cols) =>
    entry
      ⟨cell % rows, Nat.mod_lt _ (Nat.pos_of_ne_zero fun h => by
        have := cell.isLt; simp [h] at this)⟩
      ⟨cell / rows, Nat.div_lt_of_lt_mul cell.isLt⟩
  size_data := Array.size_ofFn

def replicate (rows cols : Nat) (a : α) : Matrix α where
  rows := rows
  cols := cols
  data := Array.replicate (rows * cols) a
  size_data := Array.size_replicate

def zeros [Zero α] (rows cols : Nat) : Matrix α := replicate rows cols 0

def empty : Matrix α := ⟨0, 0, #[], rfl⟩

def scalar (a : α) : Matrix α := ⟨1, 1, #[a], rfl⟩

def rowVector (entries : List α) : Matrix α := ⟨1, entries.length, entries.toArray, by simp⟩

def columnVector (entries : List α) : Matrix α := ⟨entries.length, 1, entries.toArray, by simp⟩

/-- The number of columns that a list of rows asks for: the length of its first row. -/
def width (rows : List (List α)) : Nat := (rows.head?.map List.length).getD 0

/-- The matrix with these rows; rows of different lengths make none. -/
def ofRows? (rows : List (List α)) : Option (Matrix α) :=
  if h : ∀ row ∈ rows, row.length = width rows then
    some (ofFn rows.length (width rows) fun i j =>
      (rows.get i).get (j.cast (h _ (List.get_mem rows i)).symm))
  else none

def isEmpty (m : Matrix α) : Bool := m.rows == 0 || m.cols == 0

def get (m : Matrix α) (i : Fin m.rows) (j : Fin m.cols) : α :=
  have inside : j.val * m.rows + i.val < m.data.size := m.size_data ▸ cell_lt i.isLt j.isLt
  m.data[j.val * m.rows + i.val]

def entry (m : Matrix α) (i j : Nat) : Except AccessError α :=
  if h : i < m.rows ∧ j < m.cols then .ok (m.get ⟨i, h.1⟩ ⟨j, h.2⟩) else .error .outOfBounds

def update (m : Matrix α) (i j : Nat) (a : α) : Except AccessError (Matrix α) :=
  if i < m.rows ∧ j < m.cols then
    .ok { m with
      data := m.data.setIfInBounds (j * m.rows + i) a
      size_data := by simp [m.size_data] }
  else .error .outOfBounds

def toRows (m : Matrix α) : List (List α) :=
  (List.finRange m.rows).map fun i => (List.finRange m.cols).map fun j => m.get i j

def rowMajor (m : Matrix α) : List α := m.toRows.flatten

def columnMajor (m : Matrix α) : List α := m.data.toList

end Matrix

end MatrixBridge
