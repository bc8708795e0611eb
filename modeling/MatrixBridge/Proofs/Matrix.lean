import MatrixBridge.Matrix

/-! # Entries and storage

A matrix is determined by its size and its entries. Its rows list the entries in reading order, and
for a matrix of one row or one column they are the storage itself. -/

namespace MatrixBridge.Matrix

variable {α : Type}

theorem get_ofFn {rows cols : Nat} (entry : Fin rows → Fin cols → α) (i : Fin rows)
    (j : Fin cols) : (ofFn rows cols entry).get i j = entry i j := by
  have hRow : (j.val * rows + i.val) % rows = i.val := by
    rw [Nat.mul_comm, Nat.mul_add_mod, Nat.mod_eq_of_lt i.isLt]
  have hCol : (j.val * rows + i.val) / rows = j.val := by
    rw [Nat.mul_comm, Nat.mul_add_div (Nat.zero_lt_of_lt i.isLt), Nat.div_eq_of_lt i.isLt,
      Nat.add_zero]
  simp [get, ofFn, hRow, hCol]

theorem data_getElem (m : Matrix α) {cell : Nat} (hCell : cell < m.data.size) :
    ∃ i j, m.data[cell] = m.get i j ∧ cell = j.val * m.rows + i.val := by
  have hSize : cell < m.rows * m.cols := m.size_data ▸ hCell
  have hRows : 0 < m.rows := Nat.pos_of_mul_pos_right (Nat.zero_lt_of_lt hSize)
  have hSplit : cell = cell / m.rows * m.rows + cell % m.rows := by
    rw [Nat.mul_comm, Nat.div_add_mod]
  refine ⟨⟨cell % m.rows, Nat.mod_lt _ hRows⟩, ⟨cell / m.rows, Nat.div_lt_of_lt_mul hSize⟩, ?_,
    hSplit⟩
  simp only [get]
  congr 1

theorem ext_get {rows cols : Nat} {data data' : Array α} {hData : data.size = rows * cols}
    {hData' : data'.size = rows * cols}
    (h : ∀ i j, (⟨rows, cols, data, hData⟩ : Matrix α).get i j =
      (⟨rows, cols, data', hData'⟩ : Matrix α).get i j) :
    (⟨rows, cols, data, hData⟩ : Matrix α) = ⟨rows, cols, data', hData'⟩ := by
  have hEq : data = data' := by
    apply Array.ext (hData.trans hData'.symm)
    intro cell hCell hCell'
    obtain ⟨i, j, hEntry, rfl⟩ := data_getElem ⟨rows, cols, data, hData⟩ hCell
    exact hEntry.trans (h i j)
  subst hEq
  rfl

/-! ## Rows -/

theorem toRows_ofFn {rows cols : Nat} (entry : Fin rows → Fin cols → α) :
    (ofFn rows cols entry).toRows =
      (List.finRange rows).map fun i => (List.finRange cols).map (entry i) := by
  simp only [toRows]
  exact List.map_congr_left fun i _ => List.map_congr_left fun j _ => get_ofFn entry i j

@[simp] theorem length_toRows (m : Matrix α) : m.toRows.length = m.rows := by
  simp [toRows]

theorem length_of_mem_toRows {m : Matrix α} {row : List α} (h : row ∈ m.toRows) :
    row.length = m.cols := by
  obtain ⟨i, -, rfl⟩ := List.mem_map.mp h
  simp

/-- Rows are told by their number, their lengths and their members. -/
theorem toRows_eq_iff {m : Matrix α} {rows : List (List α)} :
    m.toRows = rows ↔ m.rows = rows.length ∧ (∀ row ∈ rows, row.length = m.cols) ∧
      ∀ i j, (rows[i.val]?.bind (·[j.val]?)) = some (m.get i j) := by
  constructor
  · rintro rfl
    refine ⟨m.length_toRows.symm, fun row hRow => length_of_mem_toRows hRow, fun i j => ?_⟩
    simp [toRows]
  · rintro ⟨hLength, hWidth, hEntries⟩
    apply List.ext_getElem
    · rw [length_toRows, hLength]
    · intro i hi hi'
      have hRow := hWidth _ (List.getElem_mem hi')
      apply List.ext_getElem
      · rw [length_of_mem_toRows (List.getElem_mem hi), hRow]
      · intro j hj hj'
        have hEntry := hEntries ⟨i, hLength ▸ hi'⟩ ⟨j, hRow ▸ hj'⟩
        rw [List.getElem?_eq_getElem hi', Option.bind_some, List.getElem?_eq_getElem hj',
          Option.some.injEq] at hEntry
        simp [toRows, hEntry]

@[simp] theorem length_rowMajor (m : Matrix α) : m.rowMajor.length = m.rows * m.cols := by
  have hRow : ∀ i ∈ List.finRange m.rows,
      (List.length ∘ fun i => (List.finRange m.cols).map fun j => m.get i j) i = m.cols := by
    simp
  rw [rowMajor, List.length_flatten, toRows, List.map_map, List.map_congr_left hRow,
    List.map_const', List.sum_replicate_nat, List.length_finRange]

theorem rowMajor_of_cols {m : Matrix α} (hCols : m.cols = 1) : m.rowMajor = m.columnMajor := by
  obtain ⟨rows, cols, data, hData⟩ := m
  cases hCols
  apply List.ext_getElem
  · simp [columnMajor, hData]
  · intro i hi hi'
    have hOne : List.finRange 1 = [0] := rfl
    simp [rowMajor, toRows, columnMajor, get, hOne, ← List.flatMap_def, ← List.map_eq_flatMap]

theorem rowMajor_of_rows {m : Matrix α} (hRows : m.rows = 1) : m.rowMajor = m.columnMajor := by
  obtain ⟨rows, cols, data, hData⟩ := m
  cases hRows
  apply List.ext_getElem
  · simp [columnMajor, hData]
  · intro i hi hi'
    have hOne : List.finRange 1 = [0] := rfl
    simp [rowMajor, toRows, columnMajor, get, hOne]

/-! ## Row vectors -/

theorem rowVector_columnMajor {m : Matrix α} (hRows : m.rows = 1) : rowVector m.columnMajor = m := by
  obtain ⟨rows, cols, data, hData⟩ := m
  cases hRows
  simp only [Nat.one_mul] at hData
  cases hData
  simp [rowVector, columnMajor]

@[simp] theorem columnMajor_rowVector (xs : List α) : (rowVector xs).columnMajor = xs := by
  simp [columnMajor, rowVector]

theorem rowMajor_rowVector (xs : List α) : (rowVector xs).rowMajor = xs :=
  (rowMajor_of_rows rfl).trans (columnMajor_rowVector xs)

end MatrixBridge.Matrix
