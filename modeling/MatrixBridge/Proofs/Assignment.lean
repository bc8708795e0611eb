import Mathlib.Data.List.Induction
import MatrixBridge.Proofs.Codec

/-! # Assigning entries

A matrix made in any of the ways to make one, and then assigned to at any positions, reads as the
rectangle of entries that it stands for: each is the last one assigned to its position, or the one
the matrix was made with. Storage column after column does not show. -/

namespace MatrixBridge.Matrix

variable {α : Type}

inductive Source (α : Type) where
  | zeros (rows cols : Nat)
  | empty
  | scalar (a : α)
  | rowVector (entries : List α)
  | columnVector (entries : List α)
  | ofRows (rows : List (List α))

namespace Source

def matrix? [Zero α] : Source α → Option (Matrix α)
  | .zeros rows cols => some (.zeros rows cols)
  | .empty => some .empty
  | .scalar a => some (.scalar a)
  | .rowVector entries => some (.rowVector entries)
  | .columnVector entries => some (.columnVector entries)
  | .ofRows rows => ofRows? rows

def size : Source α → Nat × Nat
  | .zeros rows cols => (rows, cols)
  | .empty => (0, 0)
  | .scalar _ => (1, 1)
  | .rowVector entries => (1, entries.length)
  | .columnVector entries => (entries.length, 1)
  | .ofRows rows => (rows.length, width rows)

/-- The entry that is first at a position, if the position is one of the matrix. -/
def entryAt? [Zero α] : Source α → Nat → Nat → Option α
  | .zeros rows cols, i, j => if i < rows ∧ j < cols then some 0 else none
  | .empty, _, _ => none
  | .scalar a, i, j => if i = 0 ∧ j = 0 then some a else none
  | .rowVector entries, i, j => if i = 0 then entries[j]? else none
  | .columnVector entries, i, j => if j = 0 then entries[i]? else none
  | .ofRows rows, i, j => rows[i]?.bind (·[j]?)

end Source

structure Assignment (α : Type) where
  row : Nat
  col : Nat
  value : α

def assign (m : Matrix α) (a : Assignment α) : Matrix α :=
  (m.update a.row a.col a.value).toOption.getD m

def assignAll (m : Matrix α) (assignments : List (Assignment α)) : Matrix α :=
  assignments.foldl assign m

/-- The value that was last assigned to a position. -/
def lastAssigned? (assignments : List (Assignment α)) (i j : Nat) : Option α :=
  (assignments.reverse.find? fun a => a.row = i ∧ a.col = j).map Assignment.value

def positions (m : Matrix α) : List (Nat × Nat) :=
  (List.range m.rows).flatMap fun i => (List.range m.cols).map fun j => (i, j)

/-! ## Cells -/

variable {m : Matrix α} {i j i' j' : Nat} {a : α}

theorem cell_inj {rows : Nat} (hi : i < rows) (hi' : i' < rows) :
    j * rows + i = j' * rows + i' ↔ i = i' ∧ j = j' := by
  constructor
  · intro hCell
    have hRow : (j * rows + i) % rows = (j' * rows + i') % rows := by rw [hCell]
    rw [Nat.mul_comm j, Nat.mul_comm j', Nat.mul_add_mod, Nat.mul_add_mod, Nat.mod_eq_of_lt hi,
      Nat.mod_eq_of_lt hi'] at hRow
    subst hRow
    exact ⟨rfl, Nat.eq_of_mul_eq_mul_right (Nat.zero_lt_of_lt hi) (Nat.add_right_cancel hCell)⟩
  · rintro ⟨rfl, rfl⟩
    rfl

/-- A cell is found with 64 bits as soon as the number of all cells has as many. -/
theorem toNat_cell {rows cols : Nat} {i j : UInt64} (hFits : rows * cols < UInt64.size)
    (hi : i.toNat < rows) (hj : j.toNat < cols) :
    (j * .ofNat rows + i).toNat = j.toNat * rows + i.toNat := by
  have hCell := cell_lt hi hj
  have hRows : rows ≤ rows * cols := Nat.le_mul_of_pos_right rows (Nat.zero_lt_of_lt hj)
  have hOfNat : (UInt64.ofNat rows).toNat = rows :=
    UInt64.toNat_ofNat_of_lt' (Nat.lt_of_le_of_lt hRows hFits)
  rw [UInt64.toNat_add, UInt64.toNat_mul, hOfNat, Nat.mod_add_mod]
  exact Nat.mod_eq_of_lt (Nat.lt_trans hCell hFits)

theorem entry_eq_error : m.entry i j = .error .outOfBounds ↔ m.rows ≤ i ∨ m.cols ≤ j := by
  rw [entry, ← Nat.not_lt, ← Nat.not_lt, ← not_and_or]
  split <;> simp_all

theorem update_eq_error : m.update i j a = .error .outOfBounds ↔ m.rows ≤ i ∨ m.cols ≤ j := by
  rw [update, ← Nat.not_lt, ← Nat.not_lt, ← not_and_or]
  split <;> simp_all

theorem toOption_entry (m : Matrix α) (i j : Nat) :
    (m.entry i j).toOption =
      if i < m.rows ∧ j < m.cols then m.columnMajor[j * m.rows + i]? else none := by
  rw [entry]
  split
  · rename_i hInside
    have hCell : j * m.rows + i < m.data.size := m.size_data ▸ cell_lt hInside.1 hInside.2
    rw [columnMajor, Array.getElem?_toList, Array.getElem?_eq_getElem hCell]
    rfl
  · rfl

/-! ## One assignment -/

theorem assign_of_refused (h : m.rows ≤ i ∨ m.cols ≤ j) : m.assign ⟨i, j, a⟩ = m := by
  rw [assign, update_eq_error.mpr h]
  rfl

theorem size_assign (m : Matrix α) (w : Assignment α) :
    (m.assign w).rows = m.rows ∧ (m.assign w).cols = m.cols := by
  rw [assign, update]
  split <;> exact ⟨rfl, rfl⟩

theorem entry_assign (m : Matrix α) (w : Assignment α) (i j : Nat) :
    (m.assign w).entry i j =
      (m.entry i j).map fun a => if w.row = i ∧ w.col = j then w.value else a := by
  by_cases hIn : w.row < m.rows ∧ w.col < m.cols
  · have hAssign : m.assign w = { m with
        data := m.data.setIfInBounds (w.col * m.rows + w.row) w.value
        size_data := by simp [m.size_data] } := by
      rw [assign, update, if_pos hIn]
      rfl
    rw [hAssign]
    by_cases hPosition : i < m.rows ∧ j < m.cols
    · have hCell : j * m.rows + i < m.data.size := m.size_data ▸ cell_lt hPosition.1 hPosition.2
      rw [entry, entry, dif_pos hPosition, dif_pos hPosition]
      refine congrArg Except.ok ((Array.getElem_setIfInBounds hCell).trans ?_)
      exact if_congr (cell_inj hIn.1 hPosition.1) rfl rfl
    · rw [entry, entry, dif_neg hPosition, dif_neg hPosition]
      rfl
  · have hOut : m.rows ≤ w.row ∨ m.cols ≤ w.col := by
      rwa [← Nat.not_lt, ← Nat.not_lt, ← not_and_or]
    rw [assign_of_refused hOut, entry]
    split
    · rename_i hPosition
      have hOther : ¬(w.row = i ∧ w.col = j) := by
        rintro ⟨rfl, rfl⟩
        exact hIn hPosition
      rw [Except.map, if_neg hOther]
    · rfl

theorem exists_update (hi : i < m.rows) (hj : j < m.cols) (a : α) :
    ∃ m', m.update i j a = .ok m' ∧ m.assign ⟨i, j, a⟩ = m' ∧
      (m'.rows = m.rows ∧ m'.cols = m.cols) ∧ m'.entry i j = .ok a ∧
      ∀ i' j', (i', j') ≠ (i, j) → m'.entry i' j' = m.entry i' j' := by
  have hAssign : ∃ m', m.update i j a = .ok m' ∧ m.assign ⟨i, j, a⟩ = m' := by
    rw [assign, update, if_pos ⟨hi, hj⟩]
    exact ⟨_, rfl, rfl⟩
  obtain ⟨m', hUpdate, rfl⟩ := hAssign
  refine ⟨_, hUpdate, rfl, size_assign m _, ?_, fun i' j' hOther => ?_⟩
  · rw [entry_assign, entry, dif_pos ⟨hi, hj⟩, Except.map, if_pos ⟨rfl, rfl⟩]
  · rw [entry_assign]
    have hElse : ¬(i = i' ∧ j = j') := by
      rintro ⟨rfl, rfl⟩
      exact hOther rfl
    cases m.entry i' j' with
    | error e => rfl
    | ok b => rw [Except.map, if_neg hElse]

/-! ## Any number of assignments -/

theorem assignAll_concat (m : Matrix α) (ws : List (Assignment α)) (w : Assignment α) :
    m.assignAll (ws ++ [w]) = (m.assignAll ws).assign w := by
  rw [assignAll, List.foldl_append]
  rfl

theorem lastAssigned?_concat (ws : List (Assignment α)) (w : Assignment α) (i j : Nat) :
    lastAssigned? (ws ++ [w]) i j =
      if w.row = i ∧ w.col = j then some w.value else lastAssigned? ws i j := by
  rw [lastAssigned?, List.reverse_concat, List.find?_cons]
  split <;> simp_all [lastAssigned?]

theorem size_assignAll (m : Matrix α) (ws : List (Assignment α)) :
    (m.assignAll ws).rows = m.rows ∧ (m.assignAll ws).cols = m.cols := by
  induction ws using List.reverseRecOn with
  | nil => exact ⟨rfl, rfl⟩
  | append_singleton ws w ih =>
    obtain ⟨hRows, hCols⟩ := size_assign (m.assignAll ws) w
    rw [assignAll_concat]
    exact ⟨hRows.trans ih.1, hCols.trans ih.2⟩

theorem entry_assignAll (m : Matrix α) (ws : List (Assignment α)) (i j : Nat) :
    (m.assignAll ws).entry i j = (m.entry i j).map fun a => (lastAssigned? ws i j).getD a := by
  induction ws using List.reverseRecOn with
  | nil =>
    rw [assignAll, List.foldl_nil]
    cases m.entry i j <;> rfl
  | append_singleton ws w ih =>
    rw [assignAll_concat, entry_assign, ih, lastAssigned?_concat]
    cases m.entry i j with
    | error e => rfl
    | ok a =>
      simp only [Except.map]
      split <;> rfl

/-! ## Rows -/

theorem toOption_entry_eq_toRows (m : Matrix α) (i j : Nat) :
    (m.entry i j).toOption = m.toRows[i]?.bind (·[j]?) := by
  obtain ⟨-, -, hEntries⟩ := (toRows_eq_iff (m := m)).mp rfl
  rw [entry]
  split
  · rename_i hInside
    exact (hEntries ⟨i, hInside.1⟩ ⟨j, hInside.2⟩).symm
  · rename_i hOutside
    by_cases hi : i < m.rows
    · have hRow : i < m.toRows.length := m.length_toRows ▸ hi
      have hWide : m.toRows[i].length ≤ j := by
        rw [length_of_mem_toRows (List.getElem_mem hRow)]
        exact Nat.le_of_not_lt fun hj => hOutside ⟨hi, hj⟩
      rw [List.getElem?_eq_getElem hRow, Option.bind_some, List.getElem?_eq_none hWide]
      rfl
    · rw [List.getElem?_eq_none (by rw [length_toRows]; exact Nat.le_of_not_lt hi)]
      rfl

theorem getElem?_flatten {rows : List (List α)} {cols : Nat}
    (hRows : ∀ row ∈ rows, row.length = cols) (hj : j < cols) :
    rows.flatten[i * cols + j]? = rows[i]?.bind (·[j]?) := by
  induction rows generalizing i with
  | nil => simp
  | cons row rows ih =>
    obtain ⟨hRow, hRows⟩ := List.forall_mem_cons.mp hRows
    cases i with
    | zero => simp [List.getElem?_append_left (hRow ▸ hj)]
    | succ i =>
      have hBehind : (i + 1) * cols + j = i * cols + j + row.length := by
        rw [hRow, Nat.add_mul]
        omega
      rw [List.flatten_cons, hBehind, List.getElem?_append_right (by omega), Nat.add_sub_cancel,
        ih hRows]
      rfl

theorem getElem?_rowMajor (hj : j < m.cols) :
    m.rowMajor[i * m.cols + j]? = (m.entry i j).toOption := by
  rw [rowMajor, getElem?_flatten (fun row hRow => length_of_mem_toRows hRow) hj,
    toOption_entry_eq_toRows]

/-- Walking through the positions in reading order meets every entry once and no error. -/
theorem mapM_entry_positions (m : Matrix α) :
    m.positions.mapM (fun p => m.entry p.1 p.2) = .ok m.rowMajor := by
  have hEntry : ∀ (i : Fin m.rows) (j : Fin m.cols), m.entry i j = pure (m.get i j) := fun i j =>
    dif_pos ⟨i.isLt, j.isLt⟩
  have hPositions : m.positions = ((List.finRange m.rows).flatMap fun i =>
      (List.finRange m.cols).map fun j => (i, j)).map fun p => (p.1.val, p.2.val) := by
    rw [positions, ← List.map_coe_finRange_eq_range, ← List.map_coe_finRange_eq_range,
      List.flatMap_map, List.map_flatMap]
    simp only [List.map_map, Function.comp_def]
  rw [hPositions, List.mapM_map]
  simp only [Function.comp_def, hEntry]
  rw [List.mapM_pure, List.map_flatMap, rowMajor, toRows, ← List.flatMap_def]
  simp only [List.map_map, Function.comp_def]
  rfl

/-! ## Entries that a matrix starts with -/

theorem toOption_entry_zeros [Zero α] (rows cols i j : Nat) :
    ((zeros rows cols : Matrix α).entry i j).toOption =
      if i < rows ∧ j < cols then some 0 else none := by
  rw [toOption_entry]
  refine ite_congr rfl (fun hInside => ?_) fun _ => rfl
  have hStorage : (zeros rows cols : Matrix α).columnMajor = List.replicate (rows * cols) 0 := by
    simp [columnMajor, zeros, replicate]
  rw [hStorage]
  exact List.getElem?_replicate_of_lt (cell_lt hInside.1 hInside.2)

theorem toOption_entry_rowVector (entries : List α) (i j : Nat) :
    ((rowVector entries).entry i j).toOption = if i = 0 then entries[j]? else none := by
  have hRows : (rowVector entries).rows = 1 := rfl
  have hCols : (rowVector entries).cols = entries.length := rfl
  rw [toOption_entry, columnMajor_rowVector]
  simp only [hRows, hCols, Nat.lt_one_iff]
  by_cases hi : i = 0
  · subst hi
    by_cases hj : j < entries.length <;> simp [hj]
  · simp [hi]

theorem toOption_entry_columnVector (entries : List α) (i j : Nat) :
    ((columnVector entries).entry i j).toOption = if j = 0 then entries[i]? else none := by
  have hRows : (columnVector entries).rows = entries.length := rfl
  have hCols : (columnVector entries).cols = 1 := rfl
  have hStorage : (columnVector entries).columnMajor = entries := by
    simp [columnMajor, columnVector]
  rw [toOption_entry, hStorage]
  simp only [hRows, hCols, Nat.lt_one_iff]
  by_cases hj : j = 0
  · subst hj
    by_cases hi : i < entries.length <;> simp [hi]
  · simp [hj]

theorem Source.matrix_spec [Zero α] {source : Source α} (h : source.matrix? = some m) :
    (m.rows, m.cols) = source.size ∧ ∀ i j, (m.entry i j).toOption = source.entryAt? i j := by
  cases source with
  | zeros rows cols =>
    cases h
    exact ⟨rfl, toOption_entry_zeros rows cols⟩
  | empty =>
    cases h
    exact ⟨rfl, fun i j => congrArg Except.toOption (entry_eq_error.mpr (.inl (Nat.zero_le i)))⟩
  | scalar a =>
    cases h
    refine ⟨rfl, fun i j => (toOption_entry_rowVector [a] i j).trans ?_⟩
    rw [entryAt?]
    cases i <;> cases j <;> rfl
  | rowVector entries =>
    cases h
    exact ⟨rfl, toOption_entry_rowVector entries⟩
  | columnVector entries =>
    cases h
    exact ⟨rfl, toOption_entry_columnVector entries⟩
  | ofRows rows =>
    obtain ⟨rfl, hCols⟩ := ofRows?_eq_some.mp h
    exact ⟨by rw [size, length_toRows, hCols], m.toOption_entry_eq_toRows⟩

/-! ## Entries after any number of assignments -/

/-- A matrix of any size, however it was made and whatever was assigned to it since, has a cell for
each position and reads at it what was last assigned there, or what the matrix was made with. A
position outside is refused and nothing changes; an assignment inside changes that entry alone.
Cells are found in 64 bits, none of them for two positions, and the entries are listed row by
row. -/
theorem storage_refines_entries [Zero α] {source : Source α} {start : Matrix α}
    {assignments : List (Assignment α)} (hMade : source.matrix? = some start)
    (hFits : start.rows * start.cols < UInt64.size) (hRun : start.assignAll assignments = m) :
    ((m.rows, m.cols) = source.size ∧ m.columnMajor.length = m.rows * m.cols) ∧
    (∀ i j, (m.entry i j).toOption =
      (source.entryAt? i j).map fun a => (lastAssigned? assignments i j).getD a) ∧
    (∀ i j, m.entry i j = .error .outOfBounds ↔ m.rows ≤ i ∨ m.cols ≤ j) ∧
    (∀ i j a, (m.update i j a = .error .outOfBounds ↔ m.rows ≤ i ∨ m.cols ≤ j) ∧
      (m.rows ≤ i ∨ m.cols ≤ j → m.assign ⟨i, j, a⟩ = m)) ∧
    (∀ i j a, i < m.rows → j < m.cols → ∃ m', m.update i j a = .ok m' ∧ m.assign ⟨i, j, a⟩ = m' ∧
      (m'.rows = m.rows ∧ m'.cols = m.cols) ∧ m'.entry i j = .ok a ∧
      ∀ i' j', (i', j') ≠ (i, j) → m'.entry i' j' = m.entry i' j') ∧
    (∀ i j : UInt64, i.toNat < m.rows → j.toNat < m.cols →
      let cell := (j * .ofNat m.rows + i).toNat
      cell = j.toNat * m.rows + i.toNat ∧ cell < m.columnMajor.length ∧
        (m.entry i.toNat j.toNat).toOption = m.columnMajor[cell]?) ∧
    (∀ i j i' j', i < m.rows → i' < m.rows →
      (j * m.rows + i = j' * m.rows + i' ↔ i = i' ∧ j = j')) ∧
    (m.rowMajor.length = m.rows * m.cols ∧
      (∀ i j, j < m.cols → m.rowMajor[i * m.cols + j]? = (m.entry i j).toOption) ∧
      m.positions.mapM (fun p => m.entry p.1 p.2) = .ok m.rowMajor) := by
  obtain ⟨hSize, hEntries⟩ := source.matrix_spec hMade
  obtain ⟨hRows, hCols⟩ := hRun ▸ size_assignAll start assignments
  have hStorage : m.columnMajor.length = m.rows * m.cols := m.size_data
  refine ⟨⟨by rw [hRows, hCols, hSize], hStorage⟩, fun i j => ?_, fun _ _ => entry_eq_error,
    fun _ _ _ => ⟨update_eq_error, assign_of_refused⟩, fun _ _ a hi hj => exists_update hi hj a,
    fun i j hi hj => ?_, fun _ _ _ _ => cell_inj,
    ⟨m.length_rowMajor, fun _ _ => getElem?_rowMajor, m.mapM_entry_positions⟩⟩
  · rw [← hRun, entry_assignAll, ← hEntries]
    cases start.entry i j <;> rfl
  · have hCell := toNat_cell (hRows ▸ hCols ▸ hFits) hi hj
    rw [toOption_entry, if_pos ⟨hi, hj⟩, hStorage, hCell]
    exact ⟨rfl, cell_lt hi hj, rfl⟩

def squareSource : Source Binary64 := .ofRows [[.ofNat 1, .ofNat 2], [.ofNat 3, .ofNat 4]]

def squareAssignments : List (Assignment Binary64) :=
  [⟨1, 0, .ofNat 7⟩, ⟨2, 0, .ofNat 8⟩, ⟨1, 0, .ofNat 9⟩]

def tallMatrix : Matrix Binary64 := .zeros (UInt64.size - 1) 0

/-- Of the three assignments to a square the second is outside, and the entry is the last one
assigned. -/
theorem last_assignment_read :
    (∃ start m, squareSource.matrix? = some start ∧ start.rows * start.cols < UInt64.size ∧
      start.assignAll squareAssignments = m ∧ (m.entry 1 0).toOption = some (.ofNat 9) ∧
      (m.entry 0 1).toOption = some (.ofNat 2)) ∧
    tallMatrix.positions.mapM (fun p => tallMatrix.entry p.1 p.2) = .ok tallMatrix.rowMajor := by
  constructor
  · have hMade : ∃ start, squareSource.matrix? = some start ∧
        start.rows * start.cols < UInt64.size := ⟨_, rfl, by decide⟩
    obtain ⟨start, hMade, hFits⟩ := hMade
    have hRun : start.assignAll squareAssignments = _ := rfl
    have hRefines := storage_refines_entries hMade hFits hRun
    exact ⟨start, _, hMade, hFits, hRun, (hRefines.2.1 1 0).trans rfl, (hRefines.2.1 0 1).trans rfl⟩
  · have hMade : (Source.zeros (UInt64.size - 1) 0).matrix? = some tallMatrix := rfl
    have hRun : tallMatrix.assignAll [] = tallMatrix := rfl
    obtain ⟨-, -, -, -, -, -, -, -, -, hWalk⟩ := storage_refines_entries hMade (by decide) hRun
    exact hWalk

end MatrixBridge.Matrix
