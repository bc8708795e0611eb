import MatrixBridge.Proofs.Assignment

/-! # Filling a matrix

A matrix is filled from the top, one entry after the other, in a rectangle of zeros. Every entry has
a place there, so no assignment is refused, and what comes out is the matrix of the rows. -/

namespace MatrixBridge

theorem bind_getElem?_concat {α β : Type} (xs : List α) (x : α) (f : α → Option β) (i : Nat) :
    (xs ++ [x])[i]?.bind f = if i = xs.length then f x else xs[i]?.bind f := by
  rw [List.getElem?_append]
  split
  · rename_i hBefore
    rw [if_neg (Nat.ne_of_lt hBefore)]
  · rename_i hBehind
    rw [List.getElem?_eq_none (Nat.le_of_not_lt hBehind)]
    by_cases hLast : i = xs.length
    · simp [hLast]
    · have hNone : [x][i - xs.length]? = none := List.getElem?_eq_none (by simp; omega)
      rw [hNone, if_neg hLast]

namespace Matrix

variable {α : Type}

/-- Sets the entries of a row from left to right. A place without a value is passed over. -/
def setRow (m : Matrix α) (i : Nat) (row : List (Option α)) : Except AccessError (Matrix α) :=
  row.zipIdx.foldlM (fun m (value?, j) => match value? with
    | some a => m.update i j a
    | none => .ok m) m

def setRows (m : Matrix α) (rows : List (List (Option α))) : Except AccessError (Matrix α) :=
  rows.zipIdx.foldlM (fun m (row, i) => m.setRow i row) m

/-- Sets rows from the top. A row of another length ends it, and makes the whole matrix none. -/
def setEvenRows (cols : Nat) (m : Matrix α) (rows : List (List α)) :
    Except AccessError (Option (Matrix α)) :=
  rows.zipIdx.foldlM (fun m? (row, i) => match m? with
    | none => .ok none
    | some m => if row.length ≠ cols then .ok none
      else (m.setRow i (row.map some)).map some) (some m)

variable {m m' : Matrix α}

/-- The second matrix is the first one with these entries in place of its own. -/
structure Overwrites (m m' : Matrix α) (given : Nat → Nat → Option α) : Prop where
  rows : m'.rows = m.rows
  cols : m'.cols = m.cols
  entry : ∀ i j, (m'.entry i j).toOption = (given i j).or (m.entry i j).toOption

theorem setRow_concat (m : Matrix α) (i : Nat) (row : List (Option α)) (value? : Option α) :
    m.setRow i (row ++ [value?]) = m.setRow i row >>= fun m' => match value? with
      | some a => m'.update i row.length a
      | none => .ok m' := by
  rw [setRow, List.zipIdx_append, List.foldlM_append]
  simp [setRow]

theorem setRows_concat (m : Matrix α) (rows : List (List (Option α))) (row : List (Option α)) :
    m.setRows (rows ++ [row]) = m.setRows rows >>= fun m' => m'.setRow rows.length row := by
  rw [setRows, List.zipIdx_append, List.foldlM_append]
  simp [setRows]

theorem setRow_spec {i : Nat} (row : List (Option α)) (hRow : i < m.rows)
    (hWide : row.length ≤ m.cols) : ∃ m', m.setRow i row = .ok m' ∧
      m.Overwrites m' fun i' j => if i' = i then row[j]?.bind id else none := by
  induction row using List.reverseRecOn with
  | nil => exact ⟨m, rfl, rfl, rfl, fun i' j => by simp⟩
  | append_singleton row value? ih =>
    rw [List.length_append, List.length_singleton] at hWide
    obtain ⟨u, hSet, hBefore⟩ := ih (Nat.le_of_succ_le hWide)
    rw [setRow_concat, hSet]
    simp only [bind_getElem?_concat]
    cases value? with
    | none =>
      refine ⟨u, rfl, hBefore.rows, hBefore.cols, fun i' j => ?_⟩
      rw [hBefore.entry]
      by_cases hLast : j = row.length
      · simp [hLast]
      · rw [if_neg hLast]
    | some a =>
      obtain ⟨m', hUpdate, -, ⟨hRows, hCols⟩, hAt, hElse⟩ :=
        exists_update (hBefore.rows ▸ hRow) (hBefore.cols ▸ hWide) a
      refine ⟨m', hUpdate, hRows.trans hBefore.rows, hCols.trans hBefore.cols, fun i' j => ?_⟩
      by_cases hPosition : (i', j) = (i, row.length)
      · cases hPosition
        rw [hAt, if_pos rfl, if_pos rfl]
        rfl
      · rw [hElse i' j hPosition, hBefore.entry]
        by_cases hSame : i' = i
        · have hOther : j ≠ row.length := fun hLast => hPosition (by rw [hSame, hLast])
          rw [if_pos hSame, if_pos hSame, if_neg hOther]
        · rw [if_neg hSame, if_neg hSame]

theorem setRows_spec {rows : List (List (Option α))} (hTall : rows.length ≤ m.rows)
    (hWide : ∀ row ∈ rows, row.length ≤ m.cols) : ∃ m', m.setRows rows = .ok m' ∧
      m.Overwrites m' fun i j => rows[i]?.bind (·[j]?.bind id) := by
  induction rows using List.reverseRecOn with
  | nil => exact ⟨m, rfl, rfl, rfl, fun i j => by simp⟩
  | append_singleton rows row ih =>
    obtain ⟨hFront, hRow⟩ := List.forall_mem_append.mp hWide
    rw [List.length_append, List.length_singleton] at hTall
    obtain ⟨u, hSet, hBefore⟩ := ih (Nat.le_of_succ_le hTall) hFront
    obtain ⟨m', hSetRow, hLast⟩ := setRow_spec (m := u) row
      (hBefore.rows ▸ hTall) (hBefore.cols ▸ hRow row (List.mem_singleton_self row))
    rw [setRows_concat, hSet]
    refine ⟨m', hSetRow, hLast.rows.trans hBefore.rows, hLast.cols.trans hBefore.cols,
      fun i j => ?_⟩
    rw [hLast.entry, hBefore.entry, bind_getElem?_concat]
    by_cases hHere : i = rows.length
    · have hNone : rows[i]? = none := List.getElem?_eq_none (Nat.le_of_eq hHere.symm)
      rw [if_pos hHere, if_pos hHere, hNone]
      rfl
    · rw [if_neg hHere, if_neg hHere]
      rfl

theorem setEvenRows_concat (cols : Nat) (m : Matrix α) (rows : List (List α)) (row : List α) :
    m.setEvenRows cols (rows ++ [row]) = m.setEvenRows cols rows >>= fun m? => match m? with
      | none => .ok none
      | some m => if row.length ≠ cols then .ok none
        else (m.setRow rows.length (row.map some)).map some := by
  rw [setEvenRows, List.zipIdx_append, List.foldlM_append]
  simp [setEvenRows]

theorem setEvenRows_eq (rows : List (List α)) (hTall : rows.length ≤ m.rows) :
    m.setEvenRows m.cols rows = if ∀ row ∈ rows, row.length = m.cols then
      (m.setRows (rows.map (·.map some))).map some else .ok none := by
  induction rows using List.reverseRecOn with
  | nil => rfl
  | append_singleton rows row ih =>
    rw [List.length_append, List.length_singleton] at hTall
    rw [setEvenRows_concat, ih (Nat.le_of_succ_le hTall)]
    by_cases hFront : ∀ other ∈ rows, other.length = m.cols
    · have hWide : ∀ row ∈ rows.map (·.map some), row.length ≤ m.cols := by
        rw [List.forall_mem_map]
        exact fun other hOther => Nat.le_of_eq ((List.length_map _).trans (hFront other hOther))
      obtain ⟨u, hSet, -⟩ := setRows_spec (by rw [List.length_map]; omega) hWide
      rw [if_pos hFront, hSet, List.map_append, List.map_singleton, setRows_concat, hSet,
        List.length_map]
      by_cases hRow : row.length = m.cols
      · have hAll : ∀ other ∈ rows ++ [row], other.length = m.cols :=
          List.forall_mem_append.mpr ⟨hFront, by simpa using hRow⟩
        rw [if_pos hAll]
        exact if_neg (not_not_intro hRow)
      · have hSome : ¬∀ other ∈ rows ++ [row], other.length = m.cols := fun hAll =>
          hRow (hAll row List.mem_concat_self)
        rw [if_neg hSome]
        exact if_pos hRow
    · have hSome : ¬∀ other ∈ rows ++ [row], other.length = m.cols := fun hAll =>
        hFront fun other hOther => hAll other (List.mem_append_left _ hOther)
      rw [if_neg hFront, if_neg hSome]
      rfl

theorem toOption_entry_fin (m : Matrix α) (i : Fin m.rows) (j : Fin m.cols) :
    (m.entry i j).toOption = some (m.get i j) := by
  rw [entry, dif_pos ⟨i.isLt, j.isLt⟩]
  rfl

theorem ext_entry (hRows : m.rows = m'.rows) (hCols : m.cols = m'.cols)
    (hEntry : ∀ i j, i < m.rows → j < m.cols →
      (m.entry i j).toOption = (m'.entry i j).toOption) : m = m' := by
  obtain ⟨rows, cols, data, hData⟩ := m
  obtain ⟨rows', cols', data', hData'⟩ := m'
  cases hRows
  cases hCols
  refine ext_get fun i j => Option.some.inj ?_
  rw [← toOption_entry_fin, ← toOption_entry_fin]
  exact hEntry i j i.isLt j.isLt

theorem toOption_entry_ofFn {rows cols i j : Nat} (entry : Fin rows → Fin cols → α)
    (hi : i < rows) (hj : j < cols) :
    ((ofFn rows cols entry).entry i j).toOption = some (entry ⟨i, hi⟩ ⟨j, hj⟩) := by
  rw [Matrix.entry, dif_pos ⟨hi, hj⟩]
  exact congrArg some (get_ofFn entry ⟨i, hi⟩ ⟨j, hj⟩)

/-- Rows that are set into zeros one after the other make the matrix that has them, and none when
they are of different lengths. -/
theorem setEvenRows_zeros [Zero α] (rows : List (List α)) :
    (zeros rows.length (width rows)).setEvenRows (width rows) rows = .ok (ofRows? rows) := by
  have hTall : rows.length ≤ (zeros rows.length (width rows) : Matrix α).rows := Nat.le_refl _
  refine (setEvenRows_eq rows hTall).trans ?_
  by_cases hEven : ∀ row ∈ rows, row.length = width rows
  · have hWide : ∀ row ∈ rows.map (·.map some),
        row.length ≤ (zeros rows.length (width rows) : Matrix α).cols := by
      rw [List.forall_mem_map]
      exact fun row hRow => Nat.le_of_eq ((List.length_map _).trans (hEven row hRow))
    obtain ⟨m, hSet, hRows, hCols, hEntry⟩ := setRows_spec (by simpa using hTall) hWide
    have hToRows : m.toRows = rows := by
      refine toRows_eq_iff.mpr ⟨hRows, fun row hRow => (hEven row hRow).trans hCols.symm,
        fun i j => ?_⟩
      have hi : i.val < rows.length := Nat.lt_of_lt_of_eq i.isLt hRows
      have hj : j.val < rows[i.val].length := by
        rw [hEven _ (List.getElem_mem hi)]
        exact Nat.lt_of_lt_of_eq j.isLt hCols
      rw [← toOption_entry_fin, hEntry]
      simp [hi, hj]
    rw [ofRows?_eq_some.mpr ⟨hToRows, hCols⟩]
    refine (if_pos hEven).trans ?_
    rw [hSet]
    rfl
  · rw [ofRows?_eq_none.mpr hEven]
    exact if_neg hEven

end Matrix

/-- The entries of a table as a row: what is not a number, or not a table, has no value. -/
def ScriptValue.leaves : ScriptValue → List (Option Binary64)
  | .table row => row.map ScriptValue.number?
  | _ => []

theorem TableShape.leaf_or_zero (entries : List ScriptValue) (i j : Nat) :
    ((entries.map ScriptValue.leaves)[i]?.bind (·[j]?.bind id)).or (some 0) =
      some (leafAt entries i j) := by
  rw [leafAt, List.getElem?_map]
  cases entries[i]? with
  | none => rfl
  | some v =>
    cases v with
    | table row =>
      have hRow : ((row.map ScriptValue.number?)[j]?.bind id).or (some 0) =
          some ((row[j]?.bind ScriptValue.number?).getD 0) := by
        rw [List.getElem?_map]
        cases row[j]? with
        | none => rfl
        | some leaf => cases leaf <;> rfl
      exact hRow
    | _ => rfl

theorem TableShape.length_leaves {entries : List ScriptValue} {width : Nat}
    (hShape : ofEntries entries = .ok (.rows width)) : ∀ v ∈ entries, v.leaves.length = width := by
  cases entries with
  | nil => cases hShape
  | cons first rest =>
    obtain ⟨-, hChecked⟩ := ofEntries_cons.mp hShape
    intro v hMem
    obtain ⟨xs, rfl, hWidth⟩ :=
      (forM_zipIdx_eq_ok (fun _ _ => checkEntry_rows) _ 1).mp hChecked v hMem
    simpa [ScriptValue.list, ScriptValue.leaves] using hWidth

/-- The numbers of a table of rows, set into zeros one after the other, make the matrix of its
shape. -/
theorem TableShape.setRows_zeros {entries : List ScriptValue} {width : Nat}
    (hShape : ofEntries entries = .ok (.rows width)) :
    (Matrix.zeros entries.length width).setRows (entries.map ScriptValue.leaves) =
      .ok (build entries (.rows width)) := by
  have hTall : (entries.map ScriptValue.leaves).length ≤
      (Matrix.zeros entries.length width : Matrix Binary64).rows :=
    Nat.le_of_eq (List.length_map _)
  have hWide : ∀ row ∈ entries.map ScriptValue.leaves,
      row.length ≤ (Matrix.zeros entries.length width : Matrix Binary64).cols :=
    List.forall_mem_map.mpr fun v hMem => Nat.le_of_eq (length_leaves hShape v hMem)
  obtain ⟨m, hSet, hRows, hCols, hEntry⟩ := Matrix.setRows_spec hTall hWide
  have hSame : m = build entries (.rows width) := by
    refine Matrix.ext_entry hRows hCols fun i j hi hj => ?_
    have hRow : i < entries.length := Nat.lt_of_lt_of_eq hi hRows
    have hCol : j < width := Nat.lt_of_lt_of_eq hj hCols
    rw [hEntry, Matrix.toOption_entry_zeros, if_pos ⟨hRow, hCol⟩, build,
      Matrix.toOption_entry_ofFn _ hRow hCol]
    exact leaf_or_zero entries i j
  rw [hSet, hSame]

end MatrixBridge
