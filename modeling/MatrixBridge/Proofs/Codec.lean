import MatrixBridge.Proofs.Conversion
import MatrixBridge.Proofs.Matrix

/-! # The values that convert

A script value converts when it holds numeric data: a number, a sequence of numbers, or a sequence
of rows of one length. The data and the matrix determine each other up to a canonical form, and a
matrix that crosses and comes back is normalised once. -/

namespace MatrixBridge

/-- Numeric data as a script value can hold it. -/
inductive Data where
  | number (x : Binary64)
  | flat (xs : List Binary64)
  | rows (xss : List (List Binary64))

namespace Data

def script : Data → ScriptValue
  | .number x => .number x
  | .flat xs => .list xs
  | .rows xss => .rows xss

/-- The matrix that the data denotes, unless its rows are of different lengths. -/
def matrix? : Data → Option (Matrix Binary64)
  | .number x => some (.scalar x)
  | .flat xs => some (if xs.isEmpty then .empty else .rowVector xs)
  | .rows xss => Matrix.ofRows? xss

def ofNumbers : List Binary64 → Data
  | [x] => .number x
  | xs => .flat xs

/-- The form that comes back from the numeric runtime: rows only where there are at least two of at
least two numbers each. -/
def canonical : Data → Data
  | .number x => .number x
  | .flat xs => ofNumbers xs
  | .rows xss =>
    if xss.length ≤ 1 ∨ ∀ xs ∈ xss, xs.length ≤ 1 then ofNumbers xss.flatten else .rows xss

theorem canonical_ofNumbers (xs : List Binary64) : (ofNumbers xs).canonical = ofNumbers xs := by
  unfold ofNumbers
  split
  · rfl
  · rename_i hMany
    simp only [canonical, ofNumbers]

theorem canonical_canonical (d : Data) : d.canonical.canonical = d.canonical := by
  cases d with
  | number x => rfl
  | flat xs => exact canonical_ofNumbers xs
  | rows xss =>
    by_cases hSmall : xss.length ≤ 1 ∨ ∀ xs ∈ xss, xs.length ≤ 1
    · have hEq : (rows xss).canonical = ofNumbers xss.flatten := if_pos hSmall
      rw [hEq, canonical_ofNumbers]
    · simp only [canonical, if_neg hSmall]

end Data

namespace Matrix

variable {α : Type}

/-- What is left of a matrix that crosses and comes back. -/
def normalise (m : Matrix α) : Matrix α :=
  if m.isEmpty then .empty else if m.cols = 1 then .rowVector m.columnMajor else m

theorem toRows_inj {m m' : Matrix α} (hRows : m.rows = m'.rows) (hCols : m.cols = m'.cols)
    (h : m.toRows = m'.toRows) : m = m' := by
  obtain ⟨rows, cols, data, hData⟩ := m
  obtain ⟨rows', cols', data', hData'⟩ := m'
  cases hRows
  cases hCols
  apply ext_get
  intro i j
  have hRow := List.map_inj_left.mp h i (List.mem_finRange i)
  exact List.map_inj_left.mp hRow j (List.mem_finRange j)

theorem width_eq {m : Matrix α} (hRows : m.rows ≠ 0) : width m.toRows = m.cols := by
  cases hCases : m.toRows with
  | nil =>
    have hLength := m.length_toRows
    rw [hCases] at hLength
    exact absurd hLength.symm hRows
  | cons row rest =>
    exact length_of_mem_toRows (m := m) (by simp [hCases])

/-- Rows of one length make the matrix that has them, of as many columns as they ask for. -/
theorem ofRows?_eq_some {rows : List (List α)} {m : Matrix α} :
    ofRows? rows = some m ↔ m.toRows = rows ∧ m.cols = width rows := by
  have hMake : ∀ h : ∀ row ∈ rows, row.length = width rows,
      (ofFn rows.length (width rows) fun i j =>
        (rows.get i).get (j.cast (h _ (List.get_mem rows i)).symm)).toRows = rows := by
    intro h
    rw [toRows_ofFn]
    apply List.ext_getElem
    · simp
    · intro i hi hi'
      apply List.ext_getElem
      · simp [h _ (List.getElem_mem hi')]
      · intro j hj hj'
        simp
  rw [ofRows?]
  constructor
  · intro h
    obtain ⟨hWidth, hEq⟩ := Option.dite_none_right_eq_some.mp h
    cases hEq
    exact ⟨hMake hWidth, rfl⟩
  · rintro ⟨rfl, hCols⟩
    have hWidth : ∀ row ∈ m.toRows, row.length = width m.toRows := fun row hRow =>
      (length_of_mem_toRows hRow).trans hCols
    rw [dif_pos hWidth, Option.some.injEq]
    exact toRows_inj m.length_toRows hCols.symm (hMake hWidth)

theorem ofRows?_eq_none {rows : List (List α)} :
    ofRows? rows = none ↔ ¬∀ row ∈ rows, row.length = width rows := by
  rw [ofRows?, dite_eq_right_iff]
  exact ⟨fun h hEven => Option.some_ne_none _ (h hEven), fun h hEven => absurd hEven h⟩

end Matrix

/-! ## From script values to matrices -/

theorem ScriptValue.list_inj {xs ys : List Binary64} (h : ScriptValue.list xs = .list ys) :
    xs = ys :=
  List.map_injective_iff.mpr (fun _ _ hEq => ScriptValue.number.inj hEq) (ScriptValue.table.inj h)

namespace TableShape

theorem checkLeaves_eq_ok {row : Nat} {leaves : List ScriptValue} :
    checkLeaves row leaves = .ok () ↔ ∃ xs : List Binary64, leaves = xs.map .number := by
  rw [checkLeaves, ← forall_mem_iff_eq_map]
  apply forM_zipIdx_eq_ok
  intro leaf col
  cases leaf <;> simp

theorem checkEntry_flat {position : Nat} {entry : ScriptValue} :
    checkEntry .flat position entry = .ok () ↔ ∃ x, entry = .number x := by
  cases entry <;> simp [checkEntry]

theorem checkEntry_rows {width position : Nat} {entry : ScriptValue} :
    checkEntry (.rows width) position entry = .ok () ↔
      ∃ xs : List Binary64, entry = .list xs ∧ xs.length = width := by
  cases entry with
  | table row =>
    simp only [checkEntry, ScriptValue.list, ScriptValue.table.injEq]
    split
    · rename_i hWidth
      rw [checkLeaves_eq_ok]
      constructor
      · rintro ⟨xs, rfl⟩
        exact ⟨xs, rfl, by simpa using hWidth⟩
      · rintro ⟨xs, rfl, -⟩
        exact ⟨xs, rfl⟩
    · rename_i hWidth
      constructor
      · rintro ⟨⟩
      · rintro ⟨xs, rfl, hLength⟩
        exact absurd (by simpa using hLength) hWidth
  | nil | boolean | number | text | handle => simp [checkEntry, ScriptValue.list]

theorem ofEntries_cons {first : ScriptValue} {rest : List ScriptValue} {shape : TableShape} :
    ofEntries (first :: rest) = .ok shape ↔ ofFirst first = .ok shape ∧
      ((first :: rest).zipIdx 1).forM (fun (entry, position) => checkEntry shape position entry) =
        .ok () := by
  rw [ofEntries]
  cases ofFirst first with
  | error e => simp [bind, Except.bind]
  | ok announced =>
    simp only [bind, Except.bind, Except.ok.injEq]
    constructor
    · intro h
      split at h
      · cases h
      · rename_i hCheck
        cases h
        exact ⟨rfl, hCheck⟩
    · rintro ⟨rfl, hCheck⟩
      rw [hCheck]
      rfl

theorem ofEntries_numbers {x : Binary64} {rest : List ScriptValue} {shape : TableShape} :
    ofEntries (.number x :: rest) = .ok shape ↔
      shape = .flat ∧ ∃ xs : List Binary64, .number x :: rest = xs.map .number := by
  rw [ofEntries_cons, ← forall_mem_iff_eq_map, ofFirst, Except.ok.injEq, eq_comm]
  refine and_congr_right ?_
  rintro rfl
  exact forM_zipIdx_eq_ok (fun _ _ => checkEntry_flat) _ 1

theorem ofEntries_tables {row rest : List ScriptValue} {shape : TableShape} :
    ofEntries (.table row :: rest) = .ok shape ↔
      shape = .rows row.length ∧ ∃ xss : List (List Binary64),
        .table row :: rest = xss.map ScriptValue.list ∧ ∀ xs ∈ xss, xs.length = row.length := by
  rw [ofEntries_cons, ofFirst, Except.ok.injEq, eq_comm]
  refine and_congr_right ?_
  rintro rfl
  refine (forM_zipIdx_eq_ok (fun _ _ => checkEntry_rows) _ 1).trans ?_
  constructor
  · intro h
    obtain ⟨xss, hEntries⟩ := forall_mem_iff_eq_map.mp fun entry hEntry => (h entry hEntry).imp
      fun _ => And.left
    refine ⟨xss, hEntries, fun xs hxs => ?_⟩
    obtain ⟨xs', hEq, hLength⟩ := h (.list xs) (hEntries ▸ List.mem_map_of_mem hxs)
    cases ScriptValue.list_inj hEq
    exact hLength
  · rintro ⟨xss, hEntries, hLength⟩ entry hEntry
    rw [hEntries] at hEntry
    obtain ⟨xs, hxs, rfl⟩ := List.mem_map.mp hEntry
    exact ⟨xs, rfl, hLength xs hxs⟩

theorem leafAt_rows {xss : List (List Binary64)} {i j : Nat} (hi : i < xss.length)
    (hj : j < xss[i].length) : leafAt (xss.map ScriptValue.list) i j = xss[i][j] := by
  simp [leafAt, hi, hj, ScriptValue.list, ScriptValue.number?]

theorem toRows_build {xss : List (List Binary64)} {width : Nat}
    (h : ∀ xs ∈ xss, xs.length = width) :
    (build (xss.map ScriptValue.list) (.rows width)).toRows = xss := by
  rw [build, Matrix.toRows_ofFn]
  apply List.ext_getElem
  · simp
  · intro i hi hi'
    have hWidth := h _ (List.getElem_mem hi')
    apply List.ext_getElem
    · simp [hWidth]
    · intro j hj hj'
      simpa using leafAt_rows hi' hj'

theorem build_numbers (xs : List Binary64) :
    build (xs.map .number) .flat = .rowVector xs := by
  have hNumbers : ScriptValue.number? ∘ ScriptValue.number = some := rfl
  rw [build, List.filterMap_map, hNumbers, List.filterMap_some]

end TableShape

theorem Data.matrix?_rows {xss : List (List Binary64)} {m : Matrix Binary64} :
    (Data.rows xss).matrix? = some m ↔ m.toRows = xss ∧ m.cols = Matrix.width xss :=
  Matrix.ofRows?_eq_some

theorem Data.exists_matrix?_rows {xss : List (List Binary64)} :
    (∃ m, (Data.rows xss).matrix? = some m) ↔ ∃ width, ∀ xs ∈ xss, xs.length = width := by
  constructor
  · rintro ⟨m, h⟩
    obtain ⟨rfl, -⟩ := Data.matrix?_rows.mp h
    exact ⟨m.cols, fun xs hxs => Matrix.length_of_mem_toRows hxs⟩
  · rintro ⟨width, hWidth⟩
    have hFirst : ∀ xs ∈ xss, xs.length = Matrix.width xss := by
      cases xss with
      | nil => simp
      | cons first rest =>
        intro xs hxs
        exact (hWidth xs hxs).trans (hWidth first (by simp)).symm
    exact ⟨_, dif_pos hFirst⟩

theorem toMatrix_table {entries : List ScriptValue} {m : Matrix Binary64} :
    (ScriptValue.table entries).toMatrix = .ok m ↔
      ∃ shape, TableShape.ofEntries entries = .ok shape ∧ shape.build entries = m := by
  rw [ScriptValue.toMatrix]
  cases TableShape.ofEntries entries <;> simp [bind, Except.bind, pure, Except.pure]

theorem toMatrix_rows {xss : List (List Binary64)} {m : Matrix Binary64}
    (h : (Data.rows xss).matrix? = some m) : (ScriptValue.rows xss).toMatrix = .ok m := by
  obtain ⟨hRows, hCols⟩ := Data.matrix?_rows.mp h
  rw [ScriptValue.rows, toMatrix_table]
  have hWidth : ∀ xs ∈ xss, xs.length = m.cols := fun xs hxs =>
    Matrix.length_of_mem_toRows (hRows ▸ hxs)
  have hLength : m.rows = xss.length := by rw [← hRows, Matrix.length_toRows]
  cases xss with
  | nil => exact ⟨.empty, rfl, Matrix.toRows_inj hLength.symm hCols.symm hRows.symm⟩
  | cons xs rest =>
    refine ⟨.rows xs.length, ?_, Matrix.toRows_inj ?_ hCols.symm ?_⟩
    · refine TableShape.ofEntries_tables.mpr ⟨by simp, xs :: rest, rfl, fun ys hys => ?_⟩
      rw [List.length_map, hWidth ys hys, hWidth xs (by simp)]
    · simp [TableShape.build, Matrix.ofFn, hLength]
    · rw [TableShape.toRows_build fun ys hys => ?_, hRows]
      rw [hWidth ys hys, hWidth xs (by simp)]

theorem toMatrix_eq_ok {v : ScriptValue} {m : Matrix Binary64} :
    v.toMatrix = .ok m ↔ ∃ d : Data, v = d.script ∧ d.matrix? = some m := by
  constructor
  · intro h
    cases v with
    | number x => exact ⟨.number x, rfl, congrArg some (Except.ok.inj h)⟩
    | table entries =>
      obtain ⟨shape, hShape, rfl⟩ := toMatrix_table.mp h
      rcases entries with _ | ⟨first, rest⟩
      · cases hShape
        exact ⟨.flat [], rfl, rfl⟩
      cases first with
      | number x =>
        obtain ⟨rfl, xs, hEntries⟩ := TableShape.ofEntries_numbers.mp hShape
        have hSome : xs.isEmpty = false := by
          cases xs with
          | nil => cases hEntries
          | cons => rfl
        refine ⟨.flat xs, congrArg _ hEntries, ?_⟩
        rw [hEntries, TableShape.build_numbers, Data.matrix?, if_neg (by simp [hSome])]
      | table row =>
        obtain ⟨rfl, xss, hEntries, hWidth⟩ := TableShape.ofEntries_tables.mp hShape
        refine ⟨.rows xss, congrArg _ hEntries, ?_⟩
        rw [hEntries, Data.matrix?_rows, TableShape.toRows_build hWidth]
        refine ⟨rfl, ?_⟩
        cases xss with
        | nil => cases hEntries
        | cons xs => exact (hWidth xs (by simp)).symm
      | nil | boolean | text | handle => cases hShape
    | nil | boolean | text | handle => cases h
  · rintro ⟨d, rfl, h⟩
    cases d with
    | number x => exact congrArg Except.ok (Option.some.inj h)
    | flat xs =>
      cases Option.some.inj h
      cases xs with
      | nil => rfl
      | cons x xs =>
        rw [Data.script, ScriptValue.list, toMatrix_table]
        exact ⟨.flat, TableShape.ofEntries_numbers.mpr ⟨rfl, x :: xs, rfl⟩,
          TableShape.build_numbers _⟩
    | rows xss => exact toMatrix_rows h

/-! ## From matrices to script values -/

namespace Matrix

theorem isEmpty_iff {α : Type} {m : Matrix α} : m.isEmpty ↔ m.rows = 0 ∨ m.cols = 0 := by
  simp [isEmpty]

theorem normalise_of_isEmpty {α : Type} {m : Matrix α} (hEmpty : m.isEmpty) : m.normalise = .empty :=
  if_pos hEmpty

theorem normalise_of_cols {α : Type} {m : Matrix α} (hEmpty : ¬m.isEmpty) (hCols : m.cols = 1) :
    m.normalise = .rowVector m.columnMajor := by
  rw [normalise, if_neg hEmpty, if_pos hCols]

theorem normalise_of_cols_ne {α : Type} {m : Matrix α} (hEmpty : ¬m.isEmpty) (hCols : m.cols ≠ 1) :
    m.normalise = m := by
  rw [normalise, if_neg hEmpty, if_neg hCols]

theorem isEmpty_normalise {α : Type} (m : Matrix α) : m.normalise.isEmpty = m.isEmpty := by
  by_cases hEmpty : m.isEmpty
  · rw [normalise_of_isEmpty hEmpty, hEmpty]
    rfl
  by_cases hCols : m.cols = 1
  · rw [normalise_of_cols hEmpty hCols]
    simp [isEmpty, rowVector, columnMajor, m.size_data, hCols]
  · rw [normalise_of_cols_ne hEmpty hCols]

theorem normalise_normalise {α : Type} (m : Matrix α) : m.normalise.normalise = m.normalise := by
  by_cases hEmpty : m.isEmpty
  · rw [normalise_of_isEmpty hEmpty]
    rfl
  have hSome : ¬m.normalise.isEmpty := by rwa [isEmpty_normalise]
  by_cases hCols : m.cols = 1
  · rw [normalise_of_cols hEmpty hCols] at hSome ⊢
    rw [normalise, if_neg hSome, columnMajor_rowVector]
    exact ite_self _
  · rw [normalise_of_cols_ne hEmpty hCols, normalise_of_cols_ne hEmpty hCols]

def toData (m : Matrix Binary64) : Data :=
  if m.isEmpty then .flat []
  else if m.rows = 1 ∨ m.cols = 1 then .ofNumbers m.rowMajor else .rows m.toRows

theorem toScript_eq (m : Matrix Binary64) : m.toScript = m.toData.script := by
  unfold toScript toData
  split
  · rfl
  · split
    · rename_i x hSingle
      have hSize : m.rows * m.cols = 1 := by rw [← length_rowMajor, hSingle, List.length_singleton]
      rw [if_pos (Or.inl (Nat.eq_one_of_mul_eq_one_right hSize)), hSingle]
      rfl
    · rename_i hMany
      split
      · unfold Data.ofNumbers
        split
        · rename_i x hSingle
          exact absurd hSingle (hMany x)
        · rfl
      · rfl

theorem rowMajor_eq_nil {m : Matrix Binary64} (h : m.rows = 0 ∨ m.cols = 0) :
    m.rowMajor = [] := by
  apply List.eq_nil_of_length_eq_zero
  rw [length_rowMajor, Nat.mul_eq_zero]
  exact h

theorem vector_iff {m : Matrix Binary64} (h : ¬(m.rows = 0 ∨ m.cols = 0)) :
    (m.rows = 1 ∨ m.cols = 1) ↔ (m.rows ≤ 1 ∨ ∀ xs ∈ m.toRows, xs.length ≤ 1) := by
  have hRows : 0 < m.toRows.length := by
    rw [length_toRows]
    omega
  constructor
  · rintro (hOne | hOne)
    · exact .inl (Nat.le_of_eq hOne)
    · exact .inr fun xs hxs => Nat.le_of_eq ((length_of_mem_toRows hxs).trans hOne)
  · rintro (hLe | hLe)
    · exact .inl (by omega)
    · obtain ⟨row, hRow⟩ := List.exists_mem_of_length_pos hRows
      have hRowLe := hLe row hRow
      rw [length_of_mem_toRows hRow] at hRowLe
      exact .inr (by omega)

theorem toData_eq {d : Data} {m : Matrix Binary64} (h : d.matrix? = some m) :
    m.toData = d.canonical := by
  cases d with
  | number x =>
    cases Option.some.inj h
    rfl
  | flat xs =>
    cases Option.some.inj h
    cases xs with
    | nil => rfl
    | cons x xs =>
      have hShape : (rowVector (x :: xs)).isEmpty = false := rfl
      have hRow : (rowVector (x :: xs)).rows = 1 := rfl
      rw [if_neg (by simp), toData, if_neg (by simp [hShape]), if_pos (Or.inl hRow),
        rowMajor_rowVector]
      rfl
  | rows xss =>
    obtain ⟨rfl, hCols⟩ := Data.matrix?_rows.mp h
    rw [toData, Data.canonical, length_toRows]
    by_cases hEmpty : m.isEmpty
    · have hSmall : m.rows ≤ 1 ∨ ∀ xs ∈ m.toRows, xs.length ≤ 1 := by
        rcases isEmpty_iff.mp hEmpty with hZero | hZero
        · exact .inl (by omega)
        · exact .inr fun xs hxs => by rw [length_of_mem_toRows hxs]; omega
      have hNone : m.toRows.flatten = [] := rowMajor_eq_nil (isEmpty_iff.mp hEmpty)
      rw [if_pos hEmpty, if_pos hSmall, hNone]
      rfl
    · rw [if_neg hEmpty]
      exact if_congr (vector_iff fun hZero => hEmpty (isEmpty_iff.mpr hZero)) rfl rfl

theorem matrix?_ofNumbers {xs : List Binary64} (h : xs ≠ []) :
    (Data.ofNumbers xs).matrix? = some (.rowVector xs) := by
  unfold Data.ofNumbers
  split
  · rfl
  · rw [Data.matrix?, if_neg (by simpa using h)]

theorem matrix?_toData (m : Matrix Binary64) : m.toData.matrix? = some m.normalise := by
  unfold toData normalise
  by_cases hEmpty : m.isEmpty
  · rw [if_pos hEmpty, if_pos hEmpty]
    rfl
  rw [if_neg hEmpty, if_neg hEmpty]
  have hSize := fun hZero => hEmpty (isEmpty_iff.mpr hZero)
  by_cases hVector : m.rows = 1 ∨ m.cols = 1
  · have hSome : m.rowMajor ≠ [] := by
      intro hNone
      have hLength := m.length_rowMajor
      rw [hNone, List.length_nil, eq_comm, Nat.mul_eq_zero] at hLength
      exact hSize hLength
    rw [if_pos hVector, matrix?_ofNumbers hSome]
    split
    · rename_i hCols
      rw [rowMajor_of_cols hCols]
    · rename_i hCols
      have hRows := hVector.resolve_right hCols
      rw [rowMajor_of_rows hRows, rowVector_columnMajor hRows]
  · rw [if_neg hVector, if_neg fun hCols => hVector (.inr hCols), Data.matrix?_rows]
    exact ⟨rfl, (width_eq fun hZero => hSize (.inl hZero)).symm⟩

end Matrix

theorem toMatrix_toScript (m : Matrix Binary64) : m.toScript.toMatrix = .ok m.normalise := by
  rw [m.toScript_eq]
  exact toMatrix_eq_ok.mpr ⟨m.toData, rfl, m.matrix?_toData⟩

end MatrixBridge
