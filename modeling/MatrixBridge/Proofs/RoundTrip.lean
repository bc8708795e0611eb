import MatrixBridge.Proofs.Codec

/-! # Round trips

A matrix that crosses and comes back has lost its shape only if it was empty or a single column. A
script value that converts comes back in canonical form. Either way the numbers are the same in the
same order, and a second trip changes nothing. -/

namespace MatrixBridge

namespace ScriptValue

mutual

def numbers : ScriptValue → List Binary64
  | .number x => [x]
  | .table entries => numbersOf entries
  | _ => []

def numbersOf : List ScriptValue → List Binary64
  | [] => []
  | v :: vs => v.numbers ++ numbersOf vs

end

@[simp] theorem numbers_list (xs : List Binary64) : (list xs).numbers = xs := by
  rw [list, numbers]
  induction xs with
  | nil => rfl
  | cons x xs ih => rw [List.map_cons, numbersOf, numbers, ih, List.singleton_append]

@[simp] theorem numbers_rows (xss : List (List Binary64)) : (rows xss).numbers = xss.flatten := by
  rw [rows, numbers]
  induction xss with
  | nil => rfl
  | cons xs xss ih => rw [List.map_cons, numbersOf, numbers_list, ih, List.flatten_cons]

/-- The forms in which values come back. -/
inductive IsCanonical : ScriptValue → Prop
  | number (x : Binary64) : IsCanonical (.number x)
  | empty : IsCanonical (.table [])
  | flat {xs : List Binary64} : 2 ≤ xs.length → IsCanonical (.list xs)
  | rows {xss : List (List Binary64)} {width : Nat} : 2 ≤ xss.length → 2 ≤ width →
      (∀ xs ∈ xss, xs.length = width) → IsCanonical (.rows xss)

def roundTrip (v : ScriptValue) : Except CodecError ScriptValue :=
  v.toNumeric >>= NumericValue.toScript

end ScriptValue

/-! ## Values that come back -/

namespace Data

def numbers : Data → List Binary64
  | .number x => [x]
  | .flat xs => xs
  | .rows xss => xss.flatten

theorem numbers_script (d : Data) : d.script.numbers = d.numbers := by
  cases d with
  | number x => rfl
  | flat xs => exact ScriptValue.numbers_list xs
  | rows xss => exact ScriptValue.numbers_rows xss

@[simp] theorem numbers_ofNumbers (xs : List Binary64) : (ofNumbers xs).numbers = xs := by
  unfold ofNumbers
  split <;> rfl

theorem numbers_canonical (d : Data) : d.canonical.numbers = d.numbers := by
  cases d with
  | number x => rfl
  | flat xs => exact numbers_ofNumbers xs
  | rows xss =>
    rw [canonical]
    split
    · exact numbers_ofNumbers _
    · rfl

theorem isCanonical_ofNumbers (xs : List Binary64) : (ofNumbers xs).script.IsCanonical := by
  match xs with
  | [] => exact .empty
  | [x] => exact .number x
  | x :: y :: xs => exact .flat (by simp)

theorem isCanonical_canonical {d : Data} {m : Matrix Binary64} (h : d.matrix? = some m) :
    d.canonical.script.IsCanonical := by
  cases d with
  | number x => exact .number x
  | flat xs => exact isCanonical_ofNumbers xs
  | rows xss =>
    rw [canonical]
    split
    · exact isCanonical_ofNumbers _
    · rename_i hLarge
      obtain ⟨hMany, hWide⟩ := not_or.mp hLarge
      obtain ⟨width, hWidth⟩ := exists_matrix?_rows.mp ⟨m, h⟩
      refine .rows (Nat.lt_of_not_le hMany) (Nat.lt_of_not_le fun hNarrow => hWide ?_) hWidth
      exact fun xs hxs => hWidth xs hxs ▸ hNarrow

theorem roundTrip_script {d : Data} {m : Matrix Binary64} (h : d.matrix? = some m) :
    d.script.roundTrip = .ok d.canonical.script := by
  have hMatrix : d.script.toMatrix = .ok m := toMatrix_eq_ok.mpr ⟨d, rfl, h⟩
  rw [ScriptValue.roundTrip, ScriptValue.toNumeric, hMatrix, ← Matrix.toData_eq h, ← m.toScript_eq]
  rfl

end Data

theorem ScriptValue.IsCanonical.exists_data {v : ScriptValue} (h : v.IsCanonical) :
    ∃ d : Data, ∃ m, v = d.script ∧ d.matrix? = some m ∧ d.canonical = d := by
  cases h with
  | number x => exact ⟨.number x, _, rfl, rfl, rfl⟩
  | empty => exact ⟨.flat [], _, rfl, rfl, rfl⟩
  | @flat xs hMany =>
    match xs with
    | x :: y :: xs => exact ⟨.flat (x :: y :: xs), _, rfl, rfl, rfl⟩
  | @rows xss width hMany hWide hWidth =>
    obtain ⟨m, hMatrix⟩ := Data.exists_matrix?_rows.mpr ⟨width, hWidth⟩
    refine ⟨.rows xss, m, rfl, hMatrix, if_neg ?_⟩
    rintro (hFew | hNarrow)
    · omega
    · obtain ⟨xs, hxs⟩ := List.exists_mem_of_length_pos (Nat.zero_lt_of_lt hMany)
      have := hWidth xs hxs ▸ hNarrow xs hxs
      omega

theorem ScriptValue.IsCanonical.roundTrip_eq {v : ScriptValue} (h : v.IsCanonical) :
    v.roundTrip = .ok v := by
  obtain ⟨d, m, rfl, hMatrix, hSame⟩ := h.exists_data
  rw [Data.roundTrip_script hMatrix, hSame]

/-- A value that converts comes back in canonical form with the numbers it had, as itself only if it
was in canonical form, and from then on as itself. -/
theorem script_round_trip {v : ScriptValue} {n : NumericValue} (h : v.toNumeric = .ok n) :
    ∃ r, n.toScript = .ok r ∧ v.roundTrip = .ok r ∧ r.numbers = v.numbers ∧ r.IsCanonical ∧
      (r = v ↔ v.IsCanonical) ∧ r.roundTrip = .ok r := by
  obtain ⟨m, hMatrix, rfl⟩ := map_eq_ok.mp h
  obtain ⟨d, rfl, hData⟩ := toMatrix_eq_ok.mp hMatrix
  have hCanonical := Data.isCanonical_canonical hData
  refine ⟨d.canonical.script, ?_, Data.roundTrip_script hData, ?_, hCanonical, ?_,
    hCanonical.roundTrip_eq⟩
  · rw [NumericValue.toScript, m.toScript_eq, Matrix.toData_eq hData]
  · rw [Data.numbers_script, Data.numbers_script, Data.numbers_canonical]
  · constructor
    · intro hSame
      exact hSame ▸ hCanonical
    · intro hBefore
      exact Except.ok.inj ((Data.roundTrip_script hData).symm.trans hBefore.roundTrip_eq)

/-- A table of two rows of one number each is no canonical form, and comes back flat. -/
theorem column_round_trip : ∃ n r,
    (ScriptValue.rows [[.ofNat 1], [.ofNat 2]]).toNumeric = .ok n ∧ n.toScript = .ok r ∧
      r = .list [.ofNat 1, .ofNat 2] ∧ ¬(ScriptValue.rows [[.ofNat 1], [.ofNat 2]]).IsCanonical := by
  obtain ⟨r, hScript, hReturned, -, -, hSame, -⟩ :=
    script_round_trip (v := .rows [[.ofNat 1], [.ofNat 2]]) (n := _) rfl
  have hList : r = .list [.ofNat 1, .ofNat 2] := Except.ok.inj (hReturned.symm.trans rfl)
  refine ⟨_, r, rfl, hScript, hList, fun hCanonical => ?_⟩
  cases hList.symm.trans (hSame.mpr hCanonical)

/-! ## Matrices that come back -/

namespace Matrix

theorem columnVector_columnMajor {α : Type} {m : Matrix α} (hCols : m.cols = 1) :
    columnVector m.columnMajor = m := by
  obtain ⟨rows, cols, data, hData⟩ := m
  cases hCols
  simp only [Nat.mul_one] at hData
  cases hData
  simp [columnVector, columnMajor]

theorem canonical_toData (m : Matrix Binary64) : m.toData.canonical = m.toData := by
  unfold toData
  split
  · rfl
  · rename_i hEmpty
    split
    · exact Data.canonical_ofNumbers _
    · rename_i hVector
      rw [vector_iff fun hZero => hEmpty (isEmpty_iff.mpr hZero), ← m.length_toRows] at hVector
      exact if_neg hVector

theorem toScript_normalise (m : Matrix Binary64) : m.normalise.toScript = m.toScript := by
  rw [toScript_eq, toScript_eq, toData_eq m.matrix?_toData, canonical_toData]

theorem numbers_toScript (m : Matrix Binary64) : m.toScript.numbers = m.rowMajor := by
  rw [toScript_eq, Data.numbers_script, toData]
  split
  · rename_i hEmpty
    exact (rowMajor_eq_nil (isEmpty_iff.mp hEmpty)).symm
  · split
    · exact Data.numbers_ofNumbers _
    · rfl

theorem toScript_columnVector (xs : List Binary64) :
    (columnVector xs).toScript = (rowVector xs).toScript := by
  cases xs with
  | nil => rfl
  | cons x xs =>
    have hSome : ¬(columnVector (x :: xs)).isEmpty := by simp [isEmpty, columnVector]
    have hCols : (columnVector (x :: xs)).cols = 1 := rfl
    rw [← toScript_normalise, normalise_of_cols hSome hCols]
    rfl

/-- A matrix that is not empty is its normal form, or the column of which that is the row. -/
theorem eq_normalise_or_column {α : Type} {m : Matrix α} (hEmpty : ¬m.isEmpty) :
    m = m.normalise ∨ ∃ xs, m = .columnVector xs ∧ m.normalise = .rowVector xs := by
  by_cases hCols : m.cols = 1
  · exact .inr ⟨m.columnMajor, (columnVector_columnMajor hCols).symm, normalise_of_cols hEmpty hCols⟩
  · exact .inl (normalise_of_cols_ne hEmpty hCols).symm

theorem rowVector_inj {α : Type} {xs ys : List α} (h : rowVector xs = rowVector ys) : xs = ys := by
  rw [← columnMajor_rowVector xs, h, columnMajor_rowVector]

/-- What matrices are written alike: empty ones, and a row and the column of the same entries. -/
theorem toScript_eq_iff {m m' : Matrix Binary64} :
    m.toScript = m'.toScript ↔ m.isEmpty ∧ m'.isEmpty ∨ m = m' ∨
      ∃ xs, m = .rowVector xs ∧ m' = .columnVector xs ∨ m = .columnVector xs ∧ m' = .rowVector xs := by
  constructor
  · intro h
    have hReturned : m.toScript.toMatrix = .ok m'.normalise := by rw [h, toMatrix_toScript]
    have hNormal : m.normalise = m'.normalise :=
      Except.ok.inj ((toMatrix_toScript m).symm.trans hReturned)
    by_cases hEmpty : m.isEmpty
    · exact .inl ⟨hEmpty, by rw [← isEmpty_normalise, ← hNormal, isEmpty_normalise, hEmpty]⟩
    have hEmpty' : ¬m'.isEmpty := by rwa [← isEmpty_normalise, ← hNormal, isEmpty_normalise]
    -- Each is the common normal form or the column of it.
    refine .inr ?_
    rcases eq_normalise_or_column hEmpty with hSame | ⟨xs, hColumn, hRow⟩ <;>
      rcases eq_normalise_or_column hEmpty' with hSame' | ⟨ys, hColumn', hRow'⟩
    · exact .inl (hSame.trans (hNormal.trans hSame'.symm))
    · exact .inr ⟨ys, .inl ⟨hSame.trans (hNormal.trans hRow'), hColumn'⟩⟩
    · exact .inr ⟨xs, .inr ⟨hColumn, hSame'.trans (hNormal.symm.trans hRow)⟩⟩
    · cases rowVector_inj (hRow.symm.trans (hNormal.trans hRow'))
      exact .inl (hColumn.trans hColumn'.symm)
  · rintro (⟨hEmpty, hEmpty'⟩ | rfl | ⟨xs, ⟨rfl, rfl⟩ | ⟨rfl, rfl⟩⟩)
    · rw [toScript, toScript, if_pos hEmpty, if_pos hEmpty']
    · rfl
    · exact (toScript_columnVector xs).symm
    · exact toScript_columnVector xs

end Matrix

/-- Every matrix is written and read back as its normal form, with its numbers in reading order; what
is written tells matrices apart up to that form. The other values of the numeric runtime, and they
alone, are not written at all. -/
theorem matrix_round_trip (m m' : Matrix Binary64) :
    (∃ s, (NumericValue.matrix m).toScript = .ok s ∧ s.toNumeric = .ok (.matrix m.normalise) ∧
      s.numbers = m.rowMajor) ∧
    ((m.rows = 0 ∨ m.cols = 0 → m.normalise = .empty) ∧
      (m.rows ≠ 0 → m.cols = 1 → m.normalise = .rowVector m.rowMajor) ∧
      (m.rows ≠ 0 → m.cols ≠ 0 → m.cols ≠ 1 → m.normalise = m)) ∧
    (NumericValue.matrix m.normalise).toScript = (NumericValue.matrix m).toScript ∧
    m.normalise.normalise = m.normalise ∧
    ((NumericValue.matrix m).toScript = (NumericValue.matrix m').toScript ↔
      m.isEmpty ∧ m'.isEmpty ∨ m = m' ∨
        ∃ xs, m = .rowVector xs ∧ m' = .columnVector xs ∨
          m = .columnVector xs ∧ m' = .rowVector xs) ∧
    ∀ v : NumericValue, (∃ cause, v.toScript = .error cause) ↔ ∀ m, v ≠ .matrix m := by
  have hSome : ∀ {m : Matrix Binary64}, m.rows ≠ 0 → m.cols ≠ 0 → ¬m.isEmpty :=
    fun hRows hCols hEmpty => (Matrix.isEmpty_iff.mp hEmpty).elim hRows hCols
  refine ⟨⟨m.toScript, rfl, ?_, m.numbers_toScript⟩, ⟨?_, ?_, ?_⟩, ?_, m.normalise_normalise, ?_, ?_⟩
  · rw [ScriptValue.toNumeric, toMatrix_toScript]
    rfl
  · exact fun hNone => Matrix.normalise_of_isEmpty (Matrix.isEmpty_iff.mpr hNone)
  · intro hRows hCols
    rw [Matrix.normalise_of_cols (hSome hRows (by simp [hCols])) hCols, Matrix.rowMajor_of_cols hCols]
  · exact fun hRows hCols hOne => Matrix.normalise_of_cols_ne (hSome hRows hCols) hOne
  · exact congrArg Except.ok m.toScript_normalise
  · simp only [NumericValue.toScript, Except.ok.injEq]
    exact Matrix.toScript_eq_iff
  · intro v
    cases v <;> simp [NumericValue.toScript]

/-- A column is written as its row, and a matrix without rows forgets its columns. -/
theorem column_written_as_row :
    (Matrix.columnVector [Binary64.ofNat 1, .ofNat 2]).normalise = .rowVector [.ofNat 1, .ofNat 2] ∧
      (NumericValue.matrix (.columnVector [.ofNat 1, .ofNat 2])).toScript =
        (NumericValue.matrix (.rowVector [.ofNat 1, .ofNat 2])).toScript ∧
      (Matrix.zeros 0 3 : Matrix Binary64).normalise = .empty := by
  obtain ⟨-, ⟨-, hColumn, -⟩, -, -, hAlike, -⟩ := matrix_round_trip
    (.columnVector [.ofNat 1, .ofNat 2]) (.rowVector [.ofNat 1, .ofNat 2])
  obtain ⟨-, ⟨hEmpty, -⟩, -⟩ := matrix_round_trip (.zeros 0 3) .empty
  refine ⟨hColumn (by decide) rfl, hAlike.mpr (.inr (.inr ?_)), hEmpty (.inl rfl)⟩
  exact ⟨[.ofNat 1, .ofNat 2], .inr ⟨rfl, rfl⟩⟩

end MatrixBridge
