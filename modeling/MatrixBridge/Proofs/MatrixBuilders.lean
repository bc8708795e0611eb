import MatrixBridge.Proofs.TableGrammar

/-! # Matrices from rows and from tables of rows

Building a matrix from rows and converting the table of these rows come to the same: the same
matrix, or a refusal for the same row. -/

namespace MatrixBridge

namespace Matrix

variable {α : Type}

/-- The first row whose length is not that of the first one, behind the rows before it. -/
structure FirstRagged (rows front : List (List α)) (row : List α) : Prop where
  split : ∃ behind, rows = front ++ row :: behind
  even : ∀ other ∈ front, other.length = width rows
  ragged : row.length ≠ width rows

theorem exists_firstRagged {rows : List (List α)} (h : ofRows? rows = none) :
    ∃ front row, FirstRagged rows front row := by
  cases hFind : rows.find? (·.length != width rows) with
  | none =>
    refine absurd (fun row hRow => ?_) (ofRows?_eq_none.mp h)
    simpa using List.find?_eq_none.mp hFind row hRow
  | some row =>
    obtain ⟨hRagged, front, behind, hSplit, hEven⟩ := List.find?_eq_some_iff_append.mp hFind
    exact ⟨front, row, ⟨behind, hSplit⟩, fun other hOther => by simpa using hEven other hOther,
      by simpa using hRagged⟩

theorem FirstRagged.ofRows? {rows front : List (List α)} {row : List α}
    (h : FirstRagged rows front row) : ofRows? rows = none := by
  obtain ⟨behind, hSplit⟩ := h.split
  refine ofRows?_eq_none.mpr fun hEven => h.ragged (hEven row ?_)
  rw [hSplit]
  exact List.mem_append_cons_self

end Matrix

open TableShape (Announces Fits Offence)

theorem Matrix.FirstRagged.toNumeric {rows front : List (List Binary64)} {row : List Binary64}
    (h : FirstRagged rows front row) : (ScriptValue.rows rows).toNumeric =
      .error (.raggedRows (front.length + 1) (width rows) row.length) := by
  obtain ⟨⟨behind, hSplit⟩, hEven, hRagged⟩ := h
  cases rows with
  | nil => simp at hSplit
  | cons first rest =>
    have hAnnounces : Announces (.list first) (.rows (width (first :: rest))) := by
      have hTable := Announces.table (first.map .number)
      rwa [List.length_map] at hTable
    have hEntries : ScriptValue.list first :: rest.map .list =
        front.map .list ++ .list row :: behind.map .list := by
      rw [← List.map_cons, hSplit, List.map_append, List.map_cons]
    have hFits : ∀ v ∈ front.map ScriptValue.list, Fits (.rows (width (first :: rest))) v := by
      rw [List.forall_mem_map]
      intro other hOther
      exact TableShape.fits_rows.mpr ⟨other, rfl, hEven other hOther⟩
    have hOffence : Offence (front.length + 1) (.rows (width (first :: rest))) (.list row)
        (.raggedRows (front.length + 1) (width (first :: rest))
          (row.map ScriptValue.number).length) :=
      .ragged (by rwa [List.length_map])
    rw [List.length_map] at hOffence
    rw [ScriptValue.toNumeric, map_eq_error, ScriptValue.toMatrix_eq_error]
    exact .entry hAnnounces hEntries hFits (by rwa [List.length_map])

/-- Rows make a matrix when the table of the rows converts, and then it is the same one, of these
rows. They make none when a row differs in length from the first; conversion names the first that
does. A table of numbers converts to a row. -/
theorem builders_agree (rows : List (List Binary64)) :
    (∀ m, Matrix.ofRows? rows = some m ↔ (ScriptValue.rows rows).toNumeric = .ok (.matrix m)) ∧
    (∀ m, Matrix.ofRows? rows = some m → m.toRows = rows ∧ m.cols = Matrix.width rows) ∧
    (Matrix.ofRows? rows = none ↔ ∃ front row, Matrix.FirstRagged rows front row ∧
      (ScriptValue.rows rows).toNumeric =
        .error (.raggedRows (front.length + 1) (Matrix.width rows) row.length)) ∧
    ∀ xs ≠ [], (ScriptValue.list xs).toNumeric = .ok (.matrix (.rowVector xs)) := by
  refine ⟨fun m => ⟨fun hRows => ?_, fun hTable => ?_⟩, fun m => Matrix.ofRows?_eq_some.mp,
    ⟨fun hNone => ?_, ?_⟩, fun xs hSome => ?_⟩
  · rw [ScriptValue.toNumeric, toMatrix_rows hRows]
    rfl
  · cases hRows : Matrix.ofRows? rows with
    | none =>
      obtain ⟨front, row, hRagged⟩ := Matrix.exists_firstRagged hRows
      rw [hRagged.toNumeric] at hTable
      cases hTable
    | some m' =>
      rw [ScriptValue.toNumeric, toMatrix_rows hRows] at hTable
      cases hTable
      rfl
  · obtain ⟨front, row, hRagged⟩ := Matrix.exists_firstRagged hNone
    exact ⟨front, row, hRagged, hRagged.toNumeric⟩
  · rintro ⟨front, row, hRagged, -⟩
    exact hRagged.ofRows?
  · rw [ScriptValue.toNumeric, ScriptValue.toMatrix_eq_ok_iff.mpr (.flat hSome)]
    rfl

/-- The third of four rows is refused although the fourth is shorter still; two rows without entries
are a matrix. -/
theorem builders_agree_on_short_rows :
    Matrix.ofRows? [[Binary64.ofNat 1, .ofNat 2], [.ofNat 3, .ofNat 4], [.ofNat 5], []] = none ∧
    (ScriptValue.rows [[.ofNat 1, .ofNat 2], [.ofNat 3, .ofNat 4], [.ofNat 5], []]).toNumeric =
      .error (.raggedRows 3 2 1) ∧
    (∃ m, m.rows = 2 ∧ (ScriptValue.rows [[], []]).toNumeric = .ok (.matrix m)) ∧
    (ScriptValue.list [.ofNat 1, .ofNat 2]).toNumeric =
      .ok (.matrix (.rowVector [.ofNat 1, .ofNat 2])) := by
  have hRagged : Matrix.FirstRagged
      [[Binary64.ofNat 1, .ofNat 2], [.ofNat 3, .ofNat 4], [.ofNat 5], []]
      [[.ofNat 1, .ofNat 2], [.ofNat 3, .ofNat 4]] [.ofNat 5] :=
    ⟨⟨[[]], rfl⟩, by decide, by decide⟩
  refine ⟨(builders_agree _).2.2.1.mpr ⟨_, _, hRagged, hRagged.toNumeric⟩, hRagged.toNumeric,
    ⟨_, ?_, ((builders_agree [[], []]).1 _).mp rfl⟩, (builders_agree []).2.2.2 _ nofun⟩
  rfl

end MatrixBridge
