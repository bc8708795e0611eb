import MatrixBridge.Proofs.Codec

/-! # The grammar of numeric tables

Which matrix a script value denotes, and which offence keeps it from denoting one, given by rules
that do not look ahead: the first entry of a table announces what every entry has to be, and the
first entry that is something else is the offence. Conversion follows these rules exactly. -/

namespace MatrixBridge

namespace ScriptValue

def IsNumber (v : ScriptValue) : Prop := ∃ x, v = .number x

def IsTable (v : ScriptValue) : Prop := ∃ entries, v = .table entries

end ScriptValue

namespace TableShape

inductive Announces : ScriptValue → TableShape → Prop
  | number (x : Binary64) : Announces (.number x) .flat
  | table (row : List ScriptValue) : Announces (.table row) (.rows row.length)

inductive Fits : TableShape → ScriptValue → Prop
  | number (x : Binary64) : Fits .flat (.number x)
  | row (xs : List Binary64) : Fits (.rows xs.length) (.list xs)

/-- How an entry at a position fails the announced shape. A row of the announced length fails it by
its first member that is no number. -/
inductive Offence (position : Nat) : TableShape → ScriptValue → CodecError → Prop
  | notNumber {v : ScriptValue} : ¬v.IsNumber →
      Offence position .flat v (.mixedEntries position .number v.typeName)
  | notTable {width : Nat} {v : ScriptValue} : ¬v.IsTable →
      Offence position (.rows width) v (.mixedEntries position .table v.typeName)
  | ragged {width : Nat} {row : List ScriptValue} : row.length ≠ width →
      Offence position (.rows width) (.table row) (.raggedRows position width row.length)
  | leaf {row rest : List ScriptValue} {front : List Binary64} {v : ScriptValue} :
      row = front.map .number ++ v :: rest → ¬v.IsNumber →
      Offence position (.rows row.length) (.table row)
        (.nonNumericLeaf position (front.length + 1) v.typeName)

end TableShape

open TableShape (Announces Fits Offence)

inductive ScriptValue.Denotes : ScriptValue → Matrix Binary64 → Prop
  | number (x : Binary64) : Denotes (.number x) (.scalar x)
  | empty : Denotes (.table []) .empty
  | flat {xs : List Binary64} : xs ≠ [] → Denotes (.list xs) (.rowVector xs)
  | rows {xss : List (List Binary64)} {m : Matrix Binary64} : xss ≠ [] → m.rows = xss.length →
      (∀ xs ∈ xss, xs.length = m.cols) →
      (∀ i j, (xss[i.val]?.bind (·[j.val]?)) = some (m.get i j)) → Denotes (.rows xss) m

inductive ScriptValue.Offends : ScriptValue → CodecError → Prop
  | value {v : ScriptValue} : ¬v.IsNumber → ¬v.IsTable → Offends v (.notNumeric v.typeName)
  | first {v : ScriptValue} {rest : List ScriptValue} : ¬v.IsNumber → ¬v.IsTable →
      Offends (.table (v :: rest)) (.mixedEntries 1 .numberOrTable v.typeName)
  | entry {first v : ScriptValue} {rest front behind : List ScriptValue} {shape : TableShape}
      {e : CodecError} : Announces first shape → first :: rest = front ++ v :: behind →
      (∀ u ∈ front, Fits shape u) → Offence (front.length + 1) shape v e →
      Offends (.table (first :: rest)) e

namespace TableShape

theorem ofFirst_eq_ok {v : ScriptValue} {shape : TableShape} :
    ofFirst v = .ok shape ↔ Announces v shape := by
  constructor
  · intro h
    cases v with
    | number x =>
      cases h
      exact .number x
    | table row =>
      cases h
      exact .table row
    | nil | boolean | text | handle => cases h
  · rintro (x | row) <;> rfl

theorem ofFirst_eq_error {v : ScriptValue} {e : CodecError} :
    ofFirst v = .error e ↔
      ¬v.IsNumber ∧ ¬v.IsTable ∧ e = .mixedEntries 1 .numberOrTable v.typeName := by
  cases v <;> simp [ofFirst, ScriptValue.IsNumber, ScriptValue.IsTable, eq_comm]

theorem leaf_eq_error {row col : Nat} {leaf : ScriptValue} {e : CodecError} :
    (match leaf with
      | .number _ => .ok ()
      | v => .error (.nonNumericLeaf row col v.typeName) : Except CodecError Unit) = .error e ↔
      ¬leaf.IsNumber ∧ e = .nonNumericLeaf row col leaf.typeName := by
  cases leaf <;> simp [ScriptValue.IsNumber, eq_comm]

theorem checkLeaves_eq_error {row : Nat} {leaves : List ScriptValue} {e : CodecError} :
    checkLeaves row leaves = .error e ↔
      ∃ (front : List Binary64) (v : ScriptValue) (rest : List ScriptValue),
        leaves = front.map .number ++ v :: rest ∧ ¬v.IsNumber ∧
          e = .nonNumericLeaf row (front.length + 1) v.typeName := by
  have hSplit : checkLeaves row leaves = .error e ↔ ∃ front v rest, leaves = front ++ v :: rest ∧
      (∀ u ∈ front, u.IsNumber) ∧ _ = Except.error e :=
    forM_zipIdx_eq_error fun leaf col => by cases leaf <;> simp [ScriptValue.IsNumber]
  rw [hSplit]
  constructor
  · rintro ⟨front, v, rest, rfl, hFront, hError⟩
    obtain ⟨xs, rfl⟩ := forall_mem_iff_eq_map.mp hFront
    obtain ⟨hLeaf, rfl⟩ := leaf_eq_error.mp hError
    exact ⟨xs, v, rest, rfl, hLeaf, by rw [List.length_map, Nat.add_comm]⟩
  · rintro ⟨xs, v, rest, rfl, hLeaf, rfl⟩
    refine ⟨xs.map .number, v, rest, rfl, forall_mem_iff_eq_map.mpr ⟨xs, rfl⟩, ?_⟩
    exact leaf_eq_error.mpr ⟨hLeaf, by rw [List.length_map, Nat.add_comm]⟩

theorem fits_flat {v : ScriptValue} : Fits .flat v ↔ ∃ x, v = .number x := by
  constructor
  · rintro ⟨x⟩
    exact ⟨x, rfl⟩
  · rintro ⟨x, rfl⟩
    exact .number x

theorem fits_rows {width : Nat} {v : ScriptValue} :
    Fits (.rows width) v ↔ ∃ xs : List Binary64, v = .list xs ∧ xs.length = width := by
  constructor
  · intro h
    cases h with
    | row xs => exact ⟨xs, rfl, rfl⟩
  · rintro ⟨xs, rfl, rfl⟩
    exact .row xs

theorem Announces.checkEntry_eq_ok {first v : ScriptValue} {shape : TableShape}
    (h : Announces first shape) {position : Nat} :
    checkEntry shape position v = .ok () ↔ Fits shape v := by
  cases h with
  | number x => rw [checkEntry_flat, fits_flat]
  | table row => rw [checkEntry_rows, fits_rows]

theorem checkEntry_flat_eq_error {position : Nat} {v : ScriptValue} {e : CodecError} :
    checkEntry .flat position v = .error e ↔ Offence position .flat v e := by
  constructor
  · intro h
    have hOther : ¬v.IsNumber := by
      rintro ⟨x, rfl⟩
      cases h
    cases v <;> first | exact absurd ⟨_, rfl⟩ hOther | (cases h; exact .notNumber hOther)
  · rintro ⟨hOther⟩
    cases v <;> first | exact absurd ⟨_, rfl⟩ hOther | rfl

theorem checkEntry_rows_eq_error {width position : Nat} {v : ScriptValue} {e : CodecError} :
    checkEntry (.rows width) position v = .error e ↔ Offence position (.rows width) v e := by
  cases v with
  | table row =>
    rw [checkEntry]
    by_cases hWidth : row.length = width
    · rw [if_pos hWidth, checkLeaves_eq_error]
      constructor
      · rintro ⟨front, v, rest, hRow, hLeaf, rfl⟩
        exact hWidth ▸ .leaf hRow hLeaf
      · intro h
        cases h with
        | notTable hTable => exact absurd ⟨row, rfl⟩ hTable
        | ragged hLength => exact absurd hWidth hLength
        | leaf hRow hLeaf => exact ⟨_, _, _, hRow, hLeaf, rfl⟩
    · rw [if_neg hWidth, Except.error.injEq]
      constructor
      · rintro rfl
        exact .ragged hWidth
      · intro h
        cases h with
        | notTable hTable => exact absurd ⟨row, rfl⟩ hTable
        | ragged => rfl
        | leaf => exact absurd rfl hWidth
  | nil | boolean | number | text | handle =>
    rw [checkEntry, Except.error.injEq]
    · constructor
      · rintro rfl
        refine .notTable ?_
        rintro ⟨entries, hTable⟩
        cases hTable
      · rintro ⟨⟩
        rfl
    · intro entries hTable
      cases hTable

theorem Announces.checkEntry_eq_error {first v : ScriptValue} {shape : TableShape}
    (h : Announces first shape) {position : Nat} {e : CodecError} :
    checkEntry shape position v = .error e ↔ Offence position shape v e := by
  cases h with
  | number x => exact checkEntry_flat_eq_error
  | table row => exact checkEntry_rows_eq_error

theorem Announces.checkEntries_eq_error {first : ScriptValue} {shape : TableShape}
    (h : Announces first shape) {entries : List ScriptValue} {e : CodecError} :
    (entries.zipIdx 1).forM (fun (entry, position) => checkEntry shape position entry) = .error e ↔
      ∃ front v behind, entries = front ++ v :: behind ∧ (∀ u ∈ front, Fits shape u) ∧
        Offence (front.length + 1) shape v e := by
  rw [forM_zipIdx_eq_error fun _ _ => h.checkEntry_eq_ok]
  simp only [h.checkEntry_eq_error, Nat.add_comm 1]

theorem ofEntries_cons_eq_error {first : ScriptValue} {rest : List ScriptValue} {e : CodecError} :
    ofEntries (first :: rest) = .error e ↔ ofFirst first = .error e ∨
      ∃ shape, ofFirst first = .ok shape ∧ ((first :: rest).zipIdx 1).forM
        (fun (entry, position) => checkEntry shape position entry) = .error e := by
  rw [ofEntries]
  cases ofFirst first with
  | error e => simp [bind, Except.bind]
  | ok announced =>
    simp only [bind, Except.bind, reduceCtorEq, false_or, Except.ok.injEq, exists_eq_left']
    split
    · rename_i hCheck
      rw [hCheck, Except.error.injEq, Except.error.injEq]
    · rename_i hCheck
      rw [hCheck]
      simp [pure, Except.pure]

end TableShape

namespace ScriptValue

theorem toMatrix_table_eq_error {entries : List ScriptValue} {e : CodecError} :
    (table entries).toMatrix = .error e ↔ TableShape.ofEntries entries = .error e := by
  rw [toMatrix]
  cases TableShape.ofEntries entries <;> simp [bind, Except.bind, pure, Except.pure]

theorem toMatrix_eq_error {v : ScriptValue} {e : CodecError} :
    v.toMatrix = .error e ↔ v.Offends e := by
  constructor
  · intro h
    cases v with
    | number x => cases h
    | table entries =>
      rw [toMatrix_table_eq_error] at h
      cases entries with
      | nil => cases h
      | cons first rest =>
        rcases TableShape.ofEntries_cons_eq_error.mp h with hFirst | ⟨shape, hFirst, hEntry⟩
        · obtain ⟨hNumber, hTable, rfl⟩ := TableShape.ofFirst_eq_error.mp hFirst
          exact .first hNumber hTable
        · have hShape := TableShape.ofFirst_eq_ok.mp hFirst
          obtain ⟨front, v, behind, hSplit, hFront, hOffence⟩ :=
            hShape.checkEntries_eq_error.mp hEntry
          exact .entry hShape hSplit hFront hOffence
    | nil | boolean | text | handle =>
      cases h
      exact .value nofun nofun
  · intro h
    cases h with
    | value hNumber hTable =>
      cases v with
      | number x => exact absurd ⟨x, rfl⟩ hNumber
      | table entries => exact absurd ⟨entries, rfl⟩ hTable
      | nil | boolean | text | handle => rfl
    | first hNumber hTable =>
      have hFirst := TableShape.ofFirst_eq_error.mpr ⟨hNumber, hTable, rfl⟩
      exact toMatrix_table_eq_error.mpr (TableShape.ofEntries_cons_eq_error.mpr (.inl hFirst))
    | entry hShape hSplit hFront hOffence =>
      have hEntry := hShape.checkEntries_eq_error.mpr ⟨_, _, _, hSplit, hFront, hOffence⟩
      exact toMatrix_table_eq_error.mpr (TableShape.ofEntries_cons_eq_error.mpr
        (.inr ⟨_, TableShape.ofFirst_eq_ok.mpr hShape, hEntry⟩))

theorem toMatrix_eq_ok_iff {v : ScriptValue} {m : Matrix Binary64} :
    v.toMatrix = .ok m ↔ v.Denotes m := by
  rw [toMatrix_eq_ok]
  constructor
  · rintro ⟨d, rfl, h⟩
    cases d with
    | number x =>
      cases Option.some.inj h
      exact .number x
    | flat xs =>
      cases Option.some.inj h
      cases xs with
      | nil => exact .empty
      | cons x xs => exact .flat (List.cons_ne_nil x xs)
    | rows xss =>
      obtain ⟨hRows, hCols⟩ := Data.matrix?_rows.mp h
      cases xss with
      | nil =>
        have hLength : m.rows = 0 := by rw [← m.length_toRows, hRows, List.length_nil]
        have hNone : m = .empty := Matrix.toRows_inj hLength hCols hRows
        exact hNone ▸ .empty
      | cons xs rest =>
        obtain ⟨hLength, hWidth, hEntries⟩ := Matrix.toRows_eq_iff.mp hRows
        exact .rows (List.cons_ne_nil xs rest) hLength hWidth hEntries
  · intro h
    cases h with
    | number x => exact ⟨.number x, rfl, rfl⟩
    | empty => exact ⟨.flat [], rfl, rfl⟩
    | @flat xs hSome => exact ⟨.flat xs, rfl, by rw [Data.matrix?, if_neg (by simpa using hSome)]⟩
    | @rows xss _ hSome hLength hWidth hEntries =>
      have hRows := Matrix.toRows_eq_iff.mpr ⟨hLength, hWidth, hEntries⟩
      have hRowsNe : m.rows ≠ 0 := fun hNone =>
        hSome (List.eq_nil_of_length_eq_zero (hLength.symm.trans hNone))
      refine ⟨.rows xss, rfl, Data.matrix?_rows.mpr ⟨hRows, ?_⟩⟩
      rw [← hRows, Matrix.width_eq hRowsNe]

end ScriptValue

/-- A script value converts to the matrix it denotes by the grammar, and fails with its first offence
against it. -/
theorem grammar_decides_conversion (v : ScriptValue) :
    (∀ n, v.toNumeric = .ok n ↔ ∃ m, n = .matrix m ∧ v.Denotes m) ∧
      ∀ e, v.toNumeric = .error e ↔ v.Offends e := by
  constructor
  · intro n
    rw [ScriptValue.toNumeric, map_eq_ok]
    constructor
    · rintro ⟨m, hMatrix, rfl⟩
      exact ⟨m, rfl, ScriptValue.toMatrix_eq_ok_iff.mp hMatrix⟩
    · rintro ⟨m, rfl, hDenotes⟩
      exact ⟨m, ScriptValue.toMatrix_eq_ok_iff.mpr hDenotes, rfl⟩
  · intro e
    rw [ScriptValue.toNumeric, map_eq_error, ScriptValue.toMatrix_eq_error]

-- The length of a row is looked at before its members, and an earlier row before a later one.
example : (ScriptValue.table [.list [.ofNat 1], .table [.nil, .nil], .nil]).toNumeric =
    .error (.raggedRows 2 1 2) := rfl

end MatrixBridge
