import MatrixBridge.Proofs.Marshal

/-! # How deep tables are read

Reading a value stops below two tables, which makes it finite on tables that contain themselves.
Conversion does not see the difference: it would refuse a deeper table for being one, whatever is
in it. The unbounded reading is given by rules, since it exists for tables of finite depth only. -/

namespace MatrixBridge

namespace ScriptValue

/-- The value with the tables inside so many others replaced by the mere fact that they are tables. -/
def cut (depth : Nat) (s : ScriptValue) : ScriptValue :=
  match s with
  | .table entries => match depth with
    | 0 => .handle "table"
    | depth + 1 => .table (entries.map (cut depth))
  | s => s

@[simp] theorem typeName_cut (depth : Nat) (s : ScriptValue) : (s.cut depth).typeName = s.typeName := by
  cases s <;> cases depth <;> rfl

@[simp] theorem number?_cut (depth : Nat) (s : ScriptValue) : (s.cut depth).number? = s.number? := by
  cases s <;> cases depth <;> rfl

end ScriptValue

/-! ## Conversion of a value that was cut -/

namespace TableShape

open ScriptValue (cut)

theorem checkLeaves_cut (row : Nat) (leaves : List ScriptValue) :
    checkLeaves row (leaves.map (cut 0)) = checkLeaves row leaves := by
  rw [checkLeaves, checkLeaves, List.zipIdx_map, List.forM_eq_forM, List.forM_map]
  congr 1
  funext leaf
  obtain ⟨leaf, col⟩ := leaf
  cases leaf <;> rfl

theorem ofFirst_cut (first : ScriptValue) : ofFirst (first.cut 1) = ofFirst first := by
  cases first <;> simp [cut, ofFirst]

theorem checkEntry_cut (shape : TableShape) (position : Nat) (entry : ScriptValue) :
    checkEntry shape position (entry.cut 1) = checkEntry shape position entry := by
  cases shape <;> cases entry <;> simp [cut, checkEntry, checkLeaves_cut, ScriptValue.typeName]

theorem ofEntries_cut (entries : List ScriptValue) :
    ofEntries (entries.map (cut 1)) = ofEntries entries := by
  cases entries with
  | nil => rfl
  | cons first rest =>
    rw [List.map_cons, ofEntries, ofEntries, ofFirst_cut, ← List.map_cons]
    congr 1
    funext shape
    rw [List.zipIdx_map, List.forM_eq_forM, List.forM_map]
    congr 2
    funext entry
    obtain ⟨entry, position⟩ := entry
    exact checkEntry_cut shape position entry

theorem leafAt_cut (entries : List ScriptValue) (i j : Nat) :
    leafAt (entries.map (cut 1)) i j = leafAt entries i j := by
  rw [leafAt, leafAt, List.getElem?_map]
  cases entries[i]? with
  | none => rfl
  | some entry =>
    cases entry with
    | table row => cases hLeaf : row[j]? <;> simp [cut, hLeaf]
    | nil | boolean | number | text | handle => rfl

theorem build_cut (entries : List ScriptValue) (shape : TableShape) :
    build (entries.map (cut 1)) shape = build entries shape := by
  cases shape with
  | empty => rfl
  | flat =>
    have hNumber : ScriptValue.number? ∘ cut 1 = ScriptValue.number? := funext (ScriptValue.number?_cut 1)
    rw [build, build, List.filterMap_map, hNumber]
  | rows width =>
    rw [build, build, List.length_map]
    simp only [leafAt_cut]

end TableShape

namespace ScriptValue

/-- Neither a matrix nor an error depends on what is inside the tables of a row. -/
theorem toMatrix_cut (s : ScriptValue) : (s.cut 2).toMatrix = s.toMatrix := by
  cases s with
  | table entries =>
    rw [cut, toMatrix, toMatrix, TableShape.ofEntries_cut]
    simp only [TableShape.build_cut]
  | nil | boolean | number | text | handle => rfl

theorem toNumeric_cut (s : ScriptValue) : (s.cut 2).toNumeric = s.toNumeric := by
  rw [toNumeric, toNumeric, toMatrix_cut]

end ScriptValue

namespace Lua

variable {φ : Type}

def Value.isHandle : Value → Bool
  | .function _ | .thread | .userdata | .lightUserdata | .error _ => true
  | _ => false

namespace State

/-- The rules by which a value is read. With a limit, tables inside so many others are not entered;
without one, what is in them has to have a reading too. -/
inductive Reads (st : State φ) : Option Nat → Value → ScriptValue → Prop
  | nil {limit} : Reads st limit .nil .nil
  | boolean {limit} (b : Bool) : Reads st limit (.boolean b) (.boolean b)
  | number {limit} (n : Number) : Reads st limit (.number n) (.number n.toFloat)
  | numeral {limit bytes n} : Numeral.read? bytes = some n →
      Reads st limit (.string bytes) (.number n.toFloat)
  | text {limit bytes} : Numeral.read? bytes = none →
      Reads st limit (.string bytes) (.text (Bytes.toText bytes))
  | handle {limit v} : v.isHandle → Reads st limit v (.handle v.typeName)
  | deep {ref} : Reads st (some 0) (.table ref) (.handle "table")
  | table {limit ref items} : limit ≠ some 0 → (st.table ref).entries.length = items.length →
      (∀ i (h : i < (st.table ref).entries.length) (h' : i < items.length),
        Reads st (limit.map Nat.pred) (st.table ref).entries[i] items[i]) →
      Reads st limit (.table ref) (.table items)

/-- A value is found by going from a table to one of its entries so many times. -/
inductive Reaches (st : State φ) : Nat → Value → Value → Prop
  | here (v : Value) : Reaches st 0 v v
  | entry {n ref v u} : v ∈ (st.table ref).entries → Reaches st n v u →
      Reaches st (n + 1) (.table ref) u

variable {st : State φ} {v u : Value} {s s' : ScriptValue}

/-! ## Readings -/

theorem Reads.unique {limit : Option Nat} (h : st.Reads limit v s) (h' : st.Reads limit v s') :
    s = s' := by
  induction h generalizing s' with
  | nil | boolean | number => cases h' <;> first | rfl | contradiction
  | numeral hRead =>
    cases h' with
    | numeral hRead' =>
      cases hRead.symm.trans hRead'
      rfl
    | text hRead' => cases hRead.symm.trans hRead'
    | handle hHandle => cases hHandle
  | text hRead =>
    cases h' with
    | numeral hRead' => cases hRead.symm.trans hRead'
    | text => rfl
    | handle hHandle => cases hHandle
  | handle hHandle =>
    cases h' <;> first | rfl | contradiction
  | deep => cases h' <;> first | rfl | contradiction
  | table hLimit hLength _ ih =>
    cases h' with
    | handle hHandle => cases hHandle
    | deep => exact absurd rfl hLimit
    | table _ hLength' hItems =>
      refine congrArg ScriptValue.table (List.ext_getElem (hLength.symm.trans hLength') ?_)
      intro i hi hi'
      exact ih i (hLength ▸ hi) hi (hItems i (hLength ▸ hi) hi')

theorem reads_of_not_table {limit : Option Nat} (hTable : ∀ ref, v ≠ .table ref) (depth : Nat) :
    st.Reads limit v (st.readTo depth v) := by
  unfold readTo
  cases v with
  | nil => exact .nil
  | boolean b => exact .boolean b
  | number n => exact .number n
  | string bytes =>
    cases hRead : Numeral.read? bytes with
    | some n =>
      simp only [hRead]
      exact .numeral hRead
    | none =>
      simp only [hRead]
      exact .text hRead
  | table ref => exact absurd rfl (hTable ref)
  | function | thread | userdata | lightUserdata | error => exact .handle rfl

theorem reads_readTo (st : State φ) (depth : Nat) (v : Value) :
    st.Reads (some depth) v (st.readTo depth v) := by
  induction depth generalizing v with
  | zero =>
    by_cases hTable : ∀ ref, v ≠ .table ref
    · exact reads_of_not_table hTable 0
    · obtain ⟨ref, rfl⟩ := not_forall_not.mp hTable
      exact .deep
  | succ depth ih =>
    by_cases hTable : ∀ ref, v ≠ .table ref
    · exact reads_of_not_table hTable (depth + 1)
    · obtain ⟨ref, rfl⟩ := not_forall_not.mp hTable
      refine .table (by simp) (by simp) fun i h h' => ?_
      rw [List.getElem_map]
      exact ih _

/-- Reading down to a depth cuts the reading that has no limit. -/
theorem Reads.readTo_eq_cut (h : st.Reads none v s) (depth : Nat) :
    st.readTo depth v = s.cut depth := by
  -- The rules are followed for all limits at once, and only the rule for tables keeps the limit.
  generalize hLimit : (none : Option Nat) = limit at h
  induction h generalizing depth with
  | nil | boolean | number => cases depth <;> rfl
  | numeral hRead | text hRead => cases depth <;> simp [readTo, hRead, ScriptValue.cut]
  | @handle _ v hHandle => cases v <;> first | contradiction | (cases depth <;> rfl)
  | deep => cases hLimit
  | table _ hLength _ ih =>
    cases depth with
    | zero => rfl
    | succ depth =>
      refine congrArg ScriptValue.table (List.ext_getElem (by simpa using hLength) ?_)
      intro i hi hi'
      rw [List.getElem_map, List.getElem_map]
      refine ih i _ _ depth ?_
      rw [← hLimit]
      rfl

theorem exists_reads {n : Nat} (hFinite : ∀ m ref, st.Reaches m v (.table ref) → m < n) :
    ∃ s, st.Reads none v s := by
  -- The bounded reading is one without a limit, since it never comes to the bound.
  refine ⟨st.readTo n v, ?_⟩
  induction n generalizing v with
  | zero =>
    refine reads_of_not_table ?_ 0
    rintro ref rfl
    exact absurd (hFinite 0 ref (.here _)) (Nat.not_lt_zero 0)
  | succ n ih =>
    by_cases hTable : ∀ ref, v ≠ .table ref
    · exact reads_of_not_table hTable (n + 1)
    · obtain ⟨ref, rfl⟩ := not_forall_not.mp hTable
      refine .table (by simp) (by simp) fun i h h' => ?_
      rw [List.getElem_map]
      refine ih fun m ref' hReaches => ?_
      exact Nat.lt_of_succ_lt_succ (hFinite _ ref' (.entry (List.getElem_mem h) hReaches))

/-! ## Deep tables -/

theorem Reaches.table {n ref : Nat} (h : st.Reaches n v (.table ref)) : ∃ ref', v = .table ref' := by
  cases h with
  | here => exact ⟨ref, rfl⟩
  | entry => exact ⟨_, rfl⟩

theorem Reaches.of_single {n ref : Nat} {u : Value} (h : st.Reaches (n + 1) (.table ref) u)
    (hEntries : (st.table ref).entries = [v]) : st.Reaches n v u := by
  cases h with | entry hMem h =>
  rw [hEntries, List.mem_singleton] at hMem
  exact hMem ▸ h

theorem Reaches.double?_eq_none {n ref : Nat} (h : st.Reaches n v (.table ref)) :
    v.double? = none := by
  obtain ⟨ref', rfl⟩ := h.table
  rfl

theorem IsSequence.double? {ref : Nat} {xs : List Binary64} (h : st.IsSequence (.table ref) xs)
    (hEntry : u ∈ (st.table ref).entries) : ∃ x, u.double? = some x := by
  obtain ⟨_, ⟨⟩, hNumbers⟩ := h
  obtain ⟨i, hi, rfl⟩ := List.mem_iff_getElem.mp hEntry
  exact ⟨_, hNumbers.get hi (hNumbers.length_eq ▸ hi)⟩

theorem not_holds_of_reaches {n ref : Nat} (hDeep : 2 ≤ n) (h : st.Reaches n v (.table ref))
    (d : Data) : ¬st.Holds v d := by
  intro hHolds
  obtain ⟨m, rfl⟩ := Nat.exists_eq_add_of_le' hDeep
  cases h with | entry hRow h =>
  obtain ⟨row, rfl⟩ := h.table
  cases h with | entry hLeaf h =>
  cases d with
  | number x => cases hHolds
  | flat xs =>
    obtain ⟨x, hNumber⟩ := IsSequence.double? hHolds hRow
    cases hNumber
  | rows xss =>
    obtain ⟨⟨_, ⟨⟩, hRows⟩, -⟩ := hHolds
    obtain ⟨i, hi, hEq⟩ := List.mem_iff_getElem.mp hRow
    have hSequence := hRows.get hi (hRows.length_eq ▸ hi)
    simp only [List.get_eq_getElem, hEq] at hSequence
    obtain ⟨x, hNumber⟩ := hSequence.double? hLeaf
    rw [h.double?_eq_none] at hNumber
    cases hNumber

theorem toNumeric_read_of_reaches {n ref : Nat} (hDeep : 2 ≤ n)
    (h : st.Reaches n v (.table ref)) : ∃ cause, (st.read v).toNumeric = .error cause := by
  cases hMatrix : (st.read v).toMatrix with
  | ok m =>
    obtain ⟨d, hHolds, -⟩ := toMatrix_read.mp hMatrix
    exact absurd hHolds (not_holds_of_reaches hDeep h d)
  | error cause => exact ⟨cause, by rw [ScriptValue.toNumeric, hMatrix]; rfl⟩

/-- A value whose tables nest to any finite depth converts, or fails to, just as its reading without
a limit does. Every value has one reading within the limit, tables that contain themselves too, and
a value with a table inside two others never converts. -/
theorem depth_limit_unseen (st : State φ) (v : Value) :
    (∀ n, (∀ m ref, st.Reaches m v (.table ref) → m < n) →
      ∃ s, st.Reads none v s ∧ (st.read v).toNumeric = s.toNumeric) ∧
    (∀ s, st.Reads none v s → (st.read v).toNumeric = s.toNumeric) ∧
    (∀ s, st.Reads (some tableDepth) v s ↔ st.read v = s) ∧
    ∀ n ref, 2 ≤ n → st.Reaches n v (.table ref) →
      ∃ cause, (st.read v).toNumeric = .error cause := by
  have hSame : ∀ s, st.Reads none v s → (st.read v).toNumeric = s.toNumeric := by
    intro s hReads
    rw [read, hReads.readTo_eq_cut, tableDepth, ScriptValue.toNumeric_cut]
  refine ⟨fun n hFinite => ?_, hSame, fun s => ?_, fun n ref hDeep hReaches => ?_⟩
  · obtain ⟨s, hReads⟩ := exists_reads hFinite
    exact ⟨s, hReads, hSame s hReads⟩
  · constructor
    · exact (reads_readTo st tableDepth v).unique
    · rintro rfl
      exact reads_readTo st tableDepth v
  · exact toNumeric_read_of_reaches hDeep hReaches

/-- A table that contains itself, and three tables inside each other. -/
def nestedTables : State Unit :=
  ⟨[.ofList [.table 0], .ofList [.integer 7], .ofList [.table 1], .ofList [.table 2]], [], 0, 0,
    none, 0, false⟩

theorem nested_tables_depth_limit_unseen :
    (∀ m ref, nestedTables.Reaches m (.table 3) (.table ref) → m < 3) ∧
    (∃ s, nestedTables.Reads none (.table 3) s ∧
      (nestedTables.read (.table 3)).toNumeric = s.toNumeric) ∧
    nestedTables.Reaches 2 (.table 0) (.table 0) ∧
    ∃ cause, (nestedTables.read (.table 0)).toNumeric = .error cause := by
  have hFinite : ∀ m ref, nestedTables.Reaches m (.table 3) (.table ref) → m < 3 := by
    intro m ref hReaches
    by_contra hDeep
    obtain ⟨k, rfl⟩ := Nat.exists_eq_add_of_le' (Nat.not_lt.mp hDeep)
    cases ((hReaches.of_single rfl).of_single rfl).of_single rfl
  have hItself : .table 0 ∈ (nestedTables.table 0).entries := List.mem_singleton_self _
  have hCyclic : nestedTables.Reaches 2 (.table 0) (.table 0) :=
    .entry hItself (.entry hItself (.here _))
  refine ⟨hFinite, ?_, hCyclic, ?_⟩
  · exact (depth_limit_unseen nestedTables (.table 3)).1 3 hFinite
  · exact (depth_limit_unseen nestedTables (.table 0)).2.2.2 2 0 (Nat.le_refl 2) hCyclic

end State

end Lua

end MatrixBridge
