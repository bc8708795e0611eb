import MatrixBridge.Lua.Marshal
import MatrixBridge.Proofs.Codec

/-! # Numeric data in a Lua state

Which data a value holds by Lua's own reading of numbers, and what the values look like that the
bridge makes. Reading a value finds the data that it holds; writing only adds tables, so what a
value holds stays what it is. -/

namespace MatrixBridge.Lua

variable {φ : Type}

def Value.double? (v : Value) : Option Binary64 := v.number?.map Number.toFloat

namespace State

/-- The value is a table with these numbers for its entries. -/
def IsSequence (st : State φ) (v : Value) (xs : List Binary64) : Prop :=
  ∃ ref, v = .table ref ∧
    List.Forall₂ (fun entry x => entry.double? = some x) (st.table ref).entries xs

/-- The data that a value holds, read by Lua's own coercions. -/
def Holds (st : State φ) (v : Value) : Data → Prop
  | .number x => v.double? = some x
  | .flat xs => st.IsSequence v xs
  | .rows xss => (∃ ref, v = .table ref ∧ List.Forall₂ st.IsSequence (st.table ref).entries xss) ∧
      ∃ width, ∀ xs ∈ xss, xs.length = width

/-- The value is a table of exactly these floats. -/
def IsFlatTable (st : State φ) (v : Value) (xs : List Binary64) : Prop :=
  ∃ ref, v = .table ref ∧ st.tables[ref]? = some (.ofList (xs.map .float))

/-- The value is what the bridge makes of the data: floats, in tables with nothing else in them. -/
def Represents (st : State φ) (v : Value) : Data → Prop
  | .number x => v = .float x
  | .flat xs => st.IsFlatTable v xs
  | .rows xss => ∃ ref items, v = .table ref ∧ st.tables[ref]? = some (.ofList items) ∧
      List.Forall₂ st.IsFlatTable items xss

def Extends (st st' : State φ) : Prop := ∃ made, st' = { st with tables := st.tables ++ made }

/-! ## Reading -/

variable {st st' : State φ} {v : Value} {d : Data}

theorem map_eq_map_iff {α β γ : Type} {f : α → γ} {g : β → γ} {xs : List α} {ys : List β} :
    xs.map f = ys.map g ↔ List.Forall₂ (fun x y => f x = g y) xs ys := by
  rw [← List.forall₂_eq_eq_eq, List.forall₂_map_left_iff, List.forall₂_map_right_iff]

theorem readTo_eq_number {depth : Nat} {x : Binary64} :
    st.readTo depth v = .number x ↔ v.double? = some x := by
  cases v with
  | number n => simp [readTo, Value.double?, Value.number?]
  | string bytes =>
    rw [readTo, Value.double?, Value.number?]
    cases Numeral.read? bytes <;> simp
  | table ref => cases depth <;> simp [readTo, Value.double?, Value.number?]
  | nil | boolean | function | thread | userdata | lightUserdata | error =>
    simp [readTo, Value.double?, Value.number?]

theorem readTo_eq_table {depth : Nat} {entries : List ScriptValue} :
    st.readTo (depth + 1) v = .table entries ↔
      ∃ ref, v = .table ref ∧ (st.table ref).entries.map (st.readTo depth) = entries := by
  cases v with
  | table ref => simp [readTo]
  | string bytes =>
    rw [readTo]
    cases Numeral.read? bytes <;> simp
  | number | nil | boolean | function | thread | userdata | lightUserdata | error => simp [readTo]

theorem readTo_eq_list {depth : Nat} {xs : List Binary64} :
    st.readTo (depth + 1) v = .list xs ↔ st.IsSequence v xs := by
  simp only [ScriptValue.list, readTo_eq_table, map_eq_map_iff, readTo_eq_number, IsSequence]

theorem read_eq_rows {xss : List (List Binary64)} :
    st.read v = .rows xss ↔
      ∃ ref, v = .table ref ∧ List.Forall₂ st.IsSequence (st.table ref).entries xss := by
  simp only [ScriptValue.rows, read, tableDepth, readTo_eq_table, map_eq_map_iff, readTo_eq_list]

theorem holds_iff : st.Holds v d ↔ st.read v = d.script ∧ ∃ m, d.matrix? = some m := by
  cases d with
  | number x =>
    rw [Holds, ← readTo_eq_number, read, Data.script, and_iff_left]
    exact ⟨_, rfl⟩
  | flat xs =>
    rw [Holds, ← readTo_eq_list, read, Data.script, and_iff_left]
    · rfl
    · exact ⟨_, rfl⟩
  | rows xss => rw [Holds, ← read_eq_rows, Data.script, Data.exists_matrix?_rows]

theorem toMatrix_read {m : Matrix Binary64} :
    (st.read v).toMatrix = .ok m ↔ ∃ d, st.Holds v d ∧ d.matrix? = some m := by
  rw [toMatrix_eq_ok]
  constructor
  · rintro ⟨d, hRead, hMatrix⟩
    exact ⟨d, holds_iff.mpr ⟨hRead, m, hMatrix⟩, hMatrix⟩
  · rintro ⟨d, hHolds, hMatrix⟩
    exact ⟨d, (holds_iff.mp hHolds).1, hMatrix⟩

/-! ## Writing -/

theorem Extends.refl (st : State φ) : st.Extends st := ⟨[], by simp⟩

theorem Extends.trans {st'' : State φ} (h : st.Extends st') (hNext : st'.Extends st'') :
    st.Extends st'' := by
  obtain ⟨made, rfl⟩ := h
  obtain ⟨more, rfl⟩ := hNext
  exact ⟨made ++ more, by simp⟩

theorem extends_newTable (t : Table) (st : State φ) : st.Extends (st.newTable t).2 := ⟨[t], rfl⟩

mutual

theorem write_extends (v : ScriptValue) (st : State φ) : st.Extends (write v st).2 := by
  cases v with
  | nil | handle | boolean | number | text => exact .refl st
  | table entries => exact (writeAll_extends entries st).trans (extends_newTable _ _)

theorem writeAll_extends (vs : List ScriptValue) (st : State φ) :
    st.Extends (writeAll vs st).2 := by
  cases vs with
  | nil => exact .refl st
  | cons v vs => exact (write_extends v st).trans (writeAll_extends vs (write v st).2)

end

theorem length_writeAll (vs : List ScriptValue) (st : State φ) :
    (writeAll vs st).1.length = vs.length := by
  induction vs generalizing st with
  | nil => rfl
  | cons v vs ih => exact congrArg (· + 1) (ih (write v st).2)

theorem newTable_spec (t : Table) (st : State φ) :
    ∃ ref, (newTable t st).1 = .table ref ∧ (newTable t st).2.tables[ref]? = some t :=
  ⟨st.tables.length, rfl, by simp [newTable]⟩

theorem Extends.getElem? (h : st.Extends st') {ref : Nat} {t : Table}
    (hTable : st.tables[ref]? = some t) : st'.tables[ref]? = some t := by
  obtain ⟨made, rfl⟩ := h
  obtain ⟨hRef, -⟩ := List.getElem?_eq_some_iff.mp hTable
  exact (List.getElem?_append_left hRef).trans hTable

theorem IsFlatTable.extends {xs : List Binary64} (h : st.IsFlatTable v xs)
    (hExtends : st.Extends st') : st'.IsFlatTable v xs := by
  obtain ⟨ref, rfl, hTable⟩ := h
  exact ⟨ref, rfl, hExtends.getElem? hTable⟩

theorem Represents.extends (h : st.Represents v d) (hExtends : st.Extends st') :
    st'.Represents v d := by
  cases d with
  | number x => exact h
  | flat xs => exact IsFlatTable.extends h hExtends
  | rows xss =>
    obtain ⟨ref, items, rfl, hTable, hItems⟩ := h
    exact ⟨ref, items, rfl, hExtends.getElem? hTable,
      hItems.imp fun _ _ hRow => hRow.extends hExtends⟩

/-- Values are written one after the other, and what one of them becomes stays while the others are
written. -/
theorem writeAll_forall₂ {β : Type} {image : β → ScriptValue} {P : State φ → Value → β → Prop}
    (hWrite : ∀ b st, P (write (image b) st).2 (write (image b) st).1 b)
    (hExtends : ∀ {st st' v b}, P st v b → st.Extends st' → P st' v b) (bs : List β)
    (st : State φ) :
    List.Forall₂ (P (writeAll (bs.map image) st).2) (writeAll (bs.map image) st).1 bs := by
  induction bs generalizing st with
  | nil => exact .nil
  | cons b bs ih =>
    exact .cons (hExtends (hWrite b st) (writeAll_extends _ _)) (ih (write (image b) st).2)

theorem writeAll_numbers (xs : List Binary64) (st : State φ) :
    writeAll (xs.map .number) st = (xs.map .float, st) := by
  induction xs with
  | nil => rfl
  | cons x xs ih => simp [writeAll, write, ih]

theorem write_list (xs : List Binary64) (st : State φ) :
    (write (.list xs) st).2.IsFlatTable (write (.list xs) st).1 xs := by
  rw [ScriptValue.list, write, writeAll_numbers]
  exact newTable_spec _ st

theorem write_script (d : Data) (st : State φ) :
    (write d.script st).2.Represents (write d.script st).1 d := by
  cases d with
  | number x => rfl
  | flat xs => exact write_list xs st
  | rows xss =>
    have hItems := writeAll_forall₂ write_list IsFlatTable.extends xss st
    rw [Data.script, ScriptValue.rows, write]
    obtain ⟨ref, hRef, hTable⟩ := newTable_spec (.ofList (writeAll (xss.map .list) st).1)
      (writeAll (xss.map .list) st).2
    exact ⟨ref, _, hRef, hTable, hItems.imp fun _ _ hRow => hRow.extends (extends_newTable _ _)⟩

theorem writeAll_script (ds : List Data) (st : State φ) :
    List.Forall₂ (writeAll (ds.map Data.script) st).2.Represents
      (writeAll (ds.map Data.script) st).1 ds :=
  writeAll_forall₂ write_script Represents.extends ds st

/-! ## Reading what was written -/

theorem entries_ofList {items : List Value} (h : ∀ item ∈ items, item ≠ .nil) :
    (Table.ofList items).entries = items := by
  have hLast : items.length = 0 ∨ items.getD (items.length - 1) .nil ≠ .nil := by
    by_cases hEmpty : items.length = 0
    · exact .inl hEmpty
    · right
      rw [List.getD_eq_getElem?_getD, List.getElem?_eq_getElem (by omega)]
      exact h _ (List.getElem_mem _)
  have hLength : (Table.ofList items).rawLen = items.length := if_pos hLast
  rw [Table.entries, hLength]
  exact List.take_length

theorem table_of_getElem? {ref : Nat} {t : Table} (h : st.tables[ref]? = some t) :
    st.table ref = t := by
  rw [table, List.getD_eq_getElem?_getD, h]
  rfl

theorem IsFlatTable.isSequence {xs : List Binary64} (h : st.IsFlatTable v xs) :
    st.IsSequence v xs := by
  obtain ⟨ref, rfl, hTable⟩ := h
  have hItems : ∀ item ∈ xs.map Value.float, item ≠ .nil := by
    simp [Value.float]
  refine ⟨ref, rfl, ?_⟩
  rw [table_of_getElem? hTable, entries_ofList hItems, List.forall₂_map_left_iff, List.forall₂_same]
  exact fun x _ => rfl

theorem ne_nil_of_isFlatTable {items : List Value} {xss : List (List Binary64)}
    (h : List.Forall₂ st.IsFlatTable items xss) : ∀ item ∈ items, item ≠ .nil := by
  induction h with
  | nil => simp
  | cons hRow _ ih =>
    obtain ⟨ref, rfl, -⟩ := hRow
    exact List.forall_mem_cons.mpr ⟨nofun, ih⟩

theorem Represents.read_eq (h : st.Represents v d) : st.read v = d.script := by
  cases d with
  | number x =>
    cases h
    rfl
  | flat xs => exact readTo_eq_list.mpr (IsFlatTable.isSequence h)
  | rows xss =>
    obtain ⟨ref, items, rfl, hTable, hItems⟩ := h
    refine read_eq_rows.mpr ⟨ref, rfl, ?_⟩
    rw [table_of_getElem? hTable, entries_ofList (ne_nil_of_isFlatTable hItems)]
    exact hItems.imp fun _ _ hRow => hRow.isSequence

end State

end MatrixBridge.Lua
