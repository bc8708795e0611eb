import MatrixBridge.Proofs.Numerals
import MatrixBridge.Proofs.TableDepth

/-! # Script values that come back from Lua

A script value that is written into a Lua state and read again has lost three things: texts that
are numerals are numbers, tables inside two others are mere handles, and a handle that is no entry
is nothing. What was read from Lua, and what the numeric runtime sends there, has none of them to
lose. -/

namespace MatrixBridge

namespace ScriptValue

/-- One value is inside another when it is an entry of it, or inside one. -/
inductive Inside : ScriptValue → ScriptValue → Prop
  | entry {v entries} : v ∈ entries → Inside v (.table entries)
  | deeper {v u entries} : Inside v u → u ∈ entries → Inside v (.table entries)

def isVoid : ScriptValue → Bool
  | .nil | .handle _ => true
  | _ => false

/-- Every table of the value, however deep, can be written as a sequence. -/
def IsDense (s : ScriptValue) : Prop := ∀ v : ScriptValue, v.Inside s → v.isVoid = false

mutual

/-- The value with the number in place of every text that Lua reads as one. -/
def withNumerals : ScriptValue → ScriptValue
  | .text s => match Lua.Numeral.read? (.ofText s) with
    | some n => .number n.toFloat
    | none => .text s
  | .table entries => .table (withNumeralsAll entries)
  | s => s

def withNumeralsAll : List ScriptValue → List ScriptValue
  | [] => []
  | v :: vs => v.withNumerals :: withNumeralsAll vs

end

def returned : ScriptValue → ScriptValue
  | .handle _ => .nil
  | s => s.withNumerals.cut Lua.tableDepth

theorem withNumeralsAll_eq_map (vs : List ScriptValue) :
    withNumeralsAll vs = vs.map withNumerals := by
  induction vs with
  | nil => rfl
  | cons v vs ih => rw [withNumeralsAll, ih, List.map_cons]

theorem returned_of_ne_handle {s : ScriptValue} (h : ∀ name, s ≠ .handle name) :
    s.returned = s.withNumerals.cut Lua.tableDepth := by
  cases s with
  | handle name => exact absurd rfl (h name)
  | nil | boolean | number | text | table => rfl

theorem isDense_table {entries : List ScriptValue} :
    (table entries).IsDense ↔ ∀ v ∈ entries, v.isVoid = false ∧ v.IsDense := by
  constructor
  · intro h v hEntry
    exact ⟨h v (.entry hEntry), fun u hInside => h u (.deeper hInside hEntry)⟩
  · intro h v hInside
    cases hInside with
    | entry hEntry => exact (h v hEntry).1
    | deeper hInside hEntry => exact (h _ hEntry).2 v hInside

theorem isDense_of_not_table {s : ScriptValue} (h : ∀ entries, s ≠ .table entries) : s.IsDense := by
  intro v hInside
  cases hInside <;> exact absurd rfl (h _)

theorem ne_handle {s : ScriptValue} (h : s.isVoid = false) (name : String) : s ≠ .handle name := by
  rintro rfl
  cases h

end ScriptValue

namespace Lua.State

open ScriptValue (IsDense withNumerals withNumeralsAll withNumeralsAll_eq_map ne_handle
  returned_of_ne_handle)

variable {φ : Type} {st st' : State φ}

/-! ## Writing and reading -/

theorem write_ne_nil {v : ScriptValue} (h : v.isVoid = false) (st : State φ) :
    (write v st).1 ≠ .nil := by
  cases v with
  | nil | handle => cases h
  | boolean | number | text | table => nofun

theorem writeAll_ne_nil {vs : List ScriptValue} (h : ∀ v ∈ vs, v.isVoid = false) (st : State φ) :
    ∀ item ∈ (writeAll vs st).1, item ≠ .nil := by
  induction vs generalizing st with
  | nil => nofun
  | cons v vs ih =>
    obtain ⟨hFirst, hRest⟩ := List.forall_mem_cons.mp h
    exact List.forall_mem_cons.mpr ⟨write_ne_nil hFirst st, ih hRest (write v st).2⟩

theorem readTo_text (depth : Nat) (s : String) (st : State φ) :
    st.readTo depth (.text s) = (ScriptValue.text s).withNumerals.cut depth := by
  rw [withNumerals, Value.text, readTo]
  cases Numeral.read? (.ofText s) with
  | some n => cases depth <;> rfl
  | none => cases depth <;> simp [ScriptValue.cut]

mutual

/-- A value that was written is read in every later state as it was, but for numerals and depth. -/
theorem readTo_write (v : ScriptValue) (st : State φ) (hHandle : ∀ name, v ≠ .handle name)
    (hDense : v.IsDense) (hExtends : (write v st).2.Extends st') (depth : Nat) :
    st'.readTo depth (write v st).1 = v.withNumerals.cut depth := by
  cases v with
  | nil | boolean | number => cases depth <;> rfl
  | text s => exact readTo_text depth s st'
  | handle name => exact absurd rfl (hHandle name)
  | table entries =>
    cases depth with
    | zero => rfl
    | succ depth =>
      have hEntries := ScriptValue.isDense_table.mp hDense
      have hItems := writeAll_ne_nil (fun v hv => (hEntries v hv).1) st
      obtain ⟨ref, hRef, hTable⟩ := newTable_spec (.ofList (writeAll entries st).1)
        (writeAll entries st).2
      have hLater := (extends_newTable (.ofList (writeAll entries st).1)
        (writeAll entries st).2).trans hExtends
      rw [write, hRef, readTo, table_of_getElem? (hExtends.getElem? hTable), entries_ofList hItems,
        map_readTo_writeAll entries st hEntries hLater]
      rfl

theorem map_readTo_writeAll (vs : List ScriptValue) (st : State φ)
    (hDense : ∀ v ∈ vs, v.isVoid = false ∧ v.IsDense) (hExtends : (writeAll vs st).2.Extends st')
    (depth : Nat) :
    (writeAll vs st).1.map (st'.readTo depth) = (withNumeralsAll vs).map (.cut depth) := by
  cases vs with
  | nil => rfl
  | cons v vs =>
    obtain ⟨⟨hVoid, hFirst⟩, hRest⟩ := List.forall_mem_cons.mp hDense
    have hBefore := (writeAll_extends vs (write v st).2).trans hExtends
    rw [writeAll, withNumeralsAll, List.map_cons, List.map_cons,
      readTo_write v st (ne_handle hVoid) hFirst hBefore,
      map_readTo_writeAll vs (write v st).2 hRest hExtends]

end

/-! ## Reading and writing -/

variable {v : Value} {s : ScriptValue}

theorem map_eq_self {f : ScriptValue → ScriptValue} {items : List ScriptValue}
    (h : ∀ i (hi : i < items.length), f items[i] = items[i]) : items.map f = items := by
  refine List.ext_getElem (List.length_map _) fun i _ hi => ?_
  rw [List.getElem_map]
  exact h i hi

theorem Reads.withNumerals_eq {limit : Option Nat} (h : st.Reads limit v s) :
    s.withNumerals = s := by
  induction h with
  | nil | boolean | number | numeral | handle | deep => rfl
  | text hRead => rw [withNumerals, Numeral.read?_ofText_toText hRead]
  | table _ hLength _ ih =>
    rw [withNumerals, withNumeralsAll_eq_map]
    exact congrArg ScriptValue.table (map_eq_self fun i hi => ih i (hLength ▸ hi) hi)

theorem Reads.cut_eq {depth : Nat} (h : st.Reads (some depth) v s) : s.cut depth = s := by
  generalize hLimit : some depth = limit at h
  induction h generalizing depth with
  | nil | boolean | number | numeral | text | handle => cases depth <;> rfl
  | deep =>
    cases hLimit
    rfl
  | table hSome hLength _ ih =>
    cases depth with
    | zero => exact absurd hLimit.symm hSome
    | succ depth =>
      refine congrArg ScriptValue.table (map_eq_self fun i hi => ih i (hLength ▸ hi) hi ?_)
      rw [← hLimit]
      rfl

/-- What is written comes back with numerals for numbers and without its deep tables; what the
numeric runtime sends, and what was read from Lua and can be written, comes back as it was. -/
theorem marshalling_round_trip (st : State φ) :
    (∀ s : ScriptValue, s.IsDense → ∃ v st', write s st = (v, st') ∧ st.Extends st' ∧
      st'.read v = s.returned) ∧
    (∀ (n : NumericValue) (s : ScriptValue), n.toScript = .ok s →
      (write s st).2.read (write s st).1 = s) ∧
    ∀ v, (st.read v).isVoid = false → (st.read v).IsDense →
      (write (st.read v) st).2.read (write (st.read v) st).1 = st.read v := by
  have hReturned : ∀ s : ScriptValue, s.IsDense →
      (write s st).2.read (write s st).1 = s.returned := by
    intro s hDense
    by_cases hHandle : ∀ name, s ≠ .handle name
    · rw [returned_of_ne_handle hHandle]
      exact readTo_write s st hHandle hDense (.refl _) tableDepth
    · obtain ⟨name, rfl⟩ := not_forall_not.mp hHandle
      rfl
  refine ⟨fun s hDense => ?_, fun n s hScript => ?_, fun v hVoid hDense => ?_⟩
  · exact ⟨_, _, rfl, write_extends s st, hReturned s hDense⟩
  · cases n with
    | matrix m =>
      cases hScript
      rw [m.toScript_eq]
      exact (write_script m.toData st).read_eq
    | undefined | complex | array | text => cases hScript
  · have hReads := reads_readTo st tableDepth v
    rw [hReturned _ hDense, returned_of_ne_handle (ne_handle hVoid)]
    exact (congrArg (·.cut tableDepth) hReads.withNumerals_eq).trans hReads.cut_eq

/-- A numeral, a text, and a table inside two others. -/
def mixedTable : ScriptValue := .table [.text "0x10", .table [.text "ten", .table [.number 0]]]

def columnValue : NumericValue := .matrix (.columnVector [.ofNat 1, .ofNat 2])

theorem mixed_table_comes_back :
    (mixedTable.IsDense ∧ ∃ v st', write mixedTable nestedTables = (v, st') ∧
      st'.read v = .table [.number (.ofInt 16), .table [.text "ten", .handle "table"]]) ∧
    (∃ s, columnValue.toScript = .ok s ∧
      (write s nestedTables).2.read (write s nestedTables).1 = s) ∧
    ∃ s, nestedTables.read (.table 1) = s ∧ s.isVoid = false ∧ s.IsDense ∧
      (write s nestedTables).2.read (write s nestedTables).1 = s := by
  obtain ⟨hAny, hNumeric, hRead⟩ := marshalling_round_trip nestedTables
  refine ⟨?_, ⟨_, rfl, hNumeric columnValue _ rfl⟩, ?_⟩
  · have hDense : mixedTable.IsDense := by
      simp [mixedTable, ScriptValue.isDense_table, ScriptValue.isDense_of_not_table,
        ScriptValue.isVoid]
    have hNumeral : Numeral.read? (.ofText "0x10") = some (.integer 16) := by
      rw [Bytes.ofText_eq]
      decide
    have hText : Numeral.read? (.ofText "ten") = none := by
      rw [Bytes.ofText_eq]
      decide
    have hReturned : mixedTable.returned =
        .table [.number (.ofInt 16), .table [.text "ten", .handle "table"]] := by
      simp [mixedTable, ScriptValue.returned, withNumerals, withNumeralsAll, hNumeral, hText,
        ScriptValue.cut, tableDepth, Number.toFloat]
    obtain ⟨v, st', hWrite, -, hBack⟩ := hAny mixedTable hDense
    exact ⟨hDense, v, st', hWrite, hBack.trans hReturned⟩
  · have hValue : nestedTables.read (.table 1) = .table [.number (.ofInt 7)] := rfl
    have hVoid : (nestedTables.read (.table 1)).isVoid = false := rfl
    have hDense : (nestedTables.read (.table 1)).IsDense := by
      simp [hValue, ScriptValue.isDense_table, ScriptValue.isDense_of_not_table, ScriptValue.isVoid]
    exact ⟨_, rfl, hVoid, hDense, hRead (.table 1) hVoid hDense⟩

end Lua.State

end MatrixBridge
