import MatrixBridge.Lua.State
import MatrixBridge.Proofs.Utf8

/-! # Binding text keys

What reading a table gives after a text key of it was bound: the value under that key, and what was
there before under every other one. Binding a text moves no entry of the array part and changes no
metamethod. -/

namespace MatrixBridge.Lua

theorem Value.text_inj {s t : String} : Value.text s = .text t ↔ s = t := by
  constructor
  · intro h
    have hBytes : Bytes.ofText s = .ofText t := Value.string.inj h
    rw [← Bytes.toText_ofText s, hBytes, Bytes.toText_ofText]
  · rintro rfl
    rfl

theorem Value.asKey_eq_text {key : Value} {s : String} : key.asKey = .text s ↔ key = .text s := by
  cases key with
  | number n =>
    cases n with
    | integer n => rfl
    | float x =>
      rw [Value.asKey]
      constructor
      · intro h
        split at h <;> cases h
      · nofun
  | nil | boolean | string | table | function | thread | userdata | lightUserdata | error => rfl

namespace Table

variable {t : Table} {s : String} {value key : Value}

theorem lookup_filter_ne {k : Value} (h : key ≠ k) (fields : List (Value × Value)) :
    (fields.filter (·.1 ≠ k)).lookup key = fields.lookup key := by
  induction fields with
  | nil => rfl
  | cons field fields ih =>
    obtain ⟨k', v⟩ := field
    by_cases hSame : k' = k
    · subst hSame
      rw [List.filter_cons_of_neg (by simp), ih, List.lookup_cons, beq_false_of_ne h]
    · rw [List.filter_cons_of_pos (by simpa using hSame), List.lookup_cons, List.lookup_cons, ih]

theorem rawSet_text (hValue : value ≠ .nil) : t.rawSet (.text s) value =
    { t with fields := (.text s, value) :: t.fields.filter (·.1 ≠ .text s) } := by
  have hNil : Value.text s ≠ .nil := nofun
  have hItem : Value.text s ≠ .integer (.ofNat (t.items.length + 1)) := nofun
  simp only [rawSet, Value.asKey_eq_text.mpr rfl]
  change (if Value.text s = .nil then _ else _) = _
  rw [if_neg hNil, if_neg hValue, if_neg hItem]

theorem rawGet_rawSet_text (hValue : value ≠ .nil) :
    (t.rawSet (.text s) value).rawGet key = if key = .text s then value else t.rawGet key := by
  rw [rawSet_text hValue]
  by_cases hKey : key = .text s
  · rw [if_pos hKey, hKey, rawGet, Value.asKey_eq_text.mpr rfl]
    change (List.lookup (Value.text s) ((Value.text s, value) :: _)).getD .nil = value
    rw [List.lookup_cons_self]
    rfl
  · rw [if_neg hKey]
    have hNormal : key.asKey ≠ .text s := fun h => hKey (Value.asKey_eq_text.mp h)
    have hLookup : ((Value.text s, value) :: t.fields.filter (·.1 ≠ .text s)).lookup key.asKey =
        t.fields.lookup key.asKey := by
      rw [List.lookup_cons, lookup_filter_ne hNormal, beq_false_of_ne hNormal]
    simp only [rawGet, hLookup]

theorem index_rawSet_text (hValue : value ≠ .nil) :
    (t.rawSet (.text s) value).index = t.index := by
  rw [rawSet_text hValue]

theorem rawGet_eq_nil (h : Value.text s ∉ t.fields.map Prod.fst) : t.rawGet (.text s) = .nil := by
  have hLookup : t.fields.lookup (.text s) = none := by
    rw [List.lookup_eq_none_iff]
    intro field hField
    rw [bne_iff_ne]
    intro hKey
    exact h (List.mem_map.mpr ⟨field, hField, hKey.symm⟩)
  rw [rawGet, Value.asKey_eq_text.mpr rfl]
  change (t.fields.lookup (.text s)).getD .nil = .nil
  rw [hLookup]
  rfl

end Table

namespace State

variable {φ : Type} {st : State φ} {ref ref' : Nat} {s : String} {value key : Value}

theorem table_setTable (hRef : ref < st.tables.length) (t : Table) :
    (st.setTable ref t).table ref' = if ref' = ref then t else st.table ref' := by
  rw [table, setTable, List.getD_eq_getElem?_getD, List.getElem?_set]
  by_cases h : ref' = ref
  · rw [if_pos h, if_pos h.symm, if_pos hRef]
    rfl
  · rw [if_neg h, if_neg (Ne.symm h), table, List.getD_eq_getElem?_getD]

theorem rawGet_rawSet_text (hRef : ref < st.tables.length) (hValue : value ≠ .nil) :
    (st.rawSet ref (.text s) value).rawGet ref' key =
      if ref' = ref ∧ key = .text s then value else st.rawGet ref' key := by
  rw [rawGet, rawSet, table_setTable hRef]
  by_cases h : ref' = ref
  · rw [if_pos h, Table.rawGet_rawSet_text hValue, h]
    simp [rawGet]
  · rw [if_neg h, if_neg fun hBoth => h hBoth.1, rawGet]

theorem index_rawSet_text (hRef : ref < st.tables.length) (hValue : value ≠ .nil) :
    ((st.rawSet ref (.text s) value).table ref').index = (st.table ref').index := by
  rw [rawSet, table_setTable hRef]
  by_cases h : ref' = ref
  · rw [if_pos h, Table.index_rawSet_text hValue, h]
  · rw [if_neg h]

end State

end MatrixBridge.Lua
