import MatrixBridge.Lua.Registration
import MatrixBridge.Proofs.LuaCall
import MatrixBridge.Proofs.TextKeys

/-! # Registering the module

A registration binds the module table to its global and then in `package.loaded`. Where the second
table is not found the first binding stays: a registration that fails may have bound the global. -/

namespace MatrixBridge.Lua

variable {η φ ν α β : Type} {handler : Run.Handler η (State φ) ν} {w : World η (State φ) ν}

/-! ## The module table under its global -/

namespace State

variable {st : State φ} {ref : Nat} {key : Value}

/-- The module table is put behind the tables that are there. Its keys are the functions' names. -/
theorem newModule_tables (st : State φ) : ∃ t : Table, (newModule st).2.tables = st.tables ++ [t] ∧
    t.index = none ∧ t.fields.map Prod.fst = ModuleFunction.all.reverse.map (.text ·.name) :=
  ⟨_, rfl, rfl, rfl⟩

def withModule (st : State φ) (name : String) : State φ :=
  (newModule st).2.setGlobal name (.table st.tables.length)

theorem table_newModule (hRef : ref < st.tables.length) :
    (newModule st).2.table ref = st.table ref := by
  obtain ⟨t, hTables, -⟩ := newModule_tables st
  rw [table, table, List.getD_eq_getElem?_getD, List.getD_eq_getElem?_getD, hTables,
    List.getElem?_append_left hRef]

section

variable (hGlobals : st.globals < st.tables.length) (name : String)

include hGlobals

theorem globals_lt_newModule : (newModule st).2.globals < (newModule st).2.tables.length := by
  obtain ⟨t, hTables, -⟩ := newModule_tables st
  rw [hTables, List.length_append]
  exact Nat.lt_add_right _ hGlobals

theorem rawGet_withModule : (st.withModule name).rawGet ref key =
    if ref = st.globals ∧ key = .text name then .table st.tables.length
    else (newModule st).2.rawGet ref key :=
  rawGet_rawSet_text (globals_lt_newModule hGlobals) (by nofun)

theorem index_withModule :
    ((st.withModule name).table ref).index = ((newModule st).2.table ref).index :=
  index_rawSet_text (globals_lt_newModule hGlobals) (by nofun)

theorem rawGet_withModule_of_lt (hRef : ref < st.tables.length) :
    (st.withModule name).rawGet ref key =
      if ref = st.globals ∧ key = .text name then .table st.tables.length
      else st.rawGet ref key := by
  rw [rawGet_withModule hGlobals, rawGet, rawGet, table_newModule hRef]

theorem index_withModule_of_lt (hRef : ref < st.tables.length) :
    ((st.withModule name).table ref).index = (st.table ref).index := by
  rw [index_withModule hGlobals, table_newModule hRef]

/-- The module table holds nothing under `loaded`, and no metamethod answers for it. -/
theorem loaded_withModule : ((st.withModule name).table st.tables.length).index = none ∧
    (st.withModule name).rawGet st.tables.length (.text "loaded") = .nil := by
  obtain ⟨t, hTables, hIndex, hKeys⟩ := newModule_tables st
  have hTable : (newModule st).2.table st.tables.length = t := by
    rw [table, List.getD_eq_getElem?_getD, hTables, List.getElem?_concat_length]
    rfl
  constructor
  · rw [index_withModule hGlobals, hTable, hIndex]
  · rw [rawGet_withModule hGlobals, if_neg fun h => Nat.ne_of_gt hGlobals h.1, rawGet, hTable]
    apply Table.rawGet_eq_nil
    rw [hKeys, List.mem_map]
    rintro ⟨f, -, hName⟩
    cases f <;> exact absurd (Value.text_inj.mp hName) (by decide)

end

end State

/-! ## Searching the table of loaded modules -/

def Value.tableRef : Value → Except Failure Nat
  | .table ref => .ok ref
  | v => .error (.conversion v.typeName "table")

namespace State

variable {st : State φ} {name : String}

def packageLoaded (st : State φ) : Except Failure Nat := do
  let package ← (st.global "package").tableRef
  (st.rawGet package (.text "loaded")).tableRef

/-- What `package.loaded` is as soon as a name is bound to a new table. The name may be that of
one of the two places that are searched. -/
def loadedBeside (st : State φ) (name : String) : Except Failure Nat :=
  if name = "package" then .error (.conversion "nil" "table")
  else do
    let package ← (st.global "package").tableRef
    if name = "loaded" ∧ package = st.globals then return st.tables.length
    (st.rawGet package (.text "loaded")).tableRef

/-- The tables in which a registration searches are there, and searching them runs no code. -/
structure Searchable (st : State φ) : Prop where
  globals_lt : st.globals < st.tables.length
  globals_index : (st.table st.globals).index = none
  package_lt {ref : Nat} : st.global "package" = .table ref → ref < st.tables.length
  package_index {ref : Nat} : st.global "package" = .table ref →
    st.rawGet ref (.text "loaded") = .nil → (st.table ref).index = none
  loaded_lt {ref : Nat} : st.packageLoaded = .ok ref → ref < st.tables.length

theorem global_withModule (hGlobals : st.globals < st.tables.length) (key : String) :
    (st.withModule name).global key =
      if key = name then .table st.tables.length else st.global key := by
  refine (rawGet_withModule_of_lt hGlobals name hGlobals).trans ?_
  simp only [Value.text_inj, true_and]
  rfl

theorem package_withModule (h : st.Searchable) {ref : Nat}
    (hPackage : (st.withModule name).global "package" = .table ref)
    (hLoaded : (st.withModule name).rawGet ref (.text "loaded") = .nil) :
    ((st.withModule name).table ref).index = none := by
  rw [global_withModule h.globals_lt] at hPackage
  split at hPackage
  · cases hPackage
    exact (loaded_withModule h.globals_lt name).1
  · have hRef := h.package_lt hPackage
    rw [rawGet_withModule_of_lt h.globals_lt name hRef] at hLoaded
    split at hLoaded
    · cases hLoaded
    · rw [index_withModule_of_lt h.globals_lt name hRef, h.package_index hPackage hLoaded]

theorem packageLoaded_withModule (h : st.Searchable) :
    (st.withModule name).packageLoaded = st.loadedBeside name := by
  rw [packageLoaded, loadedBeside, global_withModule h.globals_lt]
  by_cases hName : name = "package"
  · rw [if_pos hName, if_pos hName.symm]
    change ((st.withModule name).rawGet st.tables.length (.text "loaded")).tableRef = _
    rw [(loaded_withModule h.globals_lt name).2]
    rfl
  · rw [if_neg hName, if_neg (Ne.symm hName)]
    cases hPackage : st.global "package" with
    | table ref =>
      change ((st.withModule name).rawGet ref (.text "loaded")).tableRef = ite _ _ _
      rw [rawGet_withModule_of_lt h.globals_lt name (h.package_lt hPackage)]
      simp only [Value.text_inj]
      by_cases hSelf : name = "loaded" ∧ ref = st.globals
      · rw [if_pos hSelf, if_pos ⟨hSelf.2, hSelf.1.symm⟩]
        rfl
      · rw [if_neg hSelf, if_neg fun hBoth => hSelf ⟨hBoth.2.symm, hBoth.1⟩]
    | nil | boolean | number | string | function | thread | userdata | lightUserdata | error => rfl

end State

/-! ## The code of a registration -/

namespace Registration

theorem run_ofAct {act : Act φ ν α} {a : α} {v : World η (State φ) ν}
    (h : act.Yields handler w a v) :
    (Run.routine Run.scriptPlace handler (ofAct act).run).run w = some (.ok a, v) := by
  change (Run.routine Run.scriptPlace handler
    (act.run >>= fun outcome => pure (outcome.mapError Failure.ofRaised))).run w = _
  rw [Run.routine_bind, Run.run_bind_of h]
  rfl

theorem run_asTable (v : Value) :
    (Run.routine Run.scriptPlace handler (asTable v : Registration φ ν Nat).run).run w =
      some (v.tableRef, w) := by
  cases v <;> rfl

def findLoaded (call : Caller φ ν) : Registration φ ν Nat := do
  let package ← asTable (← .ofAct (getGlobal call "package"))
  asTable (← .ofAct (getField call package (.text "loaded")))

end Registration

theorem Value.tableRef_eq_ok {v : Value} {ref : Nat} : v.tableRef = .ok ref ↔ v = .table ref := by
  cases v with
  | table => simp [tableRef]
  | nil | boolean | number | string | function | thread | userdata | lightUserdata | error =>
    exact ⟨nofun, nofun⟩

theorem yields_getField {call : Caller φ ν} {ref : Nat} {key : Value}
    (hIndex : w.script.rawGet ref key = .nil → (w.script.table ref).index = none) :
    (getField call ref key).Yields handler w (w.script.rawGet ref key) w := by
  refine Act.yields_state.bind ?_
  split
  · rename_i hNil hSome
    rw [hIndex hNil] at hSome
    cases hSome
  · exact Act.yields_pure _

theorem run_findLoaded {call : Caller φ ν}
    (hGlobals : (w.script.table w.script.globals).index = none)
    (hPackage : ∀ {ref}, w.script.global "package" = .table ref →
      w.script.rawGet ref (.text "loaded") = .nil → (w.script.table ref).index = none) :
    (Run.routine Run.scriptPlace handler (Registration.findLoaded call).run).run w =
      some (w.script.packageLoaded, w) := by
  have hGlobal : (getGlobal call "package").Yields handler w (w.script.global "package") w :=
    Act.yields_state.bind (yields_getField fun _ => hGlobals)
  rw [Registration.findLoaded, Run.routine_bind_ok (Registration.run_ofAct hGlobal),
    State.packageLoaded]
  cases hTable : (w.script.global "package").tableRef with
  | error e =>
    refine Run.routine_bind_error ?_
    rw [Registration.run_asTable, hTable]
  | ok ref =>
    have hAsTable : (Run.routine Run.scriptPlace handler (Registration.asTable
        (w.script.global "package") : Registration φ ν Nat).run).run w = some (.ok ref, w) := by
      rw [Registration.run_asTable, hTable]
    have hIndex := hPackage (Value.tableRef_eq_ok.mp hTable)
    rw [Run.routine_bind_ok hAsTable,
      Run.routine_bind_ok (Registration.run_ofAct (yields_getField hIndex))]
    exact Registration.run_asTable _

theorem run_findLoaded_withModule {call : Caller φ ν} {name : String} (h : w.script.Searchable) :
    (Run.routine Run.scriptPlace handler (Registration.findLoaded call).run).run
        { w with script := w.script.withModule name } =
      some (w.script.loadedBeside name, { w with script := w.script.withModule name }) := by
  have hGlobals : ((w.script.withModule name).table w.script.globals).index = none :=
    (State.index_withModule_of_lt h.globals_lt name h.globals_lt).trans h.globals_index
  rw [← State.packageLoaded_withModule h]
  exact run_findLoaded hGlobals (State.package_withModule h)

namespace Interpreter

variable (I : Interpreter φ ν) (depth : Nat)

theorem registerModule_eq : I.registerModule depth = (do
    let table ← I.openModule
    Registration.modify (State.setGlobal I.settings.moduleName (.table table))
    let loaded ← Registration.findLoaded (I.call depth)
    Registration.modify (State.rawSet loaded (.text I.settings.moduleName) (.table table))
    return table) := by
  simp only [registerModule, Registration.findLoaded, bind_assoc]

theorem run_openModule_error {e : Settings.Error} (hInvalid : I.settings.validate = .error e) :
    (Run.routine Run.scriptPlace handler I.openModule.run).run w =
      some (.error (.external e.message), w) := by
  rw [openModule, hInvalid]
  rfl

theorem run_registerModule (hValid : I.settings.validate = .ok ()) :
    (Run.routine Run.scriptPlace handler (I.registerModule depth).run).run w =
      (Run.routine Run.scriptPlace handler (do
        let loaded ← Registration.findLoaded (I.call depth)
        Registration.modify (State.rawSet loaded (.text I.settings.moduleName)
          (.table w.script.tables.length))
        return w.script.tables.length : Registration φ ν Nat).run).run
          { w with script := w.script.withModule I.settings.moduleName } := by
  have hOpen : (Run.routine Run.scriptPlace handler I.openModule.run).run w =
      some (.ok w.script.tables.length, { w with script := (newModule w.script).2 }) := by
    rw [openModule, hValid]
    rfl
  rw [registerModule_eq, Run.routine_bind_ok hOpen]
  exact Run.routine_bind_ok rfl

end Interpreter

/-! ## What a registration does -/

/-- The key is bound to the value in the tables `refs`, and every other binding of a table that was
there is as it was. -/
structure State.Rebinds (st : State φ) (refs : List Nat) (key : String) (value : Value)
    (st' : State φ) : Prop where
  globals_eq : st'.globals = st.globals
  bound : ∀ ref ∈ refs, st'.rawGet ref (.text key) = value
  other {ref : Nat} {k : Value} : ref < st.tables.length → (ref ∈ refs → k ≠ .text key) →
    st'.rawGet ref k = st.rawGet ref k

theorem State.rebinds_withModule {st : State φ} (hGlobals : st.globals < st.tables.length)
    (name : String) :
    st.Rebinds [st.globals] name (.table st.tables.length) (st.withModule name) where
  globals_eq := rfl
  bound ref hRef := by
    cases List.mem_singleton.mp hRef
    rw [rawGet_withModule_of_lt hGlobals name hGlobals, if_pos ⟨rfl, rfl⟩]
  other hRef hOther := by
    rw [rawGet_withModule_of_lt hGlobals name hRef]
    exact if_neg fun hBound => hOther (List.mem_singleton.mpr hBound.1) hBound.2

theorem State.Rebinds.rawSet {st st' : State φ} {refs : List Nat} {key : String} {value : Value}
    (h : st.Rebinds refs key value st') {ref : Nat} (hRef : ref < st'.tables.length)
    (hValue : value ≠ .nil) :
    st.Rebinds (ref :: refs) key value (st'.rawSet ref (.text key) value) where
  globals_eq := h.globals_eq
  bound ref' hMem := by
    rw [rawGet_rawSet_text hRef hValue]
    split
    · rfl
    · rename_i hElse
      refine h.bound ref' ((List.mem_cons.mp hMem).resolve_left ?_)
      rintro rfl
      exact hElse ⟨rfl, rfl⟩
  other hLess hOther := by
    rw [rawGet_rawSet_text hRef hValue, if_neg, h.other hLess]
    · intro hMem
      exact hOther (List.mem_cons_of_mem _ hMem)
    · rintro ⟨rfl, rfl⟩
      exact hOther List.mem_cons_self rfl

/-- What a registration answers, and the state it leaves. It answers the module table, which is put
behind the tables that are there. -/
inductive Registers (settings : Settings) (st : State φ) : Except Failure Nat → State φ → Prop
  /-- Wrong settings are refused before anything is bound. -/
  | refused {e : Settings.Error} : settings.validate = .error e →
      Registers settings st (.error (.external e.message)) st
  | registered {loaded : Nat} {st' : State φ} : settings.validate = .ok () →
      st.loadedBeside settings.moduleName = .ok loaded →
      st.Rebinds [loaded, st.globals] settings.moduleName (.table st.tables.length) st' →
      Registers settings st (.ok st.tables.length) st'
  /-- Without a table of loaded modules the registration fails, and the global is bound. -/
  | halfDone {e : Failure} {st' : State φ} : settings.validate = .ok () →
      st.loadedBeside settings.moduleName = .error e →
      st.Rebinds [st.globals] settings.moduleName (.table st.tables.length) st' →
      Registers settings st (.error e) st'

theorem State.length_withModule (st : State φ) (name : String) :
    (st.withModule name).tables.length = st.tables.length + 1 := by
  obtain ⟨t, hTables, -⟩ := newModule_tables st
  change ((newModule st).2.tables.set _ _).length = _
  rw [List.length_set, hTables, List.length_append, List.length_singleton]

theorem State.loadedBeside_lt {st : State φ} (h : st.Searchable) {name : String} {ref : Nat}
    (hLoaded : st.loadedBeside name = .ok ref) : ref < st.tables.length + 1 := by
  rw [loadedBeside] at hLoaded
  split at hLoaded
  · cases hLoaded
  · cases hPackage : (st.global "package").tableRef with
    | error e =>
      rw [hPackage] at hLoaded
      cases hLoaded
    | ok package =>
      rw [hPackage] at hLoaded
      change (if _ then _ else _) = Except.ok ref at hLoaded
      split at hLoaded
      · cases hLoaded
        exact Nat.lt_succ_self _
      · have hSame : st.packageLoaded = .ok ref := by
          rw [packageLoaded, hPackage]
          exact hLoaded
        exact Nat.lt_succ_of_lt (h.loaded_lt hSame)

namespace Interpreter

/-- A registration binds the module table in both places, or fails: on wrong settings with the
state as it was, and otherwise with the global bound. -/
theorem registration_outcome (handler : Run.Handler η (State φ) ν) (I : Interpreter φ ν)
    (depth : Nat) (h : w.script.Searchable) : ∃ outcome st,
      (Run.routine Run.scriptPlace handler (I.registerModule depth).run).run w =
        some (outcome, { w with script := st }) ∧
      Registers I.settings w.script outcome st := by
  cases hValidate : I.settings.validate with
  | error e =>
    refine ⟨_, w.script, ?_, .refused hValidate⟩
    rw [registerModule_eq]
    exact Run.routine_bind_error (I.run_openModule_error hValidate)
  | ok =>
    let bound := w.script.withModule I.settings.moduleName
    have hBinds : w.script.Rebinds [w.script.globals] I.settings.moduleName
        (.table w.script.tables.length) bound :=
      State.rebinds_withModule h.globals_lt I.settings.moduleName
    have hFind : (Run.routine Run.scriptPlace handler
        (Registration.findLoaded (I.call depth)).run).run { w with script := bound } =
          some (w.script.loadedBeside I.settings.moduleName, { w with script := bound }) :=
      run_findLoaded_withModule h
    rw [I.run_registerModule depth hValidate]
    cases hLoaded : w.script.loadedBeside I.settings.moduleName with
    | error e =>
      rw [hLoaded] at hFind
      exact ⟨_, _, Run.routine_bind_error hFind, .halfDone hValidate hLoaded hBinds⟩
    | ok loaded =>
      rw [hLoaded] at hFind
      have hLess : loaded < bound.tables.length := by
        rw [State.length_withModule]
        exact State.loadedBeside_lt h hLoaded
      refine ⟨_, bound.rawSet loaded (.text I.settings.moduleName)
        (.table w.script.tables.length), ?_, .registered hValidate hLoaded
          (hBinds.rawSet hLess nofun)⟩
      exact Run.routine_bind_ok hFind

/-- A state with the standard globals, and no code in it that is called. -/
def freshWorld : World Unit (State Unit) Unit := ⟨.uninitialized, (), .fresh, []⟩

def registering (settings : Settings) : Interpreter Unit Unit := ⟨fun _ _ _ => throw .nil, settings⟩

theorem package_fresh : (State.fresh : State Unit).global "package" = .table 9 := by decide +kernel

theorem searchable_fresh : (State.fresh : State Unit).Searchable where
  globals_lt := by decide +kernel
  globals_index := by decide +kernel
  package_lt h := by
    cases package_fresh.symm.trans h
    decide +kernel
  package_index h _ := by
    cases package_fresh.symm.trans h
    decide +kernel
  loaded_lt h := by
    have hLoaded : (State.fresh : State Unit).packageLoaded = .ok 1 := by decide +kernel
    cases hLoaded.symm.trans h
    decide +kernel

theorem fresh_registration : ∃ st,
    (Run.routine Run.scriptPlace (fun _ => Run.endless)
      ((registering {}).registerModule 0).run).run freshWorld =
        some (.ok 10, { freshWorld with script := st }) ∧
    st.global "octave" = .table 10 ∧ st.rawGet 1 (.text "octave") = .table 10 := by
  obtain ⟨outcome, st, hRun, hOutcome⟩ :=
    registration_outcome (w := freshWorld) (fun _ => Run.endless) (registering {}) 0
      searchable_fresh
  have hLoaded : freshWorld.script.loadedBeside "octave" = .ok 1 := by decide +kernel
  cases hOutcome with
  | refused hInvalid => cases hInvalid
  | halfDone _ hNone => cases hLoaded.symm.trans hNone
  | registered _ hSome hBinds =>
    cases hLoaded.symm.trans hSome
    refine ⟨st, hRun, ?_, hBinds.bound 1 List.mem_cons_self⟩
    rw [State.global, hBinds.globals_eq]
    exact hBinds.bound _ (by simp)

/-- Under the name `package` the module hides the library that the registration searches: it fails,
and the global stays bound to the module. -/
theorem package_registration_half_done : ∃ st,
    (Run.routine Run.scriptPlace (fun _ => Run.endless)
      ((registering { moduleName := "package" }).registerModule 0).run).run freshWorld =
        some (.error (.conversion "nil" "table"), { freshWorld with script := st }) ∧
    freshWorld.script.global "package" = .table 9 ∧ st.global "package" = .table 10 := by
  refine ⟨freshWorld.script.withModule "package", ?_, ?_, ?_⟩
  · rw [run_registerModule _ 0 rfl]
    refine Run.routine_bind_error ?_
    rw [run_findLoaded_withModule searchable_fresh]
    rfl
  · exact package_fresh
  · decide +kernel

end Interpreter

end MatrixBridge.Lua
