import MatrixBridge.Lua.Interpreter

/-!
# Opening and registering the module

Opening makes the module table; registering also binds it to a global and among the loaded modules,
both times without metamethods.
-/

namespace MatrixBridge.Lua

variable {φ ν : Type}

def newModule (st : State φ) : Nat × State φ :=
  let (fields, st) := ModuleFunction.all.foldl
    (fun (fields, st) f =>
      let (ref, st) := State.newFunction (.module f) st
      ((Value.text f.name, Value.function ref) :: fields, st))
    ([], st)
  let ref := st.tables.length
  (ref, { st with tables := st.tables ++ [{ Table.empty with fields }], moduleTable := some ref })

abbrev Registration (φ ν α : Type) := ExceptT Failure (Routine (State φ) ν) α

namespace Registration

def ofAct {α : Type} (act : Act φ ν α) : Registration φ ν α :=
  ExceptT.mk do return (← act.run).mapError Failure.ofRaised

def asTable (v : Value) : Registration φ ν Nat :=
  match v with
  | .table ref => return ref
  | v => throw (.conversion v.typeName "table")

def modify (f : State φ → State φ) : Registration φ ν Unit := ExceptT.lift (Routine.modify f)

end Registration

namespace Interpreter

variable (I : Interpreter φ ν)

def openModule : Registration φ ν Nat :=
  match I.settings.validate with
  | .error e => throw (.external e.message)
  | .ok () => ExceptT.lift (Routine.update newModule)

/-- Makes the module table and binds it: first to its global, then in `package.loaded`, where
`package` is what the global of that name is by then. -/
def registerModule (depth : Nat) : Registration φ ν Nat := do
  let name := I.settings.moduleName
  let table ← I.openModule
  Registration.modify (State.setGlobal name (.table table))
  let package ← Registration.asTable (← .ofAct (getGlobal (I.call depth) "package"))
  let loaded ← Registration.asTable (← .ofAct (getField (I.call depth) package (.text "loaded")))
  Registration.modify (State.rawSet loaded (.text name) (.table table))
  return table

/-! ## What a registration shows -/

def answersModule (code : Act φ ν Value) : Routine (State φ) ν Bool := do
  match ← code.run with
  | .ok v => return (← Routine.state).moduleTable.map Value.table == some v
  | .error _ => return false

/-- The value that `require` answers for the name of the module. A global `require` that is no
function is not called. -/
def requireModule (depth : Nat) : Act φ ν Value := do
  match ← getGlobal (I.call depth) "require" with
  | f@(.function _) =>
    let results ← I.callFromHost depth f [.text I.settings.moduleName]
    return results.headD .nil
  | _ => return .nil

def isGlobalModule (depth : Nat) : Routine (State φ) ν Bool :=
  answersModule (getGlobal (I.call depth) I.settings.moduleName)

def isRequiredModule (depth : Nat) : Routine (State φ) ν Bool :=
  answersModule (I.requireModule depth)

end Interpreter

namespace State

def moduleKeys (st : State φ) : List String :=
  let fields := (st.moduleTable.map fun ref => (st.table ref).fields).getD []
  let names := fields.filterMap fun
    | (.string bytes, _) => some bytes.toText
    | _ => none
  names.mergeSort

def close (st : State φ) : State φ := { st with closed := true }

end State

end MatrixBridge.Lua
