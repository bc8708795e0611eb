import MatrixBridge.Lua.Registration
import MatrixBridge.Scenario.Note

/-!
# Lua code of actions

User code of the Lua state is an action on its arguments. A scenario describes it with literals in
the places of values. The values are made once, when the code is: what a name stands for later does
not change them.
-/

namespace MatrixBridge.Scenario

inductive LuaAction (α : Type) where
  | give (values : List α)
  | echo
  | count
  | raise (value : α)
  /-- Calls a module function, with its own arguments behind the given ones if they are passed
  on. -/
  | module (name : String) (args : List α) (passOn : Bool)
  | global (name : String) (args : List α) (passOn : Bool)
  | setGlobal (name : String) (value : α)
  | seq (actions : List (LuaAction α))
  /-- Answers nothing, whether the action fails or not. -/
  | attempt (action : LuaAction α)
  /-- Answers `true` and the results, or `false` and the raised value. -/
  | protect (action : LuaAction α)
  | log (tag : String)

inductive Literal where
  | nil
  | boolean (b : Bool)
  | number (n : Lua.Number)
  | string (bytes : Lua.Bytes)
  /-- A table with entries `1, 2, …`, and further fields that are assigned after them. -/
  | table (items : List Literal) (fields : List (Literal × Literal))
  /-- The table so many levels further out; zero is the one being made. -/
  | enclosing (levels : Nat)
  | function (action : LuaAction Literal)
  /-- A table that runs an action when it is called. -/
  | callable (action : LuaAction Literal)
  /-- What Lua code finds under a global name while the value is made. -/
  | global (name : String)
  | thread
  | userdata
  | lightUserdata
  | error (message : String)

open Lua (Value)

abbrev LuaCode := LuaAction Value

abbrev LuaState := Lua.State LuaCode

abbrev LuaRun (α : Type) := Lua.Act LuaCode Note α

/-! ## Making values -/

mutual

/-- Makes the value that a literal describes; the tables around it are given innermost first. -/
def Literal.make (call : Lua.Caller LuaCode Note) (around : List Nat) : Literal → LuaRun Value
  | .nil => return .nil
  | .boolean b => return .boolean b
  | .number n => return .number n
  | .string bytes => return .string bytes
  | .table items fields => do
    let ref ← Lua.Act.update fun st => (st.tables.length, (st.newTable .empty).2)
    let values ← makeAll call (ref :: around) items
    Lua.Act.update fun st => ((), st.setTable ref { st.table ref with items := values })
    makeFields call (ref :: around) ref fields
    return .table ref
  | .enclosing levels => return (around[levels]?.map Value.table).getD .nil
  | .function action => do
    let code ← action.make call
    Lua.Act.update fun st => let (ref, st) := st.newFunction (.user code); (.function ref, st)
  | .callable action => do
    let code ← action.make call
    Lua.Act.update fun st =>
      let (ref, st) := st.newFunction (.method code)
      st.newTable { Lua.Table.empty with call := some ref }
  | .global name => Lua.getGlobal call name
  | .thread => return .thread
  | .userdata => return .userdata
  | .lightUserdata => return .lightUserdata
  | .error message => return .error (.runtime message)

def makeAll (call : Lua.Caller LuaCode Note) (around : List Nat) :
    List Literal → LuaRun (List Value)
  | [] => return []
  | l :: ls => do
    let v ← l.make call around
    return v :: (← makeAll call around ls)

def makeFields (call : Lua.Caller LuaCode Note) (around : List Nat) (ref : Nat) :
    List (Literal × Literal) → LuaRun Unit
  | [] => return
  | (key, value) :: fields => do
    let key ← key.make call around
    let value ← value.make call around
    Lua.Act.update fun st => ((), st.rawSet ref key value)
    makeFields call around ref fields

def LuaAction.make (call : Lua.Caller LuaCode Note) : LuaAction Literal → LuaRun LuaCode
  | .give values => return .give (← makeAll call [] values)
  | .echo => return .echo
  | .count => return .count
  | .raise value => return .raise (← value.make call [])
  | .module name args passOn => return .module name (← makeAll call [] args) passOn
  | .global name args passOn => return .global name (← makeAll call [] args) passOn
  | .setGlobal name value => return .setGlobal name (← value.make call [])
  | .seq actions => return .seq (← makeActions call actions)
  | .attempt action => return .attempt (← action.make call)
  | .protect action => return .protect (← action.make call)
  | .log tag => return .log tag

def makeActions (call : Lua.Caller LuaCode Note) :
    List (LuaAction Literal) → LuaRun (List LuaCode)
  | [] => return []
  | action :: actions => do
    let code ← action.make call
    return code :: (← makeActions call actions)

end

/-! ## Running code -/

def moduleField (name : String) (st : LuaState) : Value :=
  match st.moduleTable with
  | some ref => st.rawGet ref (.text name)
  | none => .nil

def callArguments (fixed : List Value) (passOn : Bool) (args : List Value) : List Value :=
  if passOn then fixed ++ args else fixed

mutual

def LuaAction.perform (call : Lua.Caller LuaCode Note) (args : List Value) :
    LuaCode → LuaRun (List Value)
  | .give values => return values
  | .echo => return args
  | .count => return [.integer (.ofNat args.length)]
  | .raise value => throw value
  | .module name fixed passOn => do
    call none (moduleField name (← Lua.Act.state)) (callArguments fixed passOn args)
  | .global name fixed passOn => do
    call none (← Lua.getGlobal call name) (callArguments fixed passOn args)
  | .setGlobal name value => Lua.Act.update fun st => ([], st.setGlobal name value)
  | .seq actions => performAllLua call args [] actions
  | .attempt action => do
    discard <| Lua.Act.protect (Lua.Act.nested (action.perform call args))
    return []
  | .protect action => Lua.Act.pcall (action.perform call args)
  | .log tag => do
    let st ← Lua.Act.state
    Lua.Act.ofRoutine (Routine.observe (.log tag (args.map (st.view Lua.viewDepth))))
    return []

def performAllLua (call : Lua.Caller LuaCode Note) (args last : List Value) :
    List LuaCode → LuaRun (List Value)
  | [] => return last
  | action :: actions => do
    let values ← action.perform call args
    performAllLua call args values actions

end

def luaInterpreter (settings : Settings) : Lua.Interpreter LuaCode Note where
  body call code args := code.perform call args
  settings := settings

/-! ## What an observer does -/

def outerCall (settings : Settings) : Lua.Caller LuaCode Note :=
  (luaInterpreter settings).call callDepth

def observe {α : Type} (act : LuaRun α) : Routine LuaState Note (Except String α) := do
  return (← act.run).mapError Lua.raisedMessage

def runAction (settings : Settings) (action : LuaAction Literal) (args : List Literal) :
    LuaRun (List Lua.View) := do
  let call := outerCall settings
  let code ← action.make call
  let args ← makeAll call [] args
  let values ← Lua.Act.nested (code.perform call args)
  return values.map ((← Lua.Act.state).view Lua.viewDepth)

def bindGlobal (settings : Settings) (name : String) (l : Literal) : LuaRun Unit := do
  let v ← l.make (outerCall settings) []
  Lua.Act.update fun st => ((), st.setGlobal name v)

/-- Has an action answer for missing globals. It gets the missing name. -/
def bindGlobalsIndex (settings : Settings) (action : LuaAction Literal) : LuaRun Unit := do
  let code ← action.make (outerCall settings)
  Lua.Act.update fun st =>
    let (f, st) := st.newFunction (.method code)
    ((), st.setTable st.globals { st.table st.globals with index := some f })

def setUpGlobals (settings : Settings) (globals : List (String × Literal))
    (index : Option (LuaAction Literal)) : LuaRun Unit := do
  globals.forM fun (name, l) => bindGlobal settings name l
  index.forM (bindGlobalsIndex settings)

def readLiteral (settings : Settings) (l : Literal) : LuaRun ScriptValue := do
  let v ← l.make (outerCall settings) []
  return (← Lua.Act.state).read v

end MatrixBridge.Scenario
