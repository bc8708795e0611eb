import MatrixBridge.Lua.Value

/-!
# The Lua state

The objects of a state, and the places where it starts to look for them: the global table and the
table of loaded modules. A function is a closure over code of type `φ`, of which the state knows
nothing but that it can be called; the interpreter gives it its meaning.
-/

namespace MatrixBridge.Lua

inductive ModuleFunction where
  | eval
  | feval
  | get
  | set
deriving DecidableEq, Repr

def ModuleFunction.name : ModuleFunction → String
  | .eval => "eval"
  | .feval => "feval"
  | .get => "get"
  | .set => "set"

def ModuleFunction.all : List ModuleFunction := [.eval, .feval, .get, .set]

inductive StandardFunction where
  | error
  | select
  | require
  /-- A function that the bridge never calls. -/
  | other (name : String)

inductive Closure (φ : Type) where
  | user (code : φ)
  /-- User code that is called as a metamethod and does not see the object it is called on. -/
  | method (code : φ)
  | standard (function : StandardFunction)
  | module (function : ModuleFunction)

structure State (φ : Type) where
  tables : List Table
  closures : List (Closure φ)
  globals : Nat
  /-- The table of loaded modules, in which `require` looks first. -/
  loaded : Nat
  /-- The table of the bridge's module, once it is open. -/
  moduleTable : Option Nat
  /-- How many calls that count as nested have not returned. -/
  nesting : Nat
  /-- The owner has dropped the state. -/
  closed : Bool

namespace State

variable {φ : Type}

def table (st : State φ) (ref : Nat) : Table := st.tables.getD ref .empty

def setTable (st : State φ) (ref : Nat) (t : Table) : State φ :=
  { st with tables := st.tables.set ref t }

def newTable (t : Table) (st : State φ) : Value × State φ :=
  (.table st.tables.length, { st with tables := st.tables ++ [t] })

def newFunction (c : Closure φ) (st : State φ) : Nat × State φ :=
  (st.closures.length, { st with closures := st.closures ++ [c] })

def rawSet (ref : Nat) (key value : Value) (st : State φ) : State φ :=
  st.setTable ref ((st.table ref).rawSet key value)

def rawGet (st : State φ) (ref : Nat) (key : Value) : Value := (st.table ref).rawGet key

def global (st : State φ) (name : String) : Value := st.rawGet st.globals (.text name)

def setGlobal (name : String) (value : Value) (st : State φ) : State φ :=
  st.rawSet st.globals (.text name) value

/-- What a call of a value runs, and with which arguments: a function takes them as they are, the
metamethod of a table gets the table in front. -/
def callee? (st : State φ) (v : Value) (args : List Value) : Option (Closure φ × List Value) :=
  match v with
  | .function ref => (st.closures[ref]?).map (·, args)
  | .table ref => do
    let f ← (st.table ref).call
    let c ← st.closures[f]?
    return (c, v :: args)
  | _ => none

/-! ## The state before anything has run -/

def standardFunctions : List (String × StandardFunction) :=
  [("error", .error), ("select", .select), ("require", .require)] ++
    ["assert", "collectgarbage", "dofile", "getmetatable", "ipairs", "load", "loadfile", "next",
      "pairs", "pcall", "print", "rawequal", "rawget", "rawlen", "rawset", "setmetatable",
      "tonumber", "tostring", "type", "warn", "xpcall"].map fun name => (name, .other name)

def libraryTables : List String := ["coroutine", "io", "math", "os", "string", "table", "utf8"]

def defineGlobal (name : String) (c : Closure φ) (st : State φ) : State φ :=
  let (f, st) := st.newFunction c
  st.setGlobal name (.function f)

def defineLibrary (name : String) (t : Table) (st : State φ) : State φ :=
  let (v, st) := st.newTable t
  (st.setGlobal name v).rawSet st.loaded (.text name) v

def fresh : State φ :=
  let st : State φ := ⟨[.empty, .empty], [], 0, 1, none, 0, false⟩
  let st := (st.setGlobal "_G" (.table 0)).setGlobal "_VERSION" (.text "Lua 5.4")
  let st := st.rawSet st.loaded (.text "_G") (.table 0)
  let st := standardFunctions.foldl (fun st (name, f) => st.defineGlobal name (.standard f)) st
  let st := libraryTables.foldl (fun st name => st.defineLibrary name .empty) st
  st.defineLibrary "package" (Table.empty.rawSet (.text "loaded") (.table st.loaded))

end State

end MatrixBridge.Lua
