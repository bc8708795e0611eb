import MatrixBridge.Lua.Act
import MatrixBridge.Lua.Marshal
import MatrixBridge.Lua.NumberText

/-!
# Calls in Lua code

Code calls values through a caller it is given, so how deep calls nest is bounded in one place.
Global names are looked up when code runs, not when it is made: what a program binds to a standard
name is what is called.
-/

namespace MatrixBridge.Lua

inductive Variable where
  | global (name : String)
  /-- A variable of the code's own. -/
  | inner (name : String)

def Variable.name : Variable → String
  | .global name | .inner name => name

def Variable.description : Variable → String
  | .global name => s!"global '{name}'"
  | .inner name => s!"local '{name}'"

structure CallSite where
  chunk : String
  line : Nat
  callee : Variable

def CallSite.position (site : CallSite) : String := s!"{site.chunk}:{site.line}: "

/-- The error of a call of something that cannot be called. A call from outside Lua code has no
position. -/
def notCallable (site : Option CallSite) (v : Value) : Value :=
  let problem := s!"attempt to call a {v.luaTypeName} value"
  match site with
  | some site => .text s!"{site.position}{problem} ({site.callee.description})"
  | none => .text problem

abbrev Caller (φ ν : Type) := Option CallSite → Value → List Value → Act φ ν (List Value)

/-! ## Lookups -/

variable {φ ν : Type}

def getField (call : Caller φ ν) (ref : Nat) (key : Value) : Act φ ν Value := do
  let st ← Act.state
  match st.rawGet ref key, (st.table ref).index with
  | .nil, some f =>
    let results ← Act.nested (call none (.function f) [.table ref, key])
    return results.headD .nil
  | v, _ => return v

def getGlobal (call : Caller φ ν) (name : String) : Act φ ν Value := do
  getField call (← Act.state).globals (.text name)

def pushAll (vs : List ScriptValue) : Act φ ν (List Value) := Act.update (State.writeAll vs)

/-- Raises an error unless so many arguments of a call from the host, and the four places that it
takes besides, are on the stack. -/
def requireArguments (args : Nat) : Act φ ν Unit :=
  Act.requirePlaces (args + 4) (.error .stackExhausted)

/-- How deep the text of the chunk below nests; reading it takes room for as many calls. -/
def chunkDepth : Nat := 4

/-- The chunk has its arguments on the stack once more when it calls `select`. -/
def chunkPlaces (args : Nat) : Nat := 2 * args + 30

/-- Calls a value with arguments as the chunk `local f = ... return f(select(2, ...))` does. -/
def callThroughChunk (call : Caller φ ν) (f : Value) (args : List Value) :
    Act φ ν (List Value) := do
  Act.requireRoom chunkDepth
  requireArguments (args.length + 1)
  Act.nested do
    let select ← getGlobal call "select"
    Act.requirePlaces (chunkPlaces args.length) (.text "lua_call:1: stack overflow")
    let rest ← call (some ⟨"lua_call", 1, .global "select"⟩) select (.integer 2 :: f :: args)
    call (some ⟨"lua_call", 1, .inner "f"⟩) f rest

end MatrixBridge.Lua
