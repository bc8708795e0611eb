import MatrixBridge.Lua.Module
import MatrixBridge.Lua.Standard

/-!
# The Lua interpreter and its runtime

The interpreter is given the meaning of user code and the settings of the module; it ties calls
together, and bounds how deep Lua code calls Lua code. As a scripting runtime it calls globals by
name and reads what they return; an error that leaves Lua is reduced to the text of its message.
-/

namespace MatrixBridge.Lua

/-! ## Errors that leave Lua -/

/-- An error value as text: a string as it is, numbers as Lua writes them, constants by name. An
object is the bare name of its type, where Lua adds an address or asks `__tostring` and `__name`. -/
def Value.errorText : Value → Bytes
  | .string bytes => bytes
  | .number n => .ofText (NumberText.ofNumber n)
  | .boolean b => .ofText (toString b)
  | v => .ofText v.luaTypeName

/-- The error that reaches the host when Lua code raises a value. Its text ends at the first zero
byte, and a traceback is put behind it. -/
def Failure.ofRaised : Value → Failure
  | .error failure => failure
  | v =>
    .runtime (Bytes.toText (v.errorText.takeWhile (· ≠ 0)) ++ tracebackMark ++ "\n\t[C]: in ?")

def raisedMessage (v : Value) : String := (Failure.ofRaised v).message

/-! ## Calls -/

structure Interpreter (φ ν : Type) where
  /-- What code does with its arguments, given the way to call values. -/
  body : Caller φ ν → φ → List Value → Act φ ν (List Value)
  settings : Settings

namespace Interpreter

variable {φ ν : Type} (I : Interpreter φ ν)

def apply (call : Caller φ ν) (site : Option CallSite) (callee : Value) :
    Closure φ → List Value → Act φ ν (List Value)
  | .user code, args => I.body call code args
  | .method code, args => I.body call code (args.drop 1)
  | .standard f, args => f.run site callee args
  | .module f, args => f.invoke I.settings call args

def call : Nat → Caller φ ν
  | 0, _, _, _ => throw (.text "stack overflow")
  | depth + 1, site, f, args => do
    match (← Act.state).callee? f args with
    | some (closure, args) => I.apply (call depth) site f closure args
    | none => throw (notCallable site f)

def callFromHost (depth : Nat) (f : Value) (args : List Value) : Act φ ν (List Value) := do
  requireArguments args.length
  Act.nested (I.call depth none f args)

/-- Calls a global: a function directly, any other value through a chunk, so that metamethods work
and Lua itself words the error of a value that cannot be called. Nothing is called for `nil`. -/
def lookUpAndCall (depth : Nat) (name : String) (args : List ScriptValue) :
    Act φ ν (Option (List Value)) := do
  let target ← Act.nested (getGlobal (I.call depth) name)
  let args ← pushAll args
  match target with
  | .nil => return none
  | .function _ => return some (← I.callFromHost depth target args)
  | _ => return some (← callThroughChunk (I.call depth) target args)

def callNamed (depth : Nat) (name : String) (args : List ScriptValue) :
    Routine (State φ) ν (Except ScriptFault (List ScriptValue)) := do
  if (← Routine.state).closed then
    return .error (.raised "lua state is closed")
  match ← (I.lookUpAndCall depth name args).run with
  | .error v => return .error (.raised (raisedMessage v))
  | .ok none => return .error .missing
  | .ok (some results) => return .ok (results.map (← Routine.state).read)

def runtime (depth : Nat) : ScriptRuntime (State φ) ν := ⟨I.callNamed depth⟩

end Interpreter

end MatrixBridge.Lua
