import MatrixBridge.Lua.Call
import MatrixBridge.Settings

/-!
# The module functions

What Lua code calls to reach the numeric runtime. A module function first checks its arguments, by
Lua's own rules for texts and counts; only then does anything happen. A failure is raised as a
plain text through the global `error`, as it is bound at that moment.
-/

namespace MatrixBridge.Lua

inductive Request where
  | evaluate (code : String) (maxResults : Nat)
  | callFunction (name : String) (args : List ScriptValue) (maxResults : Nat)
  | readGlobal (name : String)
  | writeGlobal (name : String) (value : ScriptValue)

namespace Request

def crossing : Request → Crossing
  | .evaluate code maxResults => .evaluate code maxResults
  | .callFunction name args maxResults => .callFunction name args maxResults
  | .readGlobal name => .readGlobal name
  | .writeGlobal name value => .writeGlobal name value

def results : (request : Request) → request.crossing.Reply → Except BridgeError (List ScriptValue)
  | .evaluate _ _, reply | .callFunction _ _ _, reply => reply
  | .readGlobal _, (reply : Except BridgeError ScriptValue) => reply.map ([·])
  | .writeGlobal _ _, (reply : Except BridgeError Bool) => reply.map ([.boolean ·])

def perform {φ ν : Type} (request : Request) :
    Routine (State φ) ν (Except BridgeError (List ScriptValue)) := do
  return request.results (← Routine.request request.crossing)

end Request

/-! ## Argument checks -/

namespace Arguments

def typeNameAt (args : List Value) (position : Nat) : String :=
  (args[position - 1]?.map Value.typeName).getD "no value"

def text (op : String) (args : List Value) (position : Nat) : Except BridgeError String :=
  match args[position - 1]? with
  | some (.string bytes) => .ok bytes.toText
  | some (.number n) => .ok (NumberText.ofNumber n)
  | _ => .error (.invalidArgument op (.notText position (typeNameAt args position)))

def count (op : String) (args : List Value) (position default : Nat) : Except BridgeError Nat :=
  match args[position - 1]? with
  | none | some .nil => .ok default
  | some v => match v.integer? with
    | some n =>
      if n.toInt < 0 then .error (.invalidArgument op (.negative position)) else .ok n.toInt.toNat
    | none =>
      if v.number?.isSome then .error (.invalidArgument op (.notIntegral position))
      else .error (.invalidArgument op (.notCount position v.typeName))

end Arguments

def ModuleFunction.request {φ : Type} (settings : Settings) (st : State φ) (args : List Value) :
    ModuleFunction → Except BridgeError Request
  | .eval => do
    let code ← Arguments.text "eval" args 1
    let maxResults ← Arguments.count "eval" args 2 settings.resultLimit
    return .evaluate code maxResults
  | .feval => do
    let name ← Arguments.text "feval" args 1
    let maxResults ← Arguments.count "feval" args 2 settings.resultLimit
    return .callFunction name ((args.drop 2).map st.read) maxResults
  | .get => return .readGlobal (← Arguments.text "get" args 1)
  | .set => do
    let name ← Arguments.text "set" args 1
    match args[1]? with
    | some v => return .writeGlobal name (st.read v)
    | none => throw (.invalidArgument "set" (.absent 2))

def ModuleFunction.outcome {φ ν : Type} (settings : Settings) (f : ModuleFunction)
    (args : List Value) : Routine (State φ) ν (Except BridgeError (List ScriptValue)) := do
  match f.request settings (← Routine.state) args with
  | .ok request => request.perform
  | .error e => return .error e

/-! ## Results -/

/-- Results are put on the stack above the arguments. The wrapper around the function then drops
the arguments, and has the results on the stack twice when it returns them. -/
def pushResults {φ ν : Type} (args : Nat) (results : List ScriptValue) : Act φ ν (List Value) := do
  Act.requirePlaces (args + results.length + 9) (.error .stackExhausted)
  Act.requirePlaces (2 * results.length + 9) (.text "octlua:5: stack overflow")
  pushAll results

/-- Raises a failure as a text without a position. Should the global `error` return instead of
raising, the text is what is answered. -/
def raiseFailure {φ ν : Type} (settings : Settings) (call : Caller φ ν) (e : BridgeError) :
    Act φ ν (List Value) := do
  let message : Value := .text (e.tagged settings.errorTag)
  let raise ← getGlobal call "error"
  discard <| call (some ⟨"octlua", 4, .global "error"⟩) raise [message, .integer 0]
  return [message]

def finish {φ ν : Type} (settings : Settings) (call : Caller φ ν) (args : Nat) :
    Except BridgeError (List ScriptValue) → Act φ ν (List Value)
  | .ok results => pushResults args results
  | .error e => raiseFailure settings call e

def ModuleFunction.run {φ ν : Type} (settings : Settings) (call : Caller φ ν) (f : ModuleFunction)
    (args : List Value) : Act φ ν (List Value) := do
  finish settings call args.length (← Act.ofRoutine (f.outcome settings args))

/-- The wrapper has its arguments on the stack once more when it calls the function. -/
def wrapperPlaces (args : Nat) : Nat := 2 * args + 26

def ModuleFunction.invoke {φ ν : Type} (settings : Settings) (call : Caller φ ν)
    (f : ModuleFunction) (args : List Value) : Act φ ν (List Value) := do
  Act.requirePlaces (wrapperPlaces args.length) (.text "octlua:7: stack overflow")
  f.run settings call args

end MatrixBridge.Lua
