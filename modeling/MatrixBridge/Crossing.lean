import MatrixBridge.Fault

/-!
# Crossings and the code between them

The operations that cross from one runtime to the other, and the code of a runtime as the bridge
sees it. Code runs on its runtime's own state and may, at any point, cross back: a routine is a
tree whose branches are the answers it can get. Nothing else is known of a routine, so what holds
for every routine holds for every runtime, however deeply the two call each other.
-/

namespace MatrixBridge

inductive Crossing where
  | evaluate (code : String) (maxResults : Nat)
  | callFunction (name : String) (args : List ScriptValue) (maxResults : Nat)
  | readGlobal (name : String)
  | writeGlobal (name : String) (value : ScriptValue)
  | callScript (name : String) (args : List NumericValue)
  /-- Enter the builtin of the numeric runtime: the first argument names the function. -/
  | builtin (args : List NumericValue) (nargout : Nat)

def Crossing.Reply : Crossing → Type
  | .evaluate _ _ | .callFunction _ _ _ => Except BridgeError (List ScriptValue)
  | .readGlobal _ => Except BridgeError ScriptValue
  | .writeGlobal _ _ => Except BridgeError Bool
  | .callScript _ _ | .builtin _ _ => Except NumericFault (List NumericValue)

/-- Code of a runtime with state `σ`: it reads and writes the state, notes what an observer can
see, crosses to the other side, and ends with a result unless it never ends. -/
inductive Routine (σ ν α : Type) where
  | done (result : α)
  | endless
  | look (next : σ → Routine σ ν α)
  | store (state : σ) (next : Routine σ ν α)
  | note (n : ν) (next : Routine σ ν α)
  | cross (c : Crossing) (next : c.Reply → Routine σ ν α)

namespace Routine

variable {σ ν α β : Type}

def bind (r : Routine σ ν α) (f : α → Routine σ ν β) : Routine σ ν β :=
  match r with
  | .done a => f a
  | .endless => .endless
  | .look next => .look fun s => (next s).bind f
  | .store s next => .store s (next.bind f)
  | .note n next => .note n (next.bind f)
  | .cross c next => .cross c fun reply => (next reply).bind f

instance : Monad (Routine σ ν) where
  pure := .done
  bind := bind

def state : Routine σ ν σ := .look .done

def update (f : σ → α × σ) : Routine σ ν α := .look fun s => .store (f s).2 (.done (f s).1)

def modify (f : σ → σ) : Routine σ ν Unit := update fun s => ((), f s)

def observe (n : ν) : Routine σ ν Unit := .note n (.done ())

def request (c : Crossing) : Routine σ ν c.Reply := .cross c .done

end Routine

structure NumericRuntime (η ν : Type) where
  start : Routine η ν (Except NumericFault Unit)
  evaluate : String → Nat → Routine η ν (Except NumericFault (List NumericValue))
  call : String → List NumericValue → Nat → Routine η ν (Except NumericFault (List NumericValue))
  /-- The value of a global; `undefined` if it is not bound. -/
  lookup : String → Routine η ν NumericValue
  assign : String → NumericValue → Routine η ν Unit
  /-- Makes the bridge's builtin callable under a name. -/
  install : String → Routine η ν Unit
  /-- Takes a fault for the runtime's own diagnostics. -/
  report : NumericFault → Routine η ν Unit

structure ScriptRuntime (ς ν : Type) where
  /-- Calls a global function; answers every value it produced. -/
  call : String → List ScriptValue → Routine ς ν (Except ScriptFault (List ScriptValue))

end MatrixBridge
