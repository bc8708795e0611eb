import MatrixBridge.Fault

/-!
# The gate of the numeric runtime

The numeric runtime is started at most once, by the first operation that needs it, and the outcome
stands for good: an interpreter that failed to start is never started again. While the start
routine runs the gate is closed to everything that the routine itself may call.
-/

namespace MatrixBridge

inductive GateState where
  | uninitialized
  | booting
  | ready
  | failed (status : Int32)
deriving DecidableEq

namespace Gate

def exitStatus : Int32 := -1

def faultStatus : Int32 := -2

/-- The status kept when the start ended in a fault. A request to exit leaves the same one whatever
status it asked for. -/
def startStatus : NumericFault → Int32
  | .exit _ => exitStatus
  | .execution _ => faultStatus

def passage (op : String) : GateState → Except BridgeError Unit
  | .ready => .ok ()
  | _ => .error (.runtimeNotReady op)

def settle : Except Int32 Unit → GateState
  | .ok () => .ready
  | .error status => .failed status

/-- Access to the one gate that a computation shares with everything it calls. -/
class HasGate (m : Type → Type) where
  state : m GateState
  set : GateState → m Unit

variable {m : Type → Type} [Monad m] [HasGate m]

def check (op : String) : m (Except BridgeError Unit) := do
  return passage op (← HasGate.state)

/-- Runs the boot routine if no operation has asked before, then lets the operation through if the
gate is ready. -/
def bootThenCheck (op : String) (boot : m (Except Int32 Unit)) : m (Except BridgeError Unit) := do
  if (← HasGate.state) = .uninitialized then
    HasGate.set .booting
    let outcome ← boot
    HasGate.set (settle outcome)
  check op

end Gate

end MatrixBridge
