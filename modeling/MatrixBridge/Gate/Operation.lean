import MatrixBridge.Gate

/-!
# Trees of gate operations

A boot routine is arbitrary code and may use the gate it is booting for. An operation is therefore
a tree: `ensure` holds the operations that its boot routine performs, should it run at all.
-/

namespace MatrixBridge.Gate

inductive Operation where
  | look
  | require (op : String)
  /-- Asks for readiness with a boot routine that performs some operations, then fails with a
  status or succeeds. -/
  | ensure (op : String) (failure : Option Int32) (during : List Operation)

inductive Outcome where
  /-- The result, the state afterwards, and, if a boot routine ran, the outcomes of what it did. -/
  | mk (result : Except BridgeError Unit) (after : GateState) (booted : Option (List Outcome))

/-- A computation on a gate that notes what the boot routine did. -/
abbrev BootRun := StateT (Option (List Outcome)) (StateM GateState)

instance : HasGate (StateM GateState) := ⟨get, set⟩

instance : HasGate BootRun :=
  ⟨liftM (m := StateM GateState) get, fun s => liftM (m := StateM GateState) (set s)⟩

mutual

def Operation.perform : Operation → StateM GateState Outcome
  | .look => return .mk (.ok ()) (← get) none
  | .require op => do
    let result ← check op
    return .mk result (← get) none
  | .ensure op failure during => do
    let boot : BootRun (Except Int32 Unit) := do
      let outcomes ← liftM (performAll during)
      set (some outcomes)
      return failure.elim (.ok ()) .error
    let (result, booted) ← (bootThenCheck op boot).run none
    return .mk result (← get) booted

def performAll : List Operation → StateM GateState (List Outcome)
  | [] => return []
  | op :: ops => return (← op.perform) :: (← performAll ops)

end

end MatrixBridge.Gate
