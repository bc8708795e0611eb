import MatrixBridge.Crossing
import MatrixBridge.Lua.State

/-!
# Computations of Lua

Lua code is a routine on the Lua state that ends in values or raises one. Calls from outside Lua
code, protected calls and metamethods nest at most so deep: the state counts the ones that have not
returned, and one too many raises an error.

The values of a call have to fit on a stack. What is counted is what the bridge itself puts there:
the arguments and the results of a module function, and the arguments of a global that the host
calls. Each call is measured as if the stack were empty before it. The places that calls around it
hold, and those that user code and the standard functions take for themselves, are left out.
-/

namespace MatrixBridge.Lua

abbrev Act (φ ν α : Type) := ExceptT Value (Routine (State φ) ν) α

def nestingLimit : Nat := 200

def stackLimit : Nat := 1000000

namespace Act

variable {φ ν α : Type}

def ofRoutine (code : Routine (State φ) ν α) : Act φ ν α := ExceptT.lift code

def state : Act φ ν (State φ) := ofRoutine Routine.state

def update (f : State φ → α × State φ) : Act φ ν α := ofRoutine (Routine.update f)

def endless : Act φ ν α := ofRoutine .endless

def protect (act : Act φ ν α) : Act φ ν (Except Value α) := ofRoutine act.run

def requireRoom (calls : Nat) : Act φ ν Unit := do
  if nestingLimit ≤ (← state).nesting + calls then throw (.text "C stack overflow")

def requirePlaces (places : Nat) (overflow : Value) : Act φ ν Unit := do
  if stackLimit < places then throw overflow

/-- Runs code one level deeper. The level is left however the code ends. -/
def nested (act : Act φ ν α) : Act φ ν α := do
  requireRoom 1
  update fun st => ((), { st with nesting := st.nesting + 1 })
  let outcome ← protect act
  update fun st => ((), { st with nesting := st.nesting - 1 })
  ExceptT.mk (pure outcome)

/-- A protected call: it answers `true` and the results, or `false` and the raised value. -/
def pcall (act : Act φ ν (List Value)) : Act φ ν (List Value) := do
  match ← protect (nested act) with
  | .ok values => return .boolean true :: values
  | .error v => return [.boolean false, v]

end Act

end MatrixBridge.Lua
