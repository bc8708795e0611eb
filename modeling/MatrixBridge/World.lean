import MatrixBridge.Crossing
import MatrixBridge.Gate

/-!
# The state of a run

The gate, the states of the two runtimes and a journal. The journal lists, oldest first, what the
bridge did: each operation it entered and left, each call it issued to a runtime and each return,
with the state of the gate at that moment. Notes that the runtimes' own code makes stand between
these entries in the order in which they were made.
-/

namespace MatrixBridge

inductive ForeignCall where
  | install (name : String)
  | start
  | evaluate (code : String) (nargout : Nat)
  | call (name : String) (args : List NumericValue) (nargout : Nat)
  | lookup (name : String)
  | assign (name : String) (value : NumericValue)
  | report (fault : NumericFault)
  | callScript (name : String) (args : List ScriptValue)

inductive Event (ν : Type) where
  | entered (c : Crossing) (gate : GateState)
  | left (c : Crossing) (reply : c.Reply) (gate : GateState)
  | called (call : ForeignCall) (gate : GateState)
  /-- A call came back, with a fault of the numeric runtime or without. -/
  | returned (call : ForeignCall) (fault : Option NumericFault) (gate : GateState)
  | note (n : ν)

namespace Event

variable {ν : Type}

def note? : Event ν → Option ν
  | .note n => some n
  | _ => none

def gate? : Event ν → Option GateState
  | .entered _ gate | .left _ _ gate | .called _ gate | .returned _ _ gate => some gate
  | .note _ => none

def call? : Event ν → Option ForeignCall
  | .called call _ => some call
  | _ => none

end Event

structure World (η ς ν : Type) where
  gate : GateState
  numeric : η
  script : ς
  journal : List (Event ν)

namespace World

variable {η ς ν : Type}

def log (w : World η ς ν) (events : List (Event ν)) : World η ς ν :=
  { w with journal := w.journal ++ events }

@[simp] theorem log_gate (w : World η ς ν) (events : List (Event ν)) :
    (w.log events).gate = w.gate := rfl

@[simp] theorem log_numeric (w : World η ς ν) (events : List (Event ν)) :
    (w.log events).numeric = w.numeric := rfl

@[simp] theorem log_script (w : World η ς ν) (events : List (Event ν)) :
    (w.log events).script = w.script := rfl

@[simp] theorem log_journal (w : World η ς ν) (events : List (Event ν)) :
    (w.log events).journal = w.journal ++ events := rfl

@[simp] theorem log_log (w : World η ς ν) (events more : List (Event ν)) :
    (w.log events).log more = w.log (events ++ more) := by
  simp [log]

end World

/-- A computation on the state of a run. Code that does not come to an end gives no result. -/
abbrev Run (η ς ν α : Type) := StateT (World η ς ν) Option α

namespace Run

variable {η ς ν α : Type}

instance : Gate.HasGate (StateT (World η ς ν) Option) where
  state := return (← get).gate
  set gate := modify fun w => { w with gate }

def record (event : GateState → Event ν) : Run η ς ν Unit :=
  modify fun w => w.log [event w.gate]

def endless : Run η ς ν α := fun _ => none

abbrev Handler (η ς ν : Type) := (c : Crossing) → Run η ς ν c.Reply

structure Place (η ς ν σ : Type) where
  read : World η ς ν → σ
  write : σ → World η ς ν → World η ς ν

def numericPlace : Place η ς ν η := ⟨World.numeric, fun s w => { w with numeric := s }⟩

def scriptPlace : Place η ς ν ς := ⟨World.script, fun s w => { w with script := s }⟩

/-- Runs code of the runtime whose state is at the given place, its crossings answered by the
handler. -/
def routine {σ : Type} (place : Place η ς ν σ) (handler : Handler η ς ν) :
    Routine σ ν α → Run η ς ν α
  | .done a => return a
  | .endless => endless
  | .look next => do routine place handler (next (place.read (← get)))
  | .store s next => do
    modify (place.write s)
    routine place handler next
  | .note n next => do
    record fun _ => .note n
    routine place handler next
  | .cross c next => do routine place handler (next (← handler c))

end Run

end MatrixBridge
