import MatrixBridge.Scenario.Note

/-!
# A numeric runtime of actions

The host has functions, programs and globals by name. A function is an action or the builtin of the
bridge; a program is the action of a piece of code. Results are never cut to the number asked for.
-/

namespace MatrixBridge.Scenario

inductive HostAction where
  | give (values : List NumericValue)
  | echo
  /-- Answers the scalars from one to a number. -/
  | fill (n : Nat)
  | nargout
  | fault (fault : NumericFault)
  /-- Calls a function, with its own arguments behind the given ones if they are passed on. -/
  | call (name : String) (args : List NumericValue) (passOn : Bool) (nargout : Option Nat)
  | eval (code : String)
  | assign (name : String) (value : NumericValue)
  | seq (actions : List HostAction)
  /-- Answers nothing instead of failing. -/
  | attempt (action : HostAction)

inductive HostFunction where
  | action (action : HostAction)
  | builtin

/-- The state of the host. The first binding of a name counts. -/
structure Host where
  start : HostAction
  functions : List (String × HostFunction)
  programs : List (String × HostAction)
  globals : List (String × NumericValue)

abbrev HostRun (α : Type) := Routine Host Note α

abbrev HostOutcome := Except NumericFault (List NumericValue)

inductive HostCall where
  | function (name : String) (args : List NumericValue)
  | code (text : String)

namespace Host

def bindGlobal (name : String) (value : NumericValue) (h : Host) : Host :=
  { h with globals := (name, value) :: h.globals }

def global (h : Host) (name : String) : NumericValue := (h.globals.lookup name).getD .undefined

@[simp] theorem global_bindGlobal (name : String) (value : NumericValue) (h : Host) :
    (h.bindGlobal name value).global name = value := by
  simp [global, bindGlobal]

end Host

mutual

def HostAction.perform (call : HostCall → Nat → HostRun HostOutcome) (args : List NumericValue)
    (nargout : Nat) : HostAction → HostRun HostOutcome
  | .give values => return .ok values
  | .echo => return .ok args
  | .fill n => return .ok ((List.range n).map fun i => .scalar (.ofNat (i + 1)))
  | .nargout => return .ok [.scalar (.ofNat nargout)]
  | .fault fault => return .error fault
  | .call name fixed passOn own =>
    call (.function name (if passOn then fixed ++ args else fixed)) (own.getD nargout)
  | .eval code => call (.code code) nargout
  | .assign name value => do
    Routine.modify (Host.bindGlobal name value)
    return .ok []
  | .seq actions => performAll call args nargout (.ok []) actions
  | .attempt action => do
    match ← action.perform call args nargout with
    | .ok values => return .ok values
    | .error _ => return .ok []

def performAll (call : HostCall → Nat → HostRun HostOutcome) (args : List NumericValue)
    (nargout : Nat) (last : HostOutcome) : List HostAction → HostRun HostOutcome
  | [] => return last
  | action :: actions => do
    match ← action.perform call args nargout with
    | .ok values => performAll call args nargout (.ok values) actions
    | .error fault => return .error fault

end

namespace Host

def undefined (name : String) : HostOutcome := .error (.execution s!"'{name}' undefined")

/-- Notes a call and answers it. Calls that nest deeper than the bound do not end. -/
def answer : Nat → HostCall → Nat → HostRun HostOutcome
  | 0, _, _ => .endless
  | depth + 1, .function name args, nargout => do
    Routine.observe (.call (.call name args nargout))
    match (← Routine.state).functions.lookup name with
    | some (.action action) => action.perform (answer depth) args nargout
    | some .builtin => Routine.request (.builtin args nargout)
    | none => return undefined name
  | depth + 1, .code code, nargout => do
    Routine.observe (.call (.evaluate code nargout))
    let h ← Routine.state
    match h.programs.lookup code, h.global code with
    | some action, _ => action.perform (answer depth) [] nargout
    | none, .undefined => return undefined code
    | none, value => return .ok [value]

def startUp : HostRun (Except NumericFault Unit) := do
  Routine.observe (.call .start)
  let outcome ← (← Routine.state).start.perform (answer callDepth) [] 0
  return outcome.map fun _ => ()

def runtime : NumericRuntime Host Note where
  start := startUp
  evaluate code nargout := answer callDepth (.code code) nargout
  call name args nargout := answer callDepth (.function name args) nargout
  lookup name := do
    Routine.observe (.call (.lookup name))
    return (← Routine.state).global name
  assign name value := do
    Routine.observe (.call (.assign name value))
    Routine.modify (bindGlobal name value)
  install name := do
    Routine.observe (.call (.install name))
    Routine.modify fun h => { h with functions := (name, .builtin) :: h.functions }
  report fault := Routine.observe (.call (.report fault))

end Host

end MatrixBridge.Scenario
