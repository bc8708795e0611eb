import MatrixBridge.Bridge.ToNumeric

/-!
# From the numeric runtime to the scripting one

The builtin takes the name of a global function and its arguments. It never boots anything: unless
the gate is ready the call is refused. All results come back, however many were asked for, and
every failure is an execution fault of the numeric runtime.
-/

namespace MatrixBridge.Bridge

variable {η ς ν : Type}

def exportArguments (name : String) (args : List NumericValue) :
    Except BridgeError (List ScriptValue) :=
  convertAll NumericValue.toScript
    (fun position cause => .invalidArgument "lua" (.unconvertible position name cause)) args

/-- The results of a call in the numeric runtime's values. A sole result is named without a
position. -/
def importResults (name : String) (results : List ScriptValue) :
    Except BridgeError (List NumericValue) :=
  convertAll ScriptValue.toNumeric
    (fun position cause => .unconvertibleResult "lua"
      (if results.length = 1 then .returned name cause else .returnedAt position name cause))
    results

def callFailure (name : String) : ScriptFault → BridgeError
  | .raised message => .executionFailed "lua" (.raised name message)
  | .missing => .callTargetMissing "lua" name ScriptFault.missing.message

def issueScript {α : Type} (handler : Run.Handler η ς ν) (call : ForeignCall)
    (code : Routine ς ν α) : Run η ς ν α :=
  issue call noFault (Run.routine Run.scriptPlace handler code)

variable (b : Bridge η ς ν) (handler : Run.Handler η ς ν)

def relay (name : String) (args : List NumericValue) :
    Operation η ς ν (List NumericValue) := do
  ExceptT.mk (Gate.check "lua")
  let inputs ← Operation.convert (exportArguments name args)
  let outcome ← Operation.step (issueScript handler (.callScript name inputs)
    (b.script.call name inputs))
  let results ← Operation.convert (outcome.mapError (callFailure name))
  Operation.convert (importResults name results)

def callScript (name : String) (args : List NumericValue) :
    Run η ς ν (Except NumericFault (List NumericValue)) := do
  return (← (b.relay handler name args).run).mapError BridgeError.toNumericFault

def target? : List NumericValue → Option (String × List NumericValue)
  | .text [name] :: args => some (name, args)
  | _ => none

def usageFault : NumericFault := .execution s!"Invalid call to {b.usageName}"

/-- The builtin. The number of results asked for does not matter to it. -/
def runBuiltin (args : List NumericValue) (_nargout : Nat) :
    Run η ς ν (Except NumericFault (List NumericValue)) :=
  match target? args with
  | some (name, args) => b.callScript handler name args
  | none => return .error b.usageFault

end MatrixBridge.Bridge
