import MatrixBridge.Codec

/-!
# Failures of a crossing

A crossing fails with a `BridgeError`. Toward the numeric runtime it becomes an execution fault,
toward the scripting runtime a tagged text; the two runtimes' own failures are `NumericFault` and
`ScriptFault`. Each failure is kept as its cause, and its wording is in one function. Positions
count from one.
-/

namespace MatrixBridge

inductive NumericFault where
  | execution (message : String)
  | exit (status : Int32)
deriving DecidableEq

def NumericFault.message : NumericFault → String
  | .execution message => message
  | .exit status => s!"interpreter exited with status {status.toInt}"

inductive ScriptFault where
  | missing
  | raised (message : String)
deriving DecidableEq

def ScriptFault.message : ScriptFault → String
  | .missing => "is not defined"
  | .raised message => message

inductive ArgumentProblem where
  | noFunctionName
  | unconvertible (position : Nat) (callee : String) (cause : CodecError)
  | unassignable (name : String) (cause : CodecError)
  | notText (position : Nat) (found : String)
  | notCount (position : Nat) (found : String)
  | notIntegral (position : Nat)
  | negative (position : Nat)
  | absent (position : Nat)
  /-- A problem that the caller words itself. -/
  | stated (message : String)
deriving DecidableEq

def ArgumentProblem.message : ArgumentProblem → String
  | .noFunctionName => "expected function name"
  | .unconvertible position callee cause =>
    s!"invalid argument #{position} in call to function '{callee}' ({cause.message})"
  | .unassignable name cause => s!"cannot assign '{name}' ({cause.message})"
  | .notText position found => s!"bad argument #{position} (string expected, got {found})"
  | .notCount position found => s!"bad argument #{position} (number expected, got {found})"
  | .notIntegral position => s!"bad argument #{position} (number has no integer representation)"
  | .negative position => s!"bad argument #{position} (non-negative integer expected)"
  | .absent position => s!"bad argument #{position} (value expected)"
  | .stated message => message

inductive ExecutionProblem where
  | numeric (fault : NumericFault)
  /-- The called function of the scripting runtime raised a message. -/
  | raised (callee message : String)
  | stated (message : String)
deriving DecidableEq

def ExecutionProblem.message : ExecutionProblem → String
  | .numeric (.execution message) => s!"numeric runtime error: {message}"
  | .numeric (.exit status) => s!"numeric interpreter exited with status {status.toInt}"
  | .raised callee message => s!"exception in call to function '{callee}'\n{message}"
  | .stated message => message

inductive ResultProblem where
  | result (position : Nat) (cause : CodecError)
  | global (name : String) (cause : CodecError)
  /-- The one value that a function of the scripting runtime returned. -/
  | returned (callee : String) (cause : CodecError)
  | returnedAt (position : Nat) (callee : String) (cause : CodecError)
  | stated (message : String)
deriving DecidableEq

def ResultProblem.message : ResultProblem → String
  | .result position cause => s!"unknown numeric value in result #{position} ({cause.message})"
  | .global name cause => s!"unknown numeric value '{name}' ({cause.message})"
  | .returned callee cause =>
    s!"invalid return value in call to function '{callee}'\n{cause.message}"
  | .returnedAt position callee cause =>
    s!"invalid return value #{position} in call to function '{callee}'\n{cause.message}"
  | .stated message => message

/-- Why a crossing failed, with the name of the operation that failed. -/
inductive BridgeError where
  | invalidArgument (op : String) (problem : ArgumentProblem)
  /-- The numeric runtime has not started, or could not. -/
  | runtimeNotReady (op : String)
  | executionFailed (op : String) (problem : ExecutionProblem)
  | unconvertibleResult (op : String) (problem : ResultProblem)
  | callTargetMissing (op name reason : String)
deriving DecidableEq

namespace BridgeError

def message : BridgeError → String
  | .invalidArgument op problem => s!"{op}: {problem.message}"
  | .runtimeNotReady op => s!"{op}: numeric runtime not initialized"
  | .executionFailed op problem => s!"{op}: {problem.message}"
  | .unconvertibleResult op problem => s!"{op}: {problem.message}"
  | .callTargetMissing op name reason => s!"{op}: function '{name}' {reason}"

def toNumericFault (e : BridgeError) : NumericFault := .execution e.message

/-- The failure as the scripting runtime sees it: its message behind a tag. -/
def tagged (e : BridgeError) (tag : String) : String := s!"{tag}: {e.message}"

end BridgeError

end MatrixBridge
