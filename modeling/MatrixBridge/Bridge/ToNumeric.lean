import MatrixBridge.World

/-!
# From the scripting runtime to the numeric one

Every operation follows one order: the gate first, which may boot the numeric runtime; then the
arguments, the first bad one ending the operation before anything is called; then the call; then
the results, the first bad one failing them all. An execution fault of the called code is handed
to the numeric runtime's own diagnostics; a request to exit is not.
-/

namespace MatrixBridge

abbrev Operation (η ς ν α : Type) := ExceptT BridgeError (Run η ς ν) α

namespace Operation

variable {η ς ν α : Type}

def step (run : Run η ς ν α) : Operation η ς ν α := ExceptT.lift run

def convert (outcome : Except BridgeError α) : Operation η ς ν α := ExceptT.mk (pure outcome)

end Operation

/-- The two runtimes, and the builtin through which the numeric one calls back. -/
structure Bridge (η ς ν : Type) where
  numeric : NumericRuntime η ν
  script : ScriptRuntime ς ν
  /-- The name of the builtin in its usage message. -/
  usageName : String
  /-- The name under which the builtin is installed at boot, if it is. -/
  installAs : Option String

namespace Bridge

variable {η ς ν α : Type}

def issue (call : ForeignCall) (fault : α → Option NumericFault) (run : Run η ς ν α) :
    Run η ς ν α := do
  Run.record (.called call)
  let a ← run
  Run.record (.returned call (fault a))
  return a

def fault? : Except NumericFault α → Option NumericFault
  | .error fault => some fault
  | .ok _ => none

def noFault (_ : α) : Option NumericFault := none

def issueNumeric (handler : Run.Handler η ς ν) (call : ForeignCall)
    (fault : α → Option NumericFault) (code : Routine η ν α) : Run η ς ν α :=
  issue call fault (Run.routine Run.numericPlace handler code)

variable (b : Bridge η ς ν) (handler : Run.Handler η ς ν)

/-- Hands a fault to the numeric runtime's diagnostics, unless it is a request to exit. -/
def report : NumericFault → Run η ς ν Unit
  | .exit _ => return
  | fault => issueNumeric handler (.report fault) noFault (b.numeric.report fault)

def installBuiltin : Run η ς ν Unit :=
  match b.installAs with
  | some name => issueNumeric handler (.install name) noFault (b.numeric.install name)
  | none => return

def startRuntime : Run η ς ν (Except Int32 Unit) := do
  match ← issueNumeric handler .start fault? b.numeric.start with
  | .ok () => return .ok ()
  | .error fault =>
    b.report handler fault
    return .error (Gate.startStatus fault)

/-- Boots the numeric runtime. The builtin is installed first, so it exists while start-up code
runs, and the gate keeps it closed until the start has succeeded. -/
def boot : Run η ς ν (Except Int32 Unit) := do
  b.installBuiltin handler
  b.startRuntime handler

def letThrough (op : String) : Operation η ς ν Unit :=
  Gate.bootThenCheck op (b.boot handler)

def execute (op : String) (call : ForeignCall)
    (code : Routine η ν (Except NumericFault (List NumericValue))) :
    Operation η ς ν (List NumericValue) := do
  match ← Operation.step (issueNumeric handler call fault? code) with
  | .ok values => return values
  | .error fault =>
    Operation.step (b.report handler fault)
    throw (.executionFailed op (.numeric fault))

def exportResults (op : String) (values : List NumericValue) (maxResults : Nat) :
    Except BridgeError (List ScriptValue) :=
  convertAll NumericValue.toScript
    (fun position cause => .unconvertibleResult op (.result position cause))
    (values.take maxResults)

/-- Evaluates code and answers at most `maxResults` values. No code is no call. -/
def evaluate (code : String) (maxResults : Nat) :
    Operation η ς ν (List ScriptValue) := do
  b.letThrough handler "eval"
  if code.isEmpty then return []
  let values ← b.execute handler "eval" (.evaluate code maxResults)
    (b.numeric.evaluate code maxResults)
  Operation.convert (exportResults "eval" values maxResults)

def importArguments (name : String) (args : List ScriptValue) :
    Except BridgeError (List NumericValue) :=
  convertAll ScriptValue.toNumeric
    (fun position cause => .invalidArgument "feval" (.unconvertible position name cause)) args

def callFunction (name : String) (args : List ScriptValue) (maxResults : Nat) :
    Operation η ς ν (List ScriptValue) := do
  b.letThrough handler "feval"
  if name.isEmpty then throw (.invalidArgument "feval" .noFunctionName)
  let inputs ← Operation.convert (importArguments name args)
  let values ← b.execute handler "feval" (.call name inputs maxResults)
    (b.numeric.call name inputs maxResults)
  Operation.convert (exportResults "feval" values maxResults)

def readGlobal (name : String) : Operation η ς ν ScriptValue := do
  b.letThrough handler "get"
  let value ← Operation.step
    (issueNumeric handler (.lookup name) noFault (b.numeric.lookup name))
  Operation.convert
    (value.toScript.mapError fun cause => .unconvertibleResult "get" (.global name cause))

def writeGlobal (name : String) (value : ScriptValue) :
    Operation η ς ν Bool := do
  b.letThrough handler "set"
  let value ← Operation.convert
    (value.toNumeric.mapError fun cause => .invalidArgument "set" (.unassignable name cause))
  Operation.step
    (issueNumeric handler (.assign name value) noFault (b.numeric.assign name value))
  return true

end Bridge

end MatrixBridge
