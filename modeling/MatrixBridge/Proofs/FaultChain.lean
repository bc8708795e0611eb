import MatrixBridge.Proofs.RaisedText
import MatrixBridge.Proofs.StandardGlobals
import MatrixBridge.Proofs.Transport

/-! # Faults that pass through both runtimes

Lua code calls a numeric function, which calls a Lua function, which calls a numeric function, and
so on down to one that fails. When every function in between lets the failure pass, each level puts
its words in front of the text it gets and leaves that text as it is. -/

namespace MatrixBridge

/-- The text that reaches Lua code when a numeric function that it called fails behind some Lua
functions, the outermost one first. -/
def chainText (tag : String) (fault : NumericFault) : List String → String
  | [] => match fault with
    | .execution message => s!"{tag}: feval: numeric runtime error: {message}"
    | .exit status => s!"{tag}: feval: numeric interpreter exited with status {status.toInt}"
  | g :: gs =>
    s!"{tag}: feval: numeric runtime error: lua: exception in call to function '{g}'\n" ++
      chainText tag fault gs

def chainFault (tag : String) (fault : NumericFault) : List String → NumericFault
  | [] => fault
  | g :: gs => .execution s!"lua: exception in call to function '{g}'\n{chainText tag fault gs}"

theorem append_join (a b c d : String) : a ++ b ++ (c ++ d) = a ++ (b ++ c) ++ d := by
  simp only [String.append_assoc]

theorem executionFailed_tagged (tag : String) (problem : ExecutionProblem) :
    (BridgeError.executionFailed "feval" problem).tagged tag =
      tag ++ ": feval: " ++ problem.message :=
  append_join tag ": " ("feval" ++ ": ") problem.message

theorem chainFault_tagged (tag : String) (fault : NumericFault) (names : List String) :
    (BridgeError.executionFailed "feval" (.numeric (chainFault tag fault names))).tagged tag =
      chainText tag fault names := by
  rw [executionFailed_tagged]
  cases names with
  | nil =>
    cases fault with
    | execution message => exact append_join _ _ _ _
    | exit status => exact append_join _ _ _ _
  | cons g gs =>
    have hMessage : (ExecutionProblem.numeric (chainFault tag fault (g :: gs))).message =
        "numeric runtime error: " ++ ("lua: exception in call to function '" ++ g ++ "'\n" ++
          chainText tag fault gs) := rfl
    rw [hMessage, append_join, ← String.append_assoc, ← String.append_assoc, append_join]
    rfl

/-- Where no part of it holds the words that introduce a traceback, neither does the text. -/
theorem chainText_isPlain {tag : String} {fault : NumericFault} {names : List String}
    (hTag : Lua.IsPlain tag) (hFault : Lua.IsPlain fault.message)
    (hNames : ∀ g ∈ names, Lua.IsPlain g) : Lua.IsPlain (chainText tag fault names) := by
  induction names with
  | nil =>
    cases fault with
    | execution message => exact hTag.join hFault rfl
    | exit status =>
      have hJoin : Lua.IsPlain (tag ++ ": feval: numeric " ++ NumericFault.message (.exit status)) :=
        hTag.join hFault rfl
      have hMessage : NumericFault.message (.exit status) =
          "interpreter exited with status " ++ toString status.toInt := rfl
      rw [hMessage, append_join] at hJoin
      exact hJoin
  | cons g gs ih =>
    have hName := hNames g List.mem_cons_self
    have hRest := ih fun name hMem => hNames name (List.mem_cons_of_mem g hMem)
    exact (hTag.join hName rfl).join hRest rfl

namespace Lua

variable {η φ ν ε α β : Type}

/-! ## Frames that let a failure pass -/

/-- The numeric runtime is ready, the Lua state is open, and the global `error` is the standard
function. -/
structure Calm (w : World η (State φ) ν) : Prop where
  ready : w.gate = .ready
  isOpen : w.script.closed = false
  error : w.script.IsStandard "error" .error

theorem Calm.log {w : World η (State φ) ν} (h : Calm w) (events : List (Event ν)) :
    Calm (w.log events) := ⟨h.ready, h.isOpen, h.error⟩

theorem Calm.nesting {w : World η (State φ) ν} (h : Calm w) (n : Nat) :
    Calm { w with script.nesting := n } := ⟨h.ready, h.isOpen, h.error.nesting n⟩

/-- The code comes to a call, and a failure that the call ends in the code ends in, too. -/
def LetsPass (code : Run η (State φ) ν (Except ε α)) (w : World η (State φ) ν)
    (call : Run η (State φ) ν (Except ε β)) (v : World η (State φ) ν) : Prop :=
  ∃ next : Except ε β → Run η (State φ) ν (Except ε α), code.run w = (call >>= next).run v ∧
    ∀ e u, call.run v = some (.error e, u) → Calm u →
      ∃ u', Calm u' ∧ (next (.error e)).run u = some (.error e, u')

theorem LetsPass.run {code : Run η (State φ) ν (Except ε α)}
    {call : Run η (State φ) ν (Except ε β)} {w v u : World η (State φ) ν} {e : ε}
    (h : LetsPass code w call v) (hCall : call.run v = some (.error e, u)) (hCalm : Calm u) :
    ∃ u', Calm u' ∧ code.run w = some (.error e, u') := by
  obtain ⟨next, hCode, hNext⟩ := h
  obtain ⟨u', hKept, hEnd⟩ := hNext e u hCall hCalm
  exact ⟨u', hKept, by rw [hCode, Run.run_bind_of hCall, hEnd]⟩

theorem letsPass_of_eq {code call : Run η (State φ) ν (Except ε α)} {w v : World η (State φ) ν}
    (h : code.run w = call.run v) : LetsPass code w call v :=
  ⟨pure, by rw [h, bind_pure], fun _ u _ hCalm => ⟨u, hCalm, rfl⟩⟩

def callBuiltin (b : Bridge η (State φ) ν) (depth : Nat) (args : List NumericValue)
    (nargout : Nat) : Run η (State φ) ν (Except NumericFault (List NumericValue)) :=
  b.enter depth (.builtin args nargout)

/-- A call of `feval` with these arguments calls the numeric function of the name with the inputs. -/
structure CallsNumeric (settings : Settings) (w : World η (State φ) ν) (args : List Value)
    (name : String) (values : List ScriptValue) (inputs : List NumericValue) (n : Nat) : Prop where
  request : ModuleFunction.feval.request settings w.script args =
    .ok (.callFunction name values n)
  named : name.isEmpty = false
  inputs : Bridge.importArguments name values = .ok inputs

def numericStart (w : World η (State φ) ν) (name : String) (values : List ScriptValue)
    (inputs : List NumericValue) (n : Nat) : World η (State φ) ν :=
  (w.log [.entered (.callFunction name values n) w.gate]).log [.called (.call name inputs n) w.gate]

def scriptCalled (w : World η (State φ) ν) (name : String) (args : List NumericValue)
    (nargout : Nat) (inputs : List ScriptValue) : World η (State φ) ν :=
  (w.log [.entered (.builtin (.text [name] :: args) nargout) w.gate]).log
    [.called (.callScript name inputs) w.gate]

def scriptStart (w : World η (State φ) ν) (name : String) (args : List NumericValue) (nargout : Nat)
    (inputs : List ScriptValue) : World η (State φ) ν :=
  { scriptCalled w name args nargout inputs with
    script := { (State.writeAll inputs w.script).2 with nesting := w.script.nesting + 1 } }

inductive Frame where
  | feval (args : List Value)
  | builtin (args : List NumericValue) (nargout : Nat)

/-- The call leads through Lua functions of these names, the outermost one first, to a numeric
function that ends in the fault, and all code in between lets the failure pass. -/
inductive Leads (b : Bridge η (State φ) ν) (I : Interpreter φ ν) (luaDepth : Nat)
    (fault : NumericFault) : Nat → World η (State φ) ν → Frame → List String → Prop
  | fails {depth n : Nat} {w v : World η (State φ) ν} {args : List Value} {name : String}
      {values : List ScriptValue} {inputs : List NumericValue} (hCalm : Calm w)
      (hCalls : CallsNumeric I.settings w args name values inputs n)
      (hFails : (Run.routine Run.numericPlace (b.enter depth) (b.numeric.call name inputs n)).run
        (numericStart w name values inputs n) = some (.error fault, v)) (hKept : Calm v) :
      Leads b I luaDepth fault (depth + 1) w (.feval args) []
  | numeric {depth n nargout : Nat} {w v : World η (State φ) ν} {args : List Value} {name : String}
      {values : List ScriptValue} {inputs given : List NumericValue} {names : List String}
      (hCalm : Calm w) (hCalls : CallsNumeric I.settings w args name values inputs n)
      (hPasses : LetsPass
        (Run.routine Run.numericPlace (b.enter depth) (b.numeric.call name inputs n))
        (numericStart w name values inputs n) (callBuiltin b depth given nargout) v)
      (hRest : Leads b I luaDepth fault depth v (.builtin given nargout) names) :
      Leads b I luaDepth fault (depth + 1) w (.feval args) names
  | script {depth nargout ref inner : Nat} {w v : World η (State φ) ν} {name : String}
      {args : List NumericValue} {inputs : List ScriptValue} {given : List Value}
      {names : List String} (hCalm : Calm w)
      (hInputs : Bridge.exportArguments name args = .ok inputs)
      (hBound : w.script.global name = .function ref)
      (hRoom : w.script.HasRoom inputs.length)
      (hPasses : LetsPass
        (b.runScript depth (I.call luaDepth none (.function ref)
          (State.writeAll inputs w.script).1).run)
        (scriptStart w name args nargout inputs)
        (callModule b I.settings (I.call (inner + 1)) depth .feval given) v)
      (hRest : Leads b I luaDepth fault depth v (.feval given) names) :
      Leads b I luaDepth fault (depth + 1) w (.builtin (.text [name] :: args) nargout)
        (name :: names)

/-- The diagnostics of the numeric runtime take every message and leave the run calm. -/
def QuietReports (b : Bridge η (State φ) ν) : Prop :=
  ∀ depth message w, Calm w → ∃ v, Calm v ∧
    (Run.routine Run.numericPlace (b.enter depth) (b.numeric.report (.execution message))).run w =
      some ((), v)

section

variable {b : Bridge η (State φ) ν} {I : Interpreter φ ν} {luaDepth depth n : Nat}
  {w v : World η (State φ) ν}

theorem QuietReports.run (h : QuietReports b) (hCalm : Calm w) (depth : Nat)
    (fault : NumericFault) : ∃ v, Calm v ∧ (b.report (b.enter depth) fault).run w = some ((), v) := by
  cases fault with
  | exit status => exact ⟨w, hCalm, rfl⟩
  | execution message =>
    obtain ⟨v, hKept, hRun⟩ := h depth message _
      (hCalm.log [.called (.report (.execution message)) w.gate])
    exact ⟨_, hKept.log _, Bridge.run_issue hRun⟩

/-- A numeric function that ends in a fault makes `feval` raise the text of the fault. -/
theorem run_feval_of_fault (hReports : QuietReports b) (hCalm : Calm w) {args : List Value}
    {name : String} {values : List ScriptValue} {inputs : List NumericValue} {fault : NumericFault}
    (hCalls : CallsNumeric I.settings w args name values inputs n)
    (hFault : (Run.routine Run.numericPlace (b.enter depth) (b.numeric.call name inputs n)).run
      (numericStart w name values inputs n) = some (.error fault, v)) (hKept : Calm v) :
    ∃ u, Calm u ∧ ∀ inner,
      (callModule b I.settings (I.call (inner + 1)) (depth + 1) .feval args).run w =
        some (.error (.text ((BridgeError.executionFailed "feval" (.numeric fault)).tagged
          I.settings.errorTag)), u) := by
  obtain ⟨u, hQuiet, hReport⟩ := hReports.run
    (hKept.log [.returned (.call name inputs n) (some fault) v.gate]) depth fault
  have hPerform : (b.perform (b.enter depth) (.callFunction name values n)).run
      (w.log [.entered (.callFunction name values n) w.gate]) =
        some (.error (.executionFailed "feval" (.numeric fault)), u) :=
    Bridge.run_callFunction_of_fault hCalm.ready hCalls.named hCalls.inputs hFault hReport
  refine ⟨_, ?_, fun inner => (run_callModule hCalls.request hPerform).trans
    (I.raises_raiseFailure (hQuiet.log _).error I.settings _)⟩
  exact hQuiet.log _

/-- A Lua function that raises a plain text makes the builtin end in a fault with the text. -/
theorem run_builtin_of_raised (hScript : b.script = I.runtime luaDepth) (hCalm : Calm w)
    {args : List NumericValue} {name text : String} {nargout ref : Nat} {inputs : List ScriptValue}
    (hPlain : IsPlain text) (hInputs : Bridge.exportArguments name args = .ok inputs)
    (hBound : w.script.global name = .function ref) (hRoom : w.script.HasRoom inputs.length)
    (hRaises : (b.runScript depth (I.call luaDepth none (.function ref)
      (State.writeAll inputs w.script).1).run).run (scriptStart w name args nargout inputs) =
        some (.error (.text text), v)) (hKept : Calm v) :
    ∃ u, Calm u ∧ (callBuiltin b (depth + 1) (.text [name] :: args) nargout).run w =
      some (.error (.execution s!"lua: exception in call to function '{name}'\n{text}"), u) := by
  have hPerform : (b.perform (b.enter depth) (.builtin (.text [name] :: args) nargout)).run
      (w.log [.entered (.builtin (.text [name] :: args) nargout) w.gate]) = _ :=
    Bridge.run_callScript_of_raised hScript hCalm.ready hCalm.isOpen hInputs hBound hRoom hRaises
  rw [raisedMessage_text hPlain] at hPerform
  refine ⟨_, ?_, b.run_enter hPerform⟩
  exact ((hKept.nesting _).log _).log _

/-- How a call ends that leads to a fault through Lua functions of these names, however deep the
caller's own Lua calls may nest. -/
def Frame.Ends (b : Bridge η (State φ) ν) (I : Interpreter φ ν) (fault : NumericFault)
    (depth : Nat) (w v : World η (State φ) ν) (names : List String) : Frame → Prop
  | .feval args => ∀ inner,
    (callModule b I.settings (I.call (inner + 1)) depth .feval args).run w =
      some (.error (.text (chainText I.settings.errorTag fault names)), v)
  | .builtin args nargout => (callBuiltin b depth args nargout).run w =
    some (.error (chainFault I.settings.errorTag fault names), v)

/-- However deeply numeric and Lua functions call each other, a fault at the bottom reaches the
outermost Lua caller as one text: the words of each level in front of the text of the level below,
from the outermost to the innermost, and at the end the text of the fault. Numeric code in between
sees an execution fault with the text of the levels below it, also where the fault at the bottom is
a request to exit. -/
theorem fault_text_of_chain {fault : NumericFault} (hScript : b.script = I.runtime luaDepth)
    (hReports : QuietReports b) (hTag : IsPlain I.settings.errorTag)
    (hFault : IsPlain fault.message) {frame : Frame} {names : List String}
    (hNames : ∀ name ∈ names, IsPlain name) (hLeads : Leads b I luaDepth fault depth w frame names) :
    ∃ v, Calm v ∧ frame.Ends b I fault depth w v names := by
  -- Along the chain from the outermost call inwards. At each level the fault of the level below is
  -- there already, and the run is calm when it arrives.
  induction hLeads with
  | fails hCalm hCalls hFails hKept =>
    obtain ⟨u, hQuiet, hRaises⟩ := run_feval_of_fault hReports hCalm hCalls hFails hKept
    exact ⟨u, hQuiet, fun inner => chainFault_tagged I.settings.errorTag fault [] ▸ hRaises inner⟩
  | numeric hCalm hCalls hPasses _ ih =>
    obtain ⟨u, hQuiet, hEnd⟩ := ih hNames
    obtain ⟨u, hQuiet, hFault⟩ := hPasses.run hEnd hQuiet
    obtain ⟨u, hQuiet, hRaises⟩ := run_feval_of_fault hReports hCalm hCalls hFault hQuiet
    refine ⟨u, hQuiet, fun inner => ?_⟩
    rw [← chainFault_tagged]
    exact hRaises inner
  | script hCalm hInputs hBound hRoom hPasses _ ih =>
    have hRest := fun name hMem => hNames name (List.mem_cons_of_mem _ hMem)
    obtain ⟨u, hQuiet, hEnd⟩ := ih hRest
    obtain ⟨u, hQuiet, hRaises⟩ := hPasses.run (hEnd _) hQuiet
    -- Only a plain text leaves Lua as it is, and the text of the levels below is one.
    have hPlain := chainText_isPlain hTag hFault hRest
    exact run_builtin_of_raised hScript hCalm hPlain hInputs hBound hRoom hRaises hQuiet

end

/-! ## A chain of two -/

/-- A ready bridge beside a host whose function `f1` calls the Lua function `g1`, which calls the
host's function `f2`, which asks to leave. -/
def chainWorld : World Scenario.Host Scenario.LuaState Scenario.Note :=
  ⟨.ready, ⟨.seq [],
      [("f1", .action (.call "lua_call" [.text ["g1"]] false none)),
        ("f2", .action (.fault (.exit 3))), ("lua_call", .builtin)], [], []⟩,
    ⟨[⟨[], [(.text "error", .function 0), (.text "g1", .function 1)], none, none⟩, .empty,
        ⟨[], [(.text "feval", .function 2)], none, none⟩],
      [.standard .error, .user (.module "feval" [.text "f2"] false), .module .feval], 0, 1, some 2,
      0, false⟩, []⟩

def chainBridge : Bridge Scenario.Host Scenario.LuaState Scenario.Note :=
  ⟨Scenario.Host.runtime, (Scenario.luaInterpreter {}).runtime 3, "lua_call", some "lua_call"⟩

theorem chainBridge_reports : QuietReports chainBridge :=
  fun _ _ _ hCalm => ⟨_, hCalm.log _, rfl⟩

theorem callsNumeric_text (settings : Settings) (w : World η (State φ) ν) {name : String}
    (hName : name.isEmpty = false) :
    CallsNumeric settings w [.text name] name [] [] settings.resultLimit where
  request := by
    have hText : Arguments.text "feval" [.text name] 1 = .ok name := by
      simp [Arguments.text, Value.text]
    rw [ModuleFunction.request, hText]
    rfl
  named := hName
  inputs := rfl

theorem calm_chainWorld : Calm chainWorld := ⟨rfl, rfl, 0, by decide +kernel, rfl⟩

def chainMiddle : World Scenario.Host Scenario.LuaState Scenario.Note :=
  (numericStart chainWorld "f1" [] [] 256).log [.note (.call (.call "f1" [] 256)),
    .note (.call (.call "lua_call" [.text ["g1"]] 256))]

theorem f1_letsPass : LetsPass (Run.routine Run.numericPlace (chainBridge.enter 2)
      (chainBridge.numeric.call "f1" [] 256)) (numericStart chainWorld "f1" [] [] 256)
    (callBuiltin chainBridge 2 [.text ["g1"]] 256) chainMiddle := by
  refine letsPass_of_eq ?_
  rw [← bind_pure (callBuiltin chainBridge 2 [.text ["g1"]] 256)]
  rfl

theorem g1_letsPass : LetsPass (chainBridge.runScript 1
      ((Scenario.luaInterpreter {}).call 3 none (.function 1) []).run)
    (scriptStart chainMiddle "g1" [] 256 [])
    (callModule chainBridge {} ((Scenario.luaInterpreter {}).call 1) 1 .feval [.text "f2"])
    (scriptStart chainMiddle "g1" [] 256 []) := by
  have hField : Scenario.moduleField "feval" (scriptStart chainMiddle "g1" [] 256 []).script =
      .function 2 := by decide +kernel
  have hOuter : (scriptStart chainMiddle "g1" [] 256 []).script.callee? (.function 1) [] =
      some (.user (.module "feval" [.text "f2"] false), []) := rfl
  have hInner : (scriptStart chainMiddle "g1" [] 256 []).script.callee? (.function 2)
      [.text "f2"] = some (.module .feval, [.text "f2"]) := rfl
  refine letsPass_of_eq ?_
  refine ((Scenario.luaInterpreter {}).run_call hOuter).trans ?_
  refine Act.yields_state.run_bind.trans ?_
  rw [hField]
  exact ((Scenario.luaInterpreter {}).run_call hInner).trans (run_invoke (by decide))

theorem f2_fails : ∃ v, Calm v ∧ (Run.routine Run.numericPlace (chainBridge.enter 0)
    (chainBridge.numeric.call "f2" [] 256)).run
      (numericStart (scriptStart chainMiddle "g1" [] 256 []) "f2" [] [] 256) =
        some (.error (.exit 3), v) := by
  refine ⟨_, ?_, rfl⟩
  exact ⟨rfl, rfl, 0, by decide +kernel, rfl⟩

/-- The request to leave reaches Lua code as a text, through an execution fault. -/
theorem exit_text_of_chain :
    chainBridge.script = (Scenario.luaInterpreter {}).runtime 3 ∧
    (∃ v, (callModule chainBridge {} ((Scenario.luaInterpreter {}).call 1) 3 .feval
        [.text "f1"]).run chainWorld =
      some (.error (.text ("oct_error: feval: numeric runtime error: lua: exception in call to " ++
        "function 'g1'\noct_error: feval: numeric interpreter exited with status 3")), v)) ∧
    ∃ v, (callBuiltin chainBridge 2 [.text ["g1"]] 256).run chainMiddle =
      some (.error (.execution ("lua: exception in call to function 'g1'\n" ++
        "oct_error: feval: numeric interpreter exited with status 3")), v) := by
  obtain ⟨u, hKept, hFails⟩ := f2_fails
  have hBound : chainMiddle.script.global "g1" = .function 1 := by decide +kernel
  have hInnermost : Leads chainBridge (Scenario.luaInterpreter {}) 3 (.exit 3) 1
      (scriptStart chainMiddle "g1" [] 256 []) (.feval [.text "f2"]) [] :=
    .fails ((calm_chainWorld.log _).nesting _) (callsNumeric_text _ _ rfl) hFails hKept
  have hMiddle : Leads chainBridge (Scenario.luaInterpreter {}) 3 (.exit 3) 2 chainMiddle
      (.builtin [.text ["g1"]] 256) ["g1"] :=
    .script (calm_chainWorld.log _) rfl hBound ⟨by decide, by decide⟩ g1_letsPass hInnermost
  have hOutermost : Leads chainBridge (Scenario.luaInterpreter {}) 3 (.exit 3) 3 chainWorld
      (.feval [.text "f1"]) ["g1"] :=
    .numeric calm_chainWorld (callsNumeric_text _ _ rfl) f1_letsPass hMiddle
  have hTag : IsPlain "oct_error" := isPlain_of_splitOnce? rfl (by decide)
  have hFault : IsPlain (NumericFault.exit 3).message := isPlain_of_splitOnce? rfl (by decide)
  have hNames : ∀ name ∈ ["g1"], IsPlain name := by
    rintro _ (_ | ⟨_, ⟨⟩⟩)
    exact isPlain_of_splitOnce? rfl (by decide)
  obtain ⟨v, -, hRaises⟩ := fault_text_of_chain rfl chainBridge_reports hTag hFault hNames
    hOutermost
  obtain ⟨v', -, hSeen⟩ := fault_text_of_chain rfl chainBridge_reports hTag hFault hNames hMiddle
  exact ⟨rfl, ⟨v, hRaises 0⟩, v', hSeen⟩

end Lua

end MatrixBridge
