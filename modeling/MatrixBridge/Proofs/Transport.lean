import MatrixBridge.Proofs.NumericCalls
import MatrixBridge.Proofs.ScriptCalls
import MatrixBridge.Proofs.StandardGlobals
import MatrixBridge.Proofs.Utf8
import MatrixBridge.Scenario.Lua

/-! # Lists of values that cross and come back

A list of matrices that is sent through the builtin to a Lua function that returns its arguments
comes back normalised, value by value; sending it again changes nothing more. The same holds of
numeric data that Lua code sends to a numeric function that returns its arguments. A list that does
not fit on a Lua stack does not cross: the call fails before the function on the other side runs. -/

namespace MatrixBridge

variable {η φ ν : Type}

/-- The run as the code of a global starts that is called with these arguments. -/
def Lua.callStart (w : World η (Lua.State φ) ν) (name : String) (inputs : List ScriptValue) :
    World η (Lua.State φ) ν :=
  { w.log [.called (.callScript name inputs) w.gate] with
    script := { (Lua.State.writeAll inputs w.script).2 with nesting := w.script.nesting + 1 } }

theorem forall₂_map {α β γ : Type} {P : α → β → Prop} {f : γ → α} {g : γ → β} {xs : List γ}
    (h : ∀ x, P (f x) (g x)) : List.Forall₂ P (xs.map f) (xs.map g) := by
  rw [List.forall₂_map_left_iff, List.forall₂_map_right_iff, List.forall₂_same]
  exact fun x _ => h x

namespace Bridge

variable {b : Bridge η (Lua.State φ) ν} {I : Lua.Interpreter φ ν} {name : String}
  {w : World η (Lua.State φ) ν}

theorem exportArguments_matrices (name : String) (ms : List (Matrix Binary64)) :
    exportArguments name (ms.map .matrix) = .ok (ms.map Matrix.toScript) :=
  convertAll_eq_ok.mpr (forall₂_map fun _ => rfl)

theorem importResults_matrices (name : String) (ms : List (Matrix Binary64)) :
    importResults name (ms.map Matrix.toScript) =
      .ok (ms.map fun m => .matrix m.normalise) := by
  refine convertAll_eq_ok.mpr (forall₂_map fun m => ?_)
  rw [ScriptValue.toNumeric, toMatrix_toScript]
  rfl

theorem map_toScript (ms : List (Matrix Binary64)) :
    ms.map Matrix.toScript = (ms.map Matrix.toData).map Data.script := by
  rw [List.map_map]
  exact List.map_congr_left fun m _ => m.toScript_eq

/-! ## Toward the numeric runtime and back -/

theorem run_callScript {handler : Run.Handler η (Lua.State φ) ν} {args : List NumericValue}
    {inputs outputs : List ScriptValue} {values : List NumericValue} {v : World η (Lua.State φ) ν}
    (hReady : w.gate = .ready) (hInputs : exportArguments name args = .ok inputs)
    (hCall : (Run.routine Run.scriptPlace handler (b.script.call name inputs)).run
      (w.log [.called (.callScript name inputs) w.gate]) = some (.ok outputs, v))
    (hValues : importResults name outputs = .ok values) :
    (b.callScript handler name args).run w =
      some (.ok values, v.log [.returned (.callScript name inputs) none v.gate]) := by
  rw [run_callScript_of_outcome hReady hInputs hCall, answer_of_import hValues]
  rfl

/-- A call of a global that raises a value: the reverse call ends in the text of it. -/
theorem run_callScript_of_raises {handler : Run.Handler η (Lua.State φ) ν} {luaDepth : Nat}
    {args : List NumericValue} {inputs : List ScriptValue} {raised : Lua.Value}
    {v : World η (Lua.State φ) ν} (hScript : b.script = I.runtime luaDepth)
    (hReady : w.gate = .ready) (hOpen : w.script.closed = false)
    (hInputs : exportArguments name args = .ok inputs)
    (hRaises : (I.lookUpAndCall luaDepth name inputs).Raises handler
      (w.log [.called (.callScript name inputs) w.gate]) raised v) :
    (b.callScript handler name args).run w =
      some (.error (.execution
          s!"lua: exception in call to function '{name}'\n{Lua.raisedMessage raised}"),
        v.log [.returned (.callScript name inputs) none v.gate]) := by
  have hCall : (Run.routine Run.scriptPlace handler (b.script.call name inputs)).run
      (w.log [.called (.callScript name inputs) w.gate]) =
        some (.error (.raised (Lua.raisedMessage raised)), v) := by
    rw [hScript]
    exact Lua.Interpreter.run_callNamed_of_raises hOpen hRaises
  exact run_callScript_of_outcome hReady hInputs hCall

theorem run_callScript_of_raised {handler : Run.Handler η (Lua.State φ) ν} {luaDepth ref : Nat}
    {args : List NumericValue} {inputs : List ScriptValue} {raised : Lua.Value}
    {v : World η (Lua.State φ) ν} (hScript : b.script = I.runtime luaDepth)
    (hReady : w.gate = .ready) (hOpen : w.script.closed = false)
    (hInputs : exportArguments name args = .ok inputs)
    (hBound : w.script.global name = .function ref) (hRoom : w.script.HasRoom inputs.length)
    (hRaises : (I.call luaDepth none (.function ref)
        (Lua.State.writeAll inputs w.script).1).Raises handler
      (Lua.callStart w name inputs) raised v) :
    (b.callScript handler name args).run w =
      some (.error (.execution
          s!"lua: exception in call to function '{name}'\n{Lua.raisedMessage raised}"),
        World.log { v with script.nesting := v.script.nesting - 1 }
          [.returned (.callScript name inputs) none v.gate]) :=
  run_callScript_of_raises hScript hReady hOpen hInputs
    (Lua.Interpreter.raises_lookUpAndCall hBound hRoom hRaises)

theorem run_builtin_echo {depth luaDepth most : Nat} {P : World η (Lua.State φ) ν → Prop}
    (hScript : b.script = I.runtime luaDepth)
    (hEchoes : I.Echoes (b.enter depth) luaDepth name most P) (hReady : w.gate = .ready) (hP : P w)
    {ms : List (Matrix Binary64)} (hMost : ms.length ≤ most) (nargout : Nat) :
    ∃ w', (b.enter (depth + 1) (.builtin (.text [name] :: ms.map .matrix) nargout)).run w =
        some (.ok (ms.map fun m => .matrix m.normalise), w') ∧
      w'.gate = .ready ∧ P w' := by
  have hEntered := hEchoes.log [.called (.callScript name (ms.map Matrix.toScript)) w.gate]
    (hEchoes.log [.entered (.builtin (.text [name] :: ms.map .matrix) nargout) w.gate] hP)
  have hFew : (ms.map Matrix.toData).length ≤ most := by rwa [List.length_map]
  obtain ⟨v, hPAfter, hCall⟩ := Lua.Interpreter.run_callNamed hEchoes hEntered _ hFew
  have hCaller : I.callNamed luaDepth = b.script.call := by
    rw [hScript]
    rfl
  rw [hCaller, ← map_toScript] at hCall
  have hStillReady : v.gate = .ready :=
    (within_script (within_enter b depth) _ hCall).ready hReady
  have hPerform : (b.perform (b.enter depth)
      (.builtin (.text [name] :: ms.map .matrix) nargout)).run
        (w.log [.entered (.builtin (.text [name] :: ms.map .matrix) nargout) w.gate]) = _ :=
    run_callScript hReady (exportArguments_matrices name ms) hCall (importResults_matrices name ms)
  exact ⟨_, b.run_enter hPerform, hStillReady, hEchoes.log _ (hEchoes.log _ hPAfter)⟩

theorem run_builtin_full {depth luaDepth most : Nat} {P : World η (Lua.State φ) ν → Prop}
    (hScript : b.script = I.runtime luaDepth)
    (hEchoes : I.Echoes (b.enter depth) luaDepth name most P) (hReady : w.gate = .ready) (hP : P w)
    {ms : List (Matrix Binary64)} (hFull : Lua.stackLimit < ms.length + 4) (nargout : Nat) :
    ∃ w', (b.enter (depth + 1) (.builtin (.text [name] :: ms.map .matrix) nargout)).run w =
      some (.error (.execution (s!"lua: exception in call to function '{name}'\n" ++
        Lua.Failure.stackExhaustedText)), w') := by
  have hEntered :=
    hEchoes.log [.entered (.builtin (.text [name] :: ms.map .matrix) nargout) w.gate] hP
  obtain ⟨ref, hBound, hRoom⟩ := hEchoes.callable hEntered
  have hMany : Lua.stackLimit < (ms.map Matrix.toScript).length + 4 := by rwa [List.length_map]
  have hPerform : (b.perform (b.enter depth)
      (.builtin (.text [name] :: ms.map .matrix) nargout)).run
        (w.log [.entered (.builtin (.text [name] :: ms.map .matrix) nargout) w.gate]) = _ :=
    run_callScript_of_raises hScript hReady (hEchoes.isOpen hEntered)
      (exportArguments_matrices name ms)
      (Lua.Interpreter.raises_lookUpAndCall_full hBound hRoom hMany)
  exact ⟨_, b.run_enter hPerform⟩

/-- Sends values through the builtin to a function of the scripting runtime, and what comes back
again, once for each number of results asked for. -/
def resend (b : Bridge η (Lua.State φ) ν) (depth : Nat) (name : String) :
    List Nat → List NumericValue → Run η (Lua.State φ) ν (Except NumericFault (List NumericValue))
  | [], values => return .ok values
  | nargout :: nargouts, values => do
    let reply : Except NumericFault (List NumericValue) ←
      b.enter depth (.builtin (.text [name] :: values) nargout)
    match reply with
    | .ok results => resend b depth name nargouts results
    | .error fault => return .error fault

theorem run_resend {depth luaDepth most : Nat} {P : World η (Lua.State φ) ν → Prop}
    (hScript : b.script = I.runtime luaDepth)
    (hEchoes : I.Echoes (b.enter depth) luaDepth name most P) (hReady : w.gate = .ready) (hP : P w)
    {ms : List (Matrix Binary64)} (hMost : ms.length ≤ most) {nargouts : List Nat}
    (hSome : nargouts ≠ []) :
    ∃ w', (b.resend (depth + 1) name nargouts (ms.map .matrix)).run w =
      some (.ok (ms.map fun m => .matrix m.normalise), w') := by
  induction nargouts generalizing w ms with
  | nil => exact absurd rfl hSome
  | cons nargout rest ih =>
    obtain ⟨v, hOnce, hReady, hP⟩ := run_builtin_echo hScript hEchoes hReady hP hMost nargout
    have hFirst : (b.resend (depth + 1) name (nargout :: rest) (ms.map .matrix)).run w =
        (b.resend (depth + 1) name rest (ms.map fun m => .matrix m.normalise)).run v :=
      Run.run_bind_of hOnce
    rw [hFirst]
    cases rest with
    | nil => exact ⟨v, rfl⟩
    | cons next rest =>
      have hStill : (ms.map Matrix.normalise).length ≤ most := by rwa [List.length_map]
      obtain ⟨w', hRest⟩ := ih hReady hP hStill (by simp)
      refine ⟨w', ?_⟩
      simpa [Function.comp_def, Matrix.normalise_normalise] using hRest

/-! ## Toward the scripting runtime and back -/

theorem exists_matrices {st : Lua.State φ} {vs : List Lua.Value} {ds : List Data}
    (h : List.Forall₂ st.Holds vs ds) :
    ∃ ms, List.Forall₂ (fun v m => (st.read v).toMatrix = .ok m) vs ms ∧
      ms.map Matrix.toData = ds.map Data.canonical := by
  induction h with
  | nil => exact ⟨[], .nil, rfl⟩
  | cons hHolds _ ih =>
    obtain ⟨ms, hRest, hData⟩ := ih
    obtain ⟨-, m, hMatrix⟩ := Lua.State.holds_iff.mp hHolds
    refine ⟨m :: ms, .cons (Lua.State.toMatrix_read.mpr ⟨_, hHolds, hMatrix⟩) hRest, ?_⟩
    rw [List.map_cons, List.map_cons, hData, Matrix.toData_eq hMatrix]

theorem importArguments_matrices {st : Lua.State φ} {vs : List Lua.Value}
    {ms : List (Matrix Binary64)}
    (h : List.Forall₂ (fun v m => (st.read v).toMatrix = .ok m) vs ms) :
    importArguments name (vs.map st.read) = .ok (ms.map .matrix) := by
  refine convertAll_eq_ok.mpr ?_
  rw [List.forall₂_map_left_iff, List.forall₂_map_right_iff]
  refine h.imp fun v m hValue => ?_
  rw [ScriptValue.toNumeric, hValue]
  rfl

theorem exportResults_matrices {op : String} {n : Nat} {ms : List (Matrix Binary64)}
    (hLength : ms.length ≤ n) :
    exportResults op (ms.map .matrix) n = .ok (ms.map Matrix.toScript) := by
  rw [exportResults, List.take_of_length_le (by simpa using hLength)]
  exact convertAll_eq_ok.mpr (forall₂_map fun _ => rfl)

theorem run_feval_echo {settings : Settings} (call : Lua.Caller φ ν) {depth n : Nat}
    {args : List Lua.Value} {ds : List Data} (hReady : w.gate = .ready)
    (hName : Lua.Arguments.text "feval" args 1 = .ok name) (hSome : name.isEmpty = false)
    (hCount : Lua.Arguments.count "feval" args 2 settings.resultLimit = .ok n)
    (hEchoes : ∀ inputs events, ∃ v,
      (Run.routine Run.numericPlace (b.enter depth) (b.numeric.call name inputs n)).run
        (w.log events) = some (.ok inputs, v))
    (hHolds : List.Forall₂ w.script.Holds (args.drop 2) ds) (hLength : ds.length ≤ n) :
    ∃ u, ∃ ms : List (Matrix Binary64), ms.map Matrix.toData = ds.map Data.canonical ∧
      (Lua.callModule b settings call (depth + 1) .feval args).run w =
        (b.runScript (depth + 1)
          (Lua.pushResults args.length (ms.map Matrix.toScript)).run).run u := by
  obtain ⟨ms, hMatrices, hData⟩ := exists_matrices hHolds
  have hSame : ms.length = ds.length := by simpa using congrArg List.length hData
  have hRequest : Lua.ModuleFunction.feval.request settings w.script args =
      .ok (.callFunction name ((args.drop 2).map w.script.read) n) := by
    rw [Lua.ModuleFunction.request, hName, hCount]
    rfl
  obtain ⟨v, hCall⟩ := hEchoes (ms.map .matrix)
    ([.entered (.callFunction name ((args.drop 2).map w.script.read) n) w.gate] ++
      [.called (.call name (ms.map .matrix) n) w.gate])
  rw [← World.log_log] at hCall
  have hRun : (Lua.callModule b settings call (depth + 1) .feval args).run w = _ :=
    Lua.run_callModule hRequest (run_callFunction hReady hSome (importArguments_matrices hMatrices)
      hCall (exportResults_matrices (hSame ▸ hLength)))
  exact ⟨_, ms, hData, hRun⟩

theorem raises_feval_unnamed (luaDepth depth : Nat) {n : Nat} {args : List Lua.Value}
    (hReady : w.gate = .ready) (hError : w.script.IsStandard "error" .error)
    (hFit : Lua.wrapperPlaces args.length ≤ Lua.stackLimit)
    (hName : Lua.Arguments.text "feval" args 1 = .ok "")
    (hCount : Lua.Arguments.count "feval" args 2 I.settings.resultLimit = .ok n) :
    ∃ w', (Lua.invokeModule b I.settings (I.call (luaDepth + 1)) (depth + 1) .feval args).run w =
      some (.error (.text ((BridgeError.invalidArgument "feval" .noFunctionName).tagged
        I.settings.errorTag)), w') := by
  have hRequest : Lua.ModuleFunction.feval.request I.settings w.script args =
      .ok (.callFunction "" ((args.drop 2).map w.script.read) n) := by
    rw [Lua.ModuleFunction.request, hName, hCount]
    rfl
  have hRefused : (Lua.callModule b I.settings (I.call (luaDepth + 1)) (depth + 1) .feval args).run
      w = _ := Lua.run_callModule hRequest (run_callFunction_of_empty hReady)
  have hInvoke : (Lua.invokeModule b I.settings (I.call (luaDepth + 1)) (depth + 1) .feval args).run
      w = _ := (Lua.run_invoke hFit).trans hRefused
  refine ⟨_, hInvoke.trans (I.raises_raiseFailure ?_ I.settings _)⟩
  exact hError

/-- The results of a function that returns its arguments fit on the stack when the arguments do
under the wrapper. -/
theorem fit_of_wrapperPlaces {args results : Nat} (hFit : Lua.wrapperPlaces args ≤ Lua.stackLimit)
    (hResults : results ≤ args) :
    args + results + 9 ≤ Lua.stackLimit ∧ 2 * results + 9 ≤ Lua.stackLimit := by
  rw [Lua.wrapperPlaces] at hFit
  omega

/-- Matrices that cross to a Lua function that returns its arguments come back normalised, each in
its place, however often they are sent and however many results are asked for, when they are no more
than the function takes; more than fit on a Lua stack are refused. Numeric data that crosses to a
numeric function that returns its arguments comes back in canonical form, each in its place, when
the arguments fit on a Lua stack, and the call raises an error and does nothing else when they do
not. -/
theorem crossings_keep_lists (b : Bridge η (Lua.State φ) ν) (hReady : w.gate = .ready) :
    (∀ (I : Lua.Interpreter φ ν) luaDepth depth name most P (ms : List (Matrix Binary64)),
      b.script = I.runtime luaDepth → I.Echoes (b.enter depth) luaDepth name most P → P w →
      (ms.length ≤ most → ∀ nargouts ≠ [],
        ∃ w', (b.resend (depth + 1) name nargouts (ms.map .matrix)).run w =
          some (.ok (ms.map fun m => .matrix m.normalise), w')) ∧
      (Lua.stackLimit < ms.length + 4 → ∀ nargout,
        ∃ w', (b.enter (depth + 1) (.builtin (.text [name] :: ms.map .matrix) nargout)).run w =
          some (.error (.execution (s!"lua: exception in call to function '{name}'\n" ++
            Lua.Failure.stackExhaustedText)), w'))) ∧
    ∀ settings call depth args name n ds,
      Lua.Arguments.text "feval" args 1 = .ok name → name.isEmpty = false →
      Lua.Arguments.count "feval" args 2 settings.resultLimit = .ok n →
      (∀ inputs events, ∃ v,
        (Run.routine Run.numericPlace (b.enter depth) (b.numeric.call name inputs n)).run
          (w.log events) = some (.ok inputs, v)) →
      List.Forall₂ w.script.Holds (args.drop 2) ds → ds.length ≤ n →
      (Lua.wrapperPlaces args.length ≤ Lua.stackLimit → ∃ results w',
        (Lua.invokeModule b settings call (depth + 1) .feval args).run w =
          some (.ok results, w') ∧
        List.Forall₂ w'.script.Represents results (ds.map Data.canonical)) ∧
      (Lua.stackLimit < Lua.wrapperPlaces args.length →
        (Lua.invokeModule b settings call (depth + 1) .feval args).run w =
          some (.error (.text "octlua:7: stack overflow"), w)) := by
  constructor
  · intro I luaDepth depth name most P ms hScript hEchoes hP
    refine ⟨fun hMost nargouts hSome => ?_, fun hFull nargout => ?_⟩
    · exact run_resend hScript hEchoes hReady hP hMost hSome
    · exact run_builtin_full hScript hEchoes hReady hP hFull nargout
  · intro settings call depth args name n ds hName hSome hCount hEchoes hHolds hLength
    refine ⟨fun hFit => ?_, fun hFull => Lua.raises_invoke hFull⟩
    obtain ⟨u, ms, hData, hRun⟩ :=
      run_feval_echo call hReady hName hSome hCount hEchoes hHolds hLength
    have hFew : (ms.map Matrix.toScript).length ≤ args.length := by
      have hSame : ms.length = ds.length := by simpa using congrArg List.length hData
      rw [List.length_map, hSame, ← hHolds.length_eq, List.length_drop]
      exact Nat.sub_le _ _
    obtain ⟨hPushed, hReturned⟩ := fit_of_wrapperPlaces hFit hFew
    have hInvoke : (Lua.invokeModule b settings call (depth + 1) .feval args).run w =
        (Lua.callModule b settings call (depth + 1) .feval args).run w := Lua.run_invoke hFit
    refine ⟨_, _, hInvoke.trans (hRun.trans (Lua.run_pushResults b _ hPushed hReturned)), ?_⟩
    rw [map_toScript, hData]
    exact Lua.State.writeAll_script _ _

/-- A host with functions that answer their arguments, one of them without a name, beside a Lua
state with such a function. -/
def echoWorld : World Scenario.Host Scenario.LuaState Scenario.Note :=
  ⟨.ready, ⟨.seq [], [("id", .action .echo), ("", .action .echo)], [], []⟩,
    ⟨[⟨[], [(.text "f", .function 0), (.text "error", .function 1)], none, none⟩, .empty],
      [.user .echo, .standard .error], 0, 1, none, 0, false⟩, []⟩

def echoBridge : Bridge Scenario.Host Scenario.LuaState Scenario.Note :=
  ⟨Scenario.Host.runtime, (Scenario.luaInterpreter {}).runtime 2, "lua_call", some "lua_call"⟩

/-- The Lua state is open, calls fit in it, and the global `f` is still what it was. -/
structure EchoKept (w : World Scenario.Host Scenario.LuaState Scenario.Note) : Prop where
  isOpen : w.script.closed = false
  room : w.script.nesting + 1 < Lua.nestingLimit
  bound : w.script.global "f" = .function 0
  code : w.script.closures[0]? = some (.user .echo)

theorem echo_keeps (handler : Run.Handler Scenario.Host Scenario.LuaState Scenario.Note)
    (most : Nat) (hFit : most + 4 ≤ Lua.stackLimit) :
    (Scenario.luaInterpreter {}).Echoes handler 2 "f" most EchoKept where
  isOpen h := h.isOpen
  log _ h := ⟨h.isOpen, h.room, h.bound, h.code⟩
  extend {w st} h hExtends := by
    have hBound : w.script.global "f" ≠ .nil := by
      rw [h.bound]
      nofun
    have hSame := hExtends.global hBound
    obtain ⟨made, rfl⟩ := hExtends
    exact ⟨h.isOpen, h.room, hSame.trans h.bound, h.code⟩
  call {w} h := by
    refine ⟨0, h.bound, fun args ds hMost hArgs => ⟨w, h, ?_, ?_⟩⟩
    · have hRoom : w.script.HasRoom args.length :=
        ⟨h.room, Nat.le_trans (Nat.add_le_add_right hMost 4) hFit⟩
      have hBody : ((Scenario.luaInterpreter {}).apply ((Scenario.luaInterpreter {}).call 1) none
          (.function 0) (.user .echo) args).Yields handler
            { w with script.nesting := w.script.nesting + 1 } args
            { w with script.nesting := w.script.nesting + 1 } := Lua.Act.yields_pure args
      exact Lua.Interpreter.yields_callFromHost hRoom h.code hBody
    · exact Lua.State.map_eq_map_iff.mpr (hArgs.imp fun _ _ hValue => hValue.read_eq)

theorem echoKept_echoWorld : EchoKept echoWorld := ⟨rfl, by decide, by decide +kernel, rfl⟩

def sampleMatrices : List (Matrix Binary64) := [.columnVector [.ofNat 1, .ofNat 2], .zeros 0 3]

/-- Arguments of `feval`: a name, the number of results asked for, and as many sevens. -/
def echoArguments (name : String) (n : Nat) : List Lua.Value :=
  .text name :: .integer (.ofNat n) :: List.replicate n (.integer 7)

theorem text_echoArguments (name : String) (n : Nat) :
    Lua.Arguments.text "feval" (echoArguments name n) 1 = .ok name := by
  simp [Lua.Arguments.text, echoArguments, Lua.Value.text]

theorem count_echoArguments (name : String) {n default : Nat} (hFew : n ≤ Lua.stackLimit) :
    Lua.Arguments.count "feval" (echoArguments name n) 2 default = .ok n := by
  have hInt : (Int64.ofNat n).toInt = n :=
    Int64.toInt_ofNat_of_lt (Nat.lt_of_le_of_lt hFew (by decide))
  have hCount : Lua.Arguments.count "feval" (echoArguments name n) 2 default =
      if (Int64.ofNat n).toInt < 0 then .error (.invalidArgument "feval" (.negative 2))
      else .ok (Int64.ofNat n).toInt.toNat := rfl
  rw [hCount, hInt, if_neg (by omega), Int.toNat_natCast]

theorem holds_echoArguments (name : String) (n : Nat) :
    List.Forall₂ echoWorld.script.Holds ((echoArguments name n).drop 2)
      (List.replicate n (.number (.ofInt 7))) := by
  have hNumber : (Lua.Value.integer 7).double? = some (.ofInt 7) := by decide +kernel
  exact List.forall₂_iff_get.mpr ⟨by simp [echoArguments], fun i _ _ => by simpa [echoArguments]⟩

theorem numeric_echoes : ∀ name ∈ ["id", ""], ∀ n inputs events, ∃ v,
    (Run.routine Run.numericPlace (echoBridge.enter 0) (echoBridge.numeric.call name inputs n)).run
      (echoWorld.log events) = some (.ok inputs, v) := by
  intro name hMem n inputs events
  rcases List.mem_pair.mp hMem with rfl | rfl
  · exact ⟨_, rfl⟩
  · exact ⟨_, rfl⟩

theorem echo_crossings_keep_lists :
    (∃ w', (echoBridge.resend 1 "f" [0, 5] (sampleMatrices.map .matrix)).run echoWorld =
      some (.ok (sampleMatrices.map fun m => .matrix m.normalise), w')) ∧
    ∃ results w', (Lua.invokeModule echoBridge {} (fun _ _ _ => throw .nil) 1 .feval
        (echoArguments "id" 1)).run echoWorld = some (.ok results, w') ∧
      List.Forall₂ w'.script.Represents results [.number (.ofInt 7)] := by
  have hScript : echoBridge.script = (Scenario.luaInterpreter {}).runtime 2 := rfl
  have hReady : echoWorld.gate = .ready := rfl
  have hMost : sampleMatrices.length ≤ 2 := by decide
  have hFit : Lua.wrapperPlaces (echoArguments "id" 1).length ≤ Lua.stackLimit := by decide
  obtain ⟨hSent, hAsked⟩ := crossings_keep_lists echoBridge hReady
  obtain ⟨hLeft, -⟩ := hSent _ _ 0 "f" _ _ sampleMatrices hScript
    (echo_keeps (echoBridge.enter 0) 2 (by decide)) echoKept_echoWorld
  obtain ⟨hRight, -⟩ := hAsked {} (fun _ _ _ => throw .nil) 0 _ "id" 1 _
    (text_echoArguments "id" 1) (by decide) (count_echoArguments "id" (by decide))
    (numeric_echoes "id" (by simp) 1) (holds_echoArguments "id" 1) (by simp)
  exact ⟨hLeft hMost [0, 5] (by simp), hRight hFit⟩

/-- Functions that return their arguments do not return every list: a numeric function without a
name is not called, and neither 500000 values for `feval` nor a million matrices for a Lua function
fit on a Lua stack. -/
theorem lists_refused :
    (∀ name ∈ ["id", ""], ∀ n inputs events, ∃ v,
      (Run.routine Run.numericPlace (echoBridge.enter 0)
        (echoBridge.numeric.call name inputs n)).run (echoWorld.log events) =
          some (.ok inputs, v)) ∧
    (∃ w', (Lua.invokeModule echoBridge {} ((Scenario.luaInterpreter {}).call 1) 1 .feval
        (echoArguments "" 1)).run echoWorld =
      some (.error (.text "oct_error: feval: expected function name"), w')) ∧
    (Lua.invokeModule echoBridge {} ((Scenario.luaInterpreter {}).call 1) 1 .feval
        (echoArguments "id" 500000)).run echoWorld =
      some (.error (.text "octlua:7: stack overflow"), echoWorld) ∧
    ∃ w', (echoBridge.enter 1 (.builtin
        (.text ["f"] :: (List.replicate 1000000 (.zeros 1 1)).map .matrix) 0)).run echoWorld =
      some (.error (.execution ("lua: exception in call to function 'f'\n" ++
        Lua.Failure.stackExhaustedText)), w') := by
  have hReady : echoWorld.gate = .ready := rfl
  refine ⟨numeric_echoes, ?_, ?_, ?_⟩
  · have hError : echoWorld.script.IsStandard "error" .error := ⟨1, by decide +kernel, rfl⟩
    exact raises_feval_unnamed (I := Scenario.luaInterpreter {}) 0 0 hReady hError (by decide)
      (text_echoArguments "" 1) (count_echoArguments "" (by decide))
  · refine Lua.raises_invoke ?_
    rw [echoArguments, List.length_cons, List.length_cons, List.length_replicate]
    decide
  · have hFull : Lua.stackLimit <
        (List.replicate 1000000 (Matrix.zeros 1 1 : Matrix Binary64)).length + 4 := by
      rw [List.length_replicate]
      decide
    exact run_builtin_full rfl (echo_keeps (echoBridge.enter 0) 0 (by decide)) hReady
      echoKept_echoWorld hFull 0

end Bridge

end MatrixBridge
