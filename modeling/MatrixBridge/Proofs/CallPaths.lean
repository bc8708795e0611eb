import MatrixBridge.Proofs.RaisedText
import MatrixBridge.Proofs.StandardGlobals
import MatrixBridge.Proofs.Transport

/-! # The two ways to call a global

A function is called directly, a table that can be called goes through a chunk that leaves out the
table with the global `select`. Both run the code behind the global on the given arguments, one
level deeper, as long as `select` is the standard function and there is room for the chunk and its
arguments. -/

namespace MatrixBridge.Lua

open Bridge (echoBridge)

variable {η φ ν α β : Type} {handler : Run.Handler η (State φ) ν} {w : World η (State φ) ν}

def Interpreter.runCode (I : Interpreter φ ν) (depth : Nat) (code : φ) (args : List ScriptValue) :
    Act φ ν (List Value) := do
  let values ← pushAll args
  Act.nested (I.body (I.call depth) code values)

/-- Runs code as a global that is called, unless the state is closed. -/
def Interpreter.callCode (I : Interpreter φ ν) (depth : Nat) (code : φ) (args : List ScriptValue) :
    Routine (State φ) ν (Except ScriptFault (List ScriptValue)) := do
  if (← Routine.state).closed then
    return .error (.raised "lua state is closed")
  match ← (I.runCode depth code args).run with
  | .error v => return .error (.raised (raisedMessage v))
  | .ok results => return .ok (results.map (← Routine.state).read)

/-- The global of the name is a function of the code, or a table that runs the code when it is
called, and can be called with so many arguments. The table is called through a chunk, which takes
the standard `select`, some room, and twice as many places on the stack. -/
inductive State.Runs (st : State φ) (code : φ) (name : String) (most : Nat) : Prop
  | function {ref : Nat} (hBound : st.global name = .function ref)
      (hClosure : st.closures[ref]? = some (.user code)) (hRoom : st.HasRoom most)
  | callable {ref f : Nat} (hBound : st.global name = .table ref)
      (hCall : (st.table ref).call = some f) (hClosure : st.closures[f]? = some (.method code))
      (hSelect : st.IsStandard "select" .select) (hRoom : st.nesting + chunkDepth < nestingLimit)
      (hFit : chunkPlaces most ≤ stackLimit)

theorem lt_of_chunkDepth {n : Nat} (hRoom : n + chunkDepth < nestingLimit) :
    n + 1 < nestingLimit := by
  rw [chunkDepth] at hRoom
  omega

theorem chunkPlaces_mono {m n : Nat} (hLe : m ≤ n) : chunkPlaces m ≤ chunkPlaces n := by
  rw [chunkPlaces, chunkPlaces]
  omega

theorem fit_of_chunkPlaces {n : Nat} (hFit : chunkPlaces n ≤ stackLimit) :
    n + 1 + 4 ≤ stackLimit := by
  rw [chunkPlaces] at hFit
  omega

namespace Act

theorem run_nested_congr {x y : Act φ ν α} (hRoom : w.script.nesting + 1 < nestingLimit)
    (h : (Run.routine Run.scriptPlace handler x.run).run
        { w with script.nesting := w.script.nesting + 1 } =
      (Run.routine Run.scriptPlace handler y.run).run
        { w with script.nesting := w.script.nesting + 1 }) :
    (Run.routine Run.scriptPlace handler (nested x).run).run w =
      (Run.routine Run.scriptPlace handler (nested y).run).run w := by
  rw [run_nested hRoom, run_nested hRoom, h]

end Act

namespace Interpreter

variable {I : Interpreter φ ν} {depth most : Nat} {code : φ} {name : String}
  {args : List ScriptValue}

theorem run_callFromHost {ref : Nat} {values : List Value}
    (hRoom : w.script.HasRoom values.length)
    (hClosure : w.script.closures[ref]? = some (.user code)) :
    (Run.routine Run.scriptPlace handler
        (I.callFromHost (depth + 1) (.function ref) values).run).run w =
      (Run.routine Run.scriptPlace handler
        (Act.nested (I.body (I.call depth) code values)).run).run w := by
  refine (I.run_callFromHost_nested hRoom.places).trans (Act.run_nested_congr hRoom.deeper ?_)
  refine I.run_call (c := .user code) ?_
  exact callee?_function hClosure values

/-- What the chunk does: it hands the table's metamethod the table and the arguments, of which the
code sees the arguments. -/
theorem run_chunk {ref f : Nat} (hCall : (w.script.table ref).call = some f)
    (hClosure : w.script.closures[f]? = some (.method code))
    (hSelect : w.script.IsStandard "select" .select) {values : List Value}
    (hFit : chunkPlaces values.length ≤ stackLimit) :
    (Run.routine Run.scriptPlace handler (do
        let select ← getGlobal (I.call (depth + 1)) "select"
        Act.requirePlaces (chunkPlaces values.length) (.text "lua_call:1: stack overflow")
        let rest ← I.call (depth + 1) (some ⟨"lua_call", 1, .global "select"⟩) select
          (.integer 2 :: .table ref :: values)
        I.call (depth + 1) (some ⟨"lua_call", 1, .inner "f"⟩) (.table ref) rest).run).run w =
      (Run.routine Run.scriptPlace handler (I.body (I.call depth) code values).run).run w := by
  obtain ⟨select, hBound, hStandard⟩ := hSelect
  have hCallee : w.script.callee? (.table ref) values =
      some (.method code, .table ref :: values) := by
    simp [State.callee?, hCall, hClosure]
  rw [(yields_getGlobal hBound (by simp)).run_bind, (Act.yields_requirePlaces hFit).run_bind,
    (I.yields_select hStandard _ (.table ref) values).run_bind, I.run_call hCallee]
  rfl

theorem run_callThroughChunk {ref f : Nat} (hRoom : w.script.nesting + chunkDepth < nestingLimit)
    (hCall : (w.script.table ref).call = some f)
    (hClosure : w.script.closures[f]? = some (.method code))
    (hSelect : w.script.IsStandard "select" .select) {values : List Value}
    (hFit : chunkPlaces values.length ≤ stackLimit) :
    (Run.routine Run.scriptPlace handler
        (callThroughChunk (I.call (depth + 1)) (.table ref) values).run).run w =
      (Run.routine Run.scriptPlace handler
        (Act.nested (I.body (I.call depth) code values)).run).run w := by
  have hLess := lt_of_chunkDepth hRoom
  rw [callThroughChunk, requireArguments, (Act.yields_requireRoom hRoom).run_bind,
    (Act.yields_requirePlaces (fit_of_chunkPlaces hFit)).run_bind]
  exact Act.run_nested_congr hLess
    (run_chunk (w := { w with script.nesting := w.script.nesting + 1 }) hCall hClosure
      (hSelect.nesting _) hFit)

theorem run_lookUpAndCall (hRuns : w.script.Runs code name most) (hMost : args.length ≤ most) :
    (Run.routine Run.scriptPlace handler (I.lookUpAndCall (depth + 1) name args).run).run w =
      ((Run.routine Run.scriptPlace handler (I.runCode depth code args).run).run w).map
        fun (outcome, v) => (outcome.map some, v) := by
  have hExtends := State.writeAll_extends args w.script
  have hFew : (State.writeAll args w.script).1.length ≤ most := by rwa [State.length_writeAll]
  rw [runCode, pushAll, (Act.yields_update (State.writeAll args)).run_bind]
  cases hRuns with
  | @function ref hBound hClosure hRoom =>
    rw [I.run_lookUpAndCall_function hBound hRoom.deeper]
    congr 1
    refine run_callFromHost (w := { w with script := (State.writeAll args w.script).2 }) ?_ ?_
    · exact (hRoom.of_le hFew).of_nesting_eq hExtends.nesting_eq
    · rwa [hExtends.closures_eq]
  | @callable ref f hBound hCall hClosure hSelect hRoom hFit =>
    have hSome : w.script.table ref ≠ .empty := by
      intro hEmpty
      rw [hEmpty] at hCall
      cases hCall
    rw [I.run_lookUpAndCall_table hBound (lt_of_chunkDepth hRoom)]
    congr 1
    have hFit' := Nat.le_trans (chunkPlaces_mono hFew) hFit
    refine run_callThroughChunk (w := { w with script := (State.writeAll args w.script).2 }) (f := f)
      ?_ ?_ ?_ (hSelect.extends hExtends) hFit'
    · rwa [hExtends.nesting_eq]
    · rwa [hExtends.table_eq hSome]
    · rwa [hExtends.closures_eq]

theorem run_callNamed_of_runs (hRuns : w.script.Runs code name most)
    (hMost : args.length ≤ most) :
    (Run.routine Run.scriptPlace handler (I.callNamed (depth + 1) name args)).run w =
      (Run.routine Run.scriptPlace handler (I.callCode depth code args)).run w := by
  rw [callNamed, callCode, Run.run_routine_state, Run.run_routine_state]
  split
  · rfl
  · rw [Run.routine_bind, Run.routine_bind, StateT.run_bind, StateT.run_bind,
      run_lookUpAndCall hRuns hMost]
    cases (Run.routine Run.scriptPlace handler (I.runCode depth code args).run).run w with
    | none => rfl
    | some reached =>
      obtain ⟨outcome, v⟩ := reached
      cases outcome <;> rfl

end Interpreter

/-! ## Reverse calls -/

theorem run_bind_congr {x y : Run η (State φ) ν α} (h : x.run w = y.run w)
    (f : α → Run η (State φ) ν β) : (x >>= f).run w = (y >>= f).run w := by
  rw [StateT.run_bind, StateT.run_bind, h]

theorem length_of_exportArguments {name : String} {args : List NumericValue}
    {inputs : List ScriptValue} (hInputs : Bridge.exportArguments name args = .ok inputs) :
    inputs.length = args.length :=
  (convertAll_eq_ok.mp hInputs).length_eq.symm

/-- A reverse call depends on the scripting runtime through the call of the global alone. -/
theorem run_callScript_congr {b b' : Bridge η (State φ) ν} {name : String}
    {args : List NumericValue}
    (h : ∀ inputs events, Bridge.exportArguments name args = .ok inputs →
      (Run.routine Run.scriptPlace handler (b.script.call name inputs)).run (w.log events) =
        (Run.routine Run.scriptPlace handler (b'.script.call name inputs)).run (w.log events)) :
    (b.callScript handler name args).run w = (b'.callScript handler name args).run w := by
  have hCheck : (ExceptT.mk (Gate.check "lua") : Operation η (State φ) ν Unit).run.run w =
      some (Gate.passage "lua" w.gate, w) := Run.run_check "lua"
  refine run_bind_congr ?_ _
  rw [Bridge.relay, Bridge.relay]
  cases hPassage : Gate.passage "lua" w.gate with
  | error e =>
    rw [hPassage] at hCheck
    rw [Operation.run_bind_of_error hCheck, Operation.run_bind_of_error hCheck]
  | ok =>
    rw [hPassage] at hCheck
    rw [Operation.run_bind_of_ok hCheck, Operation.run_bind_of_ok hCheck]
    cases hInputs : Bridge.exportArguments name args with
    | error e => rfl
    | ok inputs =>
      rw [Operation.run_bind_of_ok (Operation.run_convert _),
        Operation.run_bind_of_ok (Operation.run_convert _)]
      have hIssue : (Bridge.issueScript handler (.callScript name inputs)
          (b.script.call name inputs)).run w =
          (Bridge.issueScript handler (.callScript name inputs)
            (b'.script.call name inputs)).run w := by
        rw [Bridge.issueScript, Bridge.issueScript, Bridge.issue, Bridge.issue,
          Run.run_bind_of (Run.run_record _), Run.run_bind_of (Run.run_record _)]
        exact run_bind_congr (h inputs _ hInputs) _
      rw [Operation.step, Operation.step, ExceptT.run_bind_lift, ExceptT.run_bind_lift]
      exact run_bind_congr hIssue _

/-- The bridge beside a scripting runtime in which every global runs the code. -/
def withCode (b : Bridge η (State φ) ν) (I : Interpreter φ ν) (depth : Nat) (code : φ) :
    Bridge η (State φ) ν :=
  { b with script := ⟨fun _ => I.callCode depth code⟩ }

section

variable {b : Bridge η (State φ) ν} {I : Interpreter φ ν} {depth most : Nat} {code : φ}
  {name : String}

theorem run_script_call (hScript : b.script = I.runtime (depth + 1))
    (hRuns : w.script.Runs code name most) {args : List ScriptValue} (hMost : args.length ≤ most) :
    (Run.routine Run.scriptPlace handler (b.script.call name args)).run w =
      (Run.routine Run.scriptPlace handler (I.callCode depth code args)).run w := by
  rw [hScript]
  exact Interpreter.run_callNamed_of_runs hRuns hMost

theorem run_callScript_withCode (hScript : b.script = I.runtime (depth + 1))
    (hRuns : w.script.Runs code name most) {args : List NumericValue} (hMost : args.length ≤ most) :
    (b.callScript handler name args).run w =
      ((withCode b I depth code).callScript handler name args).run w := by
  refine run_callScript_congr fun inputs events hInputs => ?_
  refine run_script_call (w := w.log events) hScript hRuns ?_
  rwa [length_of_exportArguments hInputs]

/-- A reverse call of a global that runs code is a call of the code with the converted arguments,
whether the global is a function or a table that can be called. Two globals that run the same code
answer the same and leave the same behind. -/
theorem call_paths_agree (handler : Run.Handler η (State φ) ν)
    (hScript : b.script = I.runtime (depth + 1)) (hRuns : w.script.Runs code name most) :
    (∀ args, args.length ≤ most → (b.callScript handler name args).run w =
      ((withCode b I depth code).callScript handler name args).run w) ∧
    ∀ other, w.script.Runs code other most → ∀ args, args.length ≤ most →
      (Run.routine Run.scriptPlace handler (b.script.call name args)).run w =
        (Run.routine Run.scriptPlace handler (b.script.call other args)).run w := by
  refine ⟨fun args => run_callScript_withCode hScript hRuns, fun other hOther args hMost => ?_⟩
  rw [run_script_call hScript hRuns hMost, run_script_call hScript hOther hMost]

end

/-! ## With and without the standard `select` -/

theorem raises_chunk (I : Interpreter φ ν) {depth : Nat} {f : Value} {args : List Value}
    (hSelect : w.script.global "select" = .nil)
    (hIndex : (w.script.table w.script.globals).index = none)
    (hFit : chunkPlaces args.length ≤ stackLimit) :
    (do
      let select ← getGlobal (I.call (depth + 1)) "select"
      Act.requirePlaces (chunkPlaces args.length) (.text "lua_call:1: stack overflow")
      let rest ← I.call (depth + 1) (some ⟨"lua_call", 1, .global "select"⟩) select
        (.integer 2 :: f :: args)
      I.call (depth + 1) (some ⟨"lua_call", 1, .inner "f"⟩) f rest).Raises handler w
        (.text "lua_call:1: attempt to call a nil value (global 'select')") w := by
  refine (yields_getGlobal_nil hSelect hIndex).bind_raises ?_
  refine (Act.yields_requirePlaces hFit).bind_raises ?_
  refine Act.Raises.bind ?_ _
  exact I.raises_call rfl _

theorem run_callNamed_without_select (I : Interpreter φ ν) {depth ref : Nat} {name : String}
    (hOpen : w.script.closed = false) (hRoom : w.script.nesting + chunkDepth < nestingLimit)
    (hBound : w.script.global name = .table ref) (hSelect : w.script.global "select" = .nil)
    (hIndex : (w.script.table w.script.globals).index = none) {args : List ScriptValue}
    (hFit : chunkPlaces args.length ≤ stackLimit) :
    (Run.routine Run.scriptPlace handler (I.callNamed (depth + 1) name args)).run w =
      some (.error (.raised "lua_call:1: attempt to call a nil value (global 'select')"),
        { w with script := (State.writeAll args w.script).2 }) := by
  have hExtends := State.writeAll_extends args w.script
  have hGlobals : (State.writeAll args w.script).2.table (State.writeAll args w.script).2.globals =
      w.script.table w.script.globals := hExtends.table_globals (by rw [hBound]; nofun)
  have hChunk : (callThroughChunk (I.call (depth + 1)) (.table ref)
      (State.writeAll args w.script).1).Raises handler
        { w with script := (State.writeAll args w.script).2 }
        (.text "lua_call:1: attempt to call a nil value (global 'select')")
        { w with script := (State.writeAll args w.script).2 } := by
    have hRoom' : (State.writeAll args w.script).2.nesting + chunkDepth < nestingLimit := by
      rwa [hExtends.nesting_eq]
    have hFit' : chunkPlaces (State.writeAll args w.script).1.length ≤ stackLimit := by
      rwa [State.length_writeAll]
    refine (Act.yields_requireRoom hRoom').bind_raises ?_
    refine (Act.yields_requirePlaces (fit_of_chunkPlaces hFit')).bind_raises ?_
    refine Act.raises_nested (lt_of_chunkDepth hRoom') (raises_chunk I ?_ ?_ hFit')
    · rw [State.global, State.rawGet] at hSelect ⊢
      rw [← hGlobals] at hSelect
      exact hSelect
    · rw [← hGlobals] at hIndex
      exact hIndex
  have hRaises : (I.lookUpAndCall (depth + 1) name args).Raises handler w
      (.text "lua_call:1: attempt to call a nil value (global 'select')")
      { w with script := (State.writeAll args w.script).2 } := by
    rw [Act.Raises, I.run_lookUpAndCall_table hBound (lt_of_chunkDepth hRoom), hChunk]
    rfl
  have hPlain : IsPlain "lua_call:1: attempt to call a nil value (global 'select')" :=
    isPlain_of_splitOnce? rfl (by decide)
  rw [I.run_callNamed_of_raises hOpen hRaises, raisedMessage_text hPlain]

/-- A ready bridge beside a Lua state with a function and a table that run the same code when they
are called. The global `f` is the function, the global `g` one of the two. -/
def echoWorldWith (g : Value) (more : List (Value × Value)) :
    World Scenario.Host Scenario.LuaState Scenario.Note :=
  ⟨.ready, ⟨.seq [], [], [], []⟩,
    ⟨[⟨[], [(.text "f", .function 1), (.text "g", g)] ++ more, none, none⟩, .empty,
        { Table.empty with call := some 2 }],
      [.standard .select, .user .echo, .method .echo], 0, 1, none, 0, false⟩, []⟩

theorem run_withCode_echo (g : Value) (more : List (Value × Value)) :
    ∃ v, ((withCode echoBridge (Scenario.luaInterpreter {}) 1 .echo).callScript
      (echoBridge.enter 0) "g" [.scalar (.ofNat 1)]).run (echoWorldWith g more) =
        some (.ok [.scalar (.ofNat 1)], v) := ⟨_, rfl⟩

theorem callable_table_echoes :
    (echoWorldWith (.table 2) [(.text "select", .function 0)]).script.Runs .echo "g" 1 ∧
    (∃ v, (echoBridge.callScript (echoBridge.enter 0) "g" [.scalar (.ofNat 1)]).run
      (echoWorldWith (.table 2) [(.text "select", .function 0)]) =
        some (.ok [.scalar (.ofNat 1)], v)) ∧
    (Run.routine Run.scriptPlace (echoBridge.enter 0)
        (echoBridge.script.call "g" [.text "a"])).run
          (echoWorldWith (.table 2) [(.text "select", .function 0)]) =
      (Run.routine Run.scriptPlace (echoBridge.enter 0)
        (echoBridge.script.call "f" [.text "a"])).run
          (echoWorldWith (.table 2) [(.text "select", .function 0)]) := by
  have hSelect : (echoWorldWith (.table 2) [(.text "select", .function 0)]).script.IsStandard
      "select" .select := ⟨0, by decide +kernel, rfl⟩
  have hTable : (echoWorldWith (.table 2) [(.text "select", .function 0)]).script.global "g" =
      .table 2 := by decide +kernel
  have hFunction : (echoWorldWith (.table 2) [(.text "select", .function 0)]).script.global "f" =
      .function 1 := by decide +kernel
  have hRuns : (echoWorldWith (.table 2) [(.text "select", .function 0)]).script.Runs .echo "g" 1 :=
    .callable hTable rfl rfl hSelect (by decide) (by decide)
  have hOther :
      (echoWorldWith (.table 2) [(.text "select", .function 0)]).script.Runs .echo "f" 1 :=
    .function hFunction rfl ⟨by decide, by decide⟩
  have hScript : echoBridge.script = (Scenario.luaInterpreter {}).runtime 2 := rfl
  obtain ⟨hReverse, hCalls⟩ := call_paths_agree (echoBridge.enter 0) hScript hRuns
  obtain ⟨v, hEcho⟩ := run_withCode_echo (.table 2) [(.text "select", .function 0)]
  exact ⟨hRuns, ⟨v, (hReverse _ (by simp)).trans hEcho⟩, hCalls "f" hOther _ (by simp)⟩

/-- Without a global `select` a global that is a function answers its arguments, and the same
global bound to a table that runs the same code fails. -/
theorem callable_table_fails_without_select :
    (∃ v, (echoBridge.callScript (echoBridge.enter 0) "g" [.scalar (.ofNat 1)]).run
      (echoWorldWith (.function 1) []) = some (.ok [.scalar (.ofNat 1)], v)) ∧
    ∃ v, (echoBridge.callScript (echoBridge.enter 0) "g" [.scalar (.ofNat 1)]).run
      (echoWorldWith (.table 2) []) =
        some (.error (.execution ("lua: exception in call to function 'g'\n" ++
          "lua_call:1: attempt to call a nil value (global 'select')")), v) := by
  constructor
  · have hFunction : (echoWorldWith (.function 1) []).script.global "g" = .function 1 := by
      decide +kernel
    have hRuns : (echoWorldWith (.function 1) []).script.Runs .echo "g" 1 :=
      .function hFunction rfl ⟨by decide, by decide⟩
    have hScript : echoBridge.script = (Scenario.luaInterpreter {}).runtime 2 := rfl
    obtain ⟨v, hEcho⟩ := run_withCode_echo (.function 1) []
    exact ⟨v, (run_callScript_withCode hScript hRuns (by simp)).trans hEcho⟩
  · have hTable : (echoWorldWith (.table 2) []).script.global "g" = .table 2 := by decide +kernel
    have hSelect : (echoWorldWith (.table 2) []).script.global "select" = .nil := by
      decide +kernel
    let w := (echoWorldWith (.table 2) []).log
      [.called (.callScript "g" [.number (.ofNat 1)]) .ready]
    have hCall : (Run.routine Run.scriptPlace (echoBridge.enter 0)
        (echoBridge.script.call "g" [.number (.ofNat 1)])).run w = _ :=
      run_callNamed_without_select (w := w) (Scenario.luaInterpreter {}) rfl (by decide) hTable
        hSelect rfl (by decide)
    exact ⟨_, Bridge.run_callScript_of_outcome rfl rfl hCall⟩

end MatrixBridge.Lua
