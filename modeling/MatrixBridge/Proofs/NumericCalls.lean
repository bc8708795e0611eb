import MatrixBridge.Proofs.Boot
import MatrixBridge.Proofs.Failures
import MatrixBridge.Scenario.Host
import MatrixBridge.Scenario.Script

/-! # Calls that run numeric code

Behind a ready gate, evaluating code and calling a function go one way: they come to an answer
before anything is called, or they issue one call and answer what it came back with. Of the values
that come back only the first count, as many as were asked for; what lies behind them is not looked
at. -/

namespace MatrixBridge

variable {η ς ν : Type}

namespace Bridge

/-- What is answered of the values that a call came back with, when so many were asked for. -/
inductive Exported (op : String) (n : Nat) (values : List NumericValue) :
    Except BridgeError (List ScriptValue) → Prop
  | all {results : List ScriptValue} : results.length = min values.length n →
      List.Forall₂ (fun v s => v.toScript = .ok s) (values.take n) results →
      Exported op n values (.ok results)
  | first {position : Nat} {cause : CodecError} :
      FirstFailure NumericValue.toScript (values.take n) position cause →
      Exported op n values (.error (.unconvertibleResult op (.result position cause)))

theorem exported_iff {op : String} {n : Nat} {values : List NumericValue}
    {reply : Except BridgeError (List ScriptValue)} :
    Exported op n values reply ↔ exportResults op values n = reply := by
  constructor
  · rintro (⟨-, hAll⟩ | hFirst)
    · exact convertAll_eq_ok.mpr hAll
    · exact convertAll_eq_error.mpr ⟨_, _, hFirst, rfl⟩
  · rintro rfl
    cases h : exportResults op values n with
    | ok results =>
      have hAll := convertAll_eq_ok.mp h
      refine .all ?_ hAll
      rw [← hAll.length_eq, List.length_take, Nat.min_comm]
    | error e =>
      obtain ⟨position, cause, hFirst, rfl⟩ := convertAll_eq_error.mp h
      exact .first hFirst

def ask (b : Bridge η ς ν) (handler : Run.Handler η ς ν) (op : String) (call : ForeignCall)
    (code : Routine η ν (Except NumericFault (List NumericValue))) (n : Nat) :
    Operation η ς ν (List ScriptValue) := do
  let values ← b.execute handler op call code
  Operation.convert (exportResults op values n)

section

variable {b : Bridge η ς ν} {handler : Run.Handler η ς ν} {op : String} {call : ForeignCall}
  {code : Routine η ν (Except NumericFault (List NumericValue))} {n : Nat} {w v : World η ς ν}

/-! ## One call -/

theorem run_ask_of_returned {values : List NumericValue}
    (hCode : (Run.routine Run.numericPlace handler code).run (w.log [.called call w.gate]) =
      some (.ok values, v)) :
    (b.ask handler op call code n).run.run w =
      some (exportResults op values n, v.log [.returned call none v.gate]) := by
  have hExecute : (b.execute handler op call code).run.run w =
      some (.ok values, v.log [.returned call none v.gate]) := by
    rw [execute, issueNumeric, Operation.run_bind_of_ok (Operation.run_step (run_issue hCode))]
    rfl
  rw [ask, Operation.run_bind_of_ok hExecute]
  rfl

/-- A fault is reported before the operation fails with it. -/
theorem run_ask_of_fault {fault : NumericFault}
    (hCode : (Run.routine Run.numericPlace handler code).run (w.log [.called call w.gate]) =
      some (.error fault, v)) :
    (b.ask handler op call code n).run.run w =
      ((b.report handler fault).run (v.log [.returned call (some fault) v.gate])).map
        fun (_, u) => (.error (.executionFailed op (.numeric fault)), u) := by
  have hIssue : (Operation.step (issue call fault?
      (Run.routine Run.numericPlace handler code))).run.run w =
        some (.ok (.error fault), v.log [.returned call (some fault) v.gate]) :=
    Operation.run_step (run_issue hCode)
  -- The report runs code of the runtime too, so it may not come to an end either.
  cases hReport : (b.report handler fault).run (v.log [.returned call (some fault) v.gate]) with
  | none =>
    apply Operation.run_bind_of_none
    rw [execute, issueNumeric, Operation.run_bind_of_ok hIssue]
    exact Operation.run_bind_of_none (Operation.run_step_of_none hReport)
  | some reported =>
    apply Operation.run_bind_of_error
    rw [execute, issueNumeric, Operation.run_bind_of_ok hIssue]
    exact Operation.run_bind_of_ok (Operation.run_step hReport)

theorem run_ask_of_endless
    (hCode : (Run.routine Run.numericPlace handler code).run (w.log [.called call w.gate]) = none) :
    (b.ask handler op call code n).run.run w = none :=
  Operation.run_bind_of_none (Operation.run_bind_of_none
    (Operation.run_step_of_none (run_issue_of_none hCode)))

theorem run_evaluate_of_empty (hReady : w.gate = .ready) :
    (b.evaluate handler "" n).run.run w = some (.ok [], w) := by
  rw [evaluate, run_letThrough_bind_ready "eval" hReady]
  rfl

theorem run_evaluate_ask {text : String} (hReady : w.gate = .ready) (hText : text.isEmpty = false) :
    (b.evaluate handler text n).run.run w =
      (b.ask handler "eval" (.evaluate text n) (b.numeric.evaluate text n) n).run.run w := by
  rw [evaluate, run_letThrough_bind_ready "eval" hReady, if_neg (by simp [hText])]
  rfl

variable {name : String} {args : List ScriptValue}

theorem run_callFunction_of_empty (hReady : w.gate = .ready) :
    (b.callFunction handler "" args n).run.run w =
      some (.error (.invalidArgument "feval" .noFunctionName), w) := by
  rw [callFunction, run_letThrough_bind_ready "feval" hReady]
  rfl

theorem run_callFunction_of_unconvertible {e : BridgeError} (hReady : w.gate = .ready)
    (hName : name.isEmpty = false) (hArgs : importArguments name args = .error e) :
    (b.callFunction handler name args n).run.run w = some (.error e, w) := by
  rw [callFunction, run_letThrough_bind_ready "feval" hReady, if_neg (by simp [hName]), hArgs]
  rfl

variable {inputs : List NumericValue}

theorem run_callFunction_ask (hReady : w.gate = .ready) (hName : name.isEmpty = false)
    (hArgs : importArguments name args = .ok inputs) :
    (b.callFunction handler name args n).run.run w =
      (b.ask handler "feval" (.call name inputs n) (b.numeric.call name inputs n) n).run.run w := by
  rw [callFunction, run_letThrough_bind_ready "feval" hReady, if_neg (by simp [hName]), hArgs,
    Operation.run_bind_of_ok (Operation.run_convert _)]
  rfl

theorem run_callFunction {values : List NumericValue} {results : List ScriptValue}
    (hReady : w.gate = .ready) (hName : name.isEmpty = false)
    (hInputs : importArguments name args = .ok inputs)
    (hCall : (Run.routine Run.numericPlace handler (b.numeric.call name inputs n)).run
      (w.log [.called (.call name inputs n) w.gate]) = some (.ok values, v))
    (hResults : exportResults "feval" values n = .ok results) :
    (b.perform handler (.callFunction name args n)).run w =
      some (.ok results, v.log [.returned (.call name inputs n) none v.gate]) := by
  rw [← hResults]
  exact (run_callFunction_ask hReady hName hInputs).trans (run_ask_of_returned hCall)

theorem run_callFunction_of_fault {fault : NumericFault} {w' : World η ς ν}
    (hReady : w.gate = .ready) (hName : name.isEmpty = false)
    (hInputs : importArguments name args = .ok inputs)
    (hCall : (Run.routine Run.numericPlace handler (b.numeric.call name inputs n)).run
      (w.log [.called (.call name inputs n) w.gate]) = some (.error fault, v))
    (hReport : (b.report handler fault).run
      (v.log [.returned (.call name inputs n) (some fault) v.gate]) = some ((), w')) :
    (b.perform handler (.callFunction name args n)).run w =
      some (.error (.executionFailed "feval" (.numeric fault)), w') := by
  refine (run_callFunction_ask hReady hName hInputs).trans ((run_ask_of_fault hCall).trans ?_)
  rw [hReport]
  rfl

end

/-! ## From the call to the answer -/

/-- The code of a call comes to an end, with this outcome and in this state of the run. -/
def Ends (b : Bridge η ς ν) (depth : Nat) (call : ForeignCall)
    (code : Routine η ν (Except NumericFault (List NumericValue))) (w : World η ς ν)
    (outcome : Except NumericFault (List NumericValue)) (v : World η ς ν) : Prop :=
  (b.runNumeric depth code).run (w.log [.called call w.gate]) = some (outcome, v)

/-- An operation runs as one call does. Between the entries of the call in the journal stands only
what its code crosses for; a fault is reported; and the answer to values is made of the first. -/
structure CallsOnce (b : Bridge η ς ν) (depth : Nat) (op : String) (call : ForeignCall)
    (code : Routine η ν (Except NumericFault (List NumericValue))) (n : Nat)
    (x : Operation η ς ν (List ScriptValue)) (w : World η ς ν) : Prop where
  during : ∀ outcome v, b.Ends depth call code w outcome v →
    v.gate = .ready ∧ ∃ events, v.journal = w.journal ++ .called call .ready :: events
  returned : ∀ values v, b.Ends depth call code w (.ok values) v → ∃ reply,
    Exported op n values reply ∧ x.run.run w = some (reply, v.log [.returned call none .ready])
  faulted : ∀ fault v, b.Ends depth call code w (.error fault) v → x.run.run w =
    ((b.report (b.enter depth) fault).run (v.log [.returned call (some fault) .ready])).map
      fun (_, u) => (.error (.executionFailed op (.numeric fault)), u)
  endless : (∀ outcome v, ¬b.Ends depth call code w outcome v) → x.run.run w = none

section

variable {b : Bridge η ς ν} {depth n : Nat} {op : String} {call : ForeignCall}
  {code : Routine η ν (Except NumericFault (List NumericValue))} {w : World η ς ν}
  {x : Operation η ς ν (List ScriptValue)}

theorem Ends.ready {outcome : Except NumericFault (List NumericValue)} {v : World η ς ν}
    (h : b.Ends depth call code w outcome v) (hReady : w.gate = .ready) :
    v.gate = .ready ∧ ∃ events, v.journal = w.journal ++ .called call .ready :: events := by
  have hLeads := within_numeric (within_enter b depth) code h
  have hStillReady := hLeads.ready hReady
  obtain ⟨events, hEvents, -⟩ := hLeads
  refine ⟨hStillReady, events, ?_⟩
  rw [hEvents, World.log_journal, hReady, List.append_assoc, List.singleton_append]

theorem callsOnce_of_ask (hReady : w.gate = .ready)
    (hAsk : x.run.run w = (b.ask (b.enter depth) op call code n).run.run w) :
    b.CallsOnce depth op call code n x w where
  during _ _ h := h.ready hReady
  returned values v h := by
    rw [hAsk, run_ask_of_returned h, (h.ready hReady).1]
    exact ⟨_, exported_iff.mpr rfl, rfl⟩
  faulted fault v h := by rw [hAsk, run_ask_of_fault h, (h.ready hReady).1]
  endless h := by
    rw [hAsk]
    apply run_ask_of_endless
    rw [Option.eq_none_iff_forall_not_mem]
    exact fun ⟨outcome, v⟩ => h outcome v

theorem CallsOnce.reply_eq {η' ς' ν' : Type} {b' : Bridge η' ς' ν'} {depth' : Nat}
    {call' : ForeignCall} {code' : Routine η' ν' (Except NumericFault (List NumericValue))}
    {x' : Operation η' ς' ν' (List ScriptValue)} {w' v' : World η' ς' ν'} {v : World η ς ν}
    {values values' : List NumericValue} (h : b.CallsOnce depth op call code n x w)
    (h' : b'.CallsOnce depth' op call' code' n x' w') (hSame : values.take n = values'.take n)
    (hEnds : b.Ends depth call code w (.ok values) v)
    (hEnds' : b'.Ends depth' call' code' w' (.ok values') v') :
    ∃ reply u u', x.run.run w = some (reply, u) ∧ x'.run.run w' = some (reply, u') := by
  obtain ⟨reply, hReply, hRun⟩ := h.returned values v hEnds
  obtain ⟨reply', hReply', hRun'⟩ := h'.returned values' v' hEnds'
  have hEq : reply = reply' := by
    rw [← exported_iff.mp hReply, ← exported_iff.mp hReply', exportResults, exportResults, hSame]
  exact ⟨reply, _, _, hRun, hEq ▸ hRun'⟩

theorem callFunction_callsOnce {name : String} {args : List ScriptValue}
    {inputs : List NumericValue} (hReady : w.gate = .ready) (hName : name ≠ "")
    (hArgs : List.Forall₂ (fun arg input => arg.toNumeric = .ok input) args inputs) :
    b.CallsOnce depth "feval" (.call name inputs n) (b.numeric.call name inputs n) n
      (b.callFunction (b.enter depth) name args n) w :=
  callsOnce_of_ask hReady
    (run_callFunction_ask hReady (by simpa using hName) (convertAll_eq_ok.mpr hArgs))

theorem evaluate_callsOnce {text : String} (hReady : w.gate = .ready) (hText : text ≠ "") :
    b.CallsOnce depth "eval" (.evaluate text n) (b.numeric.evaluate text n) n
      (b.evaluate (b.enter depth) text n) w :=
  callsOnce_of_ask hReady (run_evaluate_ask hReady (by simpa using hText))

end

/-- Behind a ready gate a function without a name, or with an argument that does not convert, is not
called, and empty code is not evaluated. Otherwise there is one call, with all arguments in order and
the number of results asked for, and only so many of the values that it returns matter: they convert
all, or the first that does not is the failure. -/
theorem calls_run_end_to_end (b : Bridge η ς ν) (depth n : Nat) {w : World η ς ν}
    (hReady : w.gate = .ready) :
    (∀ name args,
      (name = "" → (b.callFunction (b.enter depth) name args n).run.run w =
        some (.error (.invalidArgument "feval" .noFunctionName), w)) ∧
      (name ≠ "" → ∀ position cause, FirstFailure ScriptValue.toNumeric args position cause →
        (b.callFunction (b.enter depth) name args n).run.run w =
          some (.error (.invalidArgument "feval" (.unconvertible position name cause)), w)) ∧
      (name ≠ "" → ∀ inputs, List.Forall₂ (fun arg input => arg.toNumeric = .ok input) args inputs →
        b.CallsOnce depth "feval" (.call name inputs n) (b.numeric.call name inputs n) n
          (b.callFunction (b.enter depth) name args n) w) ∧
      ((∃ position cause, FirstFailure ScriptValue.toNumeric args position cause) ∨
        ∃ inputs, List.Forall₂ (fun arg input => arg.toNumeric = .ok input) args inputs)) ∧
    (∀ code,
      (code = "" → (b.evaluate (b.enter depth) code n).run.run w = some (.ok [], w)) ∧
      (code ≠ "" → b.CallsOnce depth "eval" (.evaluate code n) (b.numeric.evaluate code n) n
        (b.evaluate (b.enter depth) code n) w)) ∧
    ∀ {η' ς' ν' : Type} (b' : Bridge η' ς' ν') depth' w' values values' v v', w'.gate = .ready →
      values.take n = values'.take n →
      (∀ name args inputs, name ≠ "" →
        List.Forall₂ (fun arg input => arg.toNumeric = .ok input) args inputs →
        b.Ends depth (.call name inputs n) (b.numeric.call name inputs n) w (.ok values) v →
        b'.Ends depth' (.call name inputs n) (b'.numeric.call name inputs n) w' (.ok values') v' →
        ∃ reply u u', (b.callFunction (b.enter depth) name args n).run.run w = some (reply, u) ∧
          (b'.callFunction (b'.enter depth') name args n).run.run w' = some (reply, u')) ∧
      ∀ code, code ≠ "" →
        b.Ends depth (.evaluate code n) (b.numeric.evaluate code n) w (.ok values) v →
        b'.Ends depth' (.evaluate code n) (b'.numeric.evaluate code n) w' (.ok values') v' →
        ∃ reply u u', (b.evaluate (b.enter depth) code n).run.run w = some (reply, u) ∧
          (b'.evaluate (b'.enter depth') code n).run.run w' = some (reply, u') := by
  refine ⟨fun name args => ⟨?_, ?_, ?_, firstFailure_or_forall₂ _ args⟩, fun code => ⟨?_, ?_⟩, ?_⟩
  · rintro rfl
    exact run_callFunction_of_empty hReady
  · intro hName position cause hFirst
    exact run_callFunction_of_unconvertible hReady (by simpa using hName)
      (convertAll_eq_error.mpr ⟨position, cause, hFirst, rfl⟩)
  · exact fun hName inputs hArgs => callFunction_callsOnce hReady hName hArgs
  · rintro rfl
    exact run_evaluate_of_empty hReady
  · exact evaluate_callsOnce hReady
  · intro η' ς' ν' b' depth' w' values values' v v' hReady' hSame
    constructor
    · intro name args inputs hName hArgs
      exact (callFunction_callsOnce hReady hName hArgs).reply_eq
        (callFunction_callsOnce hReady' hName hArgs) hSame
    · intro code hCode
      exact (evaluate_callsOnce hReady hCode).reply_eq (evaluate_callsOnce hReady' hCode) hSame

/-- A host that has started, with a function that returns a number and a value that is none. -/
def pairWorld : World Scenario.Host Scenario.Script Scenario.Note :=
  ⟨.ready, ⟨.seq [], [("pair", .action (.give [.scalar (.ofNat 7), .undefined]))], [], []⟩, [], []⟩

def pairBridge : Bridge Scenario.Host Scenario.Script Scenario.Note :=
  ⟨Scenario.Host.runtime, Scenario.Script.runtime, "lua_call", none⟩

/-- The second value is a failure only if it was asked for, and a bad argument comes first. -/
theorem pair_called_for_one : ∃ u u',
    (pairBridge.callFunction (pairBridge.enter 0) "pair" [.number (.ofNat 1)] 1).run.run pairWorld =
      some (.ok [.number (.ofNat 7)], u) ∧
    (pairBridge.callFunction (pairBridge.enter 0) "pair" [.number (.ofNat 1)] 2).run.run pairWorld =
      some (.error (.unconvertibleResult "feval" (.result 2 .undefined)), u') ∧
    (pairBridge.callFunction (pairBridge.enter 0) "pair" [.number (.ofNat 1), .nil] 2).run.run
      pairWorld =
        some (.error (.invalidArgument "feval" (.unconvertible 2 "pair" (.notNumeric "nil"))),
          pairWorld) := by
  have hName : "pair" ≠ "" := by decide
  have hArgs : List.Forall₂ (fun arg input => arg.toNumeric = .ok input)
      [ScriptValue.number (.ofNat 1)] [.scalar (.ofNat 1)] := .cons rfl .nil
  obtain ⟨hCalls, -⟩ := calls_run_end_to_end pairBridge 0 1 (w := pairWorld) rfl
  obtain ⟨hCallsTwo, -⟩ := calls_run_end_to_end pairBridge 0 2 (w := pairWorld) rfl
  obtain ⟨reply, hReply, hOne⟩ := ((hCalls "pair" _).2.2.1 hName _ hArgs).returned _ _ rfl
  obtain ⟨reply', hReply', hTwo⟩ := ((hCallsTwo "pair" _).2.2.1 hName _ hArgs).returned _ _ rfl
  cases exported_iff.mp hReply
  cases exported_iff.mp hReply'
  refine ⟨_, _, hOne, hTwo, (hCallsTwo "pair" _).2.1 hName 2 _ ?_⟩
  exact ⟨[.number (.ofNat 1)], .nil, [], rfl, by simpa using ⟨_, rfl⟩, rfl, rfl⟩

end Bridge

end MatrixBridge
