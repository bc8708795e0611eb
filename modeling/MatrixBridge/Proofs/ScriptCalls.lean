import MatrixBridge.Proofs.BootOnce
import MatrixBridge.Proofs.Failures

/-! # Calls that run script code

The builtin is given values of which the first has to name a function. Behind a ready gate, and with
arguments that all convert, it issues one call of that function, and otherwise none. Whatever the
function comes back with, the answer is all of its results or one execution fault. -/

namespace MatrixBridge

variable {η ς ν : Type}

def BridgeError.OfScript (e : BridgeError) : Prop :=
  ∃ detail : String, e.message = s!"lua: {detail}"

namespace Bridge

/-! ## The arguments of the builtin -/

/-- The first of the values is no text of one row, or there is none. -/
def NamesNothing (args : List NumericValue) : Prop :=
  ∀ first ∈ args.head?, ¬∃ name, first = .text [name]

theorem target?_eq_some_iff {args rest : List NumericValue} {name : String} :
    target? args = some (name, rest) ↔ args = .text [name] :: rest := by
  constructor
  · intro h
    unfold target? at h
    split at h
    · cases h
      rfl
    · cases h
  · rintro rfl
    rfl

theorem target?_eq_none_iff {args : List NumericValue} :
    target? args = none ↔ NamesNothing args := by
  constructor
  · rintro h first hFirst ⟨name, rfl⟩
    obtain ⟨rest, rfl⟩ := List.head?_eq_some_iff.mp hFirst
    cases h
  · intro h
    cases hTarget : target? args with
    | none => rfl
    | some target =>
      cases target?_eq_some_iff.mp hTarget
      exact absurd ⟨target.1, rfl⟩ (h _ rfl)

theorem namesNothing_or_named (args : List NumericValue) :
    NamesNothing args ∨ ∃ name rest, args = .text [name] :: rest := by
  cases hTarget : target? args with
  | none => exact .inl (target?_eq_none_iff.mp hTarget)
  | some target => exact .inr ⟨target.1, target.2, target?_eq_some_iff.mp hTarget⟩

section

variable {b : Bridge η ς ν} {handler : Run.Handler η ς ν} {name : String}
  {args : List NumericValue} {inputs : List ScriptValue}
  {outcome : Except ScriptFault (List ScriptValue)} {w w' v : World η ς ν}

/-! ## How a call fails -/

theorem failsWith_relay (b : Bridge η ς ν) (handler : Run.Handler η ς ν) (name : String)
    (args : List NumericValue) : (b.relay handler name args).FailsWith BridgeError.OfScript := by
  have hCheck : Operation.FailsWith BridgeError.OfScript
      (ExceptT.mk (Gate.check "lua") : Operation η ς ν Unit) := by
    intro v e v' h
    have hPassage : Gate.passage "lua" v.gate = .error e := congrArg Prod.fst (Option.some.inj h)
    unfold Gate.passage at hPassage
    split at hPassage
    · cases hPassage
    · cases hPassage
      exact ⟨"numeric runtime not initialized", rfl⟩
  have hExport : ∀ e, exportArguments name args = .error e → e.OfScript := fun _ =>
    of_convertAll_eq_error fun _ _ => ⟨_, rfl⟩
  have hOutcome : ∀ (outcome : Except ScriptFault (List ScriptValue)) e,
      outcome.mapError (callFailure name) = .error e → e.OfScript := by
    refine fun _ _ => of_mapError_eq_error fun fault => ?_
    cases fault with
    | missing => exact ⟨s!"function '{name}' {ScriptFault.missing.message}", rfl⟩
    | raised message => exact ⟨_, rfl⟩
  have hImport : ∀ results e, importResults name results = .error e → e.OfScript := fun _ _ =>
    of_convertAll_eq_error fun _ _ => ⟨_, rfl⟩
  refine hCheck.bind fun _ => ?_
  refine (Operation.failsWith_convert hExport).bind fun inputs => ?_
  refine (Operation.failsWith_step _).bind fun outcome => ?_
  refine (Operation.failsWith_convert (hOutcome outcome)).bind fun results => ?_
  exact Operation.failsWith_convert (hImport results)

theorem callScript_fails {fault : NumericFault}
    (h : (b.callScript handler name args).run w = some (.error fault, w')) :
    ∃ detail : String, fault = .execution s!"lua: {detail}" := by
  obtain ⟨outcome, v, hRelay, h⟩ := Run.run_bind_eq_some.mp h
  cases outcome with
  | ok values => cases h
  | error e =>
    cases h
    obtain ⟨detail, hMessage⟩ := failsWith_relay b handler name args hRelay
    exact ⟨detail, congrArg NumericFault.execution hMessage⟩

theorem callScript_not_exit {fault : NumericFault}
    (h : (b.callScript handler name args).run w = some (.error fault, w')) :
    ∃ message, fault = .execution message := by
  obtain ⟨detail, hFault⟩ := callScript_fails h
  exact ⟨_, hFault⟩

theorem usageFault_ne (b : Bridge η ς ν) (detail : String) :
    b.usageFault ≠ .execution s!"lua: {detail}" := by
  -- The usage message starts with another letter than any message of a call.
  intro h
  have hFirst := congrArg (fun text => text.toList.head?) (NumericFault.execution.inj h)
  simp [toString] at hFirst

theorem runBuiltin_of_namesNothing (b : Bridge η ς ν) (handler : Run.Handler η ς ν) (nargout : Nat)
    (hArgs : NamesNothing args) :
    b.runBuiltin handler args nargout = pure (.error b.usageFault) := by
  rw [runBuiltin, target?_eq_none_iff.mpr hArgs]

theorem runBuiltin_of_named (b : Bridge η ς ν) (handler : Run.Handler η ς ν) (nargout : Nat) :
    b.runBuiltin handler (.text [name] :: args) nargout = b.callScript handler name args := rfl

theorem namesNothing_of_usageFault {nargout : Nat}
    (h : (b.runBuiltin handler args nargout).run w = some (.error b.usageFault, w')) :
    NamesNothing args := by
  rcases namesNothing_or_named args with hArgs | ⟨name, rest, rfl⟩
  · exact hArgs
  · obtain ⟨detail, hFault⟩ := callScript_fails h
    exact absurd hFault (b.usageFault_ne detail)

/-! ## What is answered -/

/-- The answer to what the called function came back with: all its results, or one fault. A sole
result is named without a position. -/
inductive Imported (name : String) :
    Except ScriptFault (List ScriptValue) → Except NumericFault (List NumericValue) → Prop
  | missing : Imported name (.error .missing)
      (.error (.execution s!"lua: function '{name}' is not defined"))
  | raised (message : String) : Imported name (.error (.raised message))
      (.error (.execution s!"lua: exception in call to function '{name}'\n{message}"))
  | all {results : List ScriptValue} {values : List NumericValue} :
      List.Forall₂ (fun s v => s.toNumeric = .ok v) results values →
      Imported name (.ok results) (.ok values)
  | sole {result : ScriptValue} {cause : CodecError} : result.toNumeric = .error cause →
      Imported name (.ok [result]) (.error (.execution
        s!"lua: invalid return value in call to function '{name}'\n{cause.message}"))
  | first {results : List ScriptValue} {position : Nat} {cause : CodecError} :
      results.length ≠ 1 → FirstFailure ScriptValue.toNumeric results position cause →
      Imported name (.ok results) (.error (.execution
        s!"lua: invalid return value #{position} in call to function '{name}'\n{cause.message}"))

def answer (name : String) (outcome : Except ScriptFault (List ScriptValue)) :
    Except NumericFault (List NumericValue) :=
  ((outcome.mapError (callFailure name)).bind (importResults name)).mapError
    BridgeError.toNumericFault

theorem answer_missing (name : String) : answer name (.error .missing) =
    .error (.execution s!"lua: function '{name}' is not defined") := by
  have hTail : "lua: function '" ++ name ++ "' " ++ "is not defined" =
      s!"lua: function '{name}' is not defined" := by
    rw [String.append_assoc]
    rfl
  exact congrArg (fun message => Except.error (NumericFault.execution message)) hTail

theorem answer_of_import {results : List ScriptValue}
    {imported : Except BridgeError (List NumericValue)}
    (h : importResults name results = imported) :
    answer name (.ok results) = imported.mapError BridgeError.toNumericFault := by
  rw [← h]
  rfl

theorem imported_answer (name : String) (outcome : Except ScriptFault (List ScriptValue)) :
    Imported name outcome (answer name outcome) := by
  cases outcome with
  | error fault =>
    cases fault with
    | missing =>
      rw [answer_missing]
      exact .missing
    | raised message => exact .raised message
  | ok results =>
    cases h : importResults name results with
    | ok values =>
      rw [answer_of_import h]
      exact .all (convertAll_eq_ok.mp h)
    | error e =>
      obtain ⟨position, cause, hFirst, rfl⟩ := convertAll_eq_error.mp h
      rw [answer_of_import h]
      -- The position is left out for a sole result alone, also when one of many is the first.
      by_cases hSole : results.length = 1
      · obtain ⟨result, rfl⟩ := List.length_eq_one_iff.mp hSole
        exact .sole (firstFailure_singleton.mp hFirst).2
      · rw [if_neg hSole]
        exact .first hSole hFirst

theorem imported_iff {reply : Except NumericFault (List NumericValue)} :
    Imported name outcome reply ↔ answer name outcome = reply := by
  constructor
  · intro h
    cases h with
    | missing => exact answer_missing name
    | raised message => rfl
    | all hAll => exact answer_of_import (convertAll_eq_ok.mpr hAll)
    | sole hSole =>
      exact answer_of_import
        (convertAll_eq_error.mpr ⟨1, _, firstFailure_singleton.mpr ⟨rfl, hSole⟩, rfl⟩)
    | first hMany hFirst =>
      rw [answer_of_import (convertAll_eq_error.mpr ⟨_, _, hFirst, rfl⟩), if_neg hMany]
      rfl
  · rintro rfl
    exact imported_answer name outcome

/-! ## One call -/

theorem run_relay_bind_ready {α : Type} (hReady : w.gate = .ready) (f : Unit → Operation η ς ν α) :
    ((ExceptT.mk (Gate.check "lua") : Operation η ς ν Unit) >>= f).run.run w =
      (f ()).run.run w := by
  apply Operation.run_bind_of_ok
  rw [← Gate.passage_ready "lua", ← hReady]
  exact Run.run_check "lua"

theorem run_callScript_of_relay {reply : Except BridgeError (List NumericValue)}
    (h : (b.relay handler name args).run.run w = some (reply, w')) :
    (b.callScript handler name args).run w =
      some (reply.mapError BridgeError.toNumericFault, w') := by
  rw [callScript, Run.run_bind_of h]
  rfl

theorem run_callScript_of_unconvertible {position : Nat} {cause : CodecError}
    (hReady : w.gate = .ready) (hFirst : FirstFailure NumericValue.toScript args position cause) :
    (b.callScript handler name args).run w = some (.error (.execution
      s!"lua: invalid argument #{position} in call to function '{name}' ({cause.message})"),
      w) := by
  have hArgs : exportArguments name args =
      .error (.invalidArgument "lua" (.unconvertible position name cause)) :=
    convertAll_eq_error.mpr ⟨position, cause, hFirst, rfl⟩
  have hRelay : (b.relay handler name args).run.run w =
      some (.error (.invalidArgument "lua" (.unconvertible position name cause)), w) := by
    rw [relay, run_relay_bind_ready hReady, hArgs]
    exact Operation.run_bind_of_error (Operation.run_convert _)
  exact run_callScript_of_relay hRelay

/-- One call of the global stands between two entries in the journal, and what it comes back with is
turned into the answer. -/
theorem run_callScript_of_outcome (hReady : w.gate = .ready)
    (hInputs : exportArguments name args = .ok inputs)
    (hCall : (Run.routine Run.scriptPlace handler (b.script.call name inputs)).run
      (w.log [.called (.callScript name inputs) w.gate]) = some (outcome, v)) :
    (b.callScript handler name args).run w =
      some (answer name outcome, v.log [.returned (.callScript name inputs) none v.gate]) := by
  have hRelay : (b.relay handler name args).run.run w =
      some ((outcome.mapError (callFailure name)).bind (importResults name),
        v.log [.returned (.callScript name inputs) none v.gate]) := by
    rw [relay, run_relay_bind_ready hReady, hInputs,
      Operation.run_bind_of_ok (Operation.run_convert _), issueScript,
      Operation.run_bind_of_ok (Operation.run_step (run_issue hCall))]
    cases outcome with
    | ok outputs =>
      exact (Operation.run_bind_of_ok (Operation.run_convert _)).trans (Operation.run_convert _)
    | error fault => exact Operation.run_bind_of_error (Operation.run_convert _)
  exact run_callScript_of_relay hRelay

theorem run_callScript_of_endless (hReady : w.gate = .ready)
    (hInputs : exportArguments name args = .ok inputs)
    (hCall : (Run.routine Run.scriptPlace handler (b.script.call name inputs)).run
      (w.log [.called (.callScript name inputs) w.gate]) = none) :
    (b.callScript handler name args).run w = none := by
  apply Run.run_bind_of_none
  rw [relay, run_relay_bind_ready hReady, hInputs,
    Operation.run_bind_of_ok (Operation.run_convert _)]
  exact Operation.run_bind_of_none (Operation.run_step_of_none (run_issue_of_none hCall))

end

/-! ## From the call to the answer -/

/-- The code of a global that is called comes to an end, with this outcome and in this state of the
run. -/
def ScriptEnds (b : Bridge η ς ν) (depth : Nat) (name : String) (inputs : List ScriptValue)
    (w : World η ς ν) (outcome : Except ScriptFault (List ScriptValue)) (v : World η ς ν) : Prop :=
  (b.runScript depth (b.script.call name inputs)).run
    (w.log [.called (.callScript name inputs) w.gate]) = some (outcome, v)

/-- A run is one call of a global. Between the entries of the call in the journal stands only what
its code crosses for, and the answer is made of what the code came to. -/
structure CallsScriptOnce (b : Bridge η ς ν) (depth : Nat) (name : String)
    (inputs : List ScriptValue) (x : Run η ς ν (Except NumericFault (List NumericValue)))
    (w : World η ς ν) : Prop where
  during : ∀ outcome v, b.ScriptEnds depth name inputs w outcome v →
    v.gate = .ready ∧
      ∃ events, v.journal = w.journal ++ .called (.callScript name inputs) .ready :: events
  returned : ∀ outcome v, b.ScriptEnds depth name inputs w outcome v → ∃ reply,
    Imported name outcome reply ∧
      x.run w = some (reply, v.log [.returned (.callScript name inputs) none .ready])
  endless : (∀ outcome v, ¬b.ScriptEnds depth name inputs w outcome v) → x.run w = none

section

variable {b : Bridge η ς ν} {depth : Nat} {name : String} {args : List NumericValue}
  {inputs : List ScriptValue} {w v : World η ς ν}

theorem ScriptEnds.ready {outcome : Except ScriptFault (List ScriptValue)}
    (h : b.ScriptEnds depth name inputs w outcome v) (hReady : w.gate = .ready) :
    v.gate = .ready ∧
      ∃ events, v.journal = w.journal ++ .called (.callScript name inputs) .ready :: events := by
  have hLeads := within_script (within_enter b depth) _ h
  have hStillReady := hLeads.ready hReady
  obtain ⟨events, hEvents, -⟩ := hLeads
  refine ⟨hStillReady, events, ?_⟩
  rw [hEvents, World.log_journal, hReady, List.append_assoc, List.singleton_append]

theorem callScript_callsOnce (hReady : w.gate = .ready)
    (hArgs : List.Forall₂ (fun arg input => arg.toScript = .ok input) args inputs) :
    b.CallsScriptOnce depth name inputs (b.callScript (b.enter depth) name args) w where
  during _ _ h := h.ready hReady
  returned outcome v h := by
    rw [run_callScript_of_outcome hReady (convertAll_eq_ok.mpr hArgs) h, (h.ready hReady).1]
    exact ⟨_, imported_answer name outcome, rfl⟩
  endless h := by
    apply run_callScript_of_endless hReady (convertAll_eq_ok.mpr hArgs)
    rw [Option.eq_none_iff_forall_not_mem]
    exact fun ⟨outcome, v⟩ => h outcome v

end

/-- The builtin refuses arguments that name no function with its usage fault, as a computation that
touches nothing, and only those. Otherwise it calls the named global with the rest, however many
results are asked for. Behind a gate that is not ready nothing is called, nor with an argument that
does not convert; behind a ready one there is one call, and its results come back all together or
not at all. Whatever fails, it is an execution fault. -/
theorem reverse_calls_end_to_end (b : Bridge η ς ν) (depth : Nat) (w : World η ς ν) :
    (∀ args nargout,
      (NamesNothing args → b.runBuiltin (b.enter depth) args nargout =
        pure (.error (.execution s!"Invalid call to {b.usageName}"))) ∧
      (∀ w', (b.runBuiltin (b.enter depth) args nargout).run w =
        some (.error (.execution s!"Invalid call to {b.usageName}"), w') → NamesNothing args) ∧
      (¬NamesNothing args → ∃ name rest, args = .text [name] :: rest ∧
        b.runBuiltin (b.enter depth) args nargout = b.callScript (b.enter depth) name rest)) ∧
    (∀ name args,
      (w.gate ≠ .ready → (b.callScript (b.enter depth) name args).run w =
        some (.error (.execution "lua: numeric runtime not initialized"), w)) ∧
      (w.gate = .ready →
        (∀ position cause, FirstFailure NumericValue.toScript args position cause →
          (b.callScript (b.enter depth) name args).run w = some (.error (.execution
            s!"lua: invalid argument #{position} in call to function '{name}' ({cause.message})"),
            w)) ∧
        (∀ inputs, List.Forall₂ (fun arg input => arg.toScript = .ok input) args inputs →
          b.CallsScriptOnce depth name inputs (b.callScript (b.enter depth) name args) w) ∧
        ((∃ position cause, FirstFailure NumericValue.toScript args position cause) ∨
          ∃ inputs, List.Forall₂ (fun arg input => arg.toScript = .ok input) args inputs))) ∧
    ∀ fault w',
      (∀ args nargout, (b.runBuiltin (b.enter depth) args nargout).run w =
        some (.error fault, w') → ∃ message, fault = .execution message) ∧
      ∀ name args, (b.callScript (b.enter depth) name args).run w = some (.error fault, w') →
        ∃ message, fault = .execution message := by
  refine ⟨fun args nargout => ⟨?_, ?_, ?_⟩, fun name args => ⟨?_, fun hReady => ⟨?_, ?_, ?_⟩⟩,
    fun fault w' => ⟨fun args nargout h => ?_, fun name args h => callScript_not_exit h⟩⟩
  · exact runBuiltin_of_namesNothing b _ nargout
  · exact fun w' h => namesNothing_of_usageFault h
  · intro hNames
    obtain ⟨name, rest, rfl⟩ := (namesNothing_or_named args).resolve_left hNames
    exact ⟨name, rest, rfl, runBuiltin_of_named b _ nargout⟩
  · exact b.run_callScript_refused _ name args
  · exact fun position cause => run_callScript_of_unconvertible hReady
  · exact fun inputs => callScript_callsOnce hReady
  · exact firstFailure_or_forall₂ _ args
  · rcases namesNothing_or_named args with hNames | ⟨name, rest, rfl⟩
    · rw [runBuiltin_of_namesNothing b _ nargout hNames] at h
      cases h
      exact ⟨_, rfl⟩
    · exact callScript_not_exit h

/-- A host with a program that leaves, beside a script with a function that answers a text, one that
answers a value that converts and one that does not, and one that runs the program. -/
def wordyWorld : World Scenario.Host Scenario.Script Scenario.Note :=
  ⟨.ready, ⟨.seq [], [], [("leave", .fault (.exit 3))], []⟩,
    [("word", .give [.text "hi"]), ("pair", .give [.number (.ofNat 1), .boolean false]),
      ("quit", .evaluate "leave" 1)], []⟩

theorem wordy_script_called : ∃ u u' u'',
    (scenarioBridge.runBuiltin (scenarioBridge.enter 1) [.text ["word"]] 0).run wordyWorld =
      some (.error (.execution ("lua: invalid return value in call to function 'word'\n" ++
        "expected number or table, got string")), u) ∧
    (scenarioBridge.runBuiltin (scenarioBridge.enter 1) [.text ["pair"]] 1).run wordyWorld =
      some (.error (.execution ("lua: invalid return value #2 in call to function 'pair'\n" ++
        "expected number or table, got boolean")), u') ∧
    (scenarioBridge.runBuiltin (scenarioBridge.enter 1) [.text ["quit"]] 1).run wordyWorld =
      some (.error (.execution ("lua: exception in call to function 'quit'\n" ++
        "oct_error: eval: numeric interpreter exited with status 3")), u'') ∧
    (scenarioBridge.runBuiltin (scenarioBridge.enter 1) [.text ["pair"], .undefined] 1).run
      wordyWorld = some (.error (.execution
        "lua: invalid argument #1 in call to function 'pair' (undefined value)"), wordyWorld) := by
  obtain ⟨-, hCalls, -⟩ := reverse_calls_end_to_end scenarioBridge 1 wordyWorld
  have hOnce name := ((hCalls name []).2 rfl).2.1 [] .nil
  obtain ⟨reply, hWord, hRunWord⟩ := (hOnce "word").returned _ _ rfl
  obtain ⟨reply', hPair, hRunPair⟩ := (hOnce "pair").returned _ _ rfl
  obtain ⟨reply'', hQuit, hRunQuit⟩ := (hOnce "quit").returned _ _ rfl
  cases imported_iff.mp hWord
  cases imported_iff.mp hPair
  cases imported_iff.mp hQuit
  refine ⟨_, _, _, hRunWord, hRunPair, hRunQuit, ((hCalls "pair" _).2 rfl).1 1 .undefined ?_⟩
  exact ⟨[], .undefined, [], rfl, by simp, rfl, rfl⟩

end Bridge

end MatrixBridge
