import MatrixBridge.Proofs.BootOnce
import MatrixBridge.Proofs.Conversion
import MatrixBridge.Proofs.ScriptCalls
import MatrixBridge.Proofs.Trace

/-! # Faults are reported once

Every run leaves a trace: whatever the code of the two runtimes does, a call that comes back with an
execution fault is followed by the report of this fault, in the operation that made the call, and
there are no other reports. -/

namespace MatrixBridge

variable {η ς ν α β : Type}

/-- The journal gains a trace in which nothing is reported outside of its operations. -/
def Quiet (w w' : World η ς ν) : Prop :=
  ∃ events, w'.journal = w.journal ++ events ∧ Trace [] events

/-- Every end of the run has added a trace to the journal, and what it reports itself stands in this
relation to the result. -/
def Run.Owns (P : α → List NumericFault → Prop) (run : Run η ς ν α) : Prop :=
  ∀ ⦃w a w'⦄, run.run w = some (a, w') →
    ∃ own events, w'.journal = w.journal ++ events ∧ Trace own events ∧ P a own

theorem carried_quiet : Run.Carried (Quiet : World η ς ν → World η ς ν → Prop) where
  refl w := ⟨[], by simp, .nil⟩
  trans := by
    rintro u v w ⟨events, hEvents, h⟩ ⟨more, hMore, hNext⟩
    exact ⟨events ++ more, by rw [hMore, hEvents, List.append_assoc], h.append hNext⟩

theorem owns_of_quiet {P : α → List NumericFault → Prop} {run : Run η ς ν α}
    (h : Run.Within Quiet run) (hP : ∀ a, P a []) : run.Owns P := by
  intro w a w' hRun
  obtain ⟨events, hEvents, hTrace⟩ := h hRun
  exact ⟨[], events, hEvents, hTrace, hP a⟩

theorem quiet_routine {σ : Type} {place : Run.Place η ς ν σ} {handler : Run.Handler η ς ν}
    (hPlace : ∀ s w, (place.write s w).journal = w.journal)
    (hHandler : ∀ c, Run.Within Quiet (handler c)) (code : Routine σ ν α) :
    Run.Within Quiet (Run.routine place handler code) := by
  refine carried_quiet.routine (fun s w => ?_) (fun n w => ?_) hHandler code
  · exact ⟨[], by simp [hPlace], .nil⟩
  · exact ⟨[.note n], rfl, .note n .nil⟩

namespace Operation

theorem Owns.bind {x : Operation η ς ν α} {f : α → Operation η ς ν β}
    (hx : Run.Owns Operation.Owns x.run) (hf : ∀ a, Run.Owns Operation.Owns (f a).run) :
    Run.Owns Operation.Owns (x >>= f).run := by
  intro w outcome w' h
  rw [ExceptT.run_bind] at h
  obtain ⟨first, v, hFirst, h⟩ := Run.run_bind_eq_some.mp h
  obtain ⟨own, events, hEvents, hTrace, hOwn⟩ := hx hFirst
  cases first with
  | error e =>
    cases h
    exact ⟨own, events, hEvents, hTrace, hOwn⟩
  | ok a =>
    obtain ⟨more, rest, hRest, hMoreTrace, hMore⟩ := hf a h
    refine ⟨more, events ++ rest, by rw [hRest, hEvents, List.append_assoc], ?_, hMore⟩
    have hBoth := hTrace.append hMoreTrace
    rwa [show own = [] from hOwn, List.nil_append] at hBoth

theorem owns_step {run : Run η ς ν α} (h : Run.Within Quiet run) :
    Run.Owns Operation.Owns (step run).run := by
  intro w outcome w' hRun
  have hLift : (run >>= fun a => pure (Except.ok a)).run w = some (outcome, w') := hRun
  obtain ⟨a, v, hFirst, hPure⟩ := Run.run_bind_eq_some.mp hLift
  cases hPure
  obtain ⟨events, hEvents, hTrace⟩ := h hFirst
  exact ⟨[], events, hEvents, hTrace, rfl⟩

theorem owns_pure (a : α) : Run.Owns Operation.Owns (pure a : Operation η ς ν α).run := by
  rintro w _ _ ⟨⟩
  exact ⟨[], [], by simp, .nil, rfl⟩

theorem owns_convert {outcome : Except BridgeError α} (h : ∀ e, outcome = .error e → e.Owns []) :
    Run.Owns Operation.Owns (convert (η := η) (ς := ς) (ν := ν) outcome).run := by
  rintro w _ _ ⟨⟩
  refine ⟨[], [], by simp, .nil, ?_⟩
  cases outcome with
  | ok a => rfl
  | error e => exact h e rfl

theorem owns_convertAll {γ δ ε : Type} {f : γ → Except ε δ} {fail : Nat → ε → BridgeError}
    (hFail : ∀ position cause, (fail position cause).Owns []) (xs : List γ) :
    Run.Owns Operation.Owns (convert (η := η) (ς := ς) (ν := ν) (convertAll f fail xs)).run :=
  owns_convert fun _ => of_convertAll_eq_error (P := (BridgeError.Owns · [])) hFail

theorem owns_mapError {outcome : Except CodecError α} {fail : CodecError → BridgeError}
    (hFail : ∀ cause, (fail cause).Owns []) :
    Run.Owns Operation.Owns (convert (η := η) (ς := ς) (ν := ν) (outcome.mapError fail)).run :=
  owns_convert fun _ => of_mapError_eq_error (P := (BridgeError.Owns · [])) hFail

theorem owns_throw {e : BridgeError} (he : e.Owns []) :
    Run.Owns Operation.Owns (throw e : Operation η ς ν α).run := by
  rintro w _ _ ⟨⟩
  exact ⟨[], [], by simp, .nil, he⟩

end Operation

namespace Bridge

variable {b : Bridge η ς ν} {w v w' : World η ς ν} {handler : Run.Handler η ς ν}

theorem issue_events {call : ForeignCall} {fault : α → Option NumericFault} {run : Run η ς ν α}
    (hRun : Run.Within Quiet run) {a : α} (h : (issue call fault run).run w = some (a, w')) :
    ∃ during, Trace [] during ∧ w'.journal =
      w.journal ++ .called call w.gate :: (during ++ [.returned call (fault a) w'.gate]) := by
  obtain ⟨v, hCode, rfl⟩ := run_issue_eq_some h
  obtain ⟨during, hDuring, hTrace⟩ := hRun hCode
  refine ⟨during, hTrace, ?_⟩
  rw [World.log_journal, hDuring, World.log_journal]
  simp

theorem quiet_issue {call : ForeignCall} (hCall : call.isReport = false) {run : Run η ς ν α}
    (hRun : Run.Within Quiet run) : Run.Within Quiet (issue call noFault run) := by
  intro w a w' h
  obtain ⟨during, hTrace, hEvents⟩ := issue_events hRun h
  exact ⟨_, hEvents, .call hCall nofun nofun hTrace .nil⟩

theorem length_reported_le (fault : NumericFault) : fault.reported.length ≤ 1 := by
  cases fault <;> simp [NumericFault.reported]

theorem owns_exportResults (op : String) (values : List NumericValue) (maxResults : Nat) :
    Run.Owns Operation.Owns
      (Operation.convert (η := η) (ς := ς) (ν := ν) (exportResults op values maxResults)).run := by
  refine Operation.owns_convertAll (fun _ _ => ?_) _
  rfl

theorem owns_importArguments (name : String) (args : List ScriptValue) :
    Run.Owns Operation.Owns
      (Operation.convert (η := η) (ς := ς) (ν := ν) (importArguments name args)).run := by
  refine Operation.owns_convertAll (fun _ _ => ?_) _
  rfl

section

variable (hHandler : ∀ c, Run.Within Quiet (handler c))
include hHandler

theorem quiet_numeric (code : Routine η ν α) :
    Run.Within Quiet (Run.routine Run.numericPlace handler code) :=
  quiet_routine (fun _ _ => rfl) hHandler code

theorem quiet_script (code : Routine ς ν α) :
    Run.Within Quiet (Run.routine Run.scriptPlace handler code) :=
  quiet_routine (fun _ _ => rfl) hHandler code

theorem issueNumeric_report {call : ForeignCall} (hCall : call.canFault) {fault : NumericFault}
    {code : Routine η ν (Except NumericFault α)}
    (hIssue : (issueNumeric handler call fault? code).run w = some (.error fault, v))
    (hReport : (b.report handler fault).run v = some ((), w')) :
    ∃ events, w'.journal = w.journal ++ events ∧ Trace fault.reported events := by
  obtain ⟨during, hTrace, hEvents⟩ := issue_events (quiet_numeric hHandler code) hIssue
  have hOther := ForeignCall.canFault.not_isReport hCall
  cases fault with
  | exit status =>
    cases hReport
    refine ⟨_, hEvents, .call hOther (fun _ => hCall) ?_ hTrace .nil⟩
    rintro _ ⟨⟩
    rfl
  | execution message =>
    obtain ⟨reporting, hReporting, hMore⟩ := issue_events (quiet_numeric hHandler _) hReport
    rw [hEvents, List.append_assoc, List.cons_append, List.append_assoc] at hMore
    exact ⟨_, hMore, .reported hCall hTrace hReporting .nil⟩

theorem issueNumeric_ok {call : ForeignCall} (hCall : call.canFault) {a : α}
    {code : Routine η ν (Except NumericFault α)}
    (h : (issueNumeric handler call fault? code).run w = some (.ok a, w')) : Quiet w w' := by
  obtain ⟨during, hTrace, hEvents⟩ := issue_events (quiet_numeric hHandler code) h
  exact ⟨_, hEvents, .call (ForeignCall.canFault.not_isReport hCall) nofun nofun hTrace .nil⟩

theorem owns_execute {op : String} {call : ForeignCall} (hCall : call.canFault)
    (code : Routine η ν (Except NumericFault (List NumericValue))) :
    Run.Owns Operation.Owns (b.execute handler op call code).run := by
  intro w outcome w' h
  rw [execute, Operation.step, ExceptT.run_bind_lift] at h
  obtain ⟨answer, v, hIssue, h⟩ := Run.run_bind_eq_some.mp h
  cases answer with
  | ok values =>
    cases h
    obtain ⟨events, hEvents, hTrace⟩ := issueNumeric_ok hHandler hCall hIssue
    exact ⟨[], events, hEvents, hTrace, rfl⟩
  | error fault =>
    simp only [Operation.step, ExceptT.run_bind_lift] at h
    obtain ⟨_, u, hReport, h⟩ := Run.run_bind_eq_some.mp h
    cases h
    obtain ⟨events, hEvents, hTrace⟩ := issueNumeric_report hHandler hCall hIssue hReport
    exact ⟨fault.reported, events, hEvents, hTrace, rfl⟩

/-! ## The boot -/

theorem quiet_installBuiltin : Run.Within Quiet (b.installBuiltin handler) := by
  unfold installBuiltin
  split
  · exact quiet_issue rfl (quiet_numeric hHandler _)
  · exact carried_quiet.pure ()

theorem owns_boot : Run.Owns (fun outcome own => own.length ≤ 1 ∧ (outcome = .ok () → own = []))
    (b.boot handler) := by
  intro w outcome w' h
  obtain ⟨_, v, hInstall, h⟩ := Run.run_bind_eq_some.mp h
  obtain ⟨events, hEvents, hTrace⟩ := quiet_installBuiltin hHandler hInstall
  obtain ⟨started, u, hStart, h⟩ := Run.run_bind_eq_some.mp h
  cases started with
  | ok =>
    cases h
    obtain ⟨more, hMore, hNext⟩ := issueNumeric_ok hHandler rfl hStart
    exact ⟨[], events ++ more, by rw [hMore, hEvents, List.append_assoc], hTrace.append hNext,
      by simp⟩
  | error fault =>
    obtain ⟨_, u, hReport, h⟩ := Run.run_bind_eq_some.mp h
    cases h
    obtain ⟨more, hMore, hNext⟩ := issueNumeric_report hHandler rfl hStart hReport
    exact ⟨fault.reported, events ++ more, by rw [hMore, hEvents, List.append_assoc],
      hTrace.append hNext, length_reported_le fault, nofun⟩

theorem owns_letThrough (op : String) :
    Run.Owns Operation.Owns (b.letThrough handler op).run := by
  intro w passed w' h
  by_cases hGate : w.gate = .uninitialized
  · have hBoot := Run.run_bootThenCheck_uninitialized op (b.boot handler) hGate
    obtain ⟨⟨outcome, v⟩, hRun, hEnd⟩ := Option.bind_eq_some_iff.mp (hBoot.symm.trans h)
    cases hEnd
    obtain ⟨own, events, hEvents, hTrace, hLength, hOwn⟩ := owns_boot hHandler hRun
    refine ⟨own, events, hEvents, hTrace, ?_⟩
    cases outcome with
    | ok => exact hOwn rfl
    | error status => exact hLength
  · cases (b.run_letThrough handler op hGate).symm.trans h
    refine ⟨[], [], by simp, .nil, ?_⟩
    cases w.gate <;> simp [Gate.passage, Operation.Owns, BridgeError.Owns]

/-! ## Operations -/

theorem quiet_relay (name : String) (args : List NumericValue) :
    Run.Within Quiet (b.relay handler name args).run := by
  apply carried_quiet.operation_bind (x := ExceptT.mk (Gate.check "lua"))
  · rintro w _ _ ⟨⟩
    exact carried_quiet.refl w
  intro _
  apply carried_quiet.operation_bind (carried_quiet.convert _)
  intro inputs
  apply carried_quiet.operation_bind
  · exact carried_quiet.step (quiet_issue rfl (quiet_script hHandler _))
  intro outcome
  exact carried_quiet.operation_bind (carried_quiet.convert _) fun _ => carried_quiet.convert _

theorem quiet_callScript (name : String) (args : List NumericValue) :
    Run.Within Quiet (b.callScript handler name args) :=
  carried_quiet.bind (quiet_relay hHandler name args) fun _ => carried_quiet.pure _

theorem owns_perform (c : Crossing) : Run.Owns c.Owns (b.perform handler c) := by
  cases c with
  | evaluate code maxResults =>
    refine Operation.Owns.bind (owns_letThrough hHandler "eval") fun _ => ?_
    split
    · exact Operation.owns_pure _
    · refine Operation.Owns.bind (owns_execute hHandler rfl _) fun values => ?_
      exact owns_exportResults _ _ _
  | callFunction name args maxResults =>
    refine Operation.Owns.bind (owns_letThrough hHandler "feval") fun _ => ?_
    have hCall : Run.Owns Operation.Owns (do
        let inputs ← Operation.convert (importArguments name args)
        let values ← b.execute handler "feval" (.call name inputs maxResults)
          (b.numeric.call name inputs maxResults)
        Operation.convert (exportResults "feval" values maxResults)).run := by
      refine Operation.Owns.bind (owns_importArguments name args) fun inputs => ?_
      refine Operation.Owns.bind (owns_execute hHandler rfl _) fun values => ?_
      exact owns_exportResults _ _ _
    split
    · exact Operation.Owns.bind (Operation.owns_throw rfl) fun _ => hCall
    · exact hCall
  | readGlobal name =>
    refine Operation.Owns.bind (owns_letThrough hHandler "get") fun _ => ?_
    refine Operation.Owns.bind (Operation.owns_step ?_) fun value => ?_
    · exact quiet_issue rfl (quiet_numeric hHandler _)
    · exact Operation.owns_mapError fun _ => rfl
  | writeGlobal name value =>
    refine Operation.Owns.bind (owns_letThrough hHandler "set") fun _ => ?_
    refine Operation.Owns.bind (Operation.owns_mapError fun _ => rfl) fun value => ?_
    refine Operation.Owns.bind (Operation.owns_step ?_) fun _ => Operation.owns_pure true
    exact quiet_issue rfl (quiet_numeric hHandler _)
  | callScript name args => exact owns_of_quiet (quiet_callScript hHandler name args) fun _ => rfl
  | builtin args nargout =>
    refine owns_of_quiet ?_ fun _ => rfl
    simp only [perform, runBuiltin]
    split
    · exact quiet_callScript hHandler _ _
    · exact carried_quiet.pure _

end

theorem quiet_enter (b : Bridge η ς ν) (depth : Nat) (c : Crossing) :
    Run.Within Quiet (b.enter depth c) := by
  induction depth generalizing c with
  | zero => rintro w reply w' ⟨⟩
  | succ depth ih =>
    intro w reply w' h
    obtain ⟨v, hPerform, rfl⟩ := b.run_enter_eq_some h
    obtain ⟨own, inside, hInside, hTrace, hOwns⟩ := owns_perform ih c hPerform
    refine ⟨.entered c w.gate :: (inside ++ [.left c reply v.gate]), ?_,
      .operation hOwns hTrace .nil⟩
    rw [World.log_journal, hInside, World.log_journal]
    simp

theorem quiet_session (b : Bridge η ς ν) (depth : Nat) (turns : List (Turn η ς ν)) :
    Run.Within Quiet (b.session depth turns) := by
  induction turns with
  | nil => exact carried_quiet.pure ()
  | cons turn turns ih =>
    refine carried_quiet.bind ?_ fun _ => ih
    cases turn with
    | cross c => exact carried_quiet.bind (quiet_enter b depth c) fun _ => carried_quiet.pure _
    | numeric code => exact quiet_numeric (quiet_enter b depth) code
    | script code => exact quiet_script (quiet_enter b depth) code

/-- However the runtimes cross into each other, the reports of a session are the execution faults
that starts, evaluations and calls came back with, in the same order. Each report is the next thing
that happens after the return of the call that it belongs to, and belongs to the operation that made
the call: an operation that fails with a fault reports this fault once and nothing else, or nothing
if the fault is a request to exit; one that answers, or fails for another reason, reports nothing
but the fault of a start that it set off. A fault that came through a reverse call is no request to
exit, so where operations within each other fail one because of the other, each reports its own, and
only the innermost can have nothing to report. -/
theorem faults_reported_once (b : Bridge η ς ν) (depth : Nat) (turns : List (Turn η ς ν))
    (h : (b.session depth turns).run w = some ((), w')) :
    (∃ events, w'.journal = w.journal ++ events ∧
      Event.reports events = Event.executionFaults events ∧
      (∀ call fault g, .returned call (some fault) g ∈ events → call.canFault) ∧
      (∀ call message g after, .returned call (some (.execution message)) g :: after <:+ events →
        ∃ g' rest, after = .called (.report (.execution message)) g' :: rest) ∧
      (∀ fault g before, before ++ [.called (.report fault) g] <+: events →
        ∃ front call message g', fault = .execution message ∧
          before = front ++ [.returned call (some fault) g']) ∧
      ∀ c g after, .entered c g :: after <:+ events → ∃ inside reply g' rest,
        after = inside ++ .left c reply g' :: rest ∧ Event.Closed inside ∧
        c.Owns reply (Event.ownReports 0 inside)) ∧
    ∀ handler name args v fault v',
      (b.callScript handler name args).run v = some (.error fault, v') →
      ∃ message, fault = .execution message := by
  refine ⟨?_, fun _ _ _ _ _ _ hFails => callScript_not_exit hFails⟩
  obtain ⟨events, hEvents, hTrace⟩ := quiet_session b depth turns h
  have hTimely := hTrace.timely
  refine ⟨events, hEvents, hTimely.reports_eq, fun _ _ _ => hTrace.canFault, ?_, ?_, ?_⟩
  · intro call message g after hReturned
    exact hTimely.of_returned hReturned
  · intro fault g before hReport
    exact hTimely.of_report hReport
  · intro c g after hEntered
    exact hTrace.enclosed hEntered

/-- A host whose function `f1` calls the script's `g1`, which calls the host's `f2`, which asks to
leave. -/
def leavingWorld : World Scenario.Host Scenario.Script Scenario.Note :=
  ⟨.uninitialized, ⟨.seq [], [("f1", .action (.call "lua_call" [.text ["g1"]] false none)),
      ("f2", .action (.fault (.exit 3)))], [], []⟩, [("g1", .callFunction "f2" [] false 1)], []⟩

theorem leavingWorld_faults :
    ∃ w', (scenarioBridge.session 3 [.cross (.callFunction "f1" [] 1)]).run leavingWorld =
        some ((), w') ∧
      Event.executionFaults w'.journal = [.execution ("lua: exception in call to function 'g1'\n" ++
        "oct_error: feval: numeric interpreter exited with status 3")] :=
  ⟨_, rfl, rfl⟩

/-- The request to exit is not reported, the fault that it becomes one level up is. -/
theorem leaving_host_reports_once :
    ∃ w', (scenarioBridge.session 3 [.cross (.callFunction "f1" [] 1)]).run leavingWorld =
        some ((), w') ∧
      Event.reports w'.journal = [.execution ("lua: exception in call to function 'g1'\n" ++
        "oct_error: feval: numeric interpreter exited with status 3")] := by
  obtain ⟨w', hRun, hFaults⟩ := leavingWorld_faults
  obtain ⟨events, hEvents, hReports, -⟩ := (faults_reported_once scenarioBridge 3 _ hRun).1
  have hJournal : w'.journal = events := hEvents
  exact ⟨w', hRun, by rw [hJournal, hReports, ← hJournal, hFaults]⟩

end Bridge

end MatrixBridge
