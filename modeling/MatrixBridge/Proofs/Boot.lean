import MatrixBridge.Proofs.History

/-! # Every run has a history

A boot issues its calls while the gate is booting, so whatever their code asks of the bridge is
refused; behind a ready gate every operation is served. By induction on the depth of nesting each
crossing has a history, and with it each session. -/

namespace MatrixBridge.Bridge

variable {η ς ν α : Type} {b : Bridge η ς ν} {w w' : World η ς ν} {handler : Run.Handler η ς ν}

/-! ## The boot -/

section

variable (hHandler : ∀ c, Run.Within b.Leads (handler c))
include hHandler

theorem issueNumeric_booting (hGate : w.gate = .booting) {call : ForeignCall}
    {fault : α → Option NumericFault} {code : Routine η ν α} {a : α}
    (h : (issueNumeric handler call fault code).run w = some (a, w')) :
    w'.gate = .booting ∧
      ∃ events, w'.journal = w.journal ++ events ∧ b.Booting [(call, fault a)] events := by
  obtain ⟨v, hCode, rfl⟩ := run_issue_eq_some h
  obtain ⟨during, hJournal, hHistory⟩ := within_numeric hHandler code hCode
  rw [World.log_gate, hGate] at hHistory
  obtain ⟨hBooting, hRefusing⟩ := hHistory.of_shut (by simp) (by simp)
  refine ⟨hBooting, .called call .booting :: (during ++ [.returned call (fault a) .booting]), ?_,
    .call call (fault a) hRefusing .nil⟩
  rw [World.log_journal, hJournal, World.log_journal, hBooting, hGate]
  simp

theorem installBuiltin_booting (hGate : w.gate = .booting)
    (h : (b.installBuiltin handler).run w = some ((), w')) :
    w'.gate = .booting ∧ ∃ events, w'.journal = w.journal ++ events ∧
      b.Booting (b.installAs.toList.map fun name => (.install name, none)) events := by
  unfold installBuiltin at h
  split at h
  · rename_i name hInstall
    rw [hInstall]
    exact issueNumeric_booting hHandler hGate h
  · rename_i hInstall
    cases h
    rw [hInstall]
    exact ⟨hGate, [], by simp, .nil⟩

theorem report_booting (hGate : w.gate = .booting) {fault : NumericFault}
    (h : (b.report handler fault).run w = some ((), w')) :
    w'.gate = .booting ∧ ∃ events, w'.journal = w.journal ++ events ∧
      b.Booting (reports (some fault)) events := by
  cases fault with
  | exit status =>
    cases h
    exact ⟨hGate, [], by simp, .nil⟩
  | execution message => exact issueNumeric_booting hHandler hGate h

theorem startRuntime_booting (hGate : w.gate = .booting) {outcome : Except Int32 Unit}
    (h : (b.startRuntime handler).run w = some (outcome, w')) :
    w'.gate = .booting ∧ ∃ fault events, Gate.settle outcome = Gate.settled fault ∧
      w'.journal = w.journal ++ events ∧ b.Booting ((.start, fault) :: reports fault) events := by
  obtain ⟨started, v, hStart, h⟩ := Run.run_bind_eq_some.mp h
  obtain ⟨hGate, events, hEvents, hBooting⟩ := issueNumeric_booting hHandler hGate hStart
  cases started with
  | ok =>
    cases h
    exact ⟨hGate, none, events, rfl, hEvents, hBooting⟩
  | error fault =>
    obtain ⟨_, u, hReport, h⟩ := Run.run_bind_eq_some.mp h
    cases h
    obtain ⟨hGate, more, hMore, hReporting⟩ := report_booting hHandler hGate hReport
    exact ⟨hGate, some fault, events ++ more, rfl,
      by rw [hMore, hEvents, List.append_assoc], hBooting.append hReporting⟩

theorem boot_booting (hGate : w.gate = .booting) {outcome : Except Int32 Unit}
    (h : (b.boot handler).run w = some (outcome, w')) :
    ∃ fault events, Gate.settle outcome = Gate.settled fault ∧
      w'.journal = w.journal ++ events ∧ b.Booting (b.bootCalls fault) events := by
  obtain ⟨_, v, hInstall, h⟩ := Run.run_bind_eq_some.mp h
  obtain ⟨hGate, events, hEvents, hInstalling⟩ := installBuiltin_booting hHandler hGate hInstall
  obtain ⟨_, fault, more, hSettle, hMore, hStarting⟩ := startRuntime_booting hHandler hGate h
  exact ⟨fault, events ++ more, hSettle, by rw [hMore, hEvents, List.append_assoc],
    hInstalling.append hStarting⟩

theorem letThrough_uninitialized (op : String) (hGate : w.gate = .uninitialized)
    {passed : Except BridgeError Unit} (h : (b.letThrough handler op).run.run w = some (passed, w')) :
    ∃ fault events, w'.gate = Gate.settled fault ∧ passed = Gate.passage op w'.gate ∧
      w'.journal = w.journal ++ events ∧ b.Booting (b.bootCalls fault) events := by
  have hBoot := Run.run_bootThenCheck_uninitialized op (b.boot handler) hGate
  obtain ⟨⟨outcome, v⟩, hRun, hEnd⟩ := Option.bind_eq_some_iff.mp (hBoot.symm.trans h)
  cases hEnd
  obtain ⟨fault, events, hSettle, hEvents, hBooting⟩ := boot_booting hHandler rfl hRun
  exact ⟨fault, events, hSettle, rfl, hEvents, hBooting⟩

end

/-! ## Behind a ready gate -/

theorem serves_record (event : GateState → Event ν) (hEvent : (event .ready).Served) :
    Run.Within (Serves : World η ς ν → World η ς ν → Prop) (Run.record event) := by
  rintro w _ _ ⟨⟩ hReady
  refine ⟨hReady, [event w.gate], rfl, fun e he => ?_⟩
  rw [List.mem_singleton.mp he, hReady]
  exact hEvent

theorem serves_issue {call : ForeignCall} (hCall : call.isStartUp = false)
    (fault : α → Option NumericFault) {run : Run η ς ν α} (hRun : Run.Within Serves run) :
    Run.Within Serves (issue call fault run) :=
  carried_serves.bind (serves_record _ ⟨rfl, hCall⟩) fun _ =>
    carried_serves.bind hRun fun _ =>
      carried_serves.bind (serves_record _ ⟨rfl, hCall⟩) fun _ => carried_serves.pure _

theorem serves_letThrough (op : String) :
    Run.Within Serves (b.letThrough handler op).run := by
  intro w passed w' h hReady
  have hPassed := b.run_letThrough handler op (w := w) (by simp [hReady])
  cases hPassed.symm.trans h
  exact carried_serves.refl w hReady

section

variable (hHandler : ∀ c, Run.Within b.Leads (handler c))
include hHandler

theorem serves_issueNumeric {call : ForeignCall} (hCall : call.isStartUp = false)
    (fault : α → Option NumericFault) (code : Routine η ν α) :
    Run.Within Serves (issueNumeric handler call fault code) :=
  serves_issue hCall fault fun _ _ _ h => (within_numeric hHandler code h).serves

theorem serves_execute {call : ForeignCall} (hCall : call.isStartUp = false) (op : String)
    (code : Routine η ν (Except NumericFault (List NumericValue))) :
    Run.Within Serves (b.execute handler op call code).run := by
  apply carried_serves.operation_bind (carried_serves.step (serves_issueNumeric hHandler hCall _ _))
  rintro (fault | values)
  · apply carried_serves.operation_bind (carried_serves.step ?_) fun _ => carried_serves.throw _
    cases fault with
    | exit status => exact carried_serves.pure ()
    | execution message => exact serves_issueNumeric hHandler rfl _ _
  · exact carried_serves.pure (α := Except BridgeError _) _

theorem serves_relay (name : String) (args : List NumericValue) :
    Run.Within Serves (b.relay handler name args).run := by
  apply carried_serves.operation_bind (x := ExceptT.mk (Gate.check "lua"))
  · rintro w _ _ ⟨⟩
    exact carried_serves.refl w
  intro _
  apply carried_serves.operation_bind (carried_serves.convert _)
  intro inputs
  apply carried_serves.operation_bind
  · exact carried_serves.step
      (serves_issue rfl _ fun _ _ _ h => (within_script hHandler _ h).serves)
  intro outcome
  exact carried_serves.operation_bind (carried_serves.convert _) fun _ => carried_serves.convert _

theorem serves_callScript (name : String) (args : List NumericValue) :
    Run.Within Serves (b.callScript handler name args) :=
  carried_serves.bind (serves_relay hHandler name args) fun _ => carried_serves.pure _

theorem serves_perform (c : Crossing) : Run.Within Serves (b.perform handler c) := by
  cases c with
  | evaluate code maxResults =>
    apply carried_serves.operation_bind (serves_letThrough "eval")
    intro _
    split
    · exact carried_serves.pure (α := Except BridgeError _) _
    · exact carried_serves.operation_bind (serves_execute hHandler rfl _ _) fun _ =>
        carried_serves.convert _
  | callFunction name args maxResults =>
    apply carried_serves.operation_bind (serves_letThrough "feval")
    intro _
    split
    · exact carried_serves.operation_bind (carried_serves.throw _) fun _ =>
        carried_serves.operation_bind (carried_serves.convert _) fun _ =>
          carried_serves.operation_bind (serves_execute hHandler rfl _ _) fun _ =>
            carried_serves.convert _
    · exact carried_serves.operation_bind (carried_serves.convert _) fun _ =>
        carried_serves.operation_bind (serves_execute hHandler rfl _ _) fun _ =>
          carried_serves.convert _
  | readGlobal name =>
    apply carried_serves.operation_bind (serves_letThrough "get")
    intro _
    exact carried_serves.operation_bind
      (carried_serves.step (serves_issueNumeric hHandler rfl _ _)) fun _ => carried_serves.convert _
  | writeGlobal name value =>
    apply carried_serves.operation_bind (serves_letThrough "set")
    intro _
    apply carried_serves.operation_bind (carried_serves.convert _)
    intro value
    exact carried_serves.operation_bind
      (carried_serves.step (serves_issueNumeric hHandler rfl _ _)) fun _ =>
        carried_serves.pure (α := Except BridgeError _) _
  | callScript name args => exact serves_callScript hHandler name args
  | builtin args nargout =>
    intro w reply w' h
    simp only [perform, runBuiltin] at h
    split at h
    · exact serves_callScript hHandler _ _ h
    · exact carried_serves.pure (α := Except NumericFault (List NumericValue)) _ h

end

/-! ## Runs of any depth -/

theorem letThrough_bind_uninitialized (hHandler : ∀ c, Run.Within b.Leads (handler c)) (op : String)
    (hGate : w.gate = .uninitialized) {f : Unit → Operation η ς ν α} {reply : Except BridgeError α}
    (h : (b.letThrough handler op >>= f).run.run w = some (reply, w')) :
    ∃ v fault events, v.gate = Gate.settled fault ∧ v.journal = w.journal ++ events ∧
      b.Booting (b.bootCalls fault) events ∧
      (b.letThrough handler op >>= f).run.run v = some (reply, w') := by
  rw [ExceptT.run_bind] at h
  obtain ⟨passed, v, hPass, h⟩ := Run.run_bind_eq_some.mp h
  obtain ⟨fault, events, hSettled, hPassed, hEvents, hBooting⟩ :=
    letThrough_uninitialized hHandler op hGate hPass
  refine ⟨v, fault, events, hSettled, hEvents, hBooting, ?_⟩
  have hAgain := b.run_letThrough handler op (w := v) (by cases fault <;> simp [hSettled, Gate.settled])
  rw [ExceptT.run_bind, Run.run_bind_of hAgain, ← hPassed]
  exact h

/-- An operation that boots goes on as if it had been entered after the boot. -/
theorem perform_uninitialized (hHandler : ∀ c, Run.Within b.Leads (handler c)) {c : Crossing}
    (hBoots : c.boots) (hGate : w.gate = .uninitialized) {reply : c.Reply}
    (h : (b.perform handler c).run w = some (reply, w')) :
    ∃ v fault events, v.gate = Gate.settled fault ∧ v.journal = w.journal ++ events ∧
      b.Booting (b.bootCalls fault) events ∧
      (b.perform handler c).run v = some (reply, w') := by
  cases c with
  | evaluate | callFunction | readGlobal | writeGlobal =>
    exact letThrough_bind_uninitialized hHandler _ hGate h
  | callScript | builtin => cases hBoots

theorem Serves.leads {w w' : World η ς ν} (h : Serves w w') (hReady : w.gate = .ready) :
    b.Leads w w' := by
  obtain ⟨hEnd, events, hEvents, hServed⟩ := h hReady
  exact ⟨events, hEvents, by rw [hReady, hEnd]; exact .serving hServed⟩

/-- Entering the operation that boots: the boot stands between its two entries, and what follows
the boot is served, or it is the refusal alone. -/
theorem leads_enter_boot {depth : Nat} (hDepth : ∀ c, Run.Within b.Leads (b.enter depth c))
    {c : Crossing} (hBoots : c.boots) (hGate : w.gate = .uninitialized) {reply : c.Reply}
    (h : (b.enter (depth + 1) c).run w = some (reply, w')) : b.Leads w w' := by
  obtain ⟨u, hPerform, rfl⟩ := b.run_enter_eq_some h
  obtain ⟨v, fault, boot, hSettled, hBoot, hBooting, hPerform⟩ :=
    perform_uninitialized (w := w.log [.entered c w.gate]) hDepth hBoots hGate hPerform
  rw [World.log_journal, hGate] at hBoot
  cases fault with
  | none =>
    obtain ⟨hReady, after, hAfter, hServed⟩ := serves_perform hDepth c hPerform hSettled
    refine ⟨.entered c .uninitialized :: (boot ++ (after ++ [.left c reply .ready])), ?_, ?_⟩
    · rw [World.log_journal, hAfter, hBoot, hReady]
      simp
    · rw [World.log_gate, hReady, hGate]
      refine History.booted hBoots (.nil : b.Refusing _ []) hBooting fun e he => ?_
      rcases List.mem_append.mp he with he | he
      · exact hServed e he
      · rw [List.mem_singleton.mp he]
        rfl
  | some fault =>
    have hRefused := b.run_perform_refused (b.enter depth) c (w := v) (by simp [hSettled, Gate.settled])
      (fun _ => by simp [hSettled, Gate.settled])
    cases hRefused.symm.trans hPerform
    refine ⟨.entered c .uninitialized ::
      (boot ++ [.left c (b.refusal c) (Gate.settled (some fault))]), ?_, ?_⟩
    · rw [World.log_journal, hBoot, hSettled]
      simp
    · rw [World.log_gate, hSettled, hGate]
      exact History.failed fault hBoots (.nil : b.Refusing _ []) hBooting .nil

theorem within_enter (b : Bridge η ς ν) (depth : Nat) (c : Crossing) :
    Run.Within b.Leads (b.enter depth c) := by
  induction depth generalizing c with
  | zero => rintro w a w' ⟨⟩
  | succ depth ih =>
    intro w reply w' h
    by_cases hReady : w.gate = .ready
    · refine Serves.leads ?_ hReady
      refine carried_serves.bind (serves_record (.entered c) rfl) (fun _ => ?_) h
      exact carried_serves.bind (serves_perform ih c) fun reply =>
        carried_serves.bind (serves_record (.left c reply) rfl) fun _ =>
          carried_serves.pure _
    · by_cases hBoots : c.boots → w.gate ≠ .uninitialized
      · cases (b.run_enter_refused depth c hReady hBoots).symm.trans h
        exact ⟨_, rfl, .refusing hReady (.refused c hBoots .nil)⟩
      · obtain ⟨hBoots, hGate⟩ := Classical.not_imp.mp hBoots
        exact leads_enter_boot ih hBoots (Decidable.not_not.mp hGate) h

theorem within_session (b : Bridge η ς ν) (depth : Nat) (turns : List (Turn η ς ν)) :
    Run.Within b.Leads (b.session depth turns) := by
  induction turns with
  | nil => exact carried_leads.pure ()
  | cons turn turns ih =>
    refine carried_leads.bind ?_ fun _ => ih
    cases turn with
    | cross c => exact carried_leads.bind (within_enter b depth c) fun _ => carried_leads.pure _
    | numeric code => exact within_numeric (within_enter b depth) code
    | script code => exact within_script (within_enter b depth) code

end MatrixBridge.Bridge
