import MatrixBridge.Proofs.Boot
import MatrixBridge.Scenario.Host
import MatrixBridge.Scenario.Script

/-! # The numeric runtime boots once

What a history says of the gate and of the calls that start the numeric runtime. The gate goes its
course but once: as it was, booting, and for good as the start came out. -/

namespace MatrixBridge

def ForeignCall.isStart : ForeignCall → Bool
  | .start => true
  | _ => false

def GateState.IsSettled (g : GateState) : Prop := g ≠ .uninitialized ∧ g ≠ .booting

variable {η ς ν : Type}

def Event.At (g : GateState) (e : Event ν) : Prop := ∀ gate ∈ e.gate?, gate = g

def Event.isStartUp : Event ν → Bool
  | .called call _ | .returned call _ _ => call.isStartUp
  | _ => false

def Event.calls (events : List (Event ν)) : List ForeignCall := events.filterMap Event.call?

@[simp] theorem Event.calls_nil : calls ([] : List (Event ν)) = [] := rfl

@[simp] theorem Event.calls_append (events more : List (Event ν)) :
    calls (events ++ more) = calls events ++ calls more :=
  List.filterMap_append

@[simp] theorem Event.calls_called (call : ForeignCall) (g : GateState) (events : List (Event ν)) :
    calls (.called call g :: events) = call :: calls events := rfl

@[simp] theorem Event.calls_returned (call : ForeignCall) (fault : Option NumericFault)
    (g : GateState) (events : List (Event ν)) :
    calls (.returned call fault g :: events) = calls events := rfl

@[simp] theorem Event.calls_entered (c : Crossing) (g : GateState) (events : List (Event ν)) :
    calls (.entered c g :: events) = calls events := rfl

@[simp] theorem Event.calls_left (c : Crossing) (reply : c.Reply) (g : GateState)
    (events : List (Event ν)) : calls (.left c reply g :: events) = calls events := rfl

namespace Bridge

open Event (calls)

/-- The gate stays as it is and nothing starts up, or it goes once through a boot. -/
inductive Course (b : Bridge η ς ν) : GateState → List (Event ν) → GateState → Prop
  | steady {g events} : (∀ e ∈ events, e.At g ∧ e.isStartUp = false) → Course b g events g
  | boots {before boot after} (fault : Option NumericFault) :
      (∀ e ∈ before, e.At .uninitialized ∧ e.isStartUp = false) →
      b.Booting (b.bootCalls fault) boot →
      (∀ e ∈ after, e.At (Gate.settled fault) ∧ e.isStartUp = false) →
      Course b .uninitialized (before ++ (boot ++ after)) (Gate.settled fault)

variable {b : Bridge η ς ν} {g g' : GateState} {events : List (Event ν)}
  {foreign : List (ForeignCall × Option NumericFault)} {fault : Option NumericFault}

/-! ## Refusals and boots -/

theorem Refusing.calls_eq (h : b.Refusing g events) : calls events = [] := by
  induction h with
  | nil => rfl
  | note n _ ih => exact ih
  | refused c _ _ ih => exact ih

theorem Refusing.at (h : b.Refusing g events) : ∀ e ∈ events, e.At g := by
  induction h with
  | nil => simp
  | note n _ ih => exact List.forall_mem_cons.mpr ⟨by simp [Event.At, Event.gate?], ih⟩
  | refused c _ _ ih =>
    refine List.forall_mem_cons.mpr ⟨by simp [Event.At, Event.gate?], ?_⟩
    exact List.forall_mem_cons.mpr ⟨by simp [Event.At, Event.gate?], ih⟩

theorem Refusing.not_returned (h : b.Refusing g events) (call : ForeignCall) :
    .returned call fault g' ∉ events := by
  induction h with
  | nil => simp
  | note n _ ih => simpa using ih
  | refused c _ _ ih => simpa using ih

theorem Booting.calls_eq (h : b.Booting foreign events) : calls events = foreign.map Prod.fst := by
  induction h with
  | nil => rfl
  | call call fault hDuring _ ih => simp [hDuring.calls_eq, ih]

theorem Booting.at (h : b.Booting foreign events) : ∀ e ∈ events, e.At .booting := by
  induction h with
  | nil => simp
  | call call fault hDuring _ ih =>
    refine List.forall_mem_cons.mpr ⟨by simp [Event.At, Event.gate?], ?_⟩
    refine List.forall_mem_append.mpr ⟨hDuring.at, ?_⟩
    exact List.forall_mem_cons.mpr ⟨by simp [Event.At, Event.gate?], ih⟩

theorem Booting.returned_mem (h : b.Booting foreign events) {call : ForeignCall} :
    .returned call fault g ∈ events ↔ (call, fault) ∈ foreign ∧ g = .booting := by
  induction h with
  | nil => simp
  | call first result hDuring _ ih =>
    simp only [List.mem_cons, List.mem_append, reduceCtorEq, hDuring.not_returned, false_or, ih,
      Event.returned.injEq, Prod.mk.injEq, or_and_right, and_assoc]

theorem mem_bootCalls_start {result : Option NumericFault} :
    (ForeignCall.start, result) ∈ b.bootCalls fault ↔ result = fault := by
  have hReports : (ForeignCall.start, result) ∉ reports fault := by
    unfold reports
    split <;> simp
  simp [bootCalls, hReports, eq_comm]

theorem Booting.bootCalls_calls (h : b.Booting (b.bootCalls fault) events) :
    calls events = b.installAs.toList.map .install ++ .start :: (reports fault).map Prod.fst := by
  rw [h.calls_eq]
  simp [bootCalls, Function.comp_def]

/-! ## The course of the gate -/

theorem Refusing.quiet (h : b.Refusing g events) :
    ∀ e ∈ events, e.At g ∧ e.isStartUp = false := by
  intro e he
  refine ⟨h.at e he, ?_⟩
  cases e with
  | called call gate =>
    have hCall : call ∈ calls events := List.mem_filterMap.mpr ⟨_, he, rfl⟩
    rw [h.calls_eq] at hCall
    cases hCall
  | returned call fault gate => exact absurd he (h.not_returned call)
  | entered | left | note => rfl

theorem served_quiet {e : Event ν} (h : e.Served) : e.At .ready ∧ e.isStartUp = false := by
  cases e with
  | entered c gate | left c reply gate =>
    cases h
    exact ⟨by simp [Event.At, Event.gate?], rfl⟩
  | called call gate | returned call fault gate =>
    obtain ⟨rfl, hCall⟩ := h
    exact ⟨by simp [Event.At, Event.gate?], hCall⟩
  | note => exact ⟨by simp [Event.At, Event.gate?], rfl⟩

theorem quiet_entered_boot {c : Crossing} (h : b.Refusing .uninitialized events) :
    ∀ e ∈ events ++ [.entered c .uninitialized],
      e.At .uninitialized ∧ e.isStartUp = false := by
  refine List.forall_mem_append.mpr ⟨h.quiet, ?_⟩
  simp [Event.At, Event.gate?, Event.isStartUp]

theorem History.course (h : b.History g events g') : b.Course g events g' := by
  cases h with
  | refusing _ hRefusing => exact .steady hRefusing.quiet
  | serving hServed => exact .steady fun e he => served_quiet (hServed e he)
  | booted _ hBefore hBoot hAfter =>
    rw [List.append_cons]
    exact .boots none (quiet_entered_boot hBefore) hBoot fun e he => served_quiet (hAfter e he)
  | failed fault _ hBefore hBoot hAfter =>
    rw [List.append_cons]
    refine .boots (some fault) (quiet_entered_boot hBefore) hBoot ?_
    exact List.forall_mem_cons.mpr ⟨⟨by simp [Event.At, Event.gate?], rfl⟩, hAfter.quiet⟩

theorem calls_quiet (h : ∀ e ∈ events, e.At g ∧ e.isStartUp = false) :
    ∀ call ∈ calls events, call.isStartUp = false := by
  intro call hCall
  obtain ⟨e, he, hEq⟩ := List.mem_filterMap.mp hCall
  cases e with
  | called other gate =>
    cases hEq
    exact (h _ he).2
  | entered | left | returned | note => cases hEq

theorem countP_isStart_eq_zero {foreign : List ForeignCall}
    (h : ∀ call ∈ foreign, call.isStartUp = false) : foreign.countP ForeignCall.isStart = 0 := by
  rw [List.countP_eq_zero]
  intro call hCall
  have := h call hCall
  cases call <;> simp_all [ForeignCall.isStart, ForeignCall.isStartUp]

theorem reports_quiet : ∀ call ∈ (reports fault).map Prod.fst, call.isStartUp = false := by
  unfold reports
  split <;> simp [ForeignCall.isStartUp]

theorem Course.startUp_calls (h : b.Course g events g') :
    (∀ call ∈ calls events, call.isStartUp = false) ∨
      g = .uninitialized ∧ ∃ earlier later,
        calls events = earlier ++ b.installAs.toList.map .install ++ .start :: later ∧
        ∀ call ∈ earlier ++ later, call.isStartUp = false := by
  cases h with
  | steady h => exact .inl (calls_quiet h)
  | @boots before boot after fault hBefore hBoot hAfter =>
    refine .inr ⟨rfl, calls before, (reports fault).map Prod.fst ++ calls after, ?_, ?_⟩
    · simp [hBoot.bootCalls_calls]
    · exact List.forall_mem_append.mpr ⟨calls_quiet hBefore,
        List.forall_mem_append.mpr ⟨reports_quiet, calls_quiet hAfter⟩⟩

theorem Course.starts_le_one (h : b.Course g events g') :
    (calls events).countP ForeignCall.isStart ≤ 1 := by
  rcases h.startUp_calls with hNone | ⟨-, earlier, later, hCalls, hQuiet⟩
  · rw [countP_isStart_eq_zero hNone]
    exact Nat.zero_le 1
  · obtain ⟨hEarlier, hLater⟩ := List.forall_mem_append.mp hQuiet
    have hInstall : (b.installAs.toList.map ForeignCall.install).countP ForeignCall.isStart = 0 := by
      simp [List.countP_eq_zero, ForeignCall.isStart]
    rw [hCalls, List.countP_append, List.countP_append, List.countP_cons,
      countP_isStart_eq_zero hEarlier, countP_isStart_eq_zero hLater, hInstall]
    simp [ForeignCall.isStart]

theorem Course.gate_of_returned (h : b.Course g events g') {result : Option NumericFault}
    {gate : GateState} (hReturned : .returned .start result gate ∈ events) :
    g' = Gate.settled result := by
  cases h with
  | steady h => cases (h _ hReturned).2
  | boots fault hBefore hBoot hAfter =>
    rcases List.mem_append.mp hReturned with hMem | hMem
    · cases (hBefore _ hMem).2
    rcases List.mem_append.mp hMem with hMem | hMem
    · rw [mem_bootCalls_start.mp (hBoot.returned_mem.mp hMem).1]
    · cases (hAfter _ hMem).2

theorem at_pairwise (h : ∀ e ∈ events, e.At g) :
    events.Pairwise fun e e' => ∀ gate ∈ e.gate?, gate.IsSettled → e'.At gate := by
  refine List.pairwise_of_forall_mem_list fun e he e' he' gate hGate _ => ?_
  rw [h e he gate hGate]
  exact h e' he'

/-- What has been seen settled is what every later event sees, and what the run ends in. -/
theorem Course.pairwise (h : b.Course g events g') :
    (events.Pairwise fun e e' => ∀ gate ∈ e.gate?, gate.IsSettled → e'.At gate) ∧
      ∀ e ∈ events, ∀ gate ∈ e.gate?, gate.IsSettled → g' = gate := by
  cases h with
  | steady h => exact ⟨at_pairwise fun e he => (h e he).1, fun e he gate hGate _ =>
      ((h e he).1 gate hGate).symm⟩
  | @boots before boot after fault hBefore hBoot hAfter =>
    have hUnsettled : ∀ e ∈ before ++ boot, ∀ gate ∈ e.gate?, ¬ gate.IsSettled := by
      intro e he gate hGate hSettled
      rcases List.mem_append.mp he with he | he
      · exact hSettled.1 ((hBefore e he).1 gate hGate)
      · exact hSettled.2 (hBoot.at e he gate hGate)
    rw [← List.append_assoc]
    refine ⟨List.pairwise_append.mpr ⟨?_, at_pairwise fun e he => (hAfter e he).1, ?_⟩, ?_⟩
    · exact List.pairwise_of_forall_mem_list fun e he e' he' gate hGate hSettled =>
        absurd hSettled (hUnsettled e he gate hGate)
    · exact fun e he e' he' gate hGate hSettled => absurd hSettled (hUnsettled e he gate hGate)
    · intro e he gate hGate hSettled
      rcases List.mem_append.mp he with he | he
      · exact absurd hSettled (hUnsettled e he gate hGate)
      · exact ((hAfter e he).1 gate hGate).symm

theorem Course.of_settled (h : b.Course g events g') (hSettled : g.IsSettled) :
    g' = g ∧ ∀ e ∈ events, e.At g := by
  cases h with
  | steady h => exact ⟨rfl, fun e he => (h e he).1⟩
  | boots => exact absurd rfl hSettled.1

theorem gate_of_reverse {depth : Nat} {c : Crossing} (hReverse : c.boots = false)
    {w w' : World η ς ν} {reply : c.Reply} (h : (b.enter depth c).run w = some (reply, w')) :
    w'.gate = w.gate := by
  by_cases hReady : w.gate = .ready
  · rw [hReady]
    exact (within_enter b depth c h).ready hReady
  · cases depth with
    | zero => cases h
    | succ depth =>
      cases (b.run_enter_refused depth c hReady (by simp [hReverse])).symm.trans h
      rfl

/-- Whatever the runtimes do and however they cross into each other, a session starts the numeric
runtime at most once, only from a gate that nothing had touched, and installs the builtin with it.
The gate ends as the start came out and never changes again; no call of the builtin changes it. -/
theorem boot_happens_once (b : Bridge η ς ν) (depth : Nat) (turns : List (Turn η ς ν))
    {w w' : World η ς ν} (h : (b.session depth turns).run w = some ((), w')) :
    (∃ events, w'.journal = w.journal ++ events ∧
      (calls events).countP ForeignCall.isStart ≤ 1 ∧
      (w.gate ≠ .uninitialized → ∀ call ∈ calls events, call.isStartUp = false) ∧
      ((∀ call ∈ calls events, call.isStartUp = false) ∨ ∃ earlier later,
        calls events = earlier ++ b.installAs.toList.map .install ++ .start :: later ∧
        ∀ call ∈ earlier ++ later, call.isStartUp = false) ∧
      (∀ result gate, .returned .start result gate ∈ events → w'.gate = match result with
        | none => .ready
        | some (.exit _) => .failed (-1)
        | some (.execution _) => .failed (-2)) ∧
      (events.Pairwise fun e e' => ∀ gate ∈ e.gate?, gate.IsSettled → e'.At gate) ∧
      (∀ e ∈ events, ∀ gate ∈ e.gate?, gate.IsSettled → w'.gate = gate) ∧
      (w.gate.IsSettled → w'.gate = w.gate ∧ ∀ e ∈ events, e.At w.gate)) ∧
    (∀ depth op v passed v', v.gate = .uninitialized →
      (b.letThrough (b.enter depth) op).run.run v = some (passed, v') →
      ∃ result events, v'.journal = v.journal ++ events ∧
        .returned .start result .booting ∈ events ∧ v'.gate = match result with
          | none => .ready
          | some (.exit _) => .failed (-1)
          | some (.execution _) => .failed (-2)) ∧
    ∀ depth c v reply v', c.boots = false →
      (b.enter depth c).run v = some (reply, v') → v'.gate = v.gate := by
  have hSettled : ∀ result, Gate.settled result = match result with
      | none => .ready
      | some (.exit _) => .failed (-1)
      | some (.execution _) => .failed (-2) := by
    rintro (_ | _ | _) <;> rfl
  refine ⟨?_, ?_, fun _ _ _ _ _ hReverse hRun => gate_of_reverse hReverse hRun⟩
  · obtain ⟨events, hEvents, hHistory⟩ := within_session b depth turns h
    have hCourse := hHistory.course
    refine ⟨events, hEvents, hCourse.starts_le_one, ?_, ?_, ?_, hCourse.pairwise.1,
      hCourse.pairwise.2, hCourse.of_settled⟩
    · intro hGate
      exact hCourse.startUp_calls.resolve_right fun hBoot => hGate hBoot.1
    · exact hCourse.startUp_calls.imp_right And.right
    · intro result gate hReturned
      rw [← hSettled]
      exact hCourse.gate_of_returned hReturned
  · intro depth op v passed v' hGate hRun
    obtain ⟨result, events, hEnd, -, hEvents, hBooting⟩ :=
      letThrough_uninitialized (within_enter b depth) op hGate hRun
    refine ⟨result, events, hEvents, hBooting.returned_mem.mpr ⟨mem_bootCalls_start.mpr rfl, rfl⟩, ?_⟩
    rw [← hSettled]
    exact hEnd

/-- A host that calls the builtin while it starts, and carries on when that fails. -/
def eagerHost : Scenario.Host where
  start := .attempt (.call "lua_call" [.text ["f"]] false none)
  functions := []
  programs := [("x", .call "lua_call" [.text ["f"]] false none)]
  globals := []

/-- That host beside a script whose global `f` answers its arguments. -/
def eagerWorld : World Scenario.Host Scenario.Script Scenario.Note :=
  ⟨.uninitialized, eagerHost, [("f", .echo)], []⟩

def scenarioBridge : Bridge Scenario.Host Scenario.Script Scenario.Note :=
  ⟨Scenario.Host.runtime, Scenario.Script.runtime, "lua_call", some "lua_call"⟩

theorem eager_host_boots_once :
    ∃ w', (scenarioBridge.session 3 [.cross (.evaluate "x" 1), .cross (.evaluate "x" 1)]).run
        eagerWorld = some ((), w') ∧ w'.gate = .ready ∧
      ∃ events, w'.journal = eagerWorld.journal ++ events ∧
        (calls events).countP ForeignCall.isStart ≤ 1 := by
  refine ⟨_, rfl, rfl, ?_⟩
  obtain ⟨events, hEvents, hStarts, -⟩ := (boot_happens_once scenarioBridge 3
    [.cross (.evaluate "x" 1), .cross (.evaluate "x" 1)] (w := eagerWorld) rfl).1
  exact ⟨events, hEvents, hStarts⟩

end Bridge

end MatrixBridge
