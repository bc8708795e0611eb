import MatrixBridge.Bridge.Serve

/-! # Steps of a run

What the steps that runs are made of do to the state of the run: binding, the gate, the journal.
An operation that the gate refuses leaves nothing behind but its two entries in the journal. -/

namespace MatrixBridge

namespace Run

variable {η ς ν α β : Type} {w w' : World η ς ν}

theorem run_bind_eq_some {x : Run η ς ν α} {f : α → Run η ς ν β} {b : β} :
    (x >>= f).run w = some (b, w') ↔ ∃ a v, x.run w = some (a, v) ∧ (f a).run v = some (b, w') := by
  rw [StateT.run_bind]
  constructor
  · intro h
    obtain ⟨⟨a, v⟩, hx, hf⟩ := Option.bind_eq_some_iff.mp h
    exact ⟨a, v, hx, hf⟩
  · rintro ⟨a, v, hx, hf⟩
    exact Option.bind_eq_some_iff.mpr ⟨(a, v), hx, hf⟩

theorem run_bind_of {x : Run η ς ν α} {f : α → Run η ς ν β} {a : α} (hx : x.run w = some (a, w')) :
    (x >>= f).run w = (f a).run w' := by
  rw [StateT.run_bind, hx]
  rfl

theorem run_bind_of_none {x : Run η ς ν α} {f : α → Run η ς ν β} (hx : x.run w = none) :
    (x >>= f).run w = none := by
  rw [StateT.run_bind, hx]
  rfl

theorem run_record (event : GateState → Event ν) :
    (record event : Run η ς ν Unit).run w = some ((), w.log [event w.gate]) := rfl

theorem run_gate : (Gate.HasGate.state : Run η ς ν GateState).run w = some (w.gate, w) := rfl

theorem run_setGate (g : GateState) :
    (Gate.HasGate.set g : Run η ς ν Unit).run w = some ((), { w with gate := g }) := rfl

theorem run_check (op : String) :
    (Gate.check op : Run η ς ν (Except BridgeError Unit)).run w =
      some (Gate.passage op w.gate, w) := rfl

theorem run_bootThenCheck (op : String) (boot : Run η ς ν (Except Int32 Unit))
    (hGate : w.gate ≠ .uninitialized) :
    (Gate.bootThenCheck op boot).run w = some (Gate.passage op w.gate, w) := by
  rw [Gate.bootThenCheck, run_bind_of run_gate]
  simp only [if_neg hGate]
  rfl

theorem run_bootThenCheck_uninitialized (op : String) (boot : Run η ς ν (Except Int32 Unit))
    (hGate : w.gate = .uninitialized) :
    (Gate.bootThenCheck op boot).run w =
      (boot.run { w with gate := .booting }).bind fun (outcome, v) =>
        some (Gate.passage op (Gate.settle outcome), { v with gate := Gate.settle outcome }) := by
  rw [Gate.bootThenCheck, run_bind_of run_gate]
  simp only [if_pos hGate]
  rw [run_bind_of (run_setGate _), StateT.run_bind]
  rfl

end Run

namespace Operation

variable {η ς ν α β : Type} {w w' : World η ς ν} {x : Operation η ς ν α}
  {f : α → Operation η ς ν β}

theorem run_bind_of_ok {a : α} (hx : x.run.run w = some (.ok a, w')) :
    (x >>= f).run.run w = (f a).run.run w' := by
  rw [ExceptT.run_bind, Run.run_bind_of hx]

theorem run_bind_of_error {e : BridgeError} (hx : x.run.run w = some (.error e, w')) :
    (x >>= f).run.run w = some (.error e, w') := by
  rw [ExceptT.run_bind, Run.run_bind_of hx]
  rfl

theorem run_convert (outcome : Except BridgeError α) :
    (convert outcome : Operation η ς ν α).run.run w = some (outcome, w) := rfl

theorem run_step {run : Run η ς ν α} {a : α} (h : run.run w = some (a, w')) :
    (step run).run.run w = some (.ok a, w') :=
  Run.run_bind_of (f := fun a => pure (Except.ok a)) h

theorem run_bind_of_none (hx : x.run.run w = none) : (x >>= f).run.run w = none := by
  rw [ExceptT.run_bind, Run.run_bind_of_none hx]

theorem run_step_of_none {run : Run η ς ν α} (h : run.run w = none) :
    (step run).run.run w = none :=
  Run.run_bind_of_none (f := fun a => pure (Except.ok a)) h

end Operation

namespace Gate

theorem passage_ready (op : String) : passage op .ready = .ok () := rfl

theorem passage_of_ne {g : GateState} (op : String) (hGate : g ≠ .ready) :
    passage op g = .error (.runtimeNotReady op) := by
  cases g <;> first | rfl | contradiction

end Gate

def Crossing.boots : Crossing → Bool
  | .callScript _ _ | .builtin _ _ => false
  | _ => true

namespace Bridge

variable {η ς ν : Type} (b : Bridge η ς ν) {w : World η ς ν}

/-- What an operation answers that the gate does not let through. -/
def refusal : (c : Crossing) → c.Reply
  | .evaluate _ _ => .error (.runtimeNotReady "eval")
  | .callFunction _ _ _ => .error (.runtimeNotReady "feval")
  | .readGlobal _ => .error (.runtimeNotReady "get")
  | .writeGlobal _ _ => .error (.runtimeNotReady "set")
  | .callScript _ _ => .error (.execution "lua: numeric runtime not initialized")
  | .builtin args _ => match target? args with
    | some _ => .error (.execution "lua: numeric runtime not initialized")
    | none => .error b.usageFault

theorem run_letThrough (handler : Run.Handler η ς ν) (op : String)
    (hGate : w.gate ≠ .uninitialized) :
    (b.letThrough handler op).run.run w = some (Gate.passage op w.gate, w) :=
  Run.run_bootThenCheck op _ hGate

theorem run_letThrough_bind_refused {α : Type} (handler : Run.Handler η ς ν) (op : String)
    (hGate : w.gate ≠ .ready) (hStarted : w.gate ≠ .uninitialized)
    (f : Unit → Operation η ς ν α) :
    (b.letThrough handler op >>= f).run.run w = some (.error (.runtimeNotReady op), w) := by
  apply Operation.run_bind_of_error
  rw [b.run_letThrough handler op hStarted, Gate.passage_of_ne op hGate]

theorem run_callScript_refused (handler : Run.Handler η ς ν) (name : String)
    (args : List NumericValue) (hGate : w.gate ≠ .ready) :
    (b.callScript handler name args).run w =
      some (.error (.execution "lua: numeric runtime not initialized"), w) := by
  have hRelay : (b.relay handler name args).run.run w =
      some (.error (.runtimeNotReady "lua"), w) := by
    apply Operation.run_bind_of_error
    rw [← Gate.passage_of_ne "lua" hGate]
    exact Run.run_check "lua"
  rw [callScript, Run.run_bind_of hRelay]
  rfl

/-- An operation that finds the gate shut runs no code at all. One toward the numeric runtime
finds it shut unless nothing has booted yet. -/
theorem run_perform_refused (handler : Run.Handler η ς ν) (c : Crossing) (hGate : w.gate ≠ .ready)
    (hBoots : c.boots → w.gate ≠ .uninitialized) :
    (b.perform handler c).run w = some (b.refusal c, w) := by
  cases c with
  | evaluate code maxResults =>
    exact b.run_letThrough_bind_refused handler "eval" hGate (hBoots rfl) _
  | callFunction name args maxResults =>
    exact b.run_letThrough_bind_refused handler "feval" hGate (hBoots rfl) _
  | readGlobal name => exact b.run_letThrough_bind_refused handler "get" hGate (hBoots rfl) _
  | writeGlobal name value =>
    exact b.run_letThrough_bind_refused handler "set" hGate (hBoots rfl) _
  | callScript name args => exact b.run_callScript_refused handler name args hGate
  | builtin args nargout =>
    simp only [perform, runBuiltin, refusal]
    cases target? args with
    | none => rfl
    | some target => exact b.run_callScript_refused handler target.1 target.2 hGate

theorem run_issue {α : Type} {call : ForeignCall} {fault : α → Option NumericFault}
    {run : Run η ς ν α} {a : α} {v : World η ς ν}
    (h : run.run (w.log [.called call w.gate]) = some (a, v)) :
    (issue call fault run).run w = some (a, v.log [.returned call (fault a) v.gate]) := by
  rw [issue, Run.run_bind_of (Run.run_record _), Run.run_bind_of h,
    Run.run_bind_of (Run.run_record _)]
  rfl

theorem run_issue_of_none {α : Type} {call : ForeignCall} {fault : α → Option NumericFault}
    {run : Run η ς ν α} (h : run.run (w.log [.called call w.gate]) = none) :
    (issue call fault run).run w = none := by
  rw [issue, Run.run_bind_of (Run.run_record _), Run.run_bind_of_none h]

theorem run_issue_eq_some {α : Type} {call : ForeignCall} {fault : α → Option NumericFault}
    {run : Run η ς ν α} {a : α} (h : (issue call fault run).run w = some (a, w')) :
    ∃ v, run.run (w.log [.called call w.gate]) = some (a, v) ∧
      w' = v.log [.returned call (fault a) v.gate] := by
  rw [issue, Run.run_bind_of (Run.run_record _)] at h
  obtain ⟨a, v, hRun, h⟩ := Run.run_bind_eq_some.mp h
  rw [Run.run_bind_of (Run.run_record _)] at h
  cases h
  exact ⟨v, hRun, rfl⟩

theorem run_enter {depth : Nat} {c : Crossing} {reply : c.Reply} {v : World η ς ν}
    (h : (b.perform (b.enter depth) c).run (w.log [.entered c w.gate]) = some (reply, v)) :
    (b.enter (depth + 1) c).run w = some (reply, v.log [.left c reply v.gate]) := by
  rw [enter, Run.run_bind_of (Run.run_record _), Run.run_bind_of h,
    Run.run_bind_of (Run.run_record _)]
  rfl

theorem run_enter_eq_some {depth : Nat} {c : Crossing} {reply : c.Reply} {w' : World η ς ν}
    (h : (b.enter (depth + 1) c).run w = some (reply, w')) :
    ∃ v, (b.perform (b.enter depth) c).run (w.log [.entered c w.gate]) = some (reply, v) ∧
      w' = v.log [.left c reply v.gate] := by
  rw [enter, Run.run_bind_of (Run.run_record _)] at h
  obtain ⟨reply', v, hPerform, h⟩ := Run.run_bind_eq_some.mp h
  rw [Run.run_bind_of (Run.run_record _)] at h
  cases h
  exact ⟨v, hPerform, rfl⟩

theorem run_enter_refused (depth : Nat) (c : Crossing) (hGate : w.gate ≠ .ready)
    (hBoots : c.boots → w.gate ≠ .uninitialized) :
    (b.enter (depth + 1) c).run w =
      some (b.refusal c, w.log [.entered c w.gate, .left c (b.refusal c) w.gate]) := by
  have hPerform := b.run_perform_refused (w := w.log [.entered c w.gate]) (b.enter depth) c hGate
    hBoots
  rw [b.run_enter hPerform, World.log_log]
  rfl

end Bridge

end MatrixBridge
