import MatrixBridge.Proofs.Within

/-! # What a journal can look like

The events of a run fall into three parts: operations refused before anything has booted, one boot,
and operations served or refused by the outcome of the boot. A run sees some stretch of this, as the
gate is when it starts. The main use is `within_session`: every session has such a journal,
however its runtimes cross into each other. -/

namespace MatrixBridge

/-- The calls that bring the numeric runtime up. -/
def ForeignCall.isStartUp : ForeignCall → Bool
  | .install _ | .start => true
  | _ => false

def Gate.settled : Option NumericFault → GateState
  | none => .ready
  | some fault => .failed (startStatus fault)

def Event.Served {ν : Type} : Event ν → Prop
  | .entered _ gate | .left _ _ gate => gate = .ready
  | .called call gate | .returned call _ gate => gate = .ready ∧ call.isStartUp = false
  | .note _ => True

variable {η ς ν α : Type}

namespace Bridge

variable (b : Bridge η ς ν)

/-- Operations that find the gate shut: nothing comes between entering one and leaving it. -/
inductive Refusing (g : GateState) : List (Event ν) → Prop
  | nil : Refusing g []
  | note (n : ν) {events} : Refusing g events → Refusing g (.note n :: events)
  | refused (c : Crossing) {events} : (c.boots → g ≠ .uninitialized) → Refusing g events →
      Refusing g (.entered c g :: .left c (b.refusal c) g :: events)

/-- Calls issued one after the other while the gate is booting. What their code asks of the bridge
is refused. -/
inductive Booting : List (ForeignCall × Option NumericFault) → List (Event ν) → Prop
  | nil : Booting [] []
  | call (call : ForeignCall) (fault : Option NumericFault) {during calls events} :
      b.Refusing .booting during → Booting calls events →
      Booting ((call, fault) :: calls)
        (.called call .booting :: (during ++ .returned call fault .booting :: events))

def reports : Option NumericFault → List (ForeignCall × Option NumericFault)
  | some (.execution message) => [(.report (.execution message), none)]
  | _ => []

/-- The calls of a boot, by what the start of the numeric runtime came back with. -/
def bootCalls (fault : Option NumericFault) : List (ForeignCall × Option NumericFault) :=
  b.installAs.toList.map (fun name => (.install name, none)) ++ (.start, fault) :: reports fault

/-- The events of a run that finds the gate in one state and leaves it in another. -/
inductive History : GateState → List (Event ν) → GateState → Prop
  | refusing {g events} : g ≠ .ready → b.Refusing g events → History g events g
  | serving {events} : (∀ e ∈ events, e.Served) → History .ready events .ready
  | booted {before boot after c} : c.boots → b.Refusing .uninitialized before →
      b.Booting (b.bootCalls none) boot → (∀ e ∈ after, e.Served) →
      History .uninitialized (before ++ .entered c .uninitialized :: (boot ++ after)) .ready
  | failed {before boot after c} (fault : NumericFault) : c.boots →
      b.Refusing .uninitialized before → b.Booting (b.bootCalls (some fault)) boot →
      b.Refusing (Gate.settled (some fault)) after →
      History .uninitialized
        (before ++ .entered c .uninitialized ::
          (boot ++ .left c (b.refusal c) (Gate.settled (some fault)) :: after))
        (Gate.settled (some fault))

/-- What the journal gained from one state to the other is a history of the gate. -/
def Leads (w w' : World η ς ν) : Prop :=
  ∃ events, w'.journal = w.journal ++ events ∧ b.History w.gate events w'.gate

/-- Behind a ready gate the gate stays ready and the journal gains served events. -/
def Serves (w w' : World η ς ν) : Prop :=
  w.gate = .ready →
    w'.gate = .ready ∧ ∃ events, w'.journal = w.journal ++ events ∧ ∀ e ∈ events, e.Served

variable {b}

/-! ## Histories in a row -/

theorem Refusing.append {g : GateState} {events more : List (Event ν)} (h : b.Refusing g events)
    (hMore : b.Refusing g more) : b.Refusing g (events ++ more) := by
  induction h with
  | nil => exact hMore
  | note n _ ih => exact .note n ih
  | refused c hBoots _ ih => exact .refused c hBoots ih

theorem Booting.append {calls more : List (ForeignCall × Option NumericFault)}
    {events moreEvents : List (Event ν)} (h : b.Booting calls events)
    (hMore : b.Booting more moreEvents) : b.Booting (calls ++ more) (events ++ moreEvents) := by
  induction h with
  | nil => exact hMore
  | call call fault hDuring _ ih => simpa using Booting.call call fault hDuring ih

theorem History.nil (g : GateState) : b.History g [] g := by
  by_cases hGate : g = .ready
  · subst hGate
    exact .serving (by simp)
  · exact .refusing hGate .nil

theorem History.note (g : GateState) (n : ν) : b.History g [.note n] g := by
  by_cases hGate : g = .ready
  · subst hGate
    exact .serving (by simp [Event.Served])
  · exact .refusing hGate (.note n .nil)

/-- Nothing happens behind a gate that is shut for good, or while it boots. -/
theorem History.of_shut {g g' : GateState} {events : List (Event ν)} (h : b.History g events g')
    (hReady : g ≠ .ready) (hStarted : g ≠ .uninitialized) : g' = g ∧ b.Refusing g events := by
  cases h with
  | refusing _ hRefusing => exact ⟨rfl, hRefusing⟩
  | serving => exact absurd rfl hReady
  | booted => exact absurd rfl hStarted
  | failed => exact absurd rfl hStarted

theorem History.of_ready {g' : GateState} {events : List (Event ν)}
    (h : b.History .ready events g') : g' = .ready ∧ ∀ e ∈ events, e.Served := by
  cases h with
  | refusing hReady => exact absurd rfl hReady
  | serving hServed => exact ⟨rfl, hServed⟩

/-- A boot ends what can be prefixed with more refusals. -/
theorem History.refused_append {g' : GateState} {before events : List (Event ν)}
    (hBefore : b.Refusing .uninitialized before) (h : b.History .uninitialized events g') :
    b.History .uninitialized (before ++ events) g' := by
  cases h with
  | refusing hReady hRefusing => exact .refusing hReady (hBefore.append hRefusing)
  | booted hc hEarlier hBoot hAfter =>
    rw [← List.append_assoc]
    exact .booted hc (hBefore.append hEarlier) hBoot hAfter
  | failed fault hc hEarlier hBoot hAfter =>
    rw [← List.append_assoc]
    exact .failed fault hc (hBefore.append hEarlier) hBoot hAfter

theorem History.append {g g' g'' : GateState} {events more : List (Event ν)}
    (h : b.History g events g') (hMore : b.History g' more g'') :
    b.History g (events ++ more) g'' := by
  cases h with
  | serving hServed =>
    obtain ⟨rfl, hMoreServed⟩ := hMore.of_ready
    exact .serving fun e he => (List.mem_append.mp he).elim (hServed e) (hMoreServed e)
  | refusing hReady hRefusing =>
    by_cases hStarted : g = .uninitialized
    · subst hStarted
      exact hMore.refused_append hRefusing
    · obtain ⟨rfl, hMoreRefusing⟩ := hMore.of_shut hReady hStarted
      exact .refusing hReady (hRefusing.append hMoreRefusing)
  | booted hc hBefore hBoot hServed =>
    obtain ⟨rfl, hMoreServed⟩ := hMore.of_ready
    rw [List.append_assoc, List.cons_append, List.append_assoc]
    exact .booted hc hBefore hBoot
      fun e he => (List.mem_append.mp he).elim (hServed e) (hMoreServed e)
  | failed fault hc hBefore hBoot hAfter =>
    obtain ⟨rfl, hMoreRefusing⟩ := hMore.of_shut nofun nofun
    rw [List.append_assoc, List.cons_append, List.append_assoc, List.cons_append]
    exact .failed fault hc hBefore hBoot (hAfter.append hMoreRefusing)

/-! ## Runs and their histories -/

theorem carried_leads : Run.Carried (b.Leads : World η ς ν → World η ς ν → Prop) where
  refl w := ⟨[], by simp, .nil w.gate⟩
  trans := by
    rintro u v w ⟨events, hEvents, h⟩ ⟨more, hMore, hNext⟩
    exact ⟨events ++ more, by rw [hMore, hEvents, List.append_assoc], h.append hNext⟩

theorem carried_serves : Run.Carried (Serves : World η ς ν → World η ς ν → Prop) where
  refl w hReady := ⟨hReady, [], by simp, by simp⟩
  trans := by
    intro u v w hFirst hSecond hReady
    obtain ⟨hReady, events, hEvents, h⟩ := hFirst hReady
    obtain ⟨hReady, more, hMore, hNext⟩ := hSecond hReady
    exact ⟨hReady, events ++ more, by rw [hMore, hEvents, List.append_assoc],
      fun e he => (List.mem_append.mp he).elim (h e) (hNext e)⟩

theorem Leads.serves {w w' : World η ς ν} (h : b.Leads w w') : Serves w w' := by
  intro hReady
  obtain ⟨events, hEvents, h⟩ := h
  rw [hReady] at h
  obtain ⟨hReady, hServed⟩ := h.of_ready
  exact ⟨hReady, events, hEvents, hServed⟩

theorem Leads.ready {w w' : World η ς ν} (h : b.Leads w w') (hReady : w.gate = .ready) :
    w'.gate = .ready :=
  (h.serves hReady).1

theorem leads_of_eq {w w' : World η ς ν} (hJournal : w'.journal = w.journal)
    (hGate : w'.gate = w.gate) : b.Leads w w' :=
  ⟨[], by simp [hJournal], hGate ▸ .nil _⟩

theorem leads_note (n : ν) (w : World η ς ν) : b.Leads w (w.log [.note n]) :=
  ⟨[.note n], rfl, .note _ n⟩

theorem within_numeric {handler : Run.Handler η ς ν}
    (hHandler : ∀ c, Run.Within b.Leads (handler c)) (code : Routine η ν α) :
    Run.Within b.Leads (Run.routine Run.numericPlace handler code) :=
  carried_leads.routine (fun _ _ => leads_of_eq rfl rfl) leads_note hHandler code

theorem within_script {handler : Run.Handler η ς ν}
    (hHandler : ∀ c, Run.Within b.Leads (handler c)) (code : Routine ς ν α) :
    Run.Within b.Leads (Run.routine Run.scriptPlace handler code) :=
  carried_leads.routine (fun _ _ => leads_of_eq rfl rfl) leads_note hHandler code

end Bridge

end MatrixBridge
