import MatrixBridge.Proofs.BootOnce
import MatrixBridge.Proofs.Failures

/-! # Nothing crosses before the numeric runtime is ready

An operation reaches the other runtime only behind a ready gate, and behind any other it is refused
where it stands. The events that show a ready gate all come after the return of a start that
succeeded, unless the gate was ready from the beginning. -/

namespace MatrixBridge

/-- The calls that take an operation to the other runtime. The rest belong to the boot, or report
a fault. -/
def ForeignCall.crosses : ForeignCall → Bool
  | .install _ | .start | .report _ => false
  | _ => true

variable {η ς ν α : Type}

theorem prefix_of_not_mem {e : α} {front rest before after : List α}
    (h : front ++ rest = before ++ e :: after) (he : e ∉ front) : front <+: before := by
  rcases List.append_eq_append_iff.mp h with ⟨between, hBefore, -⟩ | ⟨between, hFront, hAfter⟩
  · exact ⟨between, hBefore.symm⟩
  · cases between with
    | nil => exact ⟨[], by simp [hFront]⟩
    | cons first between =>
      cases hAfter
      exact absurd (by simp [hFront]) he

namespace Bridge

open Event (calls)

/-- Calls of the builtin behind a shut gate come back at once, refused. -/
def Answered (b : Bridge η ς ν) (events : List (Event ν)) : Prop :=
  ∀ before c gate after, events = before ++ .entered c gate :: after → c.boots = false →
    gate ≠ .ready → ∃ rest, after = .left c (b.refusal c) gate :: rest

variable {b : Bridge η ς ν} {g g' : GateState} {events : List (Event ν)}
  {foreign : List (ForeignCall × Option NumericFault)} {fault : Option NumericFault}

/-! ## Calls that cross -/

theorem bootCalls_not_crosses {call : ForeignCall} {result : Option NumericFault}
    (h : (call, result) ∈ b.bootCalls fault) : call.crosses = false := by
  rcases List.mem_append.mp h with h | h
  · obtain ⟨name, -, hEq⟩ := List.mem_map.mp h
    cases hEq
    rfl
  · rcases List.mem_cons.mp h with h | h
    · cases h
      rfl
    · unfold reports at h
      split at h
      · cases List.mem_singleton.mp h
        rfl
      · cases h

theorem Refusing.not_called (h : b.Refusing g events) (call : ForeignCall) (gate : GateState) :
    .called call gate ∉ events := by
  intro hCalled
  have hCall : call ∈ calls events := List.mem_filterMap.mpr ⟨_, hCalled, rfl⟩
  rw [h.calls_eq] at hCall
  cases hCall

theorem Booting.not_crosses (h : b.Booting (b.bootCalls fault) events) {call : ForeignCall}
    {gate : GateState} (hCalled : .called call gate ∈ events) : call.crosses = false := by
  have hCall : call ∈ calls events := List.mem_filterMap.mpr ⟨_, hCalled, rfl⟩
  rw [h.calls_eq] at hCall
  obtain ⟨⟨other, result⟩, hMem, hEq⟩ := List.mem_map.mp hCall
  cases hEq
  exact bootCalls_not_crosses hMem

theorem History.gate_of_crosses (h : b.History g events g') {call : ForeignCall}
    {gate : GateState} (hCalled : .called call gate ∈ events) (hCrosses : call.crosses) :
    gate = .ready := by
  have hBoot : ∀ {fault} {boot : List (Event ν)}, b.Booting (b.bootCalls fault) boot →
      .called call gate ∉ boot := by
    intro fault boot hBooting hMem
    rw [hBooting.not_crosses hMem] at hCrosses
    cases hCrosses
  cases h with
  | refusing _ hRefusing => exact absurd hCalled (hRefusing.not_called call gate)
  | serving hServed => exact (hServed _ hCalled).1
  | booted _ hBefore hBooting hAfter =>
    simp only [List.mem_append, List.mem_cons, reduceCtorEq, hBefore.not_called, hBoot hBooting,
      false_or] at hCalled
    exact (hAfter _ hCalled).1
  | failed _ _ hBefore hBooting hAfter =>
    simp [hBefore.not_called, hBoot hBooting, hAfter.not_called] at hCalled

theorem History.started (h : b.History g events g') (hReady : g ≠ .ready)
    {before after : List (Event ν)} {e : Event ν} (hSplit : events = before ++ e :: after)
    (he : .ready ∈ e.gate?) : .returned .start none .booting ∈ before := by
  have hShut : ∀ {gate : GateState}, e.At gate → gate = .ready := fun hAt => (hAt _ he).symm
  have hMem : e ∈ events := by simp [hSplit]
  cases h with
  | refusing hGate hRefusing => exact absurd (hShut (hRefusing.at e hMem)) hGate
  | serving => exact absurd rfl hReady
  | @booted earlier boot later c _ hBefore hBooting _ =>
    have hFront : e ∉ earlier ++ .entered c .uninitialized :: boot := by
      intro hFront
      rcases List.mem_append.mp hFront with hFront | hFront
      · cases hShut (hBefore.at e hFront)
      · rcases List.mem_cons.mp hFront with rfl | hFront
        · cases he
        · cases hShut (hBooting.at e hFront)
    have hParts : (earlier ++ .entered c .uninitialized :: boot) ++ later = before ++ e :: after := by
      simpa using hSplit
    have hPrefix := prefix_of_not_mem hParts hFront
    apply hPrefix.subset
    have hReturned := hBooting.returned_mem.mpr ⟨mem_bootCalls_start.mpr rfl, rfl⟩
    exact List.mem_append_right _ (List.mem_cons_of_mem _ hReturned)
  | failed fault _ hBefore hBooting hAfter =>
    exfalso
    rcases List.mem_append.mp hMem with hMem | hMem
    · cases hShut (hBefore.at e hMem)
    rcases List.mem_cons.mp hMem with rfl | hMem
    · cases he
    rcases List.mem_append.mp hMem with hMem | hMem
    · cases hShut (hBooting.at e hMem)
    rcases List.mem_cons.mp hMem with rfl | hMem
    · cases he
    · cases hShut (hAfter.at e hMem)

/-! ## Reverse calls behind a shut gate -/

theorem Answered.append {more : List (Event ν)} (h : b.Answered events) (hMore : b.Answered more) :
    b.Answered (events ++ more) := by
  intro before c gate after hSplit hReverse hGate
  rcases List.append_eq_append_iff.mp hSplit with ⟨between, -, hEq⟩ | ⟨between, hEq, hAfter⟩
  · exact hMore between c gate after hEq hReverse hGate
  · cases between with
    | nil => exact hMore [] c gate after hAfter.symm hReverse hGate
    | cons first between =>
      cases hAfter
      obtain ⟨rest, rfl⟩ := h before c gate between hEq hReverse hGate
      exact ⟨rest ++ more, rfl⟩

theorem answered_of_forall
    (h : ∀ c gate, .entered c gate ∈ events → c.boots = false → gate = .ready) :
    b.Answered events := by
  intro before c gate after hSplit hReverse hGate
  exact absurd (h c gate (by simp [hSplit]) hReverse) hGate

theorem Answered.cons {e : Event ν} (h : b.Answered events)
    (he : ∀ c gate, e = .entered c gate → c.boots = false → gate = .ready) :
    b.Answered (e :: events) := by
  have hHead : b.Answered [e] :=
    answered_of_forall fun c gate hMem => he c gate (List.mem_singleton.mp hMem).symm
  exact hHead.append h

theorem Refusing.answered (h : b.Refusing g events) : b.Answered events := by
  induction h with
  | nil => exact answered_of_forall (by simp)
  | note n _ ih => exact ih.cons nofun
  | @refused c events _ _ ih =>
    suffices hPair : b.Answered [.entered c g, .left c (b.refusal c) g] from hPair.append ih
    intro before c' gate after hSplit _ _
    rcases List.cons_eq_append_iff.mp hSplit with ⟨rfl, hEq⟩ | ⟨front, rfl, hEq⟩
    · cases hEq
      exact ⟨[], rfl⟩
    · rcases List.cons_eq_append_iff.mp hEq with ⟨-, hEq⟩ | ⟨front, -, hEq⟩
      · cases hEq
      · simp at hEq

theorem Booting.answered (h : b.Booting foreign events) : b.Answered events := by
  induction h with
  | nil => exact answered_of_forall (by simp)
  | call call fault hDuring _ ih =>
    exact (hDuring.answered.append (ih.cons (by simp))).cons (by simp)

theorem answered_of_served (h : ∀ e ∈ events, e.Served) : b.Answered events :=
  answered_of_forall fun _ _ hEntered _ => h _ hEntered

theorem History.answered (h : b.History g events g') : b.Answered events := by
  have hOpening : ∀ {c c' : Crossing} {gate : GateState}, c.boots →
      (.entered c .uninitialized : Event ν) = .entered c' gate → c'.boots = false →
      gate = .ready := by
    rintro c c' gate hBoots ⟨⟩ hReverse
    rw [hReverse] at hBoots
    cases hBoots
  cases h with
  | refusing _ hRefusing => exact hRefusing.answered
  | serving hServed => exact answered_of_served hServed
  | booted hBoots hBefore hBooting hAfter =>
    have hRest := hBooting.answered.append (answered_of_served hAfter)
    exact hBefore.answered.append (hRest.cons fun _ _ => hOpening hBoots)
  | failed fault hBoots hBefore hBooting hAfter =>
    refine hBefore.answered.append (Answered.cons ?_ fun _ _ => hOpening hBoots)
    exact hBooting.answered.append (hAfter.answered.cons (by simp))

/-! ## Refused operations -/

/-- A refused operation issues no call but those of the boot it set off. -/
theorem calls_of_refused {depth : Nat} {c : Crossing} (hBoots : c.boots) {w w' : World η ς ν}
    (h : (b.enter depth c).run w = some (b.refusal c, w')) :
    ∃ events, w'.journal = w.journal ++ events ∧ (calls events = [] ∨
      w.gate = .uninitialized ∧ ∃ fault, w'.gate = Gate.settled (some fault) ∧
        calls events =
          b.installAs.toList.map .install ++ .start :: (reports (some fault)).map Prod.fst) := by
  cases depth with
  | zero => cases h
  | succ depth =>
    by_cases hShut : w.gate ≠ .ready ∧ w.gate ≠ .uninitialized
    · cases (b.run_enter_refused depth c hShut.1 fun _ => hShut.2).symm.trans h
      exact ⟨_, rfl, .inl rfl⟩
    obtain ⟨u, hPerform, rfl⟩ := b.run_enter_eq_some h
    rcases not_and_or.mp hShut with hGate | hGate
    · exact absurd hPerform (perform_ready_ne_refusal hBoots (not_not.mp hGate))
    have hGate := not_not.mp hGate
    obtain ⟨v, fault, boot, hSettled, hBoot, hBooting, hPerform⟩ :=
      perform_uninitialized (w := w.log [.entered c w.gate]) (within_enter b depth) hBoots hGate
        hPerform
    cases fault with
    | none => exact absurd hPerform (perform_ready_ne_refusal hBoots hSettled)
    | some fault =>
      have hRefused := b.run_perform_refused (b.enter depth) c (w := v)
        (by simp [hSettled, Gate.settled]) (fun _ => by simp [hSettled, Gate.settled])
      cases hRefused.symm.trans hPerform
      refine ⟨.entered c w.gate :: (boot ++ [.left c (b.refusal c) u.gate]), ?_,
        .inr ⟨hGate, fault, hSettled, ?_⟩⟩
      · rw [World.log_journal, hBoot, World.log_journal]
        simp
      · simp [hBooting.bootCalls_calls]

/-- However the runtimes cross into each other, a session reaches the other runtime only behind a
ready gate, so not before a start has succeeded. Until then a call of the builtin comes back at
once, refused, with nothing but its two entries in the journal; and a refused operation toward the
numeric runtime issues no call but those of the boot that it set off. -/
theorem crosses_only_when_ready (b : Bridge η ς ν) (depth : Nat) (turns : List (Turn η ς ν))
    {w w' : World η ς ν} (h : (b.session depth turns).run w = some ((), w')) :
    (∃ events, w'.journal = w.journal ++ events ∧
      (∀ call gate, .called call gate ∈ events → call.crosses → gate = .ready) ∧
      (w.gate ≠ .ready → ∀ before call gate after, events = before ++ .called call gate :: after →
        call.crosses → .returned .start none .booting ∈ before) ∧
      (w.gate ≠ .ready → ∀ before e after, events = before ++ e :: after →
        .returned .start none .booting ∉ before → .ready ∉ e.gate?) ∧
      (∀ before c gate after, events = before ++ .entered c gate :: after → c.boots = false →
        gate ≠ .ready → ∃ rest, after = .left c (b.refusal c) gate :: rest)) ∧
    (∀ depth c v, c.boots = false → v.gate ≠ .ready → (b.enter (depth + 1) c).run v =
      some (b.refusal c, v.log [.entered c v.gate, .left c (b.refusal c) v.gate])) ∧
    ∀ depth c v v', c.boots → (b.enter depth c).run v = some (b.refusal c, v') →
      ∃ events, v'.journal = v.journal ++ events ∧ (calls events = [] ∨
        v.gate = .uninitialized ∧ ∃ fault, v'.gate = Gate.settled (some fault) ∧
          calls events =
            b.installAs.toList.map .install ++ .start :: (reports (some fault)).map Prod.fst) := by
  refine ⟨?_, ?_, fun _ _ _ _ hBoots hRun => calls_of_refused hBoots hRun⟩
  · obtain ⟨events, hEvents, hHistory⟩ := within_session b depth turns h
    refine ⟨events, hEvents, fun _ _ => hHistory.gate_of_crosses, ?_, ?_, hHistory.answered⟩
    · intro hGate before call gate after hSplit hCrosses
      have hReady : gate = .ready := hHistory.gate_of_crosses (by simp [hSplit]) hCrosses
      exact hHistory.started hGate hSplit (by simp [hReady, Event.gate?])
    · intro hGate before e after hSplit hNotStarted hReady
      exact hNotStarted (hHistory.started hGate hSplit hReady)
  · intro depth c v hReverse hGate
    exact b.run_enter_refused depth c hGate (by simp [hReverse])

theorem eager_host_crosses_when_ready :
    ∃ w', (scenarioBridge.session 3 [.cross (.evaluate "x" 1)]).run eagerWorld = some ((), w') ∧
      (w'.journal.filterMap Event.call?).any ForeignCall.crosses ∧
      ∃ events, w'.journal = eagerWorld.journal ++ events ∧
        ∀ call gate, .called call gate ∈ events → call.crosses → gate = .ready := by
  refine ⟨_, rfl, rfl, ?_⟩
  obtain ⟨events, hEvents, hCrosses, -⟩ := (crosses_only_when_ready scenarioBridge 3
    [.cross (.evaluate "x" 1)] (w := eagerWorld) rfl).1
  exact ⟨events, hEvents, hCrosses⟩

end Bridge

end MatrixBridge
