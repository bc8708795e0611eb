import MatrixBridge.Gate.Operation

/-! # Operations on a gate whose boot routine uses it

Of a tree of operations at most one boot routine runs: that of the first operation at top level
that asks for one, at a gate that nothing has touched. What the routine does to its gate while it
runs is refused and leaves no trace; its own outcome settles the gate for good. -/

namespace MatrixBridge.Gate

variable {g : GateState} {ops : List Operation} {operation : Operation}

def Operation.isEnsure : Operation → Bool
  | .ensure _ _ _ => true
  | .look | .require _ => false

/-- What an operation comes to that finds a gate in a state and leaves it there. -/
def Operation.outcomeAt (g : GateState) : Operation → Outcome
  | .look => .mk (.ok ()) g none
  | .require op | .ensure op _ _ =>
    .mk (if g = .ready then .ok () else .error (.runtimeNotReady op)) g none

mutual

def Outcome.boots : Outcome → Nat
  | .mk _ _ none => 0
  | .mk _ _ (some during) => bootsAll during + 1

def bootsAll : List Outcome → Nat
  | [] => 0
  | outcome :: outcomes => outcome.boots + bootsAll outcomes

end

/-! ## One operation -/

theorem passage_eq (op : String) (g : GateState) :
    passage op g = if g = .ready then .ok () else .error (.runtimeNotReady op) := by
  cases g <;> rfl

/-- A routine is run once or not at all. What is kept of it is its outcome and what it noted, never
the state in which it leaves the gate. -/
theorem run_bootThenCheck_noting (op : String) (boot : BootRun (Except Int32 Unit))
    (noted : Option (List Outcome)) (g : GateState) :
    ((bootThenCheck op boot).run noted).run g =
      if g = .uninitialized then
        let ((outcome, noted'), _) := (boot.run noted).run .booting
        ((passage op (settle outcome), noted'), settle outcome)
      else ((passage op g, noted), g) := by
  cases g <;> rfl

def routine (failure : Option Int32) (during : List Operation) : BootRun (Except Int32 Unit) := do
  let outcomes ← liftM (performAll during)
  set (some outcomes)
  return failure.elim (.ok ()) .error

theorem perform_ensure (op : String) (failure : Option Int32) (during : List Operation)
    (g : GateState) :
    (Operation.ensure op failure during).perform.run g =
      let ((result, booted), g') := ((bootThenCheck op (routine failure during)).run none).run g
      (.mk result g' booted, g') := by
  rw [Operation.perform]
  rfl

theorem perform_ensure_uninitialized (op : String) (failure : Option Int32)
    (during : List Operation) :
    (Operation.ensure op failure during).perform.run .uninitialized =
      (.mk (passage op (failure.elim .ready .failed)) (failure.elim .ready .failed)
        (some ((performAll during).run .booting).1), failure.elim .ready .failed) := by
  rw [perform_ensure, run_bootThenCheck_noting, if_pos rfl]
  cases failure <;> rfl

theorem perform_of_shut (hShut : g = .uninitialized → operation.isEnsure = false) :
    operation.perform.run g = (operation.outcomeAt g, g) := by
  cases operation with
  | look => rw [Operation.perform]; rfl
  | require op =>
    rw [Operation.perform, Operation.outcomeAt, ← passage_eq]
    rfl
  | ensure op failure during =>
    rw [perform_ensure, run_bootThenCheck_noting,
      if_neg fun hGate => Bool.noConfusion (hShut hGate), passage_eq]
    rfl

/-! ## Lists of operations -/

theorem performAll_cons (operation : Operation) (ops : List Operation) (g : GateState) :
    (performAll (operation :: ops)).run g =
      ((operation.perform.run g).1 :: ((performAll ops).run (operation.perform.run g).2).1,
        ((performAll ops).run (operation.perform.run g).2).2) := by
  rw [performAll]
  rfl

theorem performAll_append (before later : List Operation) (g : GateState) :
    (performAll (before ++ later)).run g =
      (((performAll before).run g).1 ++ ((performAll later).run ((performAll before).run g).2).1,
        ((performAll later).run ((performAll before).run g).2).2) := by
  induction before generalizing g with
  | nil => rw [List.nil_append, performAll]; rfl
  | cons operation before ih => rw [List.cons_append, performAll_cons, ih, performAll_cons]; rfl

/-- Where no boot routine can run, the gate stays as it is and every operation finds it so. -/
theorem performAll_of_shut
    (hShut : g = .uninitialized → ∀ operation ∈ ops, operation.isEnsure = false) :
    (performAll ops).run g = (ops.map (Operation.outcomeAt g), g) := by
  induction ops with
  | nil => rw [performAll]; rfl
  | cons operation ops ih =>
    have hFirst := perform_of_shut fun hGate => hShut hGate operation List.mem_cons_self
    have hRest := ih fun hGate other hOther => hShut hGate other (List.mem_cons_of_mem _ hOther)
    rw [performAll_cons, hFirst, hRest, List.map_cons]

theorem performAll_of_split {before during rest : List Operation} {op : String}
    {failure : Option Int32} (hBefore : ∀ operation ∈ before, operation.isEnsure = false) :
    (performAll (before ++ .ensure op failure during :: rest)).run .uninitialized =
      (before.map (Operation.outcomeAt .uninitialized) ++
        .mk (passage op (failure.elim .ready .failed)) (failure.elim .ready .failed)
          (some (during.map (Operation.outcomeAt .booting))) ::
        rest.map (Operation.outcomeAt (failure.elim .ready .failed)),
        failure.elim .ready .failed) := by
  -- What the routine does to a booting gate boots nothing, so it is a list like any other.
  have hDuring : (performAll during).run .booting =
      (during.map (Operation.outcomeAt .booting), .booting) := performAll_of_shut nofun
  have hRest : (performAll rest).run (failure.elim .ready .failed) =
      (rest.map (Operation.outcomeAt (failure.elim .ready .failed)),
        failure.elim .ready .failed) := by
    apply performAll_of_shut
    intro hGate
    cases failure <;> cases hGate
  rw [performAll_append, performAll_of_shut fun _ => hBefore, performAll_cons,
    perform_ensure_uninitialized, hDuring, hRest]

theorem exists_first_ensure (ops : List Operation) :
    (∀ operation ∈ ops, operation.isEnsure = false) ∨
      ∃ before op failure during rest, ops = before ++ .ensure op failure during :: rest ∧
        ∀ operation ∈ before, operation.isEnsure = false := by
  cases hFind : ops.find? Operation.isEnsure with
  | none =>
    exact .inl fun operation hMem => Bool.eq_false_iff.mpr (List.find?_eq_none.mp hFind _ hMem)
  | some operation =>
    obtain ⟨hEnsure, before, rest, rfl, hBefore⟩ := List.find?_eq_some_iff_append.mp hFind
    cases operation with
    | look | require => cases hEnsure
    | ensure op failure during =>
      exact .inr ⟨before, op, failure, during, rest, rfl, fun other hOther => by
        simpa using hBefore other hOther⟩

/-! ## Counting boots -/

theorem bootsAll_append (before later : List Outcome) :
    bootsAll (before ++ later) = bootsAll before + bootsAll later := by
  induction before with
  | nil => rw [List.nil_append, bootsAll, Nat.zero_add]
  | cons outcome before ih => rw [List.cons_append, bootsAll, ih, bootsAll, Nat.add_assoc]

theorem bootsAll_outcomeAt (g : GateState) (ops : List Operation) :
    bootsAll (ops.map (Operation.outcomeAt g)) = 0 := by
  induction ops with
  | nil => rw [List.map_nil, bootsAll]
  | cons operation ops ih =>
    rw [List.map_cons, bootsAll, ih]
    cases operation <;> rw [Operation.outcomeAt, Outcome.boots]

theorem bootsAll_performAll (ops : List Operation) (g : GateState) :
    (bootsAll ((performAll ops).run g).1 = 1 ∧
      g = .uninitialized ∧ ∃ operation ∈ ops, operation.isEnsure) ∨
    bootsAll ((performAll ops).run g).1 = 0 ∧
      (g = .uninitialized → ∀ operation ∈ ops, operation.isEnsure = false) := by
  rcases exists_first_ensure ops with hNone | ⟨before, op, failure, during, rest, rfl, hBefore⟩
  · refine .inr ⟨?_, fun _ => hNone⟩
    rw [performAll_of_shut fun _ => hNone]
    exact bootsAll_outcomeAt g ops
  · by_cases hGate : g = .uninitialized
    · subst hGate
      refine .inl ⟨?_, rfl, .ensure op failure during, List.mem_append_cons_self, rfl⟩
      rw [performAll_of_split hBefore, bootsAll_append, bootsAll, Outcome.boots,
        bootsAll_outcomeAt, bootsAll_outcomeAt, bootsAll_outcomeAt]
    · refine .inr ⟨?_, fun h => absurd h hGate⟩
      rw [performAll_of_shut fun h => absurd h hGate]
      exact bootsAll_outcomeAt g _

/-- At most one boot routine of a tree runs: that of the first operation at top level that asks for
one, at a gate that nothing has touched. Everything that the routine does meets a gate that is
booting, and everything after it the gate as the routine's own outcome has settled it. A gate that
nothing boots stays as it is. -/
theorem boot_routine_runs_once (ops : List Operation) (g : GateState) :
    (∃ outcomes g', (performAll ops).run g = (outcomes, g') ∧
      bootsAll outcomes ≤ 1 ∧
      (bootsAll outcomes = 1 ↔ g = .uninitialized ∧ ∃ operation ∈ ops, operation.isEnsure) ∧
      ((g = .uninitialized → ∀ operation ∈ ops, operation.isEnsure = false) →
        g' = g ∧ outcomes = ops.map (Operation.outcomeAt g)) ∧
      ∀ before op failure during rest, g = .uninitialized →
        ops = before ++ .ensure op failure during :: rest →
        (∀ operation ∈ before, operation.isEnsure = false) →
          g' = failure.elim .ready .failed ∧
          outcomes = before.map (Operation.outcomeAt .uninitialized) ++
            .mk (if g' = .ready then .ok () else .error (.runtimeNotReady op)) g'
              (some (during.map (Operation.outcomeAt .booting))) ::
            rest.map (Operation.outcomeAt g')) ∧
    ∀ op (boot : BootRun (Except Int32 Unit)) noted, ((bootThenCheck op boot).run noted).run g =
      if g = .uninitialized then
        let ((outcome, noted'), _) := (boot.run noted).run .booting
        ((passage op (settle outcome), noted'), settle outcome)
      else ((passage op g, noted), g) := by
  refine ⟨⟨((performAll ops).run g).1, ((performAll ops).run g).2, rfl, ?_, ?_, ?_, ?_⟩,
    fun op boot noted => run_bootThenCheck_noting op boot noted g⟩
  · rcases bootsAll_performAll ops g with ⟨hBoots, -⟩ | ⟨hBoots, -⟩ <;> omega
  · rcases bootsAll_performAll ops g with ⟨hBoots, hAsked⟩ | ⟨hBoots, hShut⟩
    · exact iff_of_true hBoots hAsked
    · refine iff_of_false (by omega) ?_
      rintro ⟨hGate, operation, hMem, hEnsure⟩
      rw [hShut hGate operation hMem] at hEnsure
      cases hEnsure
  · intro hShut
    rw [performAll_of_shut hShut]
    exact ⟨rfl, rfl⟩
  · rintro before op failure during rest rfl rfl hBefore
    rw [performAll_of_split hBefore, passage_eq]
    exact ⟨rfl, rfl⟩

/-- A routine that asks for readiness itself and then fails. Nothing boots the gate again. -/
theorem failing_routine_runs_once : ∃ outcomes,
    (performAll [.look, .ensure "eval" (some 3) [.ensure "lua" none [.look], .look],
      .ensure "get" none [], .require "set"]).run .uninitialized = (outcomes, .failed 3) ∧
    bootsAll outcomes ≤ 1 ∧
    outcomes = [.mk (.ok ()) .uninitialized none,
      .mk (.error (.runtimeNotReady "eval")) (.failed 3)
        (some [.mk (.error (.runtimeNotReady "lua")) .booting none, .mk (.ok ()) .booting none]),
      .mk (.error (.runtimeNotReady "get")) (.failed 3) none,
      .mk (.error (.runtimeNotReady "set")) (.failed 3) none] := by
  obtain ⟨⟨outcomes, g', hRun, hBoots, -, -, hSplit⟩, -⟩ := boot_routine_runs_once
    [.look, .ensure "eval" (some 3) [.ensure "lua" none [.look], .look], .ensure "get" none [],
      .require "set"] .uninitialized
  obtain ⟨rfl, hOutcomes⟩ := hSplit [.look] "eval" (some 3) _ _ rfl rfl (by decide)
  exact ⟨outcomes, hRun, hBoots, hOutcomes⟩

end MatrixBridge.Gate
