import MatrixBridge.Proofs.Conversion
import MatrixBridge.Proofs.Run

/-! # How operations fail

Which failures an operation can end in, read off the steps it is made of. Behind a ready gate no
operation toward the numeric runtime fails the way a refused one does. -/

namespace MatrixBridge

def BridgeError.isRefusal : BridgeError → Bool
  | .runtimeNotReady _ => true
  | _ => false

def Operation.FailsWith {η ς ν α : Type} (P : BridgeError → Prop) (x : Operation η ς ν α) : Prop :=
  ∀ ⦃w e w'⦄, x.run.run w = some (.error e, w') → P e

variable {η ς ν α β : Type} {P : BridgeError → Prop}

namespace Operation

theorem failsWith_pure (a : α) : FailsWith P (pure a : Operation η ς ν α) := by
  rintro w e w' ⟨⟩

theorem failsWith_throw {e : BridgeError} (he : P e) :
    FailsWith P (throw e : Operation η ς ν α) := by
  rintro w _ w' ⟨⟩
  exact he

theorem failsWith_convert {outcome : Except BridgeError α} (h : ∀ e, outcome = .error e → P e) :
    FailsWith P (convert outcome : Operation η ς ν α) := by
  rintro w e w' ⟨⟩
  exact h e rfl

theorem failsWith_step (run : Run η ς ν α) : FailsWith P (step run) := by
  intro w e w' h
  have hLift : (run >>= fun a => pure (Except.ok a)).run w = some (Except.error e, w') := h
  obtain ⟨a, v, -, hPure⟩ := Run.run_bind_eq_some.mp hLift
  cases hPure

theorem FailsWith.bind {x : Operation η ς ν α} {f : α → Operation η ς ν β} (hx : FailsWith P x)
    (hf : ∀ a, FailsWith P (f a)) : FailsWith P (x >>= f) := by
  intro w e w' h
  rw [ExceptT.run_bind] at h
  obtain ⟨outcome, v, hFirst, h⟩ := Run.run_bind_eq_some.mp h
  cases outcome with
  | ok a => exact hf a h
  | error first =>
    cases h
    exact hx hFirst

end Operation

namespace Bridge

variable {b : Bridge η ς ν} {handler : Run.Handler η ς ν}

theorem failsWith_execute {op : String} {call : ForeignCall}
    {code : Routine η ν (Except NumericFault (List NumericValue))}
    (hP : ∀ fault, P (.executionFailed op (.numeric fault))) :
    (b.execute handler op call code).FailsWith P := by
  refine (Operation.failsWith_step _).bind ?_
  rintro (fault | values)
  · exact (Operation.failsWith_step _).bind fun _ => Operation.failsWith_throw (hP fault)
  · exact Operation.failsWith_pure values

theorem exportResults_not_refusal {op : String} {values : List NumericValue} {maxResults : Nat}
    {e : BridgeError} (h : exportResults op values maxResults = .error e) : e.isRefusal = false :=
  of_convertAll_eq_error (P := (·.isRefusal = false)) (fun _ _ => rfl) h

theorem importArguments_not_refusal {name : String} {args : List ScriptValue} {e : BridgeError}
    (h : importArguments name args = .error e) : e.isRefusal = false :=
  of_convertAll_eq_error (P := (·.isRefusal = false)) (fun _ _ => rfl) h

theorem mapError_not_refusal {outcome : Except CodecError α} {fail : CodecError → BridgeError}
    (hFail : ∀ cause, (fail cause).isRefusal = false) {e : BridgeError}
    (h : outcome.mapError fail = .error e) : e.isRefusal = false :=
  of_mapError_eq_error (P := (·.isRefusal = false)) hFail h

theorem run_letThrough_bind_ready {w : World η ς ν} (op : String) (hReady : w.gate = .ready)
    (f : Unit → Operation η ς ν α) :
    (b.letThrough handler op >>= f).run.run w = (f ()).run.run w := by
  apply Operation.run_bind_of_ok
  rw [b.run_letThrough handler op (by simp [hReady]), hReady, Gate.passage_ready]

theorem letThrough_bind_ne_refusal {w w' : World η ς ν} (op : String) (hReady : w.gate = .ready)
    {f : Unit → Operation η ς ν α} (hf : (f ()).FailsWith (·.isRefusal = false)) :
    (b.letThrough handler op >>= f).run.run w ≠ some (.error (.runtimeNotReady op), w') := by
  rw [run_letThrough_bind_ready op hReady]
  exact fun h => nomatch hf h

/-- Behind a ready gate an operation toward the numeric runtime does not answer the refusal. -/
theorem perform_ready_ne_refusal {c : Crossing} (hBoots : c.boots) {w w' : World η ς ν}
    (hReady : w.gate = .ready) : (b.perform handler c).run w ≠ some (b.refusal c, w') := by
  cases c with
  | evaluate code maxResults =>
    refine letThrough_bind_ne_refusal "eval" hReady ?_
    split
    · exact Operation.failsWith_pure _
    · exact (failsWith_execute fun _ => rfl).bind fun _ =>
        Operation.failsWith_convert fun _ => exportResults_not_refusal
  | callFunction name args maxResults =>
    refine letThrough_bind_ne_refusal "feval" hReady ?_
    have hImport : Operation.FailsWith (η := η) (ς := ς) (ν := ν) (·.isRefusal = false)
        (Operation.convert (importArguments name args)) :=
      Operation.failsWith_convert fun _ => importArguments_not_refusal
    have hCall : ∀ inputs, Operation.FailsWith (·.isRefusal = false) (do
        let values ← b.execute handler "feval" (.call name inputs maxResults)
          (b.numeric.call name inputs maxResults)
        Operation.convert (exportResults "feval" values maxResults)) := fun inputs =>
      (failsWith_execute fun _ => rfl).bind fun _ =>
        Operation.failsWith_convert fun _ => exportResults_not_refusal
    split
    · refine Operation.FailsWith.bind ?_ fun _ => hImport.bind hCall
      exact Operation.failsWith_throw rfl
    · exact hImport.bind hCall
  | readGlobal name =>
    refine letThrough_bind_ne_refusal "get" hReady ?_
    exact (Operation.failsWith_step _).bind fun _ =>
      Operation.failsWith_convert fun _ => mapError_not_refusal fun _ => rfl
  | writeGlobal name value =>
    refine letThrough_bind_ne_refusal "set" hReady ?_
    refine (Operation.failsWith_convert fun _ => mapError_not_refusal fun _ => rfl).bind ?_
    intro value
    exact (Operation.failsWith_step _).bind fun _ => Operation.failsWith_pure true
  | callScript | builtin => cases hBoots

end Bridge

end MatrixBridge
