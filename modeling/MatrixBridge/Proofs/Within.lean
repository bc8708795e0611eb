import MatrixBridge.Proofs.Run

/-! # Relations that runs stay within

A reflexive and transitive relation between states that every step keeps holds from the start of a
run to its end. Code of a runtime adds no step of its own: it stays within what the handler of its
crossings stays within. -/

namespace MatrixBridge

variable {η ς ν α β : Type} {R : World η ς ν → World η ς ν → Prop}

/-- Every end of the run is related to its start. -/
def Run.Within (R : World η ς ν → World η ς ν → Prop) (run : Run η ς ν α) : Prop :=
  ∀ ⦃w a w'⦄, run.run w = some (a, w') → R w w'

/-- What a relation needs so that it can be carried along a run. -/
structure Run.Carried (R : World η ς ν → World η ς ν → Prop) : Prop where
  refl : ∀ w, R w w
  trans : ∀ {u v w}, R u v → R v w → R u w

namespace Run.Carried

variable (hR : Run.Carried R)
include hR

theorem pure (a : α) : Run.Within R (Pure.pure a) := by
  rintro w _ _ ⟨⟩
  exact hR.refl w

theorem bind {x : Run η ς ν α} {f : α → Run η ς ν β} (hx : Run.Within R x)
    (hf : ∀ a, Run.Within R (f a)) : Run.Within R (x >>= f) := by
  intro w b w' h
  obtain ⟨a, v, hRunX, hRunF⟩ := Run.run_bind_eq_some.mp h
  exact hR.trans (hx hRunX) (hf a hRunF)

theorem routine {σ : Type} {place : Run.Place η ς ν σ} {handler : Run.Handler η ς ν}
    (hWrite : ∀ s w, R w (place.write s w)) (hNote : ∀ n w, R w (w.log [.note n]))
    (hCross : ∀ c, Run.Within R (handler c)) (code : Routine σ ν α) :
    Run.Within R (Run.routine place handler code) := by
  induction code with
  | done a => exact hR.pure a
  | endless => rintro w a w' ⟨⟩
  | look next ih =>
    intro w a w' h
    exact ih (place.read w) h
  | store s next ih =>
    intro w a w' h
    exact hR.trans (hWrite s w) (ih h)
  | note n next ih =>
    intro w a w' h
    exact hR.trans (hNote n w) (ih h)
  | cross c next ih => exact hR.bind (hCross c) ih

theorem operation_bind {x : Operation η ς ν α} {f : α → Operation η ς ν β}
    (hx : Run.Within R x.run) (hf : ∀ a, Run.Within R (f a).run) :
    Run.Within R (x >>= f).run := by
  rw [ExceptT.run_bind]
  apply hR.bind hx
  rintro (e | a)
  · exact hR.pure _
  · exact hf a

theorem throw (e : BridgeError) : Run.Within R (throw e : Operation η ς ν α).run :=
  hR.pure (α := Except BridgeError α) _

theorem convert (outcome : Except BridgeError α) :
    Run.Within R (Operation.convert (η := η) (ς := ς) (ν := ν) outcome).run :=
  hR.pure outcome

theorem step {run : Run η ς ν α} (hRun : Run.Within R run) :
    Run.Within R (Operation.step run).run :=
  hR.bind hRun fun _ => hR.pure _

end Run.Carried

end MatrixBridge
