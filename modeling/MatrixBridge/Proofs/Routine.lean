import MatrixBridge.Proofs.Run

/-! # Code of a runtime

Code is put together by a lawful monad, and it can be run piece by piece. -/

namespace MatrixBridge

variable {η ς σ ν α β : Type}

namespace Routine

theorem pure_bind (a : α) (f : α → Routine σ ν β) : (pure a : Routine σ ν α) >>= f = f a := rfl

theorem bind_pure (code : Routine σ ν α) : code >>= pure = code := by
  change code.bind .done = code
  induction code with
  | done | endless => rfl
  | look next ih => exact congrArg Routine.look (funext ih)
  | store s next ih => exact congrArg (Routine.store s) ih
  | note n next ih => exact congrArg (Routine.note n) ih
  | cross c next ih => exact congrArg (Routine.cross c) (funext ih)

theorem bind_assoc {γ : Type} (code : Routine σ ν α) (f : α → Routine σ ν β)
    (g : β → Routine σ ν γ) : code >>= f >>= g = code >>= fun a => f a >>= g := by
  change (code.bind f).bind g = code.bind fun a => (f a).bind g
  induction code with
  | done | endless => rfl
  | look next ih => exact congrArg Routine.look (funext ih)
  | store s next ih => exact congrArg (Routine.store s) ih
  | note n next ih => exact congrArg (Routine.note n) ih
  | cross c next ih => exact congrArg (Routine.cross c) (funext ih)

instance : LawfulMonad (Routine σ ν) := LawfulMonad.mk' _ bind_pure pure_bind bind_assoc

end Routine

namespace Run

variable {place : Place η ς ν σ} {handler : Handler η ς ν}

theorem routine_bind (code : Routine σ ν α) (f : α → Routine σ ν β) :
    routine place handler (code >>= f) =
      routine place handler code >>= fun a => routine place handler (f a) := by
  change routine place handler (code.bind f) = _
  induction code with
  | done a => rfl
  | endless => rfl
  | look next ih =>
    funext w
    exact congrFun (ih (place.read w)) w
  | store s next ih =>
    funext w
    exact congrFun ih (place.write s w)
  | note n next ih =>
    funext w
    exact congrFun ih (w.log [.note n])
  | cross c next ih =>
    simp only [Routine.bind, routine, bind_assoc]
    exact congrArg _ (funext ih)

section

variable {ε : Type} {x : ExceptT ε (Routine σ ν) α} {f : α → ExceptT ε (Routine σ ν) β}
  {w v : World η ς ν}

theorem routine_bind_ok {a : α} (h : (routine place handler x.run).run w = some (.ok a, v)) :
    (routine place handler (x >>= f).run).run w = (routine place handler (f a).run).run v := by
  rw [ExceptT.run_bind, routine_bind, run_bind_of h]

theorem routine_bind_error {e : ε} (h : (routine place handler x.run).run w = some (.error e, v)) :
    (routine place handler (x >>= f).run).run w = some (.error e, v) := by
  rw [ExceptT.run_bind, routine_bind, run_bind_of h]
  rfl

end

theorem run_routine_state (f : σ → Routine σ ν α) (w : World η ς ν) :
    (routine place handler (Routine.state >>= f)).run w =
      (routine place handler (f (place.read w))).run w := rfl

end Run

end MatrixBridge
