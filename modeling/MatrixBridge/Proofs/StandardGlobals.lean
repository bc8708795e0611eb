import MatrixBridge.Proofs.ModuleCall

/-! # Standard functions under their names

What calls of `error` and `select` do as long as the globals of these names are bound to the
standard functions. -/

namespace MatrixBridge.Lua

variable {η φ ν : Type} {handler : Run.Handler η (State φ) ν} {w : World η (State φ) ν}
  {st st' : State φ} {name : String} {f : StandardFunction}

def State.IsStandard (st : State φ) (name : String) (f : StandardFunction) : Prop :=
  ∃ ref, st.global name = .function ref ∧ st.closures[ref]? = some (.standard f)

namespace State

theorem IsStandard.extends (h : st.IsStandard name f) (hExtends : st.Extends st') :
    st'.IsStandard name f := by
  obtain ⟨ref, hBound, hClosure⟩ := h
  refine ⟨ref, ?_, ?_⟩
  · rw [hExtends.global (by rw [hBound]; nofun), hBound]
  · rw [hExtends.closures_eq, hClosure]

theorem IsStandard.nesting (h : st.IsStandard name f) (n : Nat) :
    IsStandard { st with nesting := n } name f := h

end State

namespace Standard

theorem raised_level_zero (site : CallSite) (s : String) :
    raised (some site) [.text s, .integer 0] = .ok (.text s) := rfl

theorem select_two (v : Value) (args : List Value) :
    select (.integer 2 :: v :: args) = .ok args := rfl

end Standard

namespace Interpreter

variable (I : Interpreter φ ν) {depth : Nat}

theorem run_call_standard {ref : Nat} (hClosure : w.script.closures[ref]? = some (.standard f))
    (site : Option CallSite) (args : List Value) :
    (Run.routine Run.scriptPlace handler (I.call (depth + 1) site (.function ref) args).run).run w =
      (Run.routine Run.scriptPlace handler (f.run site (.function ref) args).run).run w :=
  I.run_call (callee?_function hClosure args)

theorem raises_raiseFailure (hError : w.script.IsStandard "error" .error) (settings : Settings)
    (e : BridgeError) :
    (raiseFailure settings (I.call (depth + 1)) e).Raises handler w
      (.text (e.tagged settings.errorTag)) w := by
  obtain ⟨ref, hBound, hClosure⟩ := hError
  have hRaise : (I.call (depth + 1) (some ⟨"octlua", 4, .global "error"⟩) (.function ref)
      [.text (e.tagged settings.errorTag), .integer 0]).Raises handler w
        (.text (e.tagged settings.errorTag)) w := by
    refine (I.run_call_standard hClosure _ _).trans ?_
    rw [StandardFunction.run, Standard.raised_level_zero]
    rfl
  exact (yields_getGlobal hBound nofun).bind_raises (hRaise.discard.bind _)

theorem yields_select {ref : Nat} (hClosure : w.script.closures[ref]? = some (.standard .select))
    (site : Option CallSite) (v : Value) (args : List Value) :
    (I.call (depth + 1) site (.function ref) (.integer 2 :: v :: args)).Yields handler w args w := by
  refine (I.run_call_standard hClosure _ _).trans ?_
  rw [StandardFunction.run, Standard.select_two]
  rfl

end Interpreter

end MatrixBridge.Lua
