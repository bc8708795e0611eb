import MatrixBridge.Bridge.Serve
import MatrixBridge.Proofs.LuaCall

/-! # Calls of the module functions

A module function whose arguments are in order crosses once, and turns what comes back into values
or raises it; one whose arguments are not raises before anything else happens. -/

namespace MatrixBridge.Lua

variable {η φ ν : Type} {handler : Run.Handler η (State φ) ν} {settings : Settings}
  {call : Caller φ ν} {f : ModuleFunction} {args : List Value} {w w' : World η (State φ) ν}

theorem ModuleFunction.run_eq (settings : Settings) (call : Caller φ ν) (f : ModuleFunction)
    (args : List Value) : (f.run settings call args).run =
      f.outcome settings args >>= fun outcome =>
        (finish settings call args.length outcome).run :=
  ExceptT.run_bind_lift _ _

theorem run_outcome_of_request {request : Request}
    (hRequest : f.request settings w.script args = .ok request) :
    (Run.routine Run.scriptPlace handler (f.outcome settings args)).run w =
      ((handler request.crossing).run w).map fun (reply, v) => (request.results reply, v) := by
  rw [ModuleFunction.outcome, Run.run_routine_state]
  simp only [Run.scriptPlace, hRequest]
  cases hReply : (handler request.crossing).run w with
  | none => exact Run.run_bind_of_none hReply
  | some result => exact Run.run_bind_of hReply

theorem run_outcome {request : Request} (hRequest : f.request settings w.script args = .ok request)
    {reply : request.crossing.Reply}
    (hReply : (handler request.crossing).run w = some (reply, w')) :
    (Run.routine Run.scriptPlace handler (f.outcome settings args)).run w =
      some (request.results reply, w') := by
  rw [run_outcome_of_request hRequest, hReply, Option.map_some]

def callModule (b : Bridge η (State φ) ν) (settings : Settings) (call : Caller φ ν) (depth : Nat)
    (f : ModuleFunction) (args : List Value) : Run η (State φ) ν (Except Value (List Value)) :=
  b.runScript depth (f.run settings call args).run

theorem run_callModule_of_outcome {b : Bridge η (State φ) ν} {depth : Nat}
    {outcome : Except BridgeError (List ScriptValue)}
    (hOutcome : (b.runScript depth (f.outcome settings args)).run w = some (outcome, w')) :
    (callModule b settings call depth f args).run w =
      (b.runScript depth (finish settings call args.length outcome).run).run w' := by
  rw [Bridge.runScript] at hOutcome
  rw [callModule, Bridge.runScript, f.run_eq, Run.routine_bind, Run.run_bind_of hOutcome]
  rfl

theorem run_callModule {b : Bridge η (State φ) ν} {depth : Nat} {request : Request}
    (hRequest : f.request settings w.script args = .ok request) {reply : request.crossing.Reply}
    (hReply : (b.perform (b.enter depth) request.crossing).run
      (w.log [.entered request.crossing w.gate]) = some (reply, w')) :
    (callModule b settings call (depth + 1) f args).run w =
      (b.runScript (depth + 1) (finish settings call args.length (request.results reply)).run).run
        (w'.log [.left request.crossing reply w'.gate]) :=
  run_callModule_of_outcome (run_outcome hRequest (b.run_enter hReply))

/-- A call of a module function through its wrapper. -/
def invokeModule (b : Bridge η (State φ) ν) (settings : Settings) (call : Caller φ ν) (depth : Nat)
    (f : ModuleFunction) (args : List Value) : Run η (State φ) ν (Except Value (List Value)) :=
  b.runScript depth (f.invoke settings call args).run

theorem run_invoke (hFit : wrapperPlaces args.length ≤ stackLimit) :
    (Run.routine Run.scriptPlace handler (f.invoke settings call args).run).run w =
      (Run.routine Run.scriptPlace handler (f.run settings call args).run).run w :=
  (Act.yields_requirePlaces hFit).run_bind

theorem raises_invoke (hFull : stackLimit < wrapperPlaces args.length) :
    (f.invoke settings call args).Raises handler w (.text "octlua:7: stack overflow") w :=
  (Act.raises_requirePlaces hFull).bind _

/-! ## Results -/

/-- Results that fit on the stack, beside the arguments and twice, are written, and nothing else
happens. -/
theorem run_pushResults (b : Bridge η (State φ) ν) (depth : Nat) {n : Nat}
    {results : List ScriptValue} (hPushed : n + results.length + 9 ≤ stackLimit)
    (hReturned : 2 * results.length + 9 ≤ stackLimit) :
    (b.runScript depth (pushResults n results).run).run w =
      some (.ok (State.writeAll results w.script).1,
        { w with script := (State.writeAll results w.script).2 }) := by
  refine (Act.yields_requirePlaces hPushed).run_bind.trans ?_
  refine (Act.yields_requirePlaces hReturned).run_bind.trans ?_
  exact Act.yields_update _

theorem run_finish_single (b : Bridge η (State φ) ν) (depth : Nat) {n : Nat}
    (hFew : n ≤ 2) (v : ScriptValue) :
    (b.runScript depth (finish settings call n (.ok [v])).run).run w =
      some (.ok [(State.write v w.script).1],
        { w with script := (State.write v w.script).2 }) := by
  have hLimit : 12 ≤ stackLimit := by decide
  have hPushed : n + [v].length + 9 ≤ stackLimit :=
    Nat.le_trans (Nat.add_le_add_right hFew 10) hLimit
  exact run_pushResults b depth hPushed (Nat.le_trans (by simp) hLimit)

/-- Raising a failure answers nothing but its text, should it answer at all. -/
theorem raiseFailure_yields {e : BridgeError} {results : List Value}
    (h : (raiseFailure settings call e).Yields handler w results w') :
    results = [.text (e.tagged settings.errorTag)] := by
  obtain ⟨raise, u, -, h⟩ := h.of_bind
  obtain ⟨-, v, -, h⟩ := h.of_bind
  cases h
  rfl

end MatrixBridge.Lua
