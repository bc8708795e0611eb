import MatrixBridge.Proofs.StandardGlobals
import MatrixBridge.Proofs.Transport

/-! # How a module function fails

A failed operation is handed to the global `error`, as it is bound when the failure comes up. What
the caller sees is what that call does: the text of the failure is raised as long as `error` raises
it, and a call of `error` that returns makes the failure look like a result. -/

namespace MatrixBridge.Lua

open Bridge (echoBridge)

variable {η φ ν α β : Type} {handler : Run.Handler η (State φ) ν} {w w' v : World η (State φ) ν}

namespace Act

theorem bind_pure_raises_iff {x : Act φ ν α} {b : β} {raised : Value} :
    (x >>= fun _ => pure b).Raises handler w raised w' ↔ x.Raises handler w raised w' := by
  refine ⟨fun h => ?_, fun h => h.bind _⟩
  rw [Raises, ExceptT.run_bind, Run.routine_bind] at h
  obtain ⟨outcome, u, hFirst, h⟩ := Run.run_bind_eq_some.mp h
  cases outcome with
  | ok a => cases h
  | error first =>
    cases h
    exact hFirst

theorem bind_pure_yields_iff {x : Act φ ν α} {b c : β} :
    (x >>= fun _ => pure b).Yields handler w c w' ↔ c = b ∧ ∃ a, x.Yields handler w a w' := by
  constructor
  · intro h
    obtain ⟨a, u, hFirst, h⟩ := h.of_bind
    cases h
    exact ⟨rfl, a, hFirst⟩
  · rintro ⟨rfl, a, hFirst⟩
    exact hFirst.bind (yields_pure c)

theorem pcall_raises {act : Act φ ν (List Value)} {raised : Value}
    (hRoom : w.script.nesting + 1 < nestingLimit)
    (h : act.Raises handler { w with script.nesting := w.script.nesting + 1 } raised w') :
    (pcall act).Yields handler w [.boolean false, raised]
      { w' with script.nesting := w'.script.nesting - 1 } := by
  have hNested := raises_nested hRoom h
  rw [Yields, pcall, protect, ofRoutine, ExceptT.run_bind_lift, Run.routine_bind,
    Run.run_bind_of hNested]
  rfl

end Act

/-- Calls the global `error`, as it is bound at that moment, with a text and level zero. -/
def callError (call : Caller φ ν) (text : String) : Act φ ν (List Value) := do
  let raise ← getGlobal call "error"
  call (some ⟨"octlua", 4, .global "error"⟩) raise [.text text, .integer 0]

theorem raiseFailure_eq (settings : Settings) (call : Caller φ ν) (e : BridgeError) :
    raiseFailure settings call e = callError call (e.tagged settings.errorTag) >>=
      fun _ => pure [.text (e.tagged settings.errorTag)] := by
  have hDiscard (x : Act φ ν (List Value)) : discard x = x >>= fun _ => pure () := rfl
  simp only [raiseFailure, callError, hDiscard, bind_assoc, pure_bind]

/-- The operation that a call of a module function asks for fails, an argument check included. -/
def ModuleFunction.Fails (b : Bridge η (State φ) ν) (settings : Settings) (depth : Nat)
    (f : ModuleFunction) (args : List Value) (w : World η (State φ) ν) (e : BridgeError)
    (v : World η (State φ) ν) : Prop :=
  (b.runScript depth (f.outcome settings args)).run w = some (.error e, v)

section

variable {b : Bridge η (State φ) ν} {I : Interpreter φ ν} {settings : Settings}
  {call : Caller φ ν} {depth : Nat} {f : ModuleFunction} {args : List Value} {e : BridgeError}

theorem ModuleFunction.Fails.run_eq (h : f.Fails b settings depth args w e v) :
    (callModule b settings call depth f args).run w =
      (b.runScript depth (raiseFailure settings call e).run).run v :=
  run_callModule_of_outcome h

theorem ModuleFunction.Fails.raises_iff (h : f.Fails b settings depth args w e v) {raised : Value} :
    (callModule b settings call depth f args).run w = some (.error raised, w') ↔
      (callError call (e.tagged settings.errorTag)).Raises (b.enter depth) v raised w' := by
  rw [h.run_eq, raiseFailure_eq]
  exact Act.bind_pure_raises_iff

theorem ModuleFunction.Fails.yields_iff (h : f.Fails b settings depth args w e v)
    {results : List Value} :
    (callModule b settings call depth f args).run w = some (.ok results, w') ↔
      results = [.text (e.tagged settings.errorTag)] ∧
        ∃ ignored, (callError call (e.tagged settings.errorTag)).Yields (b.enter depth) v
          ignored w' := by
  rw [h.run_eq, raiseFailure_eq]
  exact Act.bind_pure_yields_iff

theorem ModuleFunction.Fails.raises (h : f.Fails b I.settings depth args w e v)
    (hError : v.script.IsStandard "error" .error) (luaDepth : Nat) :
    (f.run I.settings (I.call (luaDepth + 1)) args).Raises (b.enter depth) w
      (.text (e.tagged I.settings.errorTag)) v :=
  h.run_eq.trans (I.raises_raiseFailure hError I.settings e)

/-- A module function whose operation fails ends as a call of the global `error` with the text of
the failure does: it raises what that raises, and should that return, it answers the text. Where
`error` is the standard function the text is raised, and a protected call answers it behind
`false`. -/
theorem failure_raised_through_error (b : Bridge η (State φ) ν) (I : Interpreter φ ν)
    (luaDepth depth : Nat) (f : ModuleFunction) (args : List Value)
    (hFails : f.Fails b I.settings depth args w e v) :
    (∀ raised u,
      (callModule b I.settings (I.call (luaDepth + 1)) depth f args).run w =
        some (.error raised, u) ↔
      (callError (I.call (luaDepth + 1)) (e.tagged I.settings.errorTag)).Raises (b.enter depth) v
        raised u) ∧
    (∀ results u,
      (callModule b I.settings (I.call (luaDepth + 1)) depth f args).run w =
        some (.ok results, u) ↔
      results = [.text (e.tagged I.settings.errorTag)] ∧
        ∃ ignored, (callError (I.call (luaDepth + 1)) (e.tagged I.settings.errorTag)).Yields
          (b.enter depth) v ignored u) ∧
    (v.script.IsStandard "error" .error →
      (callModule b I.settings (I.call (luaDepth + 1)) depth f args).run w =
        some (.error (.text (e.tagged I.settings.errorTag)), v) ∧
      ∀ outside ref, w = { outside with script.nesting := outside.script.nesting + 1 } →
        outside.script.nesting + 1 < nestingLimit →
        wrapperPlaces args.length ≤ stackLimit →
        outside.script.closures[ref]? = some (.module f) →
        (b.runScript depth (Act.pcall (I.call (luaDepth + 2) none (.function ref) args)).run).run
            outside =
          some (.ok [.boolean false, .text (e.tagged I.settings.errorTag)],
            { v with script.nesting := v.script.nesting - 1 })) := by
  refine ⟨fun raised u => hFails.raises_iff, fun results u => hFails.yields_iff, ?_⟩
  intro hError
  have hRaises := hFails.raises hError luaDepth
  refine ⟨hRaises, ?_⟩
  rintro outside ref rfl hRoom hFit hClosure
  have hCallee : State.callee? { outside.script with nesting := outside.script.nesting + 1 }
      (.function ref) args = some (.module f, args) := Interpreter.callee?_function hClosure args
  refine Act.pcall_raises hRoom ?_
  rw [Act.Raises, I.run_call hCallee]
  exact (run_invoke hFit).trans hRaises

end

/-! ## With and without the standard `error` -/

def worldWithError (c : Closure Scenario.LuaCode) :
    World Scenario.Host Scenario.LuaState Scenario.Note :=
  ⟨.ready, ⟨.seq [], [], [], []⟩,
    ⟨[⟨[], [(.text "error", .function 0)], none, none⟩, .empty], [c, .module .get], 0, 1, none, 0,
      false⟩, []⟩

theorem worldWithError_bound (c : Closure Scenario.LuaCode) :
    (worldWithError c).script.global "error" = .function 0 := by
  simp [worldWithError, State.global, State.rawGet, State.table, Table.rawGet, Value.text,
    Value.asKey, Table.itemIndex?]

def noNameGiven : BridgeError := .invalidArgument "get" (.notText 1 "no value")

theorem get_fails (c : Closure Scenario.LuaCode) :
    ModuleFunction.get.Fails echoBridge {} 1 [] (worldWithError c) noNameGiven
      (worldWithError c) := rfl

/-- Where `error` is the standard function, a `get` without arguments raises its failure. -/
theorem failure_raised_by_standard_error :
    ModuleFunction.get.Fails echoBridge {} 1 [] (worldWithError (.standard .error)) noNameGiven
      (worldWithError (.standard .error)) ∧
    (callModule echoBridge {} ((Scenario.luaInterpreter {}).call 1) 1 .get []).run
        (worldWithError (.standard .error)) =
      some (.error (.text "oct_error: get: bad argument #1 (string expected, got no value)"),
        worldWithError (.standard .error)) := by
  refine ⟨get_fails _, ?_⟩
  obtain ⟨-, -, hStandard⟩ := failure_raised_through_error echoBridge (Scenario.luaInterpreter {})
    0 1 .get [] (get_fails (.standard .error))
  exact (hStandard ⟨0, worldWithError_bound _, rfl⟩).1

/-- Where `error` is a function that returns, a `get` without arguments fails, and yet it answers:
the text of its failure is the result. -/
theorem failure_answered_without_standard_error :
    ModuleFunction.get.Fails echoBridge {} 1 [] (worldWithError (.user (.give []))) noNameGiven
      (worldWithError (.user (.give []))) ∧
    (callModule echoBridge {} ((Scenario.luaInterpreter {}).call 1) 1 .get []).run
        (worldWithError (.user (.give []))) =
      some (.ok [.text "oct_error: get: bad argument #1 (string expected, got no value)"],
        worldWithError (.user (.give []))) := by
  refine ⟨get_fails _, (get_fails _).yields_iff.mpr ⟨rfl, [], ?_⟩⟩
  refine (yields_getGlobal (worldWithError_bound _) nofun).bind ?_
  have hClosure : (worldWithError (.user (.give []))).script.closures[0]? =
      some (.user (.give [])) := rfl
  exact (Scenario.luaInterpreter {}).run_call (Interpreter.callee?_function hClosure _)

end MatrixBridge.Lua
