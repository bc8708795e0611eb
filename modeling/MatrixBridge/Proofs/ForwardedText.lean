import MatrixBridge.Proofs.RaisedText
import MatrixBridge.Proofs.Transport

/-! # Texts that reach the numeric runtime

A text that the called Lua function raises ends the reverse call in a fault: the words of the
bridge, and behind them what is left of the text on its way out of Lua. It is left whole, however
many lines it has, unless it holds a zero character or the mark of a traceback. -/

namespace MatrixBridge

variable {η φ ν : Type} {b : Bridge η (Lua.State φ) ν} {I : Lua.Interpreter φ ν}
  {handler : Run.Handler η (Lua.State φ) ν} {w v : World η (Lua.State φ) ν} {luaDepth ref : Nat}
  {name s : String} {args : List NumericValue} {inputs : List ScriptValue}

theorem Bridge.raised_text_forwarded (hScript : b.script = I.runtime luaDepth)
    (hReady : w.gate = .ready) (hOpen : w.script.closed = false)
    (hInputs : Bridge.exportArguments name args = .ok inputs)
    (hBound : w.script.global name = .function ref)
    (hRoom : w.script.HasRoom inputs.length)
    (hRaises : (I.call luaDepth none (.function ref)
        (Lua.State.writeAll inputs w.script).1).Raises handler
      (Lua.callStart w name inputs) (.text s) v) :
    (∃ u, (b.callScript handler name args).run w =
      some (.error (.execution
        s!"lua: exception in call to function '{name}'\n{Lua.forwarded s}"), u)) ∧
    (Lua.forwarded s = s ↔
      '\x00' ∉ s.toList ∧ ¬ Lua.Failure.tracebackMark.toList <:+: s.toList) := by
  have hFault := Bridge.run_callScript_of_raised hScript hReady hOpen hInputs hBound hRoom hRaises
  rw [Lua.raisedMessage_eq_forwarded] at hFault
  exact ⟨⟨_, hFault⟩, Lua.forwarded_eq_self_iff⟩

namespace Lua

open Bridge (echoBridge)

/-- A ready bridge beside a Lua state whose global `g` raises a text. -/
def raisingWorld (s : String) : World Scenario.Host Scenario.LuaState Scenario.Note :=
  ⟨.ready, ⟨.seq [], [], [], []⟩,
    ⟨[⟨[], [(.text "g", .function 0)], none, none⟩, .empty], [.user (.raise (.text s))], 0, 1, none,
      0, false⟩, []⟩

theorem global_raisingWorld (s : String) : (raisingWorld s).script.global "g" = .function 0 := by
  have hKey : Value.asKey (.text "g") = .text "g" := rfl
  simp only [State.global, State.rawGet, Table.rawGet, hKey]
  exact congrArg (Option.getD · Value.nil) List.lookup_cons_self

theorem raises_raisingWorld (s : String) :
    ((Scenario.luaInterpreter {}).call 2 none (.function 0) []).Raises (echoBridge.enter 0)
      (callStart (raisingWorld s) "g" []) (.text s) (callStart (raisingWorld s) "g" []) := by
  have hCallee : (callStart (raisingWorld s) "g" []).script.callee? (.function 0) [] =
      some (.user (.raise (.text s)), []) := rfl
  exact (Scenario.luaInterpreter {}).run_call hCallee

theorem lines_forwarded : ∃ u,
    (echoBridge.callScript (echoBridge.enter 0) "g" []).run (raisingWorld "first\nsecond") =
      some (.error (.execution "lua: exception in call to function 'g'\nfirst\nsecond"), u) := by
  have hInputs : Bridge.exportArguments "g" [] = .ok [] := rfl
  obtain ⟨⟨u, hFault⟩, hWhole⟩ := Bridge.raised_text_forwarded (b := echoBridge)
    (I := Scenario.luaInterpreter {}) rfl rfl rfl hInputs (global_raisingWorld "first\nsecond")
    ⟨by decide, by decide⟩ (raises_raisingWorld _)
  have hFree : splitOnce? Failure.tracebackMark.toList "first\nsecond".toList = none := rfl
  rw [hWhole.mpr ⟨by decide, not_infix_of_splitOnce? hFree⟩] at hFault
  exact ⟨u, hFault⟩

theorem embedded_traceback_cut : ∃ u,
    (echoBridge.callScript (echoBridge.enter 0) "g" []).run
        (raisingWorld "first\nstack traceback:\nsecond") =
      some (.error (.execution "lua: exception in call to function 'g'\nfirst"), u) := by
  have hCut : raisedMessage (.text "first\nstack traceback:\nsecond") = "first" := by
    rw [raisedMessage_eq_forwarded]
    rfl
  have hInputs : Bridge.exportArguments "g" [] = .ok [] := rfl
  have hFault := Bridge.run_callScript_of_raised (b := echoBridge) (I := Scenario.luaInterpreter {})
    rfl rfl rfl hInputs (global_raisingWorld "first\nstack traceback:\nsecond")
    ⟨by decide, by decide⟩ (raises_raisingWorld _)
  rw [hCut] at hFault
  exact ⟨_, hFault⟩

end Lua

end MatrixBridge
