import MatrixBridge.Proofs.Globals
import MatrixBridge.Proofs.Utf8

/-! # Names of globals

A Lua string names the global of its text. Where the numeric runtime keeps its globals by name, a
global that is set leaves the globals of all other texts as they are. Different bytes can have one
text, as text has no place for bytes that are not UTF-8; then they name one global. -/

namespace MatrixBridge

variable {η ς φ ν : Type}

/-- The globals are a map: assigning one leaves the others as they are. -/
structure NumericRuntime.MapsGlobals (numeric : NumericRuntime η ν) (handler : Run.Handler η ς ν)
    (stored : η → String → NumericValue) : Prop extends numeric.KeepsGlobals handler stored where
  other {name name' : String} {value : NumericValue} {w v : World η ς ν} : w.gate = .ready →
    (Run.routine Run.numericPlace handler (numeric.assign name value)).run w = some ((), v) →
    name' ≠ name → stored v.numeric name' = stored w.numeric name'

namespace Lua

variable {b : Bridge η (State φ) ν} {stored : η → String → NumericValue} {settings : Settings}
  {call : Caller φ ν} {depth : Nat} {name : Value} {text : String} {w : World η (State φ) ν}

theorem Value.nameText?_text (s : String) : (Value.text s).nameText? = some s :=
  congrArg some (Bytes.toText_ofText s)

def readOutcome (name : String) (value : NumericValue) : Except BridgeError (List ScriptValue) :=
  (value.toScript.mapError fun cause => .unconvertibleResult "get" (.global name cause)).map ([·])

theorem run_get_outcome (hGlobals : b.numeric.KeepsGlobals (b.enter depth) stored)
    (hReady : w.gate = .ready) (hName : name.nameText? = some text) :
    ∃ w', (b.runScript (depth + 1) (ModuleFunction.get.outcome settings [name])).run w =
      some (readOutcome text (stored w.numeric text), w') := by
  have hEntered : ((w.log [.entered (.readGlobal text) w.gate]).log
      [.called (.lookup text) w.gate]).gate = .ready := hReady
  obtain ⟨u, hLookup⟩ := hGlobals.lookup text _ hEntered
  exact ⟨_, run_outcome (request_get w.script hName)
    (b.run_enter (Bridge.run_readGlobal_value hReady hLookup))⟩

/-- Setting a global leaves what reading a global of another text comes to, and what is made of
that for Lua, as they were. Texts are apart where strings of UTF-8 are. -/
theorem set_keeps_other_globals (b : Bridge η (State φ) ν) (depth : Nat)
    (hGlobals : b.numeric.MapsGlobals (b.enter depth) stored) (settings : Settings)
    (call : Caller φ ν) (hReady : w.gate = .ready) {name name' v : Value} {text text' : String}
    (hSet : name.nameText? = some text) (hGet : name'.nameText? = some text')
    (hApart : text' ≠ text) {d : Data} (hHolds : w.script.Holds v d) :
    (∃ w₁ outcome w₂ w₃,
      (callModule b settings call (depth + 1) .set [name, v]).run w =
        some (.ok [.boolean true], w₁) ∧
      (b.runScript (depth + 1) (ModuleFunction.get.outcome settings [name'])).run w =
        some (outcome, w₂) ∧
      (b.runScript (depth + 1) (ModuleFunction.get.outcome settings [name'])).run w₁ =
        some (outcome, w₃) ∧
      (callModule b settings call (depth + 1) .get [name']).run w =
        (b.runScript (depth + 1) (finish settings call 1 outcome).run).run w₂ ∧
      (callModule b settings call (depth + 1) .get [name']).run w₁ =
        (b.runScript (depth + 1) (finish settings call 1 outcome).run).run w₃) ∧
    ∀ s t : String, (Value.text s).nameText? = (Value.text t).nameText? → s = t := by
  constructor
  · obtain ⟨-, m, hMatrix⟩ := State.holds_iff.mp hHolds
    obtain ⟨u, w₁, hAssign, hCall, hStillReady, hNumeric, -⟩ :=
      run_set_assigned hGlobals.toKeepsGlobals hReady hSet hHolds hMatrix
    have hKept : stored w₁.numeric text' = stored w.numeric text' := by
      rw [hNumeric]
      refine (hGlobals.other ?_ hAssign hApart).trans ?_
      · exact hReady
      · rw [World.log_numeric]
    obtain ⟨w₂, hBefore⟩ := run_get_outcome hGlobals.toKeepsGlobals hReady hGet
    obtain ⟨w₃, hAfter⟩ := run_get_outcome hGlobals.toKeepsGlobals hStillReady hGet
    rw [hKept] at hAfter
    exact ⟨w₁, _, w₂, w₃, hCall, hBefore, hAfter, run_callModule_of_outcome hBefore,
      run_callModule_of_outcome hAfter⟩
  · intro s t hSame
    rw [Value.nameText?_text, Value.nameText?_text] at hSame
    exact Option.some.inj hSame

theorem global_bindGlobal_of_ne {name name' : String} (h : name' ≠ name) (value : NumericValue)
    (host : Scenario.Host) : (host.bindGlobal name value).global name' = host.global name' := by
  rw [Scenario.Host.global, Scenario.Host.bindGlobal, List.lookup_cons, beq_false_of_ne h]
  rfl

theorem host_mapsGlobals (handler : Run.Handler Scenario.Host ς Scenario.Note) :
    Scenario.Host.runtime.MapsGlobals handler Scenario.Host.global where
  toKeepsGlobals := host_keepsGlobals handler
  other _ hAssign hApart := by
    cases hAssign
    exact global_bindGlobal_of_ne hApart _ _

/-- A host that has started, with one global. -/
def replacementWorld : World Scenario.Host (State Unit) Scenario.Note :=
  { tableWorld with numeric := ⟨.seq [], [], [], [("\uFFFD", .scalar (.ofNat 1))]⟩ }

theorem holds_two : replacementWorld.script.Holds (.integer 2) (.number (.ofNat 2)) := by
  have hDouble : (Value.integer 2).double? = some (.ofNat 2) := by decide +kernel
  exact hDouble

/-- The bytes `FE` are no UTF-8, and the global they name is kept when `x` is set. -/
theorem replacement_kept : ∃ w₁ w₂ w₃ outcome,
    (callModule hostBridge {} (fun _ _ _ => throw .nil) 1 .set [.text "x", .integer 2]).run
      replacementWorld = some (.ok [.boolean true], w₁) ∧
    (hostBridge.runScript 1 (ModuleFunction.get.outcome {} [.string [0xFE]])).run
      replacementWorld = some (outcome, w₂) ∧
    (hostBridge.runScript 1 (ModuleFunction.get.outcome {} [.string [0xFE]])).run w₁ =
      some (outcome, w₃) := by
  have hText : (Value.string [0xFE]).nameText? = some "\uFFFD" := by decide +kernel
  obtain ⟨⟨w₁, outcome, w₂, w₃, hSet, hBefore, hAfter, -⟩, -⟩ :=
    set_keeps_other_globals hostBridge 0 (host_mapsGlobals _) {} (fun _ _ _ => throw .nil)
      (w := replacementWorld) rfl (Value.nameText?_text "x") hText (by decide) holds_two
  exact ⟨w₁, w₂, w₃, outcome, hSet, hBefore, hAfter⟩

theorem different_names_one_global :
    Value.string [0xFE] ≠ Value.string [0xFF] ∧ ∃ w₁ w₂ w₃,
      (callModule hostBridge {} (fun _ _ _ => throw .nil) 1 .set
        [.string [0xFF], .integer 2]).run replacementWorld = some (.ok [.boolean true], w₁) ∧
      (hostBridge.runScript 1 (ModuleFunction.get.outcome {} [.string [0xFE]])).run
        replacementWorld = some (.ok [.number (.ofNat 1)], w₂) ∧
      (hostBridge.runScript 1 (ModuleFunction.get.outcome {} [.string [0xFE]])).run w₁ =
        some (.ok [.number (.ofNat 2)], w₃) := by
  have hFirst : (Value.string [0xFE]).nameText? = some "\uFFFD" := by decide +kernel
  have hSecond : (Value.string [0xFF]).nameText? = some "\uFFFD" := by decide +kernel
  refine ⟨by decide, ?_⟩
  obtain ⟨w₁, hSet, hReady, hStored⟩ := run_set (b := hostBridge) (host_keepsGlobals _) rfl hSecond
    holds_two rfl
  obtain ⟨w₂, hBefore⟩ := run_get_outcome (b := hostBridge) (w := replacementWorld)
    (host_keepsGlobals _) rfl hFirst
  obtain ⟨w₃, hAfter⟩ := run_get_outcome (b := hostBridge) (host_keepsGlobals _) hReady hFirst
  rw [hStored] at hAfter
  exact ⟨w₁, w₂, w₃, hSet, hBefore, hAfter⟩

end Lua

end MatrixBridge
