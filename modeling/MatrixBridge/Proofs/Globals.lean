import MatrixBridge.Proofs.Boot
import MatrixBridge.Proofs.Failures
import MatrixBridge.Proofs.ModuleCall
import MatrixBridge.Scenario.Host

/-! # Globals set and read back

Behind a ready gate a value that holds numeric data can be bound to a global, and reading the
global answers the canonical form of the data. What holds no such data is refused before the
numeric runtime hears of it. -/

namespace MatrixBridge

variable {η ς φ ν α : Type}

/-- A lookup answers what was assigned last. Behind a ready gate assigning and looking up come to
an end, and both may cross while they are at it. -/
structure NumericRuntime.KeepsGlobals (numeric : NumericRuntime η ν)
    (handler : Run.Handler η ς ν) (stored : η → String → NumericValue) : Prop where
  assign : ∀ name value (w : World η ς ν), w.gate = .ready → ∃ v,
    (Run.routine Run.numericPlace handler (numeric.assign name value)).run w = some ((), v) ∧
      stored v.numeric name = value
  lookup : ∀ name (w : World η ς ν), w.gate = .ready → ∃ v,
    (Run.routine Run.numericPlace handler (numeric.lookup name)).run w =
      some (stored w.numeric name, v)

namespace Bridge

variable {b : Bridge η ς ν} {handler : Run.Handler η ς ν} {w v : World η ς ν}

theorem run_writeGlobal {name : String} {value : ScriptValue} {m : Matrix Binary64}
    (hReady : w.gate = .ready) (hValue : value.toMatrix = .ok m)
    (hAssign : (Run.routine Run.numericPlace handler (b.numeric.assign name (.matrix m))).run
      (w.log [.called (.assign name (.matrix m)) w.gate]) = some ((), v)) :
    (b.perform handler (.writeGlobal name value)).run w =
      some (.ok true, v.log [.returned (.assign name (.matrix m)) none v.gate]) := by
  have hConvert : value.toNumeric = .ok (.matrix m) := by rw [ScriptValue.toNumeric, hValue]; rfl
  have hWrite : (b.writeGlobal handler name value).run.run w =
      some (.ok true, v.log [.returned (.assign name (.matrix m)) none v.gate]) := by
    rw [writeGlobal, run_letThrough_bind_ready "set" hReady, hConvert, Except.mapError,
      Operation.run_bind_of_ok (Operation.run_convert _), issueNumeric,
      Operation.run_bind_of_ok (Operation.run_step (run_issue hAssign))]
    rfl
  exact hWrite

theorem run_writeGlobal_error {name : String} {value : ScriptValue} {cause : CodecError}
    (hReady : w.gate = .ready) (hValue : value.toMatrix = .error cause) :
    (b.perform handler (.writeGlobal name value)).run w =
      some (.error (.invalidArgument "set" (.unassignable name cause)), w) := by
  have hConvert : value.toNumeric = .error cause := by rw [ScriptValue.toNumeric, hValue]; rfl
  have hFail : (b.writeGlobal handler name value).run.run w =
      some (.error (.invalidArgument "set" (.unassignable name cause)), w) := by
    rw [writeGlobal, run_letThrough_bind_ready "set" hReady, hConvert]
    exact Operation.run_bind_of_error (Operation.run_convert _)
  exact hFail

theorem run_readGlobal_value {name : String} {value : NumericValue} (hReady : w.gate = .ready)
    (hLookup : (Run.routine Run.numericPlace handler (b.numeric.lookup name)).run
      (w.log [.called (.lookup name) w.gate]) = some (value, v)) :
    (b.perform handler (.readGlobal name)).run w =
      some (value.toScript.mapError fun cause => .unconvertibleResult "get" (.global name cause),
        v.log [.returned (.lookup name) none v.gate]) := by
  have hRead : (b.readGlobal handler name).run.run w =
      some (value.toScript.mapError fun cause => .unconvertibleResult "get" (.global name cause),
        v.log [.returned (.lookup name) none v.gate]) := by
    rw [readGlobal, run_letThrough_bind_ready "get" hReady, issueNumeric,
      Operation.run_bind_of_ok (Operation.run_step (run_issue hLookup))]
    exact Operation.run_convert _
  exact hRead

theorem run_readGlobal {name : String} {m : Matrix Binary64} (hReady : w.gate = .ready)
    (hLookup : (Run.routine Run.numericPlace handler (b.numeric.lookup name)).run
      (w.log [.called (.lookup name) w.gate]) = some (.matrix m, v)) :
    (b.perform handler (.readGlobal name)).run w =
      some (.ok m.toScript, v.log [.returned (.lookup name) none v.gate]) :=
  run_readGlobal_value hReady hLookup

end Bridge

namespace Lua

variable {b : Bridge η (State φ) ν} {stored : η → String → NumericValue} {settings : Settings}
  {call : Caller φ ν} {depth : Nat} {name v : Value} {text : String} {d : Data}
  {w : World η (State φ) ν}

/-- The text of a value that can name a global: a string, or a number as Lua writes it. -/
def Value.nameText? : Value → Option String
  | .string bytes => some bytes.toText
  | .number n => some (NumberText.ofNumber n)
  | _ => none

def firstText? (args : List Value) : Option String := args.head?.bind Value.nameText?

theorem Arguments.text_eq_ok {args : List Value} {op : String} (h : firstText? args = some text) :
    Arguments.text op args 1 = .ok text := by
  cases args with
  | nil => cases h
  | cons v rest =>
    cases v with
    | string | number =>
      cases h
      rfl
    | nil | boolean | table | function | thread | userdata | lightUserdata | error => cases h

theorem request_set (st : State φ) (hName : name.nameText? = some text) (v : Value) :
    ModuleFunction.set.request settings st [name, v] = .ok (.writeGlobal text (st.read v)) := by
  have hFirst : firstText? [name, v] = some text := hName
  rw [ModuleFunction.request, Arguments.text_eq_ok hFirst]
  rfl

theorem request_get (st : State φ) (hName : name.nameText? = some text) :
    ModuleFunction.get.request settings st [name] = .ok (.readGlobal text) := by
  have hFirst : firstText? [name] = some text := hName
  rw [ModuleFunction.request, Arguments.text_eq_ok hFirst]
  rfl

theorem run_set_assigned (hGlobals : b.numeric.KeepsGlobals (b.enter depth) stored)
    (hReady : w.gate = .ready) (hName : name.nameText? = some text) {m : Matrix Binary64}
    (hHolds : w.script.Holds v d) (hMatrix : d.matrix? = some m) :
    ∃ u w', (Run.routine Run.numericPlace (b.enter depth) (b.numeric.assign text (.matrix m))).run
        (w.log [.entered (.writeGlobal text (w.script.read v)) w.gate,
          .called (.assign text (.matrix m)) w.gate]) = some ((), u) ∧
      (callModule b settings call (depth + 1) .set [name, v]).run w =
        some (.ok [.boolean true], w') ∧
      w'.gate = .ready ∧ w'.numeric = u.numeric ∧ stored w'.numeric text = .matrix m := by
  have hValue : (w.script.read v).toMatrix = .ok m :=
    State.toMatrix_read.mpr ⟨d, hHolds, hMatrix⟩
  have hEntered : ((w.log [.entered (.writeGlobal text (w.script.read v)) w.gate]).log
      [.called (.assign text (.matrix m)) w.gate]).gate = .ready := hReady
  obtain ⟨u, hAssign, hStored⟩ := hGlobals.assign text (.matrix m) _ hEntered
  have hStillReady : u.gate = .ready :=
    (Bridge.within_numeric (Bridge.within_enter b depth) _ hAssign).ready hEntered
  have hCall : (callModule b settings call (depth + 1) .set [name, v]).run w = _ :=
    run_callModule (request_set w.script hName v) (Bridge.run_writeGlobal hReady hValue hAssign)
  rw [World.log_log] at hAssign
  exact ⟨u, _, hAssign, hCall.trans (run_finish_single b (depth + 1) (by simp) (.boolean true)),
    hStillReady, rfl, hStored⟩

theorem run_set (hGlobals : b.numeric.KeepsGlobals (b.enter depth) stored)
    (hReady : w.gate = .ready) (hName : name.nameText? = some text) {m : Matrix Binary64}
    (hHolds : w.script.Holds v d) (hMatrix : d.matrix? = some m) :
    ∃ w', (callModule b settings call (depth + 1) .set [name, v]).run w =
        some (.ok [.boolean true], w') ∧
      w'.gate = .ready ∧ stored w'.numeric text = .matrix m := by
  obtain ⟨-, w', -, hSet, hReady, -, hStored⟩ :=
    run_set_assigned hGlobals hReady hName hHolds hMatrix
  exact ⟨w', hSet, hReady, hStored⟩

theorem run_get (hGlobals : b.numeric.KeepsGlobals (b.enter depth) stored)
    (hReady : w.gate = .ready) (hName : name.nameText? = some text) {m : Matrix Binary64}
    (hStored : stored w.numeric text = .matrix m) :
    ∃ v' w', (callModule b settings call (depth + 1) .get [name]).run w = some (.ok [v'], w') ∧
      w'.gate = .ready ∧ w'.script.Represents v' m.toData := by
  have hEntered : ((w.log [.entered (.readGlobal text) w.gate]).log
      [.called (.lookup text) w.gate]).gate = .ready := hReady
  obtain ⟨u, hLookup⟩ := hGlobals.lookup text _ hEntered
  have hStillReady : u.gate = .ready :=
    (Bridge.within_numeric (Bridge.within_enter b depth) _ hLookup).ready hEntered
  rw [World.log_numeric, World.log_numeric, hStored] at hLookup
  have hWritten := State.write_script m.toData u.script
  rw [← m.toScript_eq] at hWritten
  have hCall : (callModule b settings call (depth + 1) .get [name]).run w = _ :=
    run_callModule (request_get w.script hName) (Bridge.run_readGlobal hReady hLookup)
  exact ⟨_, _, hCall.trans (run_finish_single b (depth + 1) (by simp) m.toScript), hStillReady,
    hWritten⟩

theorem run_set_refused (hReady : w.gate = .ready) (hName : name.nameText? = some text)
    {cause : CodecError} (hValue : (w.script.read v).toMatrix = .error cause) :
    (callModule b settings call (depth + 1) .set [name, v]).run w =
      (b.runScript (depth + 1) (raiseFailure settings call
        (.invalidArgument "set" (.unassignable text cause))).run).run
          (w.log [.entered (.writeGlobal text (w.script.read v)) .ready,
            .left (.writeGlobal text (w.script.read v))
              (.error (.invalidArgument "set" (.unassignable text cause))) .ready]) := by
  have hCall : (callModule b settings call (depth + 1) .set [name, v]).run w = _ :=
    run_callModule (request_set w.script hName v) (Bridge.run_writeGlobal_error hReady hValue)
  rw [World.log_log, World.log_gate, hReady] at hCall
  exact hCall

/-- Setting a global succeeds when the value holds numeric data. Reading the global then answers
the canonical form of the data, and setting the global to that changes nothing. Any other value is
refused before the numeric runtime hears of it: what is left to do is to raise the failure. -/
theorem set_then_get (b : Bridge η (State φ) ν) (depth : Nat)
    (hGlobals : b.numeric.KeepsGlobals (b.enter depth) stored) (settings : Settings)
    (call : Caller φ ν) (hName : name.nameText? = some text) (v : Value)
    (hReady : w.gate = .ready) :
    (∀ d, w.script.Holds v d → ∃ w₁ v₁ w₂ w₃ v₂ w₄,
      (callModule b settings call (depth + 1) .set [name, v]).run w =
        some (.ok [.boolean true], w₁) ∧
      (callModule b settings call (depth + 1) .get [name]).run w₁ = some (.ok [v₁], w₂) ∧
      w₂.script.Represents v₁ d.canonical ∧
      (callModule b settings call (depth + 1) .set [name, v₁]).run w₂ =
        some (.ok [.boolean true], w₃) ∧
      (callModule b settings call (depth + 1) .get [name]).run w₃ = some (.ok [v₂], w₄) ∧
      w₄.script.Represents v₂ d.canonical) ∧
    ((¬∃ d, w.script.Holds v d) →
      (∀ w', (callModule b settings call (depth + 1) .set [name, v]).run w ≠
        some (.ok [.boolean true], w')) ∧
      ∃ cause, (callModule b settings call (depth + 1) .set [name, v]).run w =
        (b.runScript (depth + 1) (raiseFailure settings call
          (.invalidArgument "set" (.unassignable text cause))).run).run
            (w.log [.entered (.writeGlobal text (w.script.read v)) .ready,
              .left (.writeGlobal text (w.script.read v))
                (.error (.invalidArgument "set" (.unassignable text cause))) .ready])) := by
  constructor
  · intro d hHolds
    obtain ⟨-, m, hMatrix⟩ := State.holds_iff.mp hHolds
    obtain ⟨w₁, hSet, hReady, hStored⟩ := run_set hGlobals hReady hName hHolds hMatrix
    obtain ⟨v₁, w₂, hGet, hReady, hRepresents⟩ := run_get hGlobals hReady hName hStored
    have hAgain : w₂.script.Holds v₁ m.toData :=
      State.holds_iff.mpr ⟨hRepresents.read_eq, _, m.matrix?_toData⟩
    obtain ⟨w₃, hSetAgain, hReady, hStored⟩ :=
      run_set hGlobals hReady hName hAgain m.matrix?_toData
    obtain ⟨v₂, w₄, hGetAgain, -, hRepresentsAgain⟩ := run_get hGlobals hReady hName hStored
    have hData : m.toData = d.canonical := Matrix.toData_eq hMatrix
    have hDataAgain : m.normalise.toData = d.canonical := by
      rw [Matrix.toData_eq m.matrix?_toData, hData, Data.canonical_canonical]
    rw [hData] at hRepresents
    rw [hDataAgain] at hRepresentsAgain
    exact ⟨w₁, v₁, w₂, w₃, v₂, w₄, hSet, hGet, hRepresents, hSetAgain, hGetAgain, hRepresentsAgain⟩
  · intro hNone
    cases hValue : (w.script.read v).toMatrix with
    | ok m =>
      obtain ⟨d, hHolds, -⟩ := State.toMatrix_read.mp hValue
      exact absurd ⟨d, hHolds⟩ hNone
    | error cause =>
      have hRefused : (callModule b settings call (depth + 1) .set [name, v]).run w = _ :=
        run_set_refused hReady hName hValue
      refine ⟨fun w' hTrue => ?_, cause, hRefused⟩
      rw [hRefused] at hTrue
      cases raiseFailure_yields hTrue

theorem host_keepsGlobals (handler : Run.Handler Scenario.Host ς Scenario.Note) :
    Scenario.Host.runtime.KeepsGlobals handler Scenario.Host.global where
  assign name value _ _ := ⟨_, rfl, Scenario.Host.global_bindGlobal name value _⟩
  lookup _ _ _ := ⟨_, rfl⟩

/-- A host that has started beside a Lua state with a table of a numeric string and an integer. -/
def tableWorld : World Scenario.Host (State Unit) Scenario.Note :=
  ⟨.ready, ⟨.seq [], [], [], []⟩,
    ⟨[.empty, .empty, .ofList [.text "0x10", .integer 2]], [], 0, 1, none, 0, false⟩, []⟩

def hostBridge : Bridge Scenario.Host (State Unit) Scenario.Note :=
  ⟨Scenario.Host.runtime, ⟨fun _ _ => .done (.error .missing)⟩, "lua_call", none⟩

theorem table_set_then_get : ∃ w₁ v₁ w₂,
    (callModule hostBridge {} (fun _ _ _ => throw .nil) 1 .set [.text "x", .table 2]).run tableWorld =
      some (.ok [.boolean true], w₁) ∧
    (callModule hostBridge {} (fun _ _ _ => throw .nil) 1 .get [.text "x"]).run w₁ =
      some (.ok [v₁], w₂) ∧
    w₂.script.Represents v₁ (.flat [.ofNat 16, .ofNat 2]) := by
  have hHolds : tableWorld.script.Holds (.table 2) (.flat [.ofNat 16, .ofNat 2]) :=
    ⟨2, rfl, .cons (by decide +kernel) (.cons (by decide +kernel) .nil)⟩
  have hName : (Value.text "x").nameText? = some (Bytes.toText (.ofText "x")) := rfl
  obtain ⟨w₁, v₁, w₂, -, -, -, hSet, hGet, hRepresents, -⟩ :=
    (set_then_get hostBridge 0 (host_keepsGlobals _) {} (fun _ _ _ => throw .nil) hName (.table 2)
      (w := tableWorld) rfl).1 _ hHolds
  exact ⟨w₁, v₁, w₂, hSet, hGet, hRepresents⟩

end Lua

end MatrixBridge
