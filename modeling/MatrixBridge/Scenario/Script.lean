import MatrixBridge.Scenario.Note
import MatrixBridge.Settings

/-!
# A scripting runtime of actions

Global functions by name, each an action. An action that crosses and fails raises the failure as
tagged text.
-/

namespace MatrixBridge.Scenario

inductive ScriptAction where
  | give (values : List ScriptValue)
  | echo
  | fault (fault : ScriptFault)
  | evaluate (code : String) (maxResults : Nat)
  /-- Calls a numeric function, with its own arguments behind the given ones if they are passed
  on. -/
  | callFunction (name : String) (args : List ScriptValue) (passOn : Bool) (maxResults : Nat)
  | readGlobal (name : String)
  | writeGlobal (name : String)
  | seq (actions : List ScriptAction)
  /-- Answers nothing instead of failing. -/
  | attempt (action : ScriptAction)

/-- The global functions; the first binding of a name counts. -/
abbrev Script := List (String × ScriptAction)

abbrev ScriptOutcome := Except ScriptFault (List ScriptValue)

def raised {α : Type} (reply : Except BridgeError α) (f : α → List ScriptValue) : ScriptOutcome :=
  match reply with
  | .ok a => .ok (f a)
  | .error e => .error (.raised (e.tagged Settings.default.errorTag))

mutual

def ScriptAction.perform (args : List ScriptValue) :
    ScriptAction → Routine Script Note ScriptOutcome
  | .give values => return .ok values
  | .echo => return .ok args
  | .fault fault => return .error fault
  | .evaluate code maxResults => do
    return raised (← Routine.request (.evaluate code maxResults)) id
  | .callFunction name fixed passOn maxResults => do
    let inputs := if passOn then fixed ++ args else fixed
    return raised (← Routine.request (.callFunction name inputs maxResults)) id
  | .readGlobal name => do return raised (← Routine.request (.readGlobal name)) ([·])
  | .writeGlobal name => do
    return raised (← Routine.request (.writeGlobal name (args.headD .nil))) ([.boolean ·])
  | .seq actions => performAllScript args (.ok []) actions
  | .attempt action => do
    match ← action.perform args with
    | .ok values => return .ok values
    | .error _ => return .ok []

def performAllScript (args : List ScriptValue) (last : ScriptOutcome) :
    List ScriptAction → Routine Script Note ScriptOutcome
  | [] => return last
  | action :: actions => do
    match ← action.perform args with
    | .ok values => performAllScript args (.ok values) actions
    | .error fault => return .error fault

end

def Script.runtime : ScriptRuntime Script Note where
  call name args := do
    Routine.observe (.call (.callScript name args))
    match (← Routine.state).lookup name with
    | some action => action.perform args
    | none => return .error .missing

end MatrixBridge.Scenario
