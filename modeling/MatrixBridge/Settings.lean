import MatrixBridge.Settings.Document

/-!
# Settings of the bridge

Each setting has a default, so an empty document gives usable settings. The two names under which
the bridge makes itself known must not be empty.
-/

namespace MatrixBridge

structure Settings where
  /-- The Lua global, and the name to require, that holds the module table. -/
  moduleName : String := "octave"
  /-- The name of the numeric runtime's builtin that calls Lua. -/
  builtinName : String := "lua_call"
  /-- How many results are taken where a caller sets no limit. -/
  resultLimit : Nat := 256
  /-- The tag in front of every error raised in Lua. -/
  errorTag : String := "oct_error"
deriving DecidableEq, Repr

namespace Settings

def default : Settings := {}

inductive Error where
  /-- The document is ill-formed, or holds something that is no setting. -/
  | malformed
  | emptyName (key : String)
deriving DecidableEq, Repr

def Error.message : Error → String
  | .malformed => "invalid bridge configuration"
  | .emptyName key => s!"invalid bridge configuration: `{key}` must not be empty"

def validate (s : Settings) : Except Error Unit :=
  if s.moduleName.isEmpty then .error (.emptyName "module_name")
  else if s.builtinName.isEmpty then .error (.emptyName "reverse_builtin")
  else .ok ()

def assign? (s : Settings) : String × Datum → Option Settings
  | ("module_name", .text name) => some { s with moduleName := name }
  | ("reverse_builtin", .text name) => some { s with builtinName := name }
  | ("default_max_results", .integer n) =>
    if 0 ≤ n then some { s with resultLimit := n.toNat } else none
  | ("error_prefix", .text tag) => some { s with errorTag := tag }
  | _ => none

/-- The settings that a document gives. What the document is made of is checked before the names. -/
def ofDocument (document : String) : Except Error Settings :=
  match (Document.read? document).bind (·.foldlM assign? default) with
  | none => .error .malformed
  | some s => do
    s.validate
    return s

end Settings

end MatrixBridge
