import MatrixBridge.Number.Binary64

/-!
# Values of the scripting runtime

What the scripting runtime hands over. A table is only its entries `1, 2, …` in order; a value
that is never converted keeps the name of its type.
-/

namespace MatrixBridge

inductive ScriptValue where
  | nil
  | boolean (b : Bool)
  | number (x : Binary64)
  | text (s : String)
  | table (entries : List ScriptValue)
  /-- A function, a thread, or any other value that stays on its side. -/
  | handle (typeName : String)
deriving Repr, Inhabited

namespace ScriptValue

def list (xs : List Binary64) : ScriptValue := .table (xs.map .number)

def rows (xss : List (List Binary64)) : ScriptValue := .table (xss.map list)

def typeName : ScriptValue → String
  | .nil => "nil"
  | .boolean _ => "boolean"
  | .number _ => "number"
  | .text _ => "string"
  | .table _ => "table"
  | .handle name => name

def number? : ScriptValue → Option Binary64
  | .number x => some x
  | _ => none

end ScriptValue

end MatrixBridge
