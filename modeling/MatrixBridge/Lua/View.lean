import MatrixBridge.Lua.State

/-!
# Snapshots of values

What an observer sees of a value at one moment: a tree without references, cut at a depth.
-/

namespace MatrixBridge.Lua

inductive View where
  | nil
  | boolean (b : Bool)
  | integer (n : Int64)
  | float (x : Binary64)
  | string (bytes : Bytes)
  | table (entries : List View)
  /-- A value of which only the type shows. -/
  | handle (typeName : String)

def State.view {φ : Type} (st : State φ) (depth : Nat) (v : Value) : View :=
  match v with
  | .nil => .nil
  | .boolean b => .boolean b
  | .number (.integer n) => .integer n
  | .number (.float x) => .float x
  | .string bytes => .string bytes
  | .table ref => match depth with
    | 0 => .handle "table"
    | depth + 1 => .table ((st.table ref).entries.map (st.view depth))
  | v => .handle v.typeName

def viewDepth : Nat := 8

end MatrixBridge.Lua
