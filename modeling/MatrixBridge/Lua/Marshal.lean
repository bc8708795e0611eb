import MatrixBridge.Lua.State
import MatrixBridge.ScriptValue

/-!
# Lua values as script values

Reading stops where conversion would refuse anyway: a table inside two others is read as the mere
fact that it is one. A string that denotes a number is read as that number. Writing makes a new
sequence for every table; what has no Lua counterpart becomes `nil`.
-/

namespace MatrixBridge.Lua

/-- Tables within this many others are read, deeper ones are not. -/
def tableDepth : Nat := 2

namespace State

variable {φ : Type}

def readTo (st : State φ) (depth : Nat) (v : Value) : ScriptValue :=
  match v with
  | .nil => .nil
  | .boolean b => .boolean b
  | .number n => .number n.toFloat
  | .string bytes => match Numeral.read? bytes with
    | some n => .number n.toFloat
    | none => .text bytes.toText
  | .table ref => match depth with
    | 0 => .handle "table"
    | depth + 1 => .table ((st.table ref).entries.map (st.readTo depth))
  | v => .handle v.typeName

def read (st : State φ) (v : Value) : ScriptValue := st.readTo tableDepth v

mutual

def write : ScriptValue → State φ → Value × State φ
  | .nil, st | .handle _, st => (.nil, st)
  | .boolean b, st => (.boolean b, st)
  | .number x, st => (.float x, st)
  | .text s, st => (.text s, st)
  | .table entries, st =>
    let (items, st) := writeAll entries st
    st.newTable (.ofList items)

def writeAll : List ScriptValue → State φ → List Value × State φ
  | [], st => ([], st)
  | v :: vs, st =>
    let (item, st) := write v st
    let (items, st) := writeAll vs st
    (item :: items, st)

end

end State

end MatrixBridge.Lua
