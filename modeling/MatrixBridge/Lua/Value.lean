import MatrixBridge.Lua.Failure
import MatrixBridge.Lua.Numeral

/-!
# Lua values and tables

A value is a datum or a reference: tables and functions live in the state and are named by a
number, so two references are the same object when the numbers are equal. A table is read raw,
that is without its metamethods. Of these only `__call` and `__index` are there, each as a function:
no write runs code.
-/

namespace MatrixBridge.Lua

inductive Value where
  | nil
  | boolean (b : Bool)
  | number (n : Number)
  | string (bytes : Bytes)
  | table (ref : Nat)
  | function (ref : Nat)
  | thread
  | userdata
  | lightUserdata
  /-- An error of the host, carried as a value. -/
  | error (failure : Failure)
deriving DecidableEq, Inhabited

namespace Value

def integer (n : Int64) : Value := .number (.integer n)

def float (x : Binary64) : Value := .number (.float x)

def text (s : String) : Value := .string (.ofText s)

/-- The name of the type as the bridge reports it: integers and floats are told apart, and so are
the kinds of host object. -/
def typeName : Value → String
  | .nil => "nil"
  | .boolean _ => "boolean"
  | .number (.integer _) => "integer"
  | .number (.float _) => "number"
  | .string _ => "string"
  | .table _ => "table"
  | .function _ => "function"
  | .thread => "thread"
  | .userdata => "userdata"
  | .lightUserdata => "lightuserdata"
  | .error _ => "error"

def luaTypeName : Value → String
  | .number _ => "number"
  | .lightUserdata | .error _ => "userdata"
  | v => v.typeName

def isTrue : Value → Bool
  | .nil | .boolean false => false
  | _ => true

def number? : Value → Option Number
  | .number n => some n
  | .string bytes => Numeral.read? bytes
  | _ => none

def integer? (v : Value) : Option Int64 := v.number?.bind Number.toInteger?

/-- A table key in its one form: a float equal to an integer is that integer. -/
def asKey : Value → Value
  | .number (.float x) => match (Number.float x).toInteger? with
    | some n => .integer n
    | none => .float x
  | v => v

end Value

/-- A table: its array part, the other fields, and the metamethods that the bridge can meet. The
array part may end in `nil`s; `fields` holds no key that the array part covers. -/
structure Table where
  items : List Value
  fields : List (Value × Value)
  call : Option Nat
  index : Option Nat
deriving Inhabited

namespace Table

def empty : Table := ⟨[], [], none, none⟩

def ofList (items : List Value) : Table := { empty with items }

def itemIndex? (n : Nat) : Value → Option Nat
  | .number (.integer k) => if 1 ≤ k.toInt ∧ k.toInt ≤ n then some (k.toInt.toNat - 1) else none
  | _ => none

def rawGet (t : Table) (key : Value) : Value :=
  let key := key.asKey
  match itemIndex? t.items.length key with
  | some i => t.items.getD i .nil
  | none => (t.fields.lookup key).getD .nil

def border (items : List Value) (lower upper : Nat) : Nat :=
  if upper ≤ lower + 1 then lower
  else
    let middle := (lower + upper) / 2
    if items.getD (middle - 1) .nil = .nil then border items lower middle
    else border items middle upper
termination_by upper - lower

/-- The length of a table, without metamethods. Entries are `1` to this number; where the array
part ends in `nil`, a border inside it is searched by halving. It is the border that Lua finds in a
table whose entries were made at once, also after some were taken away, and in one whose entries
were set one after the other from `1` on. In others Lua may find another border, as its array part
grows past gaps: after `t[1]`, `t[2]` and `t[4]` it counts four, and two are counted here. -/
def rawLen (t : Table) : Nat :=
  let n := t.items.length
  if n = 0 ∨ t.items.getD (n - 1) .nil ≠ .nil then n
  else if 2 ≤ n ∧ t.items.getD (n - 2) .nil ≠ .nil then n - 1
  else border t.items 0 n

def entries (t : Table) : List Value := t.items.take t.rawLen

/-- Moves fields that continue the array part into it. -/
def absorb (t : Table) : Nat → Table
  | 0 => t
  | bound + 1 =>
    let key : Value := .integer (.ofNat (t.items.length + 1))
    match t.fields.lookup key with
    | some v =>
      absorb { t with items := t.items ++ [v], fields := t.fields.filter (·.1 ≠ key) } bound
    | none => t

def rawSet (t : Table) (key value : Value) : Table :=
  let key := key.asKey
  match itemIndex? t.items.length key with
  | some i => { t with items := t.items.set i value }
  | none =>
    let others := t.fields.filter (·.1 ≠ key)
    if key = .nil then t
    else if value = .nil then { t with fields := others }
    else if key = .integer (.ofNat (t.items.length + 1)) then
      absorb { t with items := t.items ++ [value], fields := others } others.length
    else { t with fields := (key, value) :: others }

end Table

end MatrixBridge.Lua
