import MatrixBridge.Lua.Call

/-!
# The standard functions

What the functions that Lua provides do with their arguments. An argument they cannot use is an
error whose message names the function as the calling code does; for a call from outside Lua code
the name is searched among the loaded modules.
-/

namespace MatrixBridge.Lua

/-! ## Arguments -/

inductive ArgumentFault where
  | wrongType (position : Nat) (expected found : String)
  | notIntegral (position : Nat)
  | outOfRange (position : Nat)

namespace ArgumentFault

def position : ArgumentFault → Nat
  | .wrongType position _ _ | .notIntegral position | .outOfRange position => position

def problem : ArgumentFault → String
  | .wrongType _ expected found => s!"{expected} expected, got {found}"
  | .notIntegral _ => "number has no integer representation"
  | .outOfRange _ => "index out of range"

def message (e : ArgumentFault) (function : String) : String :=
  s!"bad argument #{e.position} to '{function}' ({e.problem})"

end ArgumentFault

namespace Standard

def typeNameAt (args : List Value) (position : Nat) : String :=
  match args[position - 1]? with
  | none => "no value"
  | some .lightUserdata => "light userdata"
  | some v => v.luaTypeName

def integerAt (args : List Value) (position : Nat) : Except ArgumentFault Int64 :=
  let v := args.getD (position - 1) .nil
  match v.integer? with
  | some n => .ok n
  | none =>
    if v.number?.isSome then .error (.notIntegral position)
    else .error (.wrongType position "number" (typeNameAt args position))

def stringAt (args : List Value) (position : Nat) : Except ArgumentFault Bytes :=
  match args[position - 1]? with
  | some (.string bytes) => .ok bytes
  | some (.number n) => .ok (.ofText (NumberText.ofNumber n))
  | _ => .error (.wrongType position "string" (typeNameAt args position))

/-- The arguments from a position on. A negative position counts from the end; the mark `#` asks
for the number of arguments instead. -/
def select (args : List Value) : Except ArgumentFault (List Value) :=
  match args with
  | .string (0x23 :: _) :: rest => .ok [.integer (.ofNat rest.length)]
  | _ => do
    let n ← integerAt args 1
    let start := if n.toInt < 0 then args.length + n.toInt else n.toInt
    if start < 1 then throw (.outOfRange 1) else return args.drop start.toNat

/-- The value to raise. The second argument, one if it is absent, is a level: at level one a text
gets the position of the call in front. -/
def raised (site : Option CallSite) (args : List Value) : Except ArgumentFault Value := do
  let level ← match args.getD 1 .nil with
    | .nil => pure 1
    | _ => integerAt args 2
  match args.headD .nil, site with
  | .string bytes, some site =>
    return .string (if level = 1 then .ofText site.position ++ bytes else bytes)
  | v, _ => return v

/-! ## Modules -/

def searchPath : List String :=
  ["/usr/local/share/lua/5.4/?.lua", "/usr/local/share/lua/5.4/?/init.lua",
    "/usr/local/lib/lua/5.4/?.lua", "/usr/local/lib/lua/5.4/?/init.lua", "./?.lua",
    "./?/init.lua"]

def moduleNotFound (name : String) : Value :=
  let path := name.map fun c => if c = '.' then '/' else c
  let tried := searchPath.map fun entry =>
    let file := entry.replace "?" path
    s!"\n\tno file '{file}'"
  .text (s!"module '{name}' not found:\n\tno field package.preload['{name}']" ++
    String.join tried ++ "\n\t\n\tcan't load C modules in safe mode")

def keyOf? (t : Table) (v : Value) : Option Bytes :=
  t.fields.reverse.findSome? fun
    | (.string key, value) => if value = v then some key else none
    | _ => none

/-- The name of a value as a field of a loaded module; a global stands under its bare name. -/
def nameInModules? {φ : Type} (st : State φ) (v : Value) : Option String :=
  (st.table st.loaded).fields.findSome? fun
    | (.string module, .table ref) => (keyOf? (st.table ref) v).map fun key =>
      if module = .ofText "_G" then key.toText else s!"{module.toText}.{key.toText}"
    | _ => none

end Standard

/-! ## Calls -/

variable {φ ν : Type}

def ArgumentFault.asRaised (st : State φ) (site : Option CallSite) (callee : Value)
    (e : ArgumentFault) : Value :=
  match site with
  | some site => .text (site.position ++ e.message site.callee.name)
  | none => .text (e.message ((Standard.nameInModules? st callee).getD "?"))

def accept {α : Type} (site : Option CallSite) (callee : Value) :
    Except ArgumentFault α → Act φ ν α
  | .ok a => return a
  | .error e => do throw (e.asRaised (← Act.state) site callee)

/-- Runs a standard function, which was called as the given value. The name of a module ends at its
first zero byte. What the other functions answer is not modelled: a call of `print` or `tostring`
has no result here. -/
def StandardFunction.run (site : Option CallSite) (callee : Value) (args : List Value) :
    StandardFunction → Act φ ν (List Value)
  | .error => do throw (← accept site callee (Standard.raised site args))
  | .select => accept site callee (Standard.select args)
  | .require => do
    let name := (← accept site callee (Standard.stringAt args 1)).takeWhile (· ≠ 0)
    let st ← Act.state
    let found := st.rawGet st.loaded (.string name)
    if found.isTrue then return [found] else throw (Standard.moduleNotFound (Bytes.toText name))
  | .other _ => Act.endless

end MatrixBridge.Lua
