import MatrixBridge.Bridge.ToScript

/-!
# Answering crossings

An operation runs code of a runtime, that code may cross again, and so on. `enter` answers
crossings that nest at most so deep; a deeper one has no result, and depth is the only thing the
bound limits.
-/

namespace MatrixBridge.Bridge

variable {η ς ν : Type} (b : Bridge η ς ν)

def perform (handler : Run.Handler η ς ν) : Run.Handler η ς ν
  | .evaluate code maxResults => (b.evaluate handler code maxResults).run
  | .callFunction name args maxResults => (b.callFunction handler name args maxResults).run
  | .readGlobal name => (b.readGlobal handler name).run
  | .writeGlobal name value => (b.writeGlobal handler name value).run
  | .callScript name args => b.callScript handler name args
  | .builtin args nargout => b.runBuiltin handler args nargout

/-- Answers a crossing that nests less than `depth` deep. -/
def enter : Nat → Run.Handler η ς ν
  | 0, _ => Run.endless
  | depth + 1, c => do
    Run.record (.entered c)
    let reply ← b.perform (enter depth) c
    Run.record (.left c reply)
    return reply

def runNumeric {α : Type} (depth : Nat) (code : Routine η ν α) : Run η ς ν α :=
  Run.routine Run.numericPlace (b.enter depth) code

def runScript {α : Type} (depth : Nat) (code : Routine ς ν α) : Run η ς ν α :=
  Run.routine Run.scriptPlace (b.enter depth) code

/-! ## Sessions -/

/-- What happens next, seen from outside the runtimes: an operation, or code of a runtime that was
not called through the bridge. -/
inductive Turn (η ς ν : Type) where
  | cross (c : Crossing)
  | numeric (code : Routine η ν Unit)
  | script (code : Routine ς ν Unit)

def take (depth : Nat) : Turn η ς ν → Run η ς ν Unit
  | .cross c => do discard <| b.enter depth c
  | .numeric code => b.runNumeric depth code
  | .script code => b.runScript depth code

def session (depth : Nat) : List (Turn η ς ν) → Run η ς ν Unit
  | [] => return
  | turn :: turns => do
    b.take depth turn
    session depth turns

end MatrixBridge.Bridge
