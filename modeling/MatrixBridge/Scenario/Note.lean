import MatrixBridge.Lua.View
import MatrixBridge.World

/-!
# Scenarios and their notes

A scenario gives the runtimes by data: what each function does is an action of a small language.
The runtimes note every call that reaches them, whoever makes it. Calls within one runtime nest at
most so deep, and so do crossings.
-/

namespace MatrixBridge.Scenario

inductive Note where
  | call (call : ForeignCall)
  /-- Lua code wrote values into the log. -/
  | log (tag : String) (values : List Lua.View)

def callDepth : Nat := 1000

def crossingDepth : Nat := 1000

end MatrixBridge.Scenario
