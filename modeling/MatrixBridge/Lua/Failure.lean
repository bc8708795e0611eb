import MatrixBridge.Text.Blank
import MatrixBridge.Text.Split

/-!
# Errors that leave Lua

An error that reaches the host is a tree: the error itself, wrapped once for every host function
and every remark added to it on its way out. The bridge forwards only the message that Lua code
raised, so `message` peels the wrappers and drops the traceback behind the root's text.
-/

namespace MatrixBridge.Lua

inductive Failure where
  /-- An error raised by running code; the text may carry a traceback. -/
  | runtime (text : String)
  | callback (traceback : String) (cause : Failure)
  | malformed (text : String)
  | memory (text : String)
  | external (text : String)
  /-- An error that the host added a remark to. -/
  | context (remark : String) (cause : Failure)
  /-- A Lua value of one type where the host needs another. -/
  | conversion (source target : String)
  | stackExhausted
deriving DecidableEq, Repr

namespace Failure

def tracebackMark : String := "\nstack traceback:"

def withoutTraceback (text : String) : String :=
  .ofList (cutBefore tracebackMark.toList text.toList)

/-- The traceback of the innermost host function that the error passed. -/
def innermostTraceback? : Failure → Option String
  | .callback traceback cause => some (cause.innermostTraceback?.getD traceback)
  | _ => none

def tracebackTitle : List Char := "stack traceback:".toList

def dropTitles (trace : List Char) : List Char :=
  if tracebackTitle.isPrefixOf trace then dropTitles (trace.drop tracebackTitle.length) else trace
termination_by trace.length
decreasing_by
  rename_i h
  have := (List.isPrefixOf_iff_prefix.1 h).length_le
  have : tracebackTitle.length = 16 := rfl
  simp only [List.length_drop]
  omega

/-- A traceback in full, with the place where a shorter one starts marked by `>`. -/
def markTraceback (full part : List Char) : List Char :=
  match splitOnce? (Blank.dropTrailing (Blank.dropLeading (dropTitles part))) full with
  | some (before, _) => before ++ '>' :: Blank.dropTrailing (full.drop before.length)
  | none => Blank.dropTrailing full

def stackExhaustedText : String :=
  "out of Lua stack, too many arguments to a Lua function or too many return values from " ++
    "a callback"

/-- The whole error as text, and the text of what is left when the host functions around it are
peeled off. -/
def texts : Failure → String × String
  | .runtime text => let d := s!"runtime error: {text}"; (d, d)
  | .malformed text => let d := s!"syntax error: {text}"; (d, d)
  | .memory text => let d := s!"memory error: {text}"; (d, d)
  | .external text => (text, text)
  | .conversion source target => let d := s!"error converting Lua {source} to {target}"; (d, d)
  | .stackExhausted => let d := stackExhaustedText; (d, d)
  | .context remark cause => let d := s!"{remark}\n{cause.texts.1}"; (d, d)
  | .callback traceback cause =>
    let trace := match cause.innermostTraceback? with
      | some full => markTraceback full.toList traceback.toList
      | none => Blank.dropTrailing traceback.toList
    (s!"{cause.texts.2}\n{String.ofList trace}\n", cause.texts.2)

def display (failure : Failure) : String := failure.texts.1

def message : Failure → String
  | .callback _ cause => cause.message
  | .runtime text => withoutTraceback text
  | failure => failure.display

end Failure

end MatrixBridge.Lua
