import MatrixBridge.Proofs.RaisedText

/-! # Tracebacks in wrapped errors

A runtime error passes host functions on its way out of Lua, each of which wraps it, and some of
which add a remark. The host sees the error without the host functions around it, and of a bare
runtime error only what stands before the first traceback. A remark is shown with the whole error
beneath it, so a traceback comes out with the remark if one of the layers beneath displays one. -/

namespace MatrixBridge

variable {α : Type}

theorem infix_concat_iff_of_getLast? {words : List α} {c : α} (hLast : words.getLast? ≠ some c)
    (l : List α) : words <:+: l ++ [c] ↔ words <:+: l := by
  rw [List.infix_concat_iff, List.suffix_concat_iff]
  constructor
  · rintro ((rfl | ⟨front, rfl, -⟩) | h)
    · exact List.nil_infix
    · exact absurd List.getLast?_concat hLast
    · exact h
  · exact .inr

theorem prefix_of_prefix_append_cons {words a b : List α} {m : α} (hFree : m ∉ words)
    (h : words <+: a ++ m :: b) : words <+: a := by
  rcases List.prefix_or_prefix_of_prefix h (List.prefix_append a (m :: b)) with h | hBeyond
  · exact h
  · obtain ⟨beyond, rfl⟩ := hBeyond
    rw [List.prefix_append_right_inj] at h
    cases beyond with
    | nil => exact (List.append_nil a).symm ▸ List.prefix_rfl
    | cons o beyond =>
      obtain ⟨rfl, -⟩ := List.cons_prefix_cons.mp h
      exact absurd (by simp) hFree

namespace Lua.Failure

/-- What is left of an error when the host functions around it are peeled off. -/
def peeled : Failure → Failure
  | .callback _ cause => cause.peeled
  | failure => failure

/-- What a host function displays behind the error that passed it. -/
def printedTrace (traceback : String) (cause : Failure) : List Char :=
  match cause.innermostTraceback? with
  | some full => markTraceback full.toList traceback.toList
  | none => Blank.dropTrailing traceback.toList

/-- A runtime error with this text, in any nesting of host functions and of remarks that do not
mention tracebacks. -/
inductive Wraps (text : String) : Failure → Prop
  | root : Wraps text (.runtime text)
  | callback {traceback : String} {cause : Failure} (hCause : Wraps text cause) :
      Wraps text (.callback traceback cause)
  | context {remark : String} {cause : Failure} (hRemark : ¬ tracebackTitle <:+: remark.toList)
      (hCause : Wraps text cause) : Wraps text (.context remark cause)

/-- The layers whose display holds a traceback: a root that carries one, a remark on an error that
shows one, and a host function that prints one behind the error it wraps. Of host functions right
around one another only the outermost prints anything. -/
inductive Shows : Failure → Prop
  | root {text : String} (hText : tracebackMark.toList <:+: text.toList) : Shows (.runtime text)
  | remark {remark : String} {cause : Failure} (hCause : Shows cause) :
      Shows (.context remark cause)
  | beneath {traceback : String} {cause : Failure} (hCause : Shows cause.peeled) :
      Shows (.callback traceback cause)
  | printed {traceback : String} {cause : Failure}
      (hTrace : tracebackMark.toList <:+: '\n' :: printedTrace traceback cause) :
      Shows (.callback traceback cause)

theorem message_eq_message_peeled (failure : Failure) :
    failure.message = failure.peeled.message := by
  induction failure with
  | callback traceback cause ih => exact ih
  | _ => rfl

theorem peeled_foldr_callback (traces : List String) (failure : Failure) :
    (traces.foldr .callback failure).peeled = failure.peeled := by
  induction traces with
  | nil => rfl
  | cons traceback traces ih => exact ih

theorem texts_snd (failure : Failure) : failure.texts.2 = failure.peeled.display := by
  induction failure with
  | callback traceback cause ih => exact ih
  | _ => rfl

theorem tracebackMark_toList : tracebackMark.toList = '\n' :: tracebackTitle := rfl

theorem not_infix_tracebackMark {cs : List Char} (hFree : ¬ tracebackTitle <:+: cs) :
    ¬ tracebackMark.toList <:+: cs :=
  fun h => hFree ((List.suffix_cons '\n' tracebackTitle).isInfix.trans h)

theorem toList_display_runtime (text : String) :
    (runtime text).display.toList = "runtime error: ".toList ++ text.toList :=
  String.toList_append

theorem toList_display_context (remark : String) (cause : Failure) :
    (context remark cause).display.toList = remark.toList ++ '\n' :: cause.display.toList := by
  have hText : (context remark cause).display = remark ++ "\n" ++ cause.display := rfl
  rw [hText, String.toList_append, String.toList_append, List.append_assoc]
  rfl

theorem toList_display_callback (traceback : String) (cause : Failure) :
    (callback traceback cause).display.toList =
      cause.peeled.display.toList ++ '\n' :: printedTrace traceback cause ++ ['\n'] := by
  have hText : (callback traceback cause).display =
      cause.texts.2 ++ "\n" ++ String.ofList (printedTrace traceback cause) ++ "\n" := rfl
  have hLine : "\n".toList = ['\n'] := rfl
  rw [hText, texts_snd, String.toList_append, String.toList_append, String.toList_append,
    hLine, String.toList_ofList, List.append_assoc cause.peeled.display.toList,
    List.singleton_append]

namespace Wraps

variable {text : String} {failure : Failure}

/-- Of host functions right around one another the outermost displays what is left when they are
peeled off, so what is true of displays is shown of an error and of its peeled form together. -/
theorem by_layers {motive : Failure → Prop} (hWraps : Wraps text failure)
    (hRoot : motive (.runtime text))
    (hContext : ∀ {remark cause}, ¬ tracebackTitle <:+: remark.toList → Wraps text cause →
      motive cause → motive (.context remark cause))
    (hCallback : ∀ {traceback cause}, motive cause.peeled → motive (.callback traceback cause)) :
    motive failure ∧ motive failure.peeled := by
  induction hWraps with
  | root => exact ⟨hRoot, hRoot⟩
  | callback _ ih => exact ⟨hCallback ih.2, ih.2⟩
  | context hRemark hCause ih => exact ⟨hContext hRemark hCause ih.1, hContext hRemark hCause ih.1⟩

/-- No display starts with the title of a traceback, so behind a remark it is not mistaken for
one. -/
theorem not_title_prefix_display (hWraps : Wraps text failure) :
    ¬ tracebackTitle <+: failure.display.toList := by
  have hLine : '\n' ∉ tracebackTitle := by decide
  refine (by_layers (motive := fun failure => ¬ tracebackTitle <+: failure.display.toList)
    hWraps ?_ ?_ ?_).1
  · intro hStarts
    rw [toList_display_runtime] at hStarts
    exact absurd (List.cons_prefix_cons.mp hStarts).1 (by decide)
  · intro remark cause hRemark _ _ hStarts
    rw [toList_display_context] at hStarts
    exact hRemark (prefix_of_prefix_append_cons hLine hStarts).isInfix
  · intro traceback cause hCause hStarts
    rw [toList_display_callback, List.append_assoc] at hStarts
    exact hCause (prefix_of_prefix_append_cons hLine hStarts)

/-- Behind a remark a traceback is shown exactly where the error beneath displays one. -/
theorem infix_display_context_iff {remark : String} {cause : Failure}
    (hRemark : ¬ tracebackTitle <:+: remark.toList) (hCause : Wraps text cause) :
    tracebackMark.toList <:+: (Failure.context remark cause).display.toList ↔
      tracebackMark.toList <:+: cause.display.toList := by
  have hFree := not_infix_tracebackMark hRemark
  rw [tracebackMark_toList] at hFree
  have hStart := hCause.not_title_prefix_display
  rw [toList_display_context, tracebackMark_toList, infix_append_cons_iff (by decide),
    List.infix_cons_iff, List.cons_prefix_cons]
  simp [hFree, hStart]

theorem infix_display_iff (hWraps : Wraps text failure) :
    tracebackMark.toList <:+: failure.display.toList ↔ Shows failure := by
  refine (by_layers (motive := fun failure =>
    tracebackMark.toList <:+: failure.display.toList ↔ Shows failure) hWraps ?_ ?_ ?_).1
  · rw [toList_display_runtime, tracebackMark_toList, infix_append_iff_of_notMem (by decide),
      ← tracebackMark_toList]
    exact ⟨.root, fun (.root hText) => hText⟩
  · intro remark cause hRemark hCause ih
    rw [infix_display_context_iff hRemark hCause, ih]
    exact ⟨.remark, fun (.remark hCause) => hCause⟩
  · intro traceback cause ih
    rw [toList_display_callback, infix_concat_iff_of_getLast? (by decide), tracebackMark_toList,
      infix_append_cons_iff (by decide), ← tracebackMark_toList, ih]
    constructor
    · rintro (hCause | hTrace)
      · exact .beneath hCause
      · exact .printed hTrace
    · rintro (_ | _ | hCause | hTrace)
      · exact .inl hCause
      · exact .inr hTrace

theorem peeled_cases (hWraps : Wraps text failure) :
    failure.peeled = .runtime text ∨ ∃ remark cause, failure.peeled = .context remark cause ∧
      ¬ tracebackTitle <:+: remark.toList ∧ Wraps text cause := by
  induction hWraps with
  | root => exact .inl rfl
  | callback _ ih => exact ih
  | context hRemark hCause => exact .inr ⟨_, _, rfl, hRemark, hCause⟩

end Wraps

theorem withoutTraceback_of_carried {message text : String}
    (hText : text = message ∨ ∃ rest, text = message ++ tracebackMark ++ rest)
    (hFree : ¬ tracebackTitle <:+: message.toList) : withoutTraceback text = message := by
  have hSelf := (cutBefore_eq_self_iff (by decide)).mpr (not_infix_tracebackMark hFree)
  rcases hText with rfl | ⟨rest, rfl⟩
  · rw [withoutTraceback, hSelf, String.ofList_toList]
  · rw [withoutTraceback, String.toList_append, String.toList_append, tracebackMark_toList,
      cutBefore_append_mark (by decide), ← tracebackMark_toList, hSelf, String.ofList_toList]

/-- What the host sees of a wrapped runtime error. Host functions outside change nothing, and with
host functions only it is the message that was raised. A traceback crosses exactly where the error
beneath the outermost remark shows one. -/
theorem wrapped_error_message {message text : String} {failure : Failure}
    (hText : text = message ∨ ∃ rest, text = message ++ tracebackMark ++ rest)
    (hFree : ¬ tracebackTitle <:+: message.toList) (hWraps : Wraps text failure) :
    (∀ traces : List String, (traces.foldr .callback failure).message = failure.message) ∧
    (∀ traces : List String, failure = traces.foldr .callback (.runtime text) →
      failure.message = message) ∧
    (tracebackMark.toList <:+: failure.message.toList ↔
      ∃ remark cause, failure.peeled = .context remark cause ∧ Shows cause) := by
  have hRoot : (runtime text).message = message := withoutTraceback_of_carried hText hFree
  refine ⟨?_, ?_, ?_⟩
  · intro traces
    rw [message_eq_message_peeled, peeled_foldr_callback, ← message_eq_message_peeled]
  · rintro traces rfl
    rw [message_eq_message_peeled, peeled_foldr_callback]
    exact hRoot
  · rw [message_eq_message_peeled]
    rcases hWraps.peeled_cases with hPeeled | ⟨remark, cause, hPeeled, hRemark, hCause⟩
    · rw [hPeeled, hRoot]
      simp [not_infix_tracebackMark hFree]
    · have hMessage : (context remark cause).message = (context remark cause).display := rfl
      rw [hPeeled, hMessage, Wraps.infix_display_context_iff hRemark hCause,
        hCause.infix_display_iff]
      constructor
      · exact fun hShows => ⟨remark, cause, rfl, hShows⟩
      · rintro ⟨_, _, hSame, hShows⟩
        cases hSame
        exact hShows

/-- Two host functions around an error that carries a traceback, of which the raised message comes
out, and a remark on an error that carries none. -/
theorem boom_without_traceback :
    (callback "stack traceback:\n\t[C]: in ?"
      (.callback "" (.runtime "boom\nstack traceback:\n\t[C]: in ?"))).message = "boom" ∧
    ¬ tracebackMark.toList <:+:
      (callback "" (.context "loading" (.runtime "boom"))).message.toList := by
  have hFree : ¬ tracebackTitle <:+: "boom".toList := fun h => absurd h.length_le (by decide)
  have hRemark : ¬ tracebackTitle <:+: "loading".toList :=
    fun h => absurd h.length_le (by decide)
  constructor
  · have hText : "boom\nstack traceback:\n\t[C]: in ?" =
      "boom" ++ tracebackMark ++ "\n\t[C]: in ?" := rfl
    exact (wrapped_error_message (.inr ⟨_, hText⟩) hFree (.callback (.callback .root))).2.1
      ["stack traceback:\n\t[C]: in ?", ""] rfl
  · rw [(wrapped_error_message (.inl rfl) hFree (.callback (.context hRemark .root))).2.2]
    rintro ⟨_, _, hSame, hShows⟩
    cases hSame
    cases hShows with
    | root hText => exact not_infix_tracebackMark hFree hText

/-- A remark on an error that has passed a host function is shown with the traceback of that
function, though neither the message nor the remark mentions one. -/
theorem remark_keeps_traceback :
    ¬ tracebackTitle <:+: "boom".toList ∧ ¬ tracebackTitle <:+: "loading".toList ∧
    (context "loading" (.callback "stack traceback:\n\t[C]: in ?" (.runtime "boom"))).message =
      "loading\nruntime error: boom" ++ tracebackMark ++ "\n\t[C]: in ?\n" := by
  refine ⟨fun h => absurd h.length_le (by decide), fun h => absurd h.length_le (by decide), ?_⟩
  rfl

end Lua.Failure

end MatrixBridge
