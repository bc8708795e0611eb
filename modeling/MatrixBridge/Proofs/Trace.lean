import MatrixBridge.Proofs.Run

/-! # Operations within each other, and what they report

A journal is a tree laid out in a line: an operation stands between its two entries, a call between
its own two, and the code of a call holds operations again. A fault is reported by the operation
whose call it ended, as soon as the call is back. -/

namespace MatrixBridge

/-- What is handed to the diagnostics of the numeric runtime: a request to exit is not. -/
def NumericFault.reported : NumericFault → List NumericFault
  | .execution message => [.execution message]
  | .exit _ => []

def ForeignCall.canFault : ForeignCall → Bool
  | .start | .evaluate _ _ | .call _ _ _ => true
  | _ => false

def ForeignCall.isReport : ForeignCall → Bool
  | .report _ => true
  | _ => false

theorem ForeignCall.canFault.not_isReport {call : ForeignCall} (h : call.canFault) :
    call.isReport = false := by
  cases call with
  | report => cases h
  | install | start | evaluate | call | lookup | assign | callScript => rfl

/-- What an operation that fails reports itself: the fault that it fails with. One that is refused
may have booted the numeric runtime, and then there is the fault of the start. -/
def BridgeError.Owns : BridgeError → List NumericFault → Prop
  | .executionFailed _ (.numeric fault), own => own = fault.reported
  | .runtimeNotReady _, own => own.length ≤ 1
  | _, own => own = []

def Operation.Owns {α : Type} : Except BridgeError α → List NumericFault → Prop
  | .ok _, own => own = []
  | .error e, own => e.Owns own

def Crossing.Owns : (c : Crossing) → c.Reply → List NumericFault → Prop
  | .evaluate _ _, reply, own | .callFunction _ _ _, reply, own =>
    Operation.Owns (α := List ScriptValue) reply own
  | .readGlobal _, reply, own => Operation.Owns (α := ScriptValue) reply own
  | .writeGlobal _ _, reply, own => Operation.Owns (α := Bool) reply own
  | .callScript _ _, _, own | .builtin _ _, _, own => own = []

variable {ν : Type}

namespace Event

def report? : Event ν → Option NumericFault
  | .called (.report fault) _ => some fault
  | _ => none

/-- The execution fault that a call came back with. -/
def executionFault? : Event ν → Option NumericFault
  | .returned _ (some (.execution message)) _ => some (.execution message)
  | _ => none

def reports (events : List (Event ν)) : List NumericFault := events.filterMap report?

def executionFaults (events : List (Event ν)) : List NumericFault :=
  events.filterMap executionFault?

/-- How many operations are open at the end when so many are at the start; none if more are left
than are open. -/
def opened : Nat → List (Event ν) → Option Nat
  | n, [] => some n
  | n, .entered _ _ :: events => opened (n + 1) events
  | 0, .left _ _ _ :: _ => none
  | n + 1, .left _ _ _ :: events => opened n events
  | n, .called _ _ :: events | n, .returned _ _ _ :: events | n, .note _ :: events =>
    opened n events

/-- Every operation that is entered is left, and no other. -/
def Closed (events : List (Event ν)) : Prop := opened 0 events = some 0

/-- The reports that are made outside of all operations that are entered on the way, when so many
are open at the start. -/
def ownReports : Nat → List (Event ν) → List NumericFault
  | _, [] => []
  | n, .entered _ _ :: events => ownReports (n + 1) events
  | n, .left _ _ _ :: events => ownReports (n - 1) events
  | n, .called call gate :: events =>
    (if n = 0 then (called call gate : Event ν).report?.toList else []) ++ ownReports n events
  | n, .returned _ _ _ :: events | n, .note _ :: events => ownReports n events

theorem report?_called {call : ForeignCall} (hReport : call.isReport = false) (g : GateState) :
    (called call g : Event ν).report? = none := by
  cases call with
  | report => cases hReport
  | install | start | evaluate | call | lookup | assign | callScript => rfl

end Event

/-- The events of a run that enters and leaves its operations in turn, with what is reported outside
of them all. -/
inductive Trace : List NumericFault → List (Event ν) → Prop
  | nil : Trace [] []
  | note (n : ν) {own rest} : Trace own rest → Trace own (.note n :: rest)
  | operation {c : Crossing} {reply : c.Reply} {g g' own inside more rest} : c.Owns reply own →
      Trace own inside → Trace more rest →
      Trace more (.entered c g :: (inside ++ .left c reply g' :: rest))
  | call {call : ForeignCall} {fault : Option NumericFault} {g g' during own rest} :
      call.isReport = false → (fault.isSome → call.canFault) →
      (∀ f ∈ fault, f.reported = []) → Trace [] during → Trace own rest →
      Trace own (.called call g :: (during ++ .returned call fault g' :: rest))
  | reported {call : ForeignCall} {message : String} {g g' g'' during reporting own rest} :
      call.canFault → Trace [] during → Trace [] reporting → Trace own rest →
      Trace (.execution message :: own)
        (.called call g :: (during ++ .returned call (some (.execution message)) g' ::
          .called (.report (.execution message)) g' ::
            (reporting ++ .returned (.report (.execution message)) none g'' :: rest)))

namespace Trace

open Event

variable {own more : List NumericFault} {events rest : List (Event ν)}

theorem append (h : Trace own events) (hRest : Trace more rest) :
    Trace (own ++ more) (events ++ rest) := by
  induction h with
  | nil => exact hRest
  | note n _ ih => exact .note n ih
  | operation hOwns hInside _ _ ih =>
    rw [List.cons_append, List.append_assoc]
    exact .operation hOwns hInside ih
  | call hReport hFault hExit hDuring _ _ ih =>
    rw [List.cons_append, List.append_assoc]
    exact .call hReport hFault hExit hDuring ih
  | reported hFault hDuring hReporting _ _ _ ih =>
    simpa using Trace.reported hFault hDuring hReporting ih

theorem opened_append (h : Trace own events) (n : Nat) (rest : List (Event ν)) :
    opened n (events ++ rest) = opened n rest := by
  induction h generalizing n rest with
  | nil => rfl
  | note _ _ ih => exact ih n rest
  | operation _ _ _ ihInside ih =>
    rw [List.cons_append, List.append_assoc, opened, ihInside]
    exact ih n rest
  | call _ _ _ _ _ ihDuring ih =>
    rw [List.cons_append, List.append_assoc, opened, ihDuring]
    exact ih n rest
  | reported _ _ _ _ ihDuring ihReporting ih =>
    simp only [List.cons_append, List.append_assoc, opened, ihDuring, ihReporting]
    exact ih n rest

theorem closed (h : Trace own events) : Closed events := by
  have hOpened := h.opened_append 0 []
  rwa [List.append_nil] at hOpened

theorem ownReports_append_succ (h : Trace own events) (n : Nat) (rest : List (Event ν)) :
    ownReports (n + 1) (events ++ rest) = ownReports (n + 1) rest := by
  induction h generalizing n rest with
  | nil => rfl
  | note _ _ ih => exact ih n rest
  | operation _ _ _ ihInside ih =>
    rw [List.cons_append, List.append_assoc, ownReports, ihInside]
    exact ih n rest
  | call _ _ _ _ _ ihDuring ih =>
    rw [List.cons_append, List.append_assoc, ownReports, ihDuring]
    exact ih n rest
  | reported _ _ _ _ ihDuring ihReporting ih =>
    simp only [List.cons_append, List.append_assoc, ownReports, ihDuring, ihReporting]
    exact ih n rest

theorem ownReports_append (h : Trace own events) (rest : List (Event ν)) :
    ownReports 0 (events ++ rest) = own ++ ownReports 0 rest := by
  induction h generalizing rest with
  | nil => rfl
  | note _ _ ih => exact ih rest
  | operation _ hInside _ _ ih =>
    rw [List.cons_append, List.append_assoc, ownReports, hInside.ownReports_append_succ]
    exact ih rest
  | call hReport _ _ _ _ ihDuring ih =>
    rw [List.cons_append, List.append_assoc, ownReports, report?_called hReport, ihDuring]
    exact ih rest
  | reported hFault _ _ _ ihDuring ihReporting ih =>
    simp only [List.cons_append, List.append_assoc, ownReports, ihDuring, ihReporting, ih,
      report?_called (ForeignCall.canFault.not_isReport hFault)]
    rfl

theorem ownReports_eq (h : Trace own events) : ownReports 0 events = own := by
  have hOwn := h.ownReports_append []
  rwa [List.append_nil, ownReports, List.append_nil] at hOwn

theorem canFault (h : Trace own events) {call : ForeignCall} {fault : NumericFault}
    {g : GateState} (hMem : .returned call (some fault) g ∈ events) : call.canFault := by
  induction h with
  | nil => cases hMem
  | note _ _ ih =>
    simp only [List.mem_cons, reduceCtorEq, false_or] at hMem
    exact ih hMem
  | operation _ _ _ ihInside ih =>
    simp only [List.mem_cons, List.mem_append, reduceCtorEq, false_or] at hMem
    exact hMem.elim ihInside ih
  | call _ hFault _ _ _ ihDuring ih =>
    simp only [List.mem_cons, List.mem_append, reduceCtorEq, false_or] at hMem
    rcases hMem with hMem | hMem | hMem
    · exact ihDuring hMem
    · cases hMem
      exact hFault rfl
    · exact ih hMem
  | reported hFault _ _ _ ihDuring ihReporting ih =>
    simp only [List.mem_cons, List.mem_append, reduceCtorEq, false_or] at hMem
    rcases hMem with hMem | hMem | hMem | hMem | hMem
    · exact ihDuring hMem
    · cases hMem
      exact hFault
    · exact ihReporting hMem
    · cases hMem
    · exact ih hMem

end Trace

/-! ## Reports follow faults -/

namespace Event

variable {events more : List (Event ν)} {e : Event ν} {fault : NumericFault}

theorem report?_eq_some : e.report? = some fault ↔ ∃ g, e = .called (.report fault) g := by
  constructor
  · intro h
    unfold report? at h
    split at h
    · cases h
      exact ⟨_, rfl⟩
    · cases h
  · rintro ⟨g, rfl⟩
    rfl

theorem executionFault?_eq_some : e.executionFault? = some fault ↔
    ∃ call message g, fault = .execution message ∧ e = .returned call (some fault) g := by
  constructor
  · intro h
    unfold executionFault? at h
    split at h
    · cases h
      exact ⟨_, _, _, rfl, rfl⟩
    · cases h
  · rintro ⟨call, message, g, rfl, rfl⟩
    rfl

/-- An event is the call of a report exactly if the event before it is the return of a call with
this fault. -/
def Timely (events : List (Event ν)) : Prop :=
  none :: events.map executionFault? = events.map report? ++ [none]

theorem Timely.append (h : Timely events) (hMore : Timely more) : Timely (events ++ more) := by
  rw [Timely] at h hMore ⊢
  calc none :: (events ++ more).map executionFault?
      = (none :: events.map executionFault?) ++ more.map executionFault? := by simp
    _ = events.map report? ++ (none :: more.map executionFault?) := by simp [h]
    _ = (events ++ more).map report? ++ [none] := by simp [hMore]

theorem Timely.cons (hFault : e.executionFault? = none) (hReport : e.report? = none)
    (h : Timely events) : Timely (e :: events) := by
  have hOne : Timely [e] := by simp [Timely, hFault, hReport]
  exact hOne.append h

theorem Timely.reports_eq (h : Timely events) : reports events = executionFaults events := by
  have hValues := congrArg (List.filterMap id) h
  simp only [List.filterMap_cons, id, List.filterMap_append, List.filterMap_map,
    List.filterMap_nil, List.append_nil] at hValues
  exact hValues.symm

theorem Timely.split (h : Timely events) {before after : List (Event ν)}
    (hSplit : before ++ e :: after = events) :
    none :: before.map executionFault? = before.map report? ++ [e.report?] ∧
      e.executionFault? :: after.map executionFault? = after.map report? ++ [none] := by
  subst hSplit
  have hParts : (none :: before.map executionFault?) ++
        (e.executionFault? :: after.map executionFault?) =
      (before.map report? ++ [e.report?]) ++ (after.map report? ++ [none]) := by
    simpa [Timely] using h
  exact List.append_inj hParts (by simp)

theorem Timely.of_returned (h : Timely events) {call : ForeignCall} {message : String}
    {g : GateState} {after : List (Event ν)}
    (hReturned : .returned call (some (.execution message)) g :: after <:+ events) :
    ∃ g' rest, after = .called (.report (.execution message)) g' :: rest := by
  obtain ⟨before, hSplit⟩ := hReturned
  obtain ⟨-, hNext⟩ := h.split hSplit
  cases after with
  | nil => cases hNext
  | cons next rest =>
    obtain ⟨hFirst, -⟩ := List.cons.inj hNext
    obtain ⟨g', rfl⟩ := report?_eq_some.mp hFirst.symm
    exact ⟨g', rest, rfl⟩

theorem Timely.of_report (h : Timely events) {g : GateState} {before : List (Event ν)}
    (hReport : before ++ [.called (.report fault) g] <+: events) :
    ∃ front call message g', fault = .execution message ∧
      before = front ++ [.returned call (some fault) g'] := by
  obtain ⟨after, hSplit⟩ := hReport
  rw [List.append_assoc] at hSplit
  obtain ⟨hLast, -⟩ := h.split hSplit
  rcases List.eq_nil_or_concat before with rfl | ⟨front, last, rfl⟩
  · cases hLast
  · rw [List.concat_eq_append, List.map_append, ← List.cons_append] at hLast
    obtain ⟨-, hFault⟩ := List.append_inj' hLast rfl
    obtain ⟨hFault, -⟩ := List.cons.inj hFault
    obtain ⟨call, message, g', hMessage, rfl⟩ := executionFault?_eq_some.mp hFault
    exact ⟨front, call, message, g', hMessage, List.concat_eq_append⟩

end Event

theorem Trace.timely {own : List NumericFault} {events : List (Event ν)} (h : Trace own events) :
    Event.Timely events := by
  induction h with
  | nil => rfl
  | note n _ ih => exact .cons rfl rfl ih
  | operation _ _ _ ihInside ih => exact .cons rfl rfl (.append ihInside (.cons rfl rfl ih))
  | @call call fault _ g' _ _ _ hReport _ hExit _ _ ihDuring ih =>
    have hNone : (Event.returned call fault g' : Event ν).executionFault? = none := by
      cases fault with
      | none => rfl
      | some fault =>
        cases fault with
        | exit => rfl
        | execution => cases hExit _ rfl
    exact .cons rfl (Event.report?_called hReport _) (.append ihDuring (.cons hNone rfl ih))
  | @reported call message _ g' _ _ _ _ _ hFault _ _ _ ihDuring ihReporting ih =>
    have hReport := ForeignCall.canFault.not_isReport hFault
    have hPair : Event.Timely [(.returned call (some (.execution message)) g' : Event ν),
        .called (.report (.execution message)) g'] := rfl
    refine .cons rfl (Event.report?_called hReport _) (.append ihDuring ?_)
    exact hPair.append (.append ihReporting (.cons rfl rfl ih))

/-! ## Operations enclose what they do -/

theorem cons_suffix_append {α : Type} {e : α} {after front back : List α}
    (h : e :: after <:+ front ++ back) :
    e :: after <:+ back ∨ ∃ rest, after = rest ++ back ∧ e :: rest <:+ front := by
  obtain ⟨before, hSplit⟩ := h
  rcases List.append_eq_append_iff.mp hSplit with ⟨between, hFront, hBack⟩ | ⟨between, -, hBack⟩
  · cases between with
    | nil => exact .inl ⟨[], hBack⟩
    | cons first rest =>
      obtain ⟨rfl, hAfter⟩ := List.cons.inj hBack
      exact .inr ⟨rest, hAfter, before, hFront.symm⟩
  · exact .inl ⟨between, hBack.symm⟩

/-- Every operation that is entered is left, with what it owns reported in between. -/
def Event.Enclosed (events : List (Event ν)) : Prop :=
  ∀ ⦃c g after⦄, .entered c g :: after <:+ events → ∃ inside reply g' rest,
    after = inside ++ .left c reply g' :: rest ∧ Closed inside ∧ c.Owns reply (ownReports 0 inside)

namespace Event

variable {events more : List (Event ν)} {e : Event ν}

theorem Enclosed.append (h : Enclosed events) (hMore : Enclosed more) :
    Enclosed (events ++ more) := by
  intro c g after hEntered
  rcases cons_suffix_append hEntered with hBack | ⟨front, rfl, hFront⟩
  · exact hMore hBack
  · obtain ⟨inside, reply, g', rest, rfl, hInside⟩ := h hFront
    exact ⟨inside, reply, g', rest ++ more, by simp, hInside⟩

theorem enclosed_nil : Enclosed ([] : List (Event ν)) := by
  intro c g after hEntered
  cases List.suffix_nil.mp hEntered

theorem Enclosed.cons (hOther : ∀ c g, e ≠ .entered c g) (h : Enclosed events) :
    Enclosed (e :: events) := by
  intro c g after hEntered
  rcases List.suffix_cons_iff.mp hEntered with hFirst | hEntered
  · exact absurd (List.cons.inj hFirst).1.symm (hOther c g)
  · exact h hEntered

end Event

theorem Trace.enclosed {own : List NumericFault} {events : List (Event ν)} (h : Trace own events) :
    Event.Enclosed events := by
  induction h with
  | nil => exact Event.enclosed_nil
  | note _ _ ih => exact .cons nofun ih
  | operation hOwns hInside _ ihInside ih =>
    intro c g after hEntered
    rcases List.suffix_cons_iff.mp hEntered with hFirst | hEntered
    · cases hFirst
      rw [← hInside.ownReports_eq] at hOwns
      exact ⟨_, _, _, _, rfl, hInside.closed, hOwns⟩
    · refine Event.Enclosed.append ihInside (.cons ?_ ih) hEntered
      nofun
  | call _ _ _ _ _ ihDuring ih => exact .cons nofun (.append ihDuring (.cons nofun ih))
  | reported _ _ _ _ ihDuring ihReporting ih =>
    exact .cons nofun (.append ihDuring (.cons nofun (.cons nofun
      (.append ihReporting (.cons nofun ih)))))

end MatrixBridge
