import MatrixBridge.Lua.Interpreter
import MatrixBridge.Proofs.Marshal
import MatrixBridge.Proofs.Routine

/-! # Calls of Lua code

What Lua code answers or raises, put together step by step. From it follows what the host is
answered when it calls a global that is a function that returns its arguments. -/

namespace MatrixBridge.Lua

variable {η φ ν α β : Type} {handler : Run.Handler η (State φ) ν}
  {w w' w'' : World η (State φ) ν}

/-- The computation answers, and leaves the run in the given state. -/
def Act.Yields (handler : Run.Handler η (State φ) ν) (act : Act φ ν α) (w : World η (State φ) ν)
    (a : α) (w' : World η (State φ) ν) : Prop :=
  (Run.routine Run.scriptPlace handler act.run).run w = some (.ok a, w')

def Act.Raises (handler : Run.Handler η (State φ) ν) (act : Act φ ν α) (w : World η (State φ) ν)
    (raised : Value) (w' : World η (State φ) ν) : Prop :=
  (Run.routine Run.scriptPlace handler act.run).run w = some (.error raised, w')

namespace Act

theorem yields_pure (a : α) : (pure a : Act φ ν α).Yields handler w a w := rfl

theorem yields_state : (state : Act φ ν (State φ)).Yields handler w w.script w := rfl

theorem yields_update (f : State φ → α × State φ) :
    (update f : Act φ ν α).Yields handler w (f w.script).1 { w with script := (f w.script).2 } :=
  rfl

theorem Yields.run_bind {x : Act φ ν α} {f : α → Act φ ν β} {a : α}
    (h : x.Yields handler w a w') :
    (Run.routine Run.scriptPlace handler (x >>= f).run).run w =
      (Run.routine Run.scriptPlace handler (f a).run).run w' :=
  Run.routine_bind_ok h

theorem Yields.bind {x : Act φ ν α} {f : α → Act φ ν β} {a : α} {b : β}
    (h : x.Yields handler w a w') (hNext : (f a).Yields handler w' b w'') :
    (x >>= f).Yields handler w b w'' :=
  h.run_bind.trans hNext

theorem Yields.bind_raises {x : Act φ ν α} {f : α → Act φ ν β} {a : α} {raised : Value}
    (h : x.Yields handler w a w') (hNext : (f a).Raises handler w' raised w'') :
    (x >>= f).Raises handler w raised w'' :=
  h.run_bind.trans hNext

theorem Raises.bind {x : Act φ ν α} {raised : Value} (h : x.Raises handler w raised w')
    (f : α → Act φ ν β) : (x >>= f).Raises handler w raised w' :=
  Run.routine_bind_error h

theorem Raises.discard {x : Act φ ν α} {raised : Value} (h : x.Raises handler w raised w') :
    (discard x).Raises handler w raised w' :=
  h.bind fun _ => pure ()

theorem Yields.of_bind {x : Act φ ν α} {f : α → Act φ ν β} {b : β}
    (h : (x >>= f).Yields handler w b w') :
    ∃ a v, x.Yields handler w a v ∧ (f a).Yields handler v b w' := by
  rw [Yields, ExceptT.run_bind, Run.routine_bind] at h
  obtain ⟨outcome, v, hFirst, h⟩ := Run.run_bind_eq_some.mp h
  cases outcome with
  | ok a => exact ⟨a, v, hFirst, h⟩
  | error raised => cases h

theorem run_map (f : α → β) (x : Act φ ν α) :
    (Run.routine Run.scriptPlace handler (x >>= fun a => pure (f a)).run).run w =
      ((Run.routine Run.scriptPlace handler x.run).run w).map fun (outcome, v) =>
        (outcome.map f, v) := by
  rw [ExceptT.run_bind, Run.routine_bind, StateT.run_bind, Option.map_eq_bind]
  congr 1
  funext ⟨outcome, v⟩
  cases outcome <;> rfl

theorem yields_requireRoom {calls : Nat} (hRoom : w.script.nesting + calls < nestingLimit) :
    (requireRoom calls : Act φ ν Unit).Yields handler w () w := by
  refine yields_state.bind ?_
  rw [if_neg (Nat.not_le.mpr hRoom)]
  exact yields_pure ()

theorem yields_requirePlaces {places : Nat} {overflow : Value} (hFit : places ≤ stackLimit) :
    (requirePlaces places overflow : Act φ ν Unit).Yields handler w () w := by
  rw [requirePlaces, if_neg (Nat.not_lt.mpr hFit)]
  exact yields_pure ()

theorem raises_requirePlaces {places : Nat} {overflow : Value} (hFull : stackLimit < places) :
    (requirePlaces places overflow : Act φ ν Unit).Raises handler w overflow w := by
  rw [requirePlaces, if_pos hFull]
  rfl

theorem fit_of_requirePlaces {places : Nat} {overflow : Value}
    (h : (requirePlaces places overflow : Act φ ν Unit).Yields handler w () w') :
    places ≤ stackLimit ∧ w' = w := by
  rw [requirePlaces] at h
  split at h
  · cases h
  · rename_i hFit
    cases h
    exact ⟨Nat.not_lt.mp hFit, rfl⟩

theorem run_nested {act : Act φ ν α} (hRoom : w.script.nesting + 1 < nestingLimit) :
    (Run.routine Run.scriptPlace handler (nested act).run).run w =
      ((Run.routine Run.scriptPlace handler act.run).run
        { w with script.nesting := w.script.nesting + 1 }).map fun (outcome, v) =>
          (outcome, { v with script.nesting := v.script.nesting - 1 }) := by
  rw [nested, (yields_requireRoom hRoom).run_bind, (yields_update _).run_bind, protect, ofRoutine,
    ExceptT.run_bind_lift, Run.routine_bind, StateT.run_bind, Option.map_eq_bind]
  rfl

theorem yields_nested {act : Act φ ν α} {a : α} (hRoom : w.script.nesting + 1 < nestingLimit)
    (h : act.Yields handler { w with script.nesting := w.script.nesting + 1 } a w') :
    (nested act).Yields handler w a { w' with script.nesting := w'.script.nesting - 1 } := by
  rw [Yields, run_nested hRoom, h]
  rfl

theorem raises_nested {act : Act φ ν α} {raised : Value}
    (hRoom : w.script.nesting + 1 < nestingLimit)
    (h : act.Raises handler { w with script.nesting := w.script.nesting + 1 } raised w') :
    (nested act).Raises handler w raised { w' with script.nesting := w'.script.nesting - 1 } := by
  rw [Raises, run_nested hRoom, h]
  rfl

theorem room_of_requireRoom {calls : Nat}
    (h : (requireRoom calls : Act φ ν Unit).Yields handler w () w') :
    w.script.nesting + calls < nestingLimit := by
  obtain ⟨st, v, hState, h⟩ := h.of_bind
  obtain ⟨rfl, rfl⟩ : w.script = st ∧ w = v := by
    cases hState
    exact ⟨rfl, rfl⟩
  by_contra hFull
  rw [if_pos (Nat.le_of_not_lt hFull)] at h
  cases h

theorem room_of_nested {act : Act φ ν α} {a : α} (h : (nested act).Yields handler w a w') :
    w.script.nesting + 1 < nestingLimit := by
  obtain ⟨_, v, hRoom, -⟩ := h.of_bind
  exact room_of_requireRoom hRoom

end Act

/-! ## Lookups -/

theorem yields_getGlobal {call : Caller φ ν} {name : String} {v : Value}
    (hBound : w.script.global name = v) (hSome : v ≠ .nil) :
    (getGlobal call name).Yields handler w v w := by
  refine Act.yields_state.bind ?_
  refine Act.yields_state.bind ?_
  rw [State.global] at hBound
  rw [hBound]
  split
  · exact absurd rfl hSome
  · exact Act.yields_pure _

theorem yields_getGlobal_nil {call : Caller φ ν} {name : String}
    (hFree : w.script.global name = .nil)
    (hIndex : (w.script.table w.script.globals).index = none) :
    (getGlobal call name).Yields handler w .nil w := by
  refine Act.yields_state.bind ?_
  refine Act.yields_state.bind ?_
  rw [State.global] at hFree
  rw [hFree, hIndex]
  exact Act.yields_pure _

theorem State.Extends.closures_eq {st st' : State φ} (h : st.Extends st') :
    st'.closures = st.closures := by
  obtain ⟨made, rfl⟩ := h
  rfl

theorem State.Extends.nesting_eq {st st' : State φ} (h : st.Extends st') :
    st'.nesting = st.nesting := by
  obtain ⟨made, rfl⟩ := h
  rfl

theorem State.Extends.table_eq {st st' : State φ} (h : st.Extends st') {ref : Nat}
    (hSome : st.table ref ≠ .empty) : st'.table ref = st.table ref := by
  cases hEntry : st.tables[ref]? with
  | some t => rw [table_of_getElem? hEntry, table_of_getElem? (h.getElem? hEntry)]
  | none =>
    rw [table, List.getD_eq_getElem?_getD, hEntry] at hSome
    exact absurd rfl hSome

theorem State.Extends.table_globals {st st' : State φ} (h : st.Extends st') {name : String}
    (hSome : st.global name ≠ .nil) : st'.table st'.globals = st.table st.globals := by
  have hTable : st.table st.globals ≠ .empty := by
    intro hEmpty
    rw [State.global, rawGet, hEmpty] at hSome
    exact absurd rfl hSome
  have hSame := h.table_eq hTable
  obtain ⟨made, rfl⟩ := h
  exact hSame

theorem State.Extends.global {st st' : State φ} (h : st.Extends st') {name : String}
    (hSome : st.global name ≠ .nil) : st'.global name = st.global name := by
  rw [State.global, State.global, rawGet, rawGet, h.table_globals hSome]

/-- One more call from the host fits, with so many arguments. -/
structure State.HasRoom (st : State φ) (args : Nat) : Prop where
  deeper : st.nesting + 1 < nestingLimit
  places : args + 4 ≤ stackLimit

theorem State.HasRoom.of_le {st : State φ} {m n : Nat} (h : st.HasRoom n) (hLe : m ≤ n) :
    st.HasRoom m :=
  ⟨h.deeper, Nat.le_trans (Nat.add_le_add_right hLe 4) h.places⟩

theorem State.HasRoom.of_nesting_eq {st st' : State φ} {n : Nat} (h : st.HasRoom n)
    (hSame : st'.nesting = st.nesting) : st'.HasRoom n :=
  ⟨hSame ▸ h.deeper, h.places⟩

/-! ## A function that returns its arguments -/

namespace Interpreter

variable {I : Interpreter φ ν} {name : String} {depth most : Nat}
  {P : World η (State φ) ν → Prop}

/-- Where `P` holds the global of this name is a function that can be called and that returns its
arguments, when they are at most so many: they hold the data that they held, and `P` holds again.
The bridge's own steps around the call keep `P`. -/
structure Echoes (I : Interpreter φ ν) (handler : Run.Handler η (State φ) ν) (depth : Nat)
    (name : String) (most : Nat) (P : World η (State φ) ν → Prop) : Prop where
  isOpen : ∀ {w}, P w → w.script.closed = false
  log : ∀ {w} events, P w → P (w.log events)
  extend : ∀ {w st}, P w → w.script.Extends st → P { w with script := st }
  call : ∀ {w}, P w → ∃ ref, w.script.global name = .function ref ∧
    ∀ args ds, args.length ≤ most → List.Forall₂ w.script.Represents args ds → ∃ w', P w' ∧
      (I.callFromHost depth (.function ref) args).Yields handler w args w' ∧
      args.map w'.script.read = ds.map Data.script

theorem run_lookUpAndCall_function (I : Interpreter φ ν) {ref : Nat}
    (hBound : w.script.global name = .function ref) (hRoom : w.script.nesting + 1 < nestingLimit)
    (args : List ScriptValue) :
    (Run.routine Run.scriptPlace handler (I.lookUpAndCall depth name args).run).run w =
      ((Run.routine Run.scriptPlace handler
        (I.callFromHost depth (.function ref) (State.writeAll args w.script).1).run).run
          { w with script := (State.writeAll args w.script).2 }).map
        fun (outcome, v) => (outcome.map some, v) := by
  have hLookup : (Act.nested (getGlobal (I.call depth) name)).Yields handler w (.function ref) w :=
    Act.yields_nested hRoom (yields_getGlobal hBound nofun)
  rw [lookUpAndCall, hLookup.run_bind, pushAll, (Act.yields_update (State.writeAll args)).run_bind,
    Act.run_map some]

theorem run_lookUpAndCall_table (I : Interpreter φ ν) {ref : Nat}
    (hBound : w.script.global name = .table ref) (hRoom : w.script.nesting + 1 < nestingLimit)
    (args : List ScriptValue) :
    (Run.routine Run.scriptPlace handler (I.lookUpAndCall depth name args).run).run w =
      ((Run.routine Run.scriptPlace handler
        (callThroughChunk (I.call depth) (.table ref) (State.writeAll args w.script).1).run).run
          { w with script := (State.writeAll args w.script).2 }).map
        fun (outcome, v) => (outcome.map some, v) := by
  have hLookup : (Act.nested (getGlobal (I.call depth) name)).Yields handler w (.table ref) w :=
    Act.yields_nested hRoom (yields_getGlobal hBound nofun)
  rw [lookUpAndCall, hLookup.run_bind, pushAll, (Act.yields_update (State.writeAll args)).run_bind,
    Act.run_map some]

theorem run_callFromHost_nested (I : Interpreter φ ν) {f : Value} {args : List Value}
    (hFit : args.length + 4 ≤ stackLimit) :
    (Run.routine Run.scriptPlace handler (I.callFromHost depth f args).run).run w =
      (Run.routine Run.scriptPlace handler (Act.nested (I.call depth none f args)).run).run w :=
  (Act.yields_requirePlaces hFit).run_bind

theorem room_of_callFromHost {f : Value} {args results : List Value}
    (h : (I.callFromHost depth f args).Yields handler w results w') :
    w.script.nesting + 1 < nestingLimit := by
  obtain ⟨_, v, hFit, hCall⟩ := h.of_bind
  obtain ⟨-, rfl⟩ := Act.fit_of_requirePlaces hFit
  exact Act.room_of_nested hCall

theorem Echoes.callable (h : I.Echoes handler depth name most P) (hP : P w) :
    ∃ ref, w.script.global name = .function ref ∧ w.script.nesting + 1 < nestingLimit := by
  obtain ⟨ref, hBound, hCall⟩ := h.call hP
  obtain ⟨w', -, hYields, -⟩ := hCall [] [] (Nat.zero_le most) .nil
  exact ⟨ref, hBound, room_of_callFromHost hYields⟩

theorem yields_lookUpAndCall (h : I.Echoes handler depth name most P) (hP : P w) (ds : List Data)
    (hMost : ds.length ≤ most) :
    ∃ args w', P w' ∧
      (I.lookUpAndCall depth name (ds.map Data.script)).Yields handler w (some args) w' ∧
      args.map w'.script.read = ds.map Data.script := by
  obtain ⟨ref, hGlobal, hRoom⟩ := h.callable hP
  have hExtends := State.writeAll_extends (ds.map Data.script) w.script
  have hPushed := h.extend hP hExtends
  obtain ⟨ref', hGlobal', hCall⟩ := h.call hPushed
  have hSame : Value.function ref' = .function ref :=
    hGlobal'.symm.trans ((hExtends.global (by rw [hGlobal]; nofun)).trans hGlobal)
  have hFew : (State.writeAll (ds.map Data.script) w.script).1.length ≤ most := by
    rwa [State.length_writeAll, List.length_map]
  obtain ⟨w', hP', hYields, hRead⟩ := hCall _ ds hFew (State.writeAll_script ds w.script)
  rw [hSame] at hYields
  refine ⟨_, w', hP', ?_, hRead⟩
  rw [Act.Yields, I.run_lookUpAndCall_function hGlobal hRoom, hYields]
  rfl

theorem run_callNamed (h : I.Echoes handler depth name most P) (hP : P w) (ds : List Data)
    (hMost : ds.length ≤ most) :
    ∃ w', P w' ∧ (Run.routine Run.scriptPlace handler
      (I.callNamed depth name (ds.map Data.script))).run w =
        some (.ok (ds.map Data.script), w') := by
  obtain ⟨args, w', hP', hYields, hRead⟩ := yields_lookUpAndCall h hP ds hMost
  refine ⟨w', hP', ?_⟩
  have hOpen : (Run.scriptPlace.read w).closed = false := h.isOpen hP
  rw [callNamed, Run.run_routine_state, if_neg (by simp [hOpen]), Run.routine_bind,
    Run.run_bind_of hYields, ← hRead]
  rfl

theorem raises_lookUpAndCall_of_callFromHost {args : List ScriptValue} {ref : Nat} {raised : Value}
    (hBound : w.script.global name = .function ref) (hRoom : w.script.nesting + 1 < nestingLimit)
    (hCall : (I.callFromHost depth (.function ref) (State.writeAll args w.script).1).Raises handler
      { w with script := (State.writeAll args w.script).2 } raised w') :
    (I.lookUpAndCall depth name args).Raises handler w raised w' := by
  rw [Act.Raises, I.run_lookUpAndCall_function hBound hRoom, hCall]
  rfl

theorem raises_lookUpAndCall {args : List ScriptValue} {ref : Nat} {raised : Value}
    (hBound : w.script.global name = .function ref) (hRoom : w.script.HasRoom args.length)
    (hCall : (I.call depth none (.function ref) (State.writeAll args w.script).1).Raises handler
      { w with script :=
          { (State.writeAll args w.script).2 with nesting := w.script.nesting + 1 } } raised w') :
    (I.lookUpAndCall depth name args).Raises handler w raised
      { w' with script.nesting := w'.script.nesting - 1 } := by
  have hExtends := State.writeAll_extends args w.script
  have hRoom' :
      (State.writeAll args w.script).2.HasRoom (State.writeAll args w.script).1.length := by
    rw [State.length_writeAll]
    exact hRoom.of_nesting_eq hExtends.nesting_eq
  rw [← hExtends.nesting_eq] at hCall
  exact raises_lookUpAndCall_of_callFromHost hBound hRoom.deeper
    ((I.run_callFromHost_nested hRoom'.places).trans (Act.raises_nested hRoom'.deeper hCall))

/-- More arguments than the stack takes are refused, and the function does not run. -/
theorem raises_lookUpAndCall_full {args : List ScriptValue} {ref : Nat}
    (hBound : w.script.global name = .function ref) (hRoom : w.script.nesting + 1 < nestingLimit)
    (hFull : stackLimit < args.length + 4) :
    (I.lookUpAndCall depth name args).Raises handler w (.error .stackExhausted)
      { w with script := (State.writeAll args w.script).2 } := by
  refine raises_lookUpAndCall_of_callFromHost hBound hRoom ?_
  refine (Act.raises_requirePlaces ?_).bind _
  rwa [State.length_writeAll]

theorem run_callNamed_of_raises {args : List ScriptValue} {raised : Value}
    (hOpen : w.script.closed = false)
    (hRaises : (I.lookUpAndCall depth name args).Raises handler w raised w') :
    (Run.routine Run.scriptPlace handler (I.callNamed depth name args)).run w =
      some (.error (.raised (raisedMessage raised)), w') := by
  rw [callNamed, Run.run_routine_state, if_neg (by simp [Run.scriptPlace, hOpen]),
    Run.routine_bind, Run.run_bind_of hRaises]
  rfl

theorem run_call (I : Interpreter φ ν) {depth : Nat} {site : Option CallSite} {f : Value}
    {c : Closure φ} {args given : List Value} (hCallee : w.script.callee? f args = some (c, given)) :
    (Run.routine Run.scriptPlace handler (I.call (depth + 1) site f args).run).run w =
      (Run.routine Run.scriptPlace handler (I.apply (I.call depth) site f c given).run).run w := by
  rw [call, Act.yields_state.run_bind, hCallee]

theorem raises_call (I : Interpreter φ ν) {depth : Nat} {f : Value} {args : List Value}
    (hCallee : w.script.callee? f args = none) (site : Option CallSite) :
    (I.call (depth + 1) site f args).Raises handler w (notCallable site f) w := by
  refine Act.yields_state.bind_raises ?_
  rw [hCallee]
  rfl

theorem callee?_function {st : State φ} {ref : Nat} {c : Closure φ}
    (hClosure : st.closures[ref]? = some c) (args : List Value) :
    st.callee? (.function ref) args = some (c, args) := by
  rw [State.callee?, hClosure]
  rfl

theorem yields_callFromHost {ref : Nat} {c : Closure φ} {args results : List Value}
    (hRoom : w.script.HasRoom args.length) (hClosure : w.script.closures[ref]? = some c)
    (hBody : (I.apply (I.call depth) none (.function ref) c args).Yields handler
      { w with script.nesting := w.script.nesting + 1 } results w') :
    (I.callFromHost (depth + 1) (.function ref) args).Yields handler w results
      { w' with script.nesting := w'.script.nesting - 1 } := by
  have hCallee : State.callee? { w.script with nesting := w.script.nesting + 1 } (.function ref)
      args = some (c, args) := callee?_function hClosure args
  exact (I.run_callFromHost_nested hRoom.places).trans
    (Act.yields_nested hRoom.deeper ((I.run_call hCallee).trans hBody))

end Interpreter

end MatrixBridge.Lua
