import Mathlib.Data.List.Forall2
import MatrixBridge.Codec

/-! # Converting lists of values

A list converts when every member does, and its image has the members' images in order. Otherwise
the first member without a counterpart is named by its position. -/

namespace MatrixBridge

variable {α β ε δ : Type} {convert : α → Except ε β} {fail : Nat → ε → δ}

theorem map_eq_ok {γ : Type} {f : β → γ} {outcome : Except ε β} {c : γ} :
    outcome.map f = .ok c ↔ ∃ b, outcome = .ok b ∧ f b = c := by
  cases outcome <;> simp [Except.map]

theorem map_eq_error {γ : Type} {f : β → γ} {outcome : Except ε β} {e : ε} :
    outcome.map f = .error e ↔ outcome = .error e := by
  cases outcome <;> simp [Except.map]

/-! ## Checking lists of values -/

theorem forM_cons_eq_ok {check : α → Except ε Unit} {x : α} {xs : List α} :
    (x :: xs).forM check = .ok () ↔ check x = .ok () ∧ xs.forM check = .ok () := by
  cases hx : check x with
  | ok => simp [List.forM, hx, bind, Except.bind]
  | error e => simp [List.forM, hx, bind, Except.bind]

theorem forM_cons_eq_error {check : α → Except ε Unit} {x : α} {xs : List α} {e : ε} :
    (x :: xs).forM check = .error e ↔
      check x = .error e ∨ check x = .ok () ∧ xs.forM check = .error e := by
  cases hx : check x with
  | ok => simp [List.forM, hx, bind, Except.bind]
  | error e => simp [List.forM, hx, bind, Except.bind]

/-- A check that does not depend on positions passes a list when it passes every member. -/
theorem forM_zipIdx_eq_ok {check : α × Nat → Except ε Unit} {P : α → Prop}
    (hCheck : ∀ x position, check (x, position) = .ok () ↔ P x) (xs : List α) (start : Nat) :
    (xs.zipIdx start).forM check = .ok () ↔ ∀ x ∈ xs, P x := by
  induction xs generalizing start with
  | nil => simp [pure, Except.pure]
  | cons x xs ih => rw [List.zipIdx_cons, forM_cons_eq_ok, hCheck, ih, List.forall_mem_cons]

theorem forM_zipIdx_eq_error {check : α × Nat → Except ε Unit} {P : α → Prop}
    (hCheck : ∀ x position, check (x, position) = .ok () ↔ P x) {xs : List α} {start : Nat} {e : ε} :
    (xs.zipIdx start).forM check = .error e ↔
      ∃ front x rest, xs = front ++ x :: rest ∧ (∀ a ∈ front, P a) ∧
        check (x, start + front.length) = .error e := by
  induction xs generalizing start with
  | nil => simp [pure, Except.pure]
  | cons x xs ih =>
    rw [List.zipIdx_cons, forM_cons_eq_error, ih]
    constructor
    · rintro (hFirst | ⟨hFirst, front, y, rest, rfl, hFront, hError⟩)
      · exact ⟨[], x, xs, rfl, by simp, hFirst⟩
      · refine ⟨x :: front, y, rest, rfl, ?_, ?_⟩
        · exact List.forall_mem_cons.mpr ⟨(hCheck x start).mp hFirst, hFront⟩
        · rwa [List.length_cons, Nat.add_comm front.length, ← Nat.add_assoc]
    · rintro ⟨front, y, rest, hSplit, hFront, hError⟩
      rcases List.cons_eq_append_iff.mp hSplit with ⟨rfl, hEq⟩ | ⟨front, rfl, rfl⟩
      · cases hEq
        exact .inl hError
      · obtain ⟨hx, hFront⟩ := List.forall_mem_cons.mp hFront
        refine .inr ⟨(hCheck x start).mpr hx, front, y, rest, rfl, hFront, ?_⟩
        rwa [List.length_cons, Nat.add_comm front.length, ← Nat.add_assoc] at hError

/-! ## Lists that convert -/

/-- Converts the members of a list whose first has the given position. -/
def convertFrom (convert : α → Except ε β) (fail : Nat → ε → δ) (start : Nat) (xs : List α) :
    Except δ (List β) :=
  (xs.zipIdx start).mapM fun (x, position) => (convert x).mapError (fail position)

theorem convertFrom_nil (start : Nat) : convertFrom convert fail start [] = .ok [] := rfl

theorem convertFrom_cons_ok {x : α} {y : β} (hx : convert x = .ok y) (start : Nat) (xs : List α) :
    convertFrom convert fail start (x :: xs) =
      (convertFrom convert fail (start + 1) xs).map (y :: ·) := by
  rw [convertFrom, List.zipIdx_cons, List.mapM_cons]
  simp only [hx]
  rfl

theorem convertFrom_cons_error {x : α} {cause : ε} (hx : convert x = .error cause) (start : Nat)
    (xs : List α) : convertFrom convert fail start (x :: xs) = .error (fail start cause) := by
  rw [convertFrom, List.zipIdx_cons, List.mapM_cons]
  simp only [hx]
  rfl

theorem convertFrom_eq_ok {start : Nat} {xs : List α} {ys : List β} :
    convertFrom convert fail start xs = .ok ys ↔
      List.Forall₂ (fun x y => convert x = .ok y) xs ys := by
  induction xs generalizing start ys with
  | nil => rw [convertFrom_nil, List.forall₂_nil_left_iff, Except.ok.injEq, eq_comm]
  | cons x xs ih =>
    rw [List.forall₂_cons_left_iff]
    cases hx : convert x with
    | ok y =>
      rw [convertFrom_cons_ok hx, map_eq_ok]
      constructor
      · rintro ⟨rest, hRest, rfl⟩
        exact ⟨y, rest, rfl, ih.mp hRest, rfl⟩
      · rintro ⟨y', rest, ⟨⟩, hRest, rfl⟩
        exact ⟨rest, ih.mpr hRest, rfl⟩
    | error cause =>
      rw [convertFrom_cons_error hx]
      constructor
      · rintro ⟨⟩
      · rintro ⟨y, rest, ⟨⟩, -, -⟩

theorem mapM_eq_error {f : α → Except ε β} {xs : List α} {e : ε} :
    xs.mapM f = .error e ↔ xs.forM (fun x => (f x).map fun _ => ()) = .error e := by
  induction xs with
  | nil => simp [pure, Except.pure]
  | cons x xs ih =>
    rw [List.mapM_cons, forM_cons_eq_error, map_eq_error, ← ih]
    cases f x with
    | error e => simp [bind, Except.bind, Except.map]
    | ok y => cases xs.mapM f <;> simp [bind, Except.bind, pure, Except.pure, Except.map]

theorem convertAll_eq_ok {xs : List α} {ys : List β} :
    convertAll convert fail xs = .ok ys ↔
      List.Forall₂ (fun x y => convert x = .ok y) xs ys :=
  convertFrom_eq_ok

/-- The first member of a list without a counterpart, by its position counted from one. -/
def FirstFailure (convert : α → Except ε β) (xs : List α) (position : Nat) (cause : ε) : Prop :=
  ∃ front x rest, xs = front ++ x :: rest ∧ (∀ a ∈ front, ∃ y, convert a = .ok y) ∧
    convert x = .error cause ∧ position = front.length + 1

theorem convertAll_eq_error {xs : List α} {e : δ} : convertAll convert fail xs = .error e ↔
    ∃ position cause, FirstFailure convert xs position cause ∧ e = fail position cause := by
  have hPasses : ∀ x position, ((convert x).mapError (fail position)).map (fun _ => ()) = .ok () ↔
      ∃ y, convert x = .ok y := by
    intro x position
    cases convert x <;> simp [Except.mapError, Except.map]
  have hFails : ∀ x position, ((convert x).mapError (fail position)).map (fun _ => ()) = .error e ↔
      ∃ cause, convert x = .error cause ∧ e = fail position cause := by
    intro x position
    cases convert x <;> simp [Except.mapError, Except.map, eq_comm]
  rw [convertAll, mapM_eq_error, forM_zipIdx_eq_error hPasses]
  constructor
  · rintro ⟨front, x, rest, hSplit, hFront, hError⟩
    rw [Nat.add_comm] at hError
    obtain ⟨cause, hx, rfl⟩ := (hFails x _).mp hError
    exact ⟨_, cause, ⟨front, x, rest, hSplit, hFront, hx, rfl⟩, rfl⟩
  · rintro ⟨_, cause, ⟨front, x, rest, hSplit, hFront, hx, rfl⟩, he⟩
    refine ⟨front, x, rest, hSplit, hFront, ?_⟩
    rw [Nat.add_comm]
    exact (hFails x _).mpr ⟨cause, hx, he⟩

theorem firstFailure_or_forall₂ (convert : α → Except ε β) (xs : List α) :
    (∃ position cause, FirstFailure convert xs position cause) ∨
      ∃ ys, List.Forall₂ (fun x y => convert x = .ok y) xs ys := by
  cases h : convertAll convert Prod.mk xs with
  | ok ys => exact .inr ⟨ys, convertAll_eq_ok.mp h⟩
  | error e =>
    obtain ⟨position, cause, hFirst, -⟩ := convertAll_eq_error.mp h
    exact .inl ⟨position, cause, hFirst⟩

theorem firstFailure_singleton {x : α} {position : Nat} {cause : ε} :
    FirstFailure convert [x] position cause ↔ position = 1 ∧ convert x = .error cause := by
  constructor
  · rintro ⟨front, y, rest, hSplit, -, hy, rfl⟩
    rcases List.cons_eq_append_iff.mp hSplit with ⟨rfl, hEq⟩ | ⟨_, -, hEq⟩
    · cases hEq
      exact ⟨rfl, hy⟩
    · simp at hEq
  · rintro ⟨rfl, hx⟩
    exact ⟨[], x, [], rfl, by simp, hx, rfl⟩

/-- A list is failed only by what its members are failed by. -/
theorem of_convertAll_eq_error {P : δ → Prop} (hFail : ∀ position cause, P (fail position cause))
    {xs : List α} {e : δ} (h : convertAll convert fail xs = .error e) : P e := by
  obtain ⟨position, cause, -, rfl⟩ := convertAll_eq_error.mp h
  exact hFail _ _

theorem of_mapError_eq_error {P : δ → Prop} {wrap : ε → δ} (hFail : ∀ cause, P (wrap cause))
    {outcome : Except ε α} {e : δ} (h : outcome.mapError wrap = .error e) : P e := by
  cases outcome with
  | ok a => cases h
  | error cause =>
    cases h
    exact hFail cause

theorem forall_mem_iff_eq_map {f : β → α} {xs : List α} :
    (∀ x ∈ xs, ∃ y, x = f y) ↔ ∃ ys : List β, xs = ys.map f := by
  constructor
  · intro h
    induction xs with
    | nil => exact ⟨[], rfl⟩
    | cons x xs ih =>
      obtain ⟨⟨y, rfl⟩, hRest⟩ := List.forall_mem_cons.mp h
      obtain ⟨ys, rfl⟩ := ih hRest
      exact ⟨y :: ys, rfl⟩
  · rintro ⟨ys, rfl⟩ x hx
    obtain ⟨y, -, rfl⟩ := List.mem_map.mp hx
    exact ⟨y, rfl⟩

end MatrixBridge
