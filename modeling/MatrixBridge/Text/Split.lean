/-!
# Splitting at a marker

The first occurrence of a marker in a list cuts it into what stands before and what stands after.
-/

namespace MatrixBridge

variable {α : Type} [DecidableEq α]

/-- The parts before and after the first occurrence of the marker. -/
def splitOnce? (mark : List α) : List α → Option (List α × List α)
  | [] => if mark = [] then some ([], []) else none
  | a :: as =>
    if mark.isPrefixOf (a :: as) then some ([], (a :: as).drop mark.length)
    else (splitOnce? mark as).map fun (before, after) => (a :: before, after)

def cutBefore (mark : List α) (as : List α) : List α :=
  match splitOnce? mark as with
  | some (before, _) => before
  | none => as

theorem eq_append_of_splitOnce? {mark as before after : List α}
    (h : splitOnce? mark as = some (before, after)) : as = before ++ mark ++ after := by
  induction as generalizing before with
  | nil =>
    simp only [splitOnce?] at h
    split at h <;> simp_all
  | cons a as ih =>
    simp only [splitOnce?] at h
    split at h
    · next hm =>
      obtain ⟨rest, hrest⟩ := List.isPrefixOf_iff_prefix.1 hm
      simp only [Option.some.injEq, Prod.mk.injEq] at h
      obtain ⟨rfl, rfl⟩ := h
      rw [← hrest]
      simp
    · obtain ⟨⟨before', after'⟩, hsplit, heq⟩ := Option.map_eq_some_iff.1 h
      simp only [Prod.mk.injEq] at heq
      obtain ⟨rfl, rfl⟩ := heq
      rw [ih hsplit]
      simp

end MatrixBridge
