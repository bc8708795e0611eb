import MatrixBridge.Lua.Interpreter
import MatrixBridge.Proofs.Utf8

/-! # Texts that leave Lua unchanged

A raised text leaves Lua with a traceback behind it, and what the host sees ends where the first
traceback starts. A text without a zero character and without the words that introduce a traceback
is seen whole. Texts put together of such texts are again such texts, unless the words come about
where the parts meet. -/

namespace MatrixBridge

variable {α : Type}

theorem not_prefix_append {m : α} {tail cs : List α} (hHead : m ∉ tail) (hSome : cs ≠ [])
    (hFree : ¬ m :: tail <:+: cs) (rest : List α) : ¬ m :: tail <+: cs ++ m :: tail ++ rest := by
  intro hStarts
  obtain ⟨c, cs, rfl⟩ := List.exists_cons_of_ne_nil hSome
  rw [List.append_assoc] at hStarts
  rcases List.prefix_or_prefix_of_prefix hStarts (List.prefix_append (c :: cs) _) with hIn | hBeyond
  · exact hFree hIn.isInfix
  · -- The mark starts in the text and ends behind it, so it starts again inside itself.
    obtain ⟨beyond, hBeyond⟩ := hBeyond
    rw [← hBeyond, List.prefix_append_right_inj] at hStarts
    cases beyond with
    | nil =>
      rw [List.append_nil] at hBeyond
      exact hFree (hBeyond ▸ List.infix_rfl)
    | cons o beyond =>
      rw [List.cons_append] at hBeyond
      obtain ⟨rfl, rfl⟩ := List.cons.inj hBeyond
      obtain ⟨rfl, -⟩ := List.cons_prefix_cons.mp hStarts
      exact hHead (by simp)

/-- A text ends where a mark is put behind it, unless the mark is in the text already. -/
theorem splitOnce?_append [DecidableEq α] {m : α} {tail cs : List α} (hHead : m ∉ tail)
    (hFree : ¬ m :: tail <:+: cs) (rest : List α) :
    splitOnce? (m :: tail) (cs ++ m :: tail ++ rest) = some (cs, rest) := by
  induction cs with
  | nil =>
    rw [List.nil_append, List.cons_append, splitOnce?, if_pos (by simp)]
    simp
  | cons c cs ih =>
    have hStarts := not_prefix_append hHead (List.cons_ne_nil c cs) hFree rest
    rw [← List.isPrefixOf_iff_prefix] at hStarts
    have hRest := ih fun h => hFree (List.infix_cons h)
    rw [List.cons_append, List.cons_append] at hStarts ⊢
    rw [splitOnce?, if_neg hStarts, hRest]
    rfl

theorem not_infix_of_splitOnce? [DecidableEq α] {mark cs : List α}
    (h : splitOnce? mark cs = none) : ¬ mark <:+: cs := by
  induction cs with
  | nil =>
    rw [splitOnce?] at h
    split at h
    · cases h
    · simpa using ‹mark ≠ []›
  | cons c cs ih =>
    rw [splitOnce?] at h
    split at h
    · cases h
    · next hStarts =>
      rw [List.isPrefixOf_iff_prefix] at hStarts
      rw [List.infix_cons_iff]
      exact not_or.mpr ⟨hStarts, ih (Option.map_eq_none_iff.mp h)⟩

theorem splitOnce?_eq_none_iff [DecidableEq α] {mark cs : List α} :
    splitOnce? mark cs = none ↔ ¬ mark <:+: cs := by
  refine ⟨not_infix_of_splitOnce?, fun hFree => ?_⟩
  rw [Option.eq_none_iff_forall_not_mem]
  rintro ⟨before, after⟩ hSplit
  exact hFree ⟨before, after, (eq_append_of_splitOnce? hSplit).symm⟩

theorem length_le_of_splitOnce? [DecidableEq α] {mark cs before after : List α}
    (h : splitOnce? mark cs = some (before, after)) : mark.length ≤ cs.length := by
  rw [eq_append_of_splitOnce? h, List.length_append, List.length_append]
  omega

/-- Where a text is cut does not depend on what is put behind it. -/
theorem splitOnce?_append_right [DecidableEq α] {mark cs before after : List α}
    (h : splitOnce? mark cs = some (before, after)) (rest : List α) :
    splitOnce? mark (cs ++ rest) = some (before, after ++ rest) := by
  have hLength := length_le_of_splitOnce? h
  induction cs generalizing before with
  | nil =>
    cases List.eq_nil_of_length_eq_zero (Nat.le_zero.mp hLength)
    cases h
    cases rest with
    | nil => rfl
    | cons c rest => simp [splitOnce?]
  | cons c cs ih =>
    rw [List.cons_append, splitOnce?]
    rw [splitOnce?] at h
    split at h
    · next hStarts =>
      cases h
      have hLonger : mark.isPrefixOf (c :: (cs ++ rest)) := by
        rw [List.isPrefixOf_iff_prefix] at hStarts ⊢
        exact hStarts.trans (List.prefix_append (c :: cs) rest)
      rw [if_pos hLonger, ← List.cons_append, List.drop_append_of_le_length hLength]
    · next hStarts =>
      obtain ⟨⟨before, after'⟩, hSplit, hSame⟩ := Option.map_eq_some_iff.mp h
      cases hSame
      have hShorter : ¬ mark.isPrefixOf (c :: (cs ++ rest)) := by
        rw [List.isPrefixOf_iff_prefix] at hStarts ⊢
        exact fun hIn => hStarts (List.prefix_of_prefix_length_le hIn
          (List.prefix_append (c :: cs) rest) hLength)
      rw [if_neg hShorter, ih hSplit (length_le_of_splitOnce? hSplit)]
      rfl

theorem cutBefore_append_mark [DecidableEq α] {m : α} {tail : List α} (hHead : m ∉ tail)
    (cs rest : List α) :
    cutBefore (m :: tail) (cs ++ m :: tail ++ rest) = cutBefore (m :: tail) cs := by
  rw [cutBefore, cutBefore]
  cases hSplit : splitOnce? (m :: tail) cs with
  | none => rw [splitOnce?_append hHead (not_infix_of_splitOnce? hSplit)]
  | some parts => rw [List.append_assoc, splitOnce?_append_right hSplit]

theorem cutBefore_prefix [DecidableEq α] (mark cs : List α) : cutBefore mark cs <+: cs := by
  rw [cutBefore]
  cases hSplit : splitOnce? mark cs with
  | none => exact List.prefix_rfl
  | some parts => exact ⟨mark ++ parts.2, by rw [eq_append_of_splitOnce? hSplit, List.append_assoc]⟩

theorem cutBefore_eq_self_iff [DecidableEq α] {mark cs : List α} (hMark : mark ≠ []) :
    cutBefore mark cs = cs ↔ ¬ mark <:+: cs := by
  rw [cutBefore, ← splitOnce?_eq_none_iff]
  cases hSplit : splitOnce? mark cs with
  | none => simp
  | some parts =>
    obtain ⟨before, after⟩ := parts
    have hParts := eq_append_of_splitOnce? hSplit
    simp only [reduceCtorEq, iff_false]
    intro hSame
    rw [hSame, List.append_assoc, List.self_eq_append_right, List.append_eq_nil_iff] at hParts
    exact hMark hParts.1

/-- Words that hold a character nowhere behind their start do not reach over it. -/
theorem infix_append_cons_iff {w c : α} {tail : List α} (hSeam : c ∉ tail) (a b : List α) :
    w :: tail <:+: a ++ c :: b ↔ w :: tail <:+: a ∨ w :: tail <:+: c :: b := by
  rw [List.infix_append_iff_ne_nil]
  constructor
  · rintro (h | h | ⟨front, back, hFront, hBack, hWords, -, hPrefix⟩)
    · exact .inl h
    · exact .inr h
    · obtain ⟨f, front, rfl⟩ := List.exists_cons_of_ne_nil hFront
      obtain ⟨o, back, rfl⟩ := List.exists_cons_of_ne_nil hBack
      obtain ⟨rfl, -⟩ := List.cons_prefix_cons.mp hPrefix
      obtain ⟨-, rfl⟩ := List.cons.inj hWords
      exact absurd (by simp) hSeam
  · rintro (h | h)
    · exact .inl h
    · exact .inr (.inl h)

theorem infix_append_iff_of_notMem {w : α} {tail a : List α} (hFirst : w ∉ a) (b : List α) :
    w :: tail <:+: a ++ b ↔ w :: tail <:+: b := by
  refine ⟨fun h => ?_, fun h => h.trans (List.suffix_append a b).isInfix⟩
  rcases List.infix_append_iff_ne_nil.mp h with h | h | ⟨front, _, hFront, -, hWords, hSuffix, -⟩
  · exact absurd (h.subset List.mem_cons_self) hFirst
  · exact h
  · obtain ⟨f, front, rfl⟩ := List.exists_cons_of_ne_nil hFront
    obtain ⟨rfl, -⟩ := List.cons.inj hWords
    exact absurd (hSuffix.subset List.mem_cons_self) hFirst

/-- Words that are in none of two texts are not in the two put together with a text between them
that starts with a character that is not in the words and does not hold the first one of them. -/
theorem not_infix_join {words a b between : List α} {c w : α} (hHead : words.head? = some w)
    (hStart : between.head? = some c) (hOther : c ∉ words) (hFirst : w ∉ between)
    (ha : ¬ words <:+: a) (hb : ¬ words <:+: b) : ¬ words <:+: a ++ between ++ b := by
  obtain ⟨tail, rfl⟩ := List.head?_eq_some_iff.mp hHead
  obtain ⟨between, rfl⟩ := List.head?_eq_some_iff.mp hStart
  have hSeam : c ∉ tail := fun h => hOther (List.mem_cons_of_mem w h)
  rw [List.append_assoc, List.cons_append, infix_append_cons_iff hSeam, ← List.cons_append,
    infix_append_iff_of_notMem hFirst]
  exact not_or.mpr ⟨ha, hb⟩

namespace Lua

def tracebackWords : List Char := "stack traceback".toList

structure IsPlain (s : String) : Prop where
  words : ¬ tracebackWords <:+: s.toList
  zero : '\x00' ∉ s.toList

theorem isPlain_of_splitOnce? {s : String} (hWords : splitOnce? tracebackWords s.toList = none)
    (hZero : '\x00' ∉ s.toList) : IsPlain s :=
  ⟨not_infix_of_splitOnce? hWords, hZero⟩

/-- What the host sees of a raised text: it ends at the first zero character, and then at the first
mark of a traceback. -/
def forwarded (s : String) : String :=
  Failure.withoutTraceback (.ofList (s.toList.takeWhile (· ≠ '\x00')))

/-- The mark that Lua puts behind a text is never the first one that counts. -/
theorem raisedMessage_eq_forwarded (s : String) : raisedMessage (.text s) = forwarded s := by
  have hMark : Failure.tracebackMark.toList = '\n' :: "stack traceback:".toList := rfl
  have hText : raisedMessage (.text s) = Failure.withoutTraceback
      (Bytes.toText ((Bytes.ofText s).takeWhile (· ≠ 0)) ++ Failure.tracebackMark ++
        "\n\t[C]: in ?") := rfl
  rw [hText, forwarded, Bytes.takeWhile_ofText, Bytes.toText_ofText, Failure.withoutTraceback,
    Failure.withoutTraceback, String.toList_append, String.toList_append, hMark,
    cutBefore_append_mark (by decide), String.toList_ofList]

theorem takeWhile_ne_zero_eq_self_iff {cs : List Char} :
    cs.takeWhile (· ≠ '\x00') = cs ↔ '\x00' ∉ cs := by
  rw [List.takeWhile_eq_self_iff]
  constructor
  · intro h hZero
    exact absurd rfl (of_decide_eq_true (h _ hZero))
  · intro hZero c hMem
    exact decide_eq_true fun hNull => hZero (hNull ▸ hMem)

theorem forwarded_eq_self_iff {s : String} :
    forwarded s = s ↔ '\x00' ∉ s.toList ∧ ¬ Failure.tracebackMark.toList <:+: s.toList := by
  have hSome : Failure.tracebackMark.toList ≠ [] := by decide
  rw [forwarded, Failure.withoutTraceback, String.toList_ofList, ← takeWhile_ne_zero_eq_self_iff,
    ← cutBefore_eq_self_iff hSome]
  constructor
  · intro hSame
    have hChars := congrArg String.toList hSame
    rw [String.toList_ofList] at hChars
    -- Both cuts leave a prefix, so neither has taken anything away.
    have hShort := cutBefore_prefix Failure.tracebackMark.toList (s.toList.takeWhile (· ≠ '\x00'))
    rw [hChars] at hShort
    have hWhole := (List.takeWhile_prefix (· ≠ '\x00')).eq_of_length_le hShort.length_le
    rw [hWhole] at hChars
    exact ⟨hWhole, hChars⟩
  · rintro ⟨hWhole, hChars⟩
    rw [hWhole, hChars, String.ofList_toList]

theorem raisedMessage_text {s : String} (h : IsPlain s) : raisedMessage (.text s) = s := by
  rw [raisedMessage_eq_forwarded, forwarded_eq_self_iff]
  exact ⟨h.zero, fun hIn => h.words (List.IsInfix.trans ⟨['\n'], [':'], rfl⟩ hIn)⟩

/-- Between two texts this one brings the words about nowhere, and no zero character. -/
def keepsPlain (between : String) : Bool :=
  between.toList.head?.any (· ∉ tracebackWords) && 's' ∉ between.toList && '\x00' ∉ between.toList

theorem IsPlain.join {a b between : String} (ha : IsPlain a) (hb : IsPlain b)
    (hBetween : keepsPlain between) : IsPlain (a ++ between ++ b) := by
  simp only [keepsPlain, Bool.and_eq_true, decide_eq_true_eq, Option.any_eq_true] at hBetween
  obtain ⟨⟨⟨c, hStart, hOther⟩, hFirst⟩, hZero⟩ := hBetween
  have hHead : tracebackWords.head? = some 's' := rfl
  refine ⟨?_, ?_⟩
  · rw [String.toList_append, String.toList_append]
    exact not_infix_join hHead hStart hOther hFirst ha.words hb.words
  · simpa using ⟨ha.zero, hZero, hb.zero⟩

end Lua

end MatrixBridge
