import MatrixBridge.Lua.Numeral
import MatrixBridge.Proofs.Utf8

/-! # The bytes of numerals

A string that reads as a number has only ASCII bytes. Each part of a numeral is read from the
front, so the bytes that it takes are ASCII and the question passes to those that it leaves. Making
text of a string therefore makes no numeral of it. -/

namespace MatrixBridge.Lua

namespace Numeral

open Bytes (IsAscii isAscii_cons)

variable {base : Nat} {bytes : Bytes}

theorem digit?_isAscii (hBase : base ≤ 16) {b : UInt8} {d : Nat} (h : digit? base b = some d) :
    b < 0x80 := by
  simp only [digit?, Bool.and_eq_true, decide_eq_true_eq, UInt8.le_iff_toNat_le,
    UInt8.lt_iff_toNat_lt, UInt8.reduceToNat] at h ⊢
  split at h
  · omega
  split at h
  · omega
  split at h
  · omega
  · rw [if_neg (by omega)] at h
    cases h

theorem isBlank_isAscii {b : UInt8} (h : isBlank b) : b < 0x80 := by
  simp only [isBlank, Bool.or_eq_true, beq_iff_eq, Bool.and_eq_true, decide_eq_true_eq,
    UInt8.le_iff_toNat_le, UInt8.lt_iff_toNat_lt, UInt8.reduceToNat] at h ⊢
  rcases h with rfl | h
  · decide
  · omega

theorem isAscii_of_digits (hBase : base ≤ 16) (h : (digits base bytes).2.IsAscii) :
    bytes.IsAscii := by
  induction bytes with
  | nil => exact h
  | cons b rest ih =>
    rw [digits] at h
    split at h
    · rename_i d hDigit
      exact isAscii_cons.mpr ⟨digit?_isAscii hBase hDigit, ih h⟩
    · exact h

theorem isAscii_of_fraction (hBase : base ≤ 16) (h : (fraction base bytes).2.IsAscii) :
    bytes.IsAscii := by
  unfold fraction at h
  split at h
  · exact isAscii_cons.mpr ⟨by decide, isAscii_of_digits hBase h⟩
  · exact h

theorem isAscii_of_sign (h : (sign bytes).2.IsAscii) : bytes.IsAscii := by
  unfold sign at h
  split at h
  · exact isAscii_cons.mpr ⟨by decide, h⟩
  · exact isAscii_cons.mpr ⟨by decide, h⟩
  · exact h

theorem isAscii_of_dropBlanks (h : (dropBlanks bytes).IsAscii) : bytes.IsAscii := by
  induction bytes with
  | nil => exact h
  | cons b rest ih =>
    rw [dropBlanks, List.dropWhile_cons] at h
    split at h
    · exact isAscii_cons.mpr ⟨isBlank_isAscii ‹_›, ih h⟩
    · exact h

theorem isAscii_reverse : IsAscii bytes.reverse ↔ bytes.IsAscii := by
  simp [IsAscii]

theorem isAscii_of_trim (h : (trim bytes).IsAscii) : bytes.IsAscii :=
  isAscii_of_dropBlanks (isAscii_reverse.mp (isAscii_of_dropBlanks (isAscii_reverse.mp h)))

theorem isAscii_of_digits_eq (hBase : base ≤ 16) {ds : List Nat}
    (h : digits base bytes = (ds, [])) : bytes.IsAscii := by
  refine isAscii_of_digits hBase ?_
  rw [h]
  exact List.forall_mem_nil _

theorem isAscii_of_exponent? {mark : UInt8} (hMark : 0x20 ≤ mark ∧ mark < 0x80) {e : Int}
    (h : exponent? mark bytes = some e) : bytes.IsAscii := by
  cases bytes with
  | nil => exact List.forall_mem_nil _
  | cons b rest =>
    rw [exponent?] at h
    split at h
    · rename_i hStart
      have hFirst : b < 0x80 := by
        rcases hStart with rfl | rfl
        · exact hMark.2
        · simp only [UInt8.le_iff_toNat_le, UInt8.lt_iff_toNat_lt, UInt8.toNat_add,
            UInt8.reduceToNat] at hMark ⊢
          have hByte := b.toNat_lt
          omega
      refine isAscii_cons.mpr ⟨hFirst, isAscii_of_sign ?_⟩
      generalize sign rest = signed at h ⊢
      obtain ⟨negative, rest⟩ := signed
      dsimp only at h ⊢
      split at h
      · rename_i hDigits
        exact isAscii_of_digits_eq (by decide) hDigits
      · cases h
    · cases h

theorem isAscii_of_float? (hBase : base ≤ 16) {expBase perDigit : Nat} {mark : UInt8}
    (hMark : 0x20 ≤ mark ∧ mark < 0x80) {negative : Bool} {x : Binary64}
    (h : float? base expBase perDigit mark negative bytes = some x) : bytes.IsAscii := by
  obtain ⟨-, -, hRest⟩ := Option.bind_eq_some_iff.mp h
  obtain ⟨power, hPower, -⟩ := Option.bind_eq_some_iff.mp hRest
  exact isAscii_of_digits hBase (isAscii_of_fraction hBase (isAscii_of_exponent? hMark hPower))

theorem isAscii_of_hexadecimal? {negative : Bool} {n : Number}
    (h : hexadecimal? negative bytes = some n) : bytes.IsAscii := by
  unfold hexadecimal? at h
  split at h
  · rename_i hDigits
    exact isAscii_of_digits_eq (by decide) hDigits
  · obtain ⟨x, hFloat, -⟩ := Option.map_eq_some_iff.mp h
    exact isAscii_of_float? (by decide) (by decide) hFloat

theorem isAscii_of_decimal? {negative : Bool} {n : Number}
    (h : decimal? negative bytes = some n) : bytes.IsAscii := by
  unfold decimal? at h
  split at h
  · rename_i hDigits
    exact isAscii_of_digits_eq (by decide) hDigits
  · obtain ⟨x, hFloat, -⟩ := Option.map_eq_some_iff.mp h
    exact isAscii_of_float? (by decide) (by decide) hFloat

theorem isAscii_of_read? {n : Number} (h : read? bytes = some n) : bytes.IsAscii := by
  refine isAscii_of_trim (isAscii_of_sign ?_)
  unfold read? at h
  generalize sign (trim bytes) = signed at h ⊢
  obtain ⟨negative, body⟩ := signed
  dsimp only at h ⊢
  split at h
  · exact isAscii_cons.mpr ⟨by decide, isAscii_cons.mpr ⟨by decide, isAscii_of_hexadecimal? h⟩⟩
  · exact isAscii_cons.mpr ⟨by decide, isAscii_cons.mpr ⟨by decide, isAscii_of_hexadecimal? h⟩⟩
  · exact isAscii_of_decimal? h

/-- The text of a string is a numeral only if the string is. -/
theorem read?_ofText_toText (h : read? bytes = none) : read? (.ofText bytes.toText) = none := by
  cases hRead : read? (.ofText bytes.toText) with
  | none => rfl
  | some n =>
    rw [Bytes.ofText_toText_of_isAscii (isAscii_of_read? hRead), h] at hRead
    cases hRead

end Numeral

end MatrixBridge.Lua
