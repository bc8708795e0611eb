import Mathlib.Data.List.TakeWhile
import MatrixBridge.Lua.Text

/-! # Texts as bytes

The bytes of a text read back as the text, and none of them is zero unless the text has the zero
character in it. Bytes that are no text read as one with other characters than ASCII in it. -/

namespace MatrixBridge.Lua.Bytes

theorem toList_loop (bytes : ByteArray) (i : Nat) (acc : List UInt8) :
    ByteArray.toList.loop bytes i acc = acc.reverse ++ bytes.data.toList.drop i := by
  fun_induction ByteArray.toList.loop bytes i acc with
  | case1 i acc hIndex ih =>
    have hBound : i < bytes.data.toList.length := by simpa using hIndex
    rw [ih, List.drop_eq_getElem_cons hBound]
    simp [ByteArray.get!, hIndex]
  | case2 i acc hEnd =>
    rw [List.drop_eq_nil_of_le (by simpa using Nat.le_of_not_lt hEnd), List.append_nil]

theorem ofText_eq (s : String) : ofText s = s.toList.flatMap String.utf8EncodeChar := by
  conv => lhs; rw [← String.ofList_toList (s := s)]
  have hBytes : (String.ofList s.toList).toUTF8.data.toList =
      s.toList.flatMap String.utf8EncodeChar := List.toList_data_toByteArray
  rw [ofText, ByteArray.toList, toList_loop, hBytes]
  rfl

/-! ## Reading one character -/

theorem lead_one : ∀ n : Fin 128, lead (.ofNat n) = some (n.val, []) := by
  decide +kernel

/-- Two bytes lead with five bits, of which the lowest values are not used. -/
theorem lead_two : ∀ n : Fin 32, 2 ≤ n.val →
    lead (.ofNat (n + 0xC0)) = some (n.val, [(0x80, 0xBF)]) := by
  decide +kernel

theorem lead_three : ∀ n : Fin 16, n.val ≠ 0 → n.val ≠ 13 →
    lead (.ofNat (n + 0xE0)) = some (n.val, [(0x80, 0xBF), (0x80, 0xBF)]) := by
  decide +kernel

theorem lead_four : ∀ n : Fin 8, n.val ≠ 0 → n.val < 4 →
    lead (.ofNat (n + 0xF0)) = some (n.val, [(0x80, 0xBF), (0x80, 0xBF), (0x80, 0xBF)]) := by
  decide +kernel

/-- A byte with six bits of payload, within a range of such bytes, is taken. -/
theorem readTails_cons (low high : Nat) {payload n : Nat} {ranges : List (UInt8 × UInt8)} {rest : Bytes}
    (hLow : low ≤ n) (hHigh : n ≤ high) (hBits : high < 64) :
    readTails payload ((.ofNat (low + 0x80), .ofNat (high + 0x80)) :: ranges)
      (.ofNat (n + 0x80) :: rest) = readTails (payload * 64 + n) ranges rest := by
  have hByte : ∀ m, m < 64 → (UInt8.ofNat (m + 0x80)).toNat = m + 0x80 := by
    intro m hm
    rw [UInt8.toNat_ofNat']
    omega
  have hRange : UInt8.ofNat (low + 0x80) ≤ UInt8.ofNat (n + 0x80) ∧
      UInt8.ofNat (n + 0x80) ≤ UInt8.ofNat (high + 0x80) := by
    rw [UInt8.le_iff_toNat_le, UInt8.le_iff_toNat_le, hByte low (by omega), hByte n (by omega),
      hByte high hBits]
    omega
  rw [readTails, if_pos hRange, hByte n (by omega), Nat.add_sub_cancel]

theorem readTails_tail {payload n : Nat} {ranges : List (UInt8 × UInt8)} {rest : Bytes}
    (hBits : n < 64) :
    readTails payload ((0x80, 0xBF) :: ranges) (.ofNat (n + 0x80) :: rest) =
      readTails (payload * 64 + n) ranges rest :=
  readTails_cons 0 63 (by omega) (by omega) (by omega)

theorem readChar_of_lead {b : UInt8} {payload : Nat} {ranges : List (UInt8 × UInt8)}
    (hLead : lead b = some (payload, ranges)) (rest : Bytes) :
    readChar b rest = readTails payload ranges rest := by
  rw [readChar, hLead]

theorem readChar_two {v : Nat} (hLow : 0x7F < v) (hHigh : v ≤ 0x7FF) (rest : Bytes) :
    readChar (.ofNat (v / 64 % 32 + 0xC0)) (.ofNat (v % 64 + 0x80) :: rest) =
      (Char.ofNat v, rest) := by
  have hLead := lead_two ⟨v / 64 % 32, by omega⟩ (by simp only; omega)
  have hPayload : v / 64 % 32 * 64 + v % 64 = v := by omega
  rw [readChar_of_lead hLead, readTails_tail (by omega), hPayload]
  rfl

theorem readChar_three {v : Nat} (hLow : 0x7FF < v) (hHigh : v ≤ 0xFFFF)
    (hScalar : v < 0xD800 ∨ 0xDFFF < v) (rest : Bytes) :
    readChar (.ofNat (v / 4096 % 16 + 0xE0))
      (.ofNat (v / 64 % 64 + 0x80) :: .ofNat (v % 64 + 0x80) :: rest) = (Char.ofNat v, rest) := by
  have hPayload : (v / 4096 % 16 * 64 + v / 64 % 64) * 64 + v % 64 = v := by omega
  have hSecond : ∀ low high, low ≤ v / 64 % 64 → v / 64 % 64 ≤ high → high < 64 →
      lead (.ofNat (v / 4096 % 16 + 0xE0)) = some (v / 4096 % 16,
        [(.ofNat (low + 0x80), .ofNat (high + 0x80)), (0x80, 0xBF)]) →
      readChar (.ofNat (v / 4096 % 16 + 0xE0))
        (.ofNat (v / 64 % 64 + 0x80) :: .ofNat (v % 64 + 0x80) :: rest) = (Char.ofNat v, rest) := by
    intro low high hl hh hBits hLead
    rw [readChar_of_lead hLead, readTails_cons low high hl hh hBits, readTails_tail (by omega), hPayload]
    rfl
  -- The range of the second byte depends on the first: the lowest excludes shorter forms, and the
  -- fourteenth the surrogates.
  by_cases hZero : v / 4096 % 16 = 0
  · refine hSecond 32 63 (by omega) (by omega) (by omega) ?_
    rw [hZero]
    rfl
  by_cases hSurrogate : v / 4096 % 16 = 13
  · refine hSecond 0 31 (by omega) (by omega) (by omega) ?_
    rw [hSurrogate]
    rfl
  · refine hSecond 0 63 (by omega) (by omega) (by omega) ?_
    exact lead_three ⟨v / 4096 % 16, by omega⟩ hZero hSurrogate

theorem readChar_four {v : Nat} (hLow : 0xFFFF < v) (hHigh : v < 0x110000) (rest : Bytes) :
    readChar (.ofNat (v / 262144 % 8 + 0xF0)) (.ofNat (v / 4096 % 64 + 0x80) ::
      .ofNat (v / 64 % 64 + 0x80) :: .ofNat (v % 64 + 0x80) :: rest) = (Char.ofNat v, rest) := by
  have hPayload : ((v / 262144 % 8 * 64 + v / 4096 % 64) * 64 + v / 64 % 64) * 64 + v % 64 = v := by
    omega
  have hSecond : ∀ low high, low ≤ v / 4096 % 64 → v / 4096 % 64 ≤ high → high < 64 →
      lead (.ofNat (v / 262144 % 8 + 0xF0)) = some (v / 262144 % 8,
        [(.ofNat (low + 0x80), .ofNat (high + 0x80)), (0x80, 0xBF), (0x80, 0xBF)]) →
      readChar (.ofNat (v / 262144 % 8 + 0xF0)) (.ofNat (v / 4096 % 64 + 0x80) ::
        .ofNat (v / 64 % 64 + 0x80) :: .ofNat (v % 64 + 0x80) :: rest) = (Char.ofNat v, rest) := by
    intro low high hl hh hBits hLead
    rw [readChar_of_lead hLead, readTails_cons low high hl hh hBits, readTails_tail (by omega),
      readTails_tail (by omega), hPayload]
    rfl
  -- Here the lowest excludes shorter forms, and the highest what is beyond the last code point.
  by_cases hZero : v / 262144 % 8 = 0
  · refine hSecond 16 63 (by omega) (by omega) (by omega) ?_
    rw [hZero]
    rfl
  by_cases hLast : v / 262144 % 8 = 4
  · refine hSecond 0 15 (by omega) (by omega) (by omega) ?_
    rw [hLast]
    rfl
  · refine hSecond 0 63 (by omega) (by omega) (by omega) ?_
    exact lead_four ⟨v / 262144 % 8, by omega⟩ hZero (by simp only; omega)

theorem toChars_cons (b : UInt8) (rest : Bytes) :
    toChars (b :: rest) = (readChar b rest).1 :: toChars (readChar b rest).2 := by
  rw [toChars]

/-! ## Reading a text -/

theorem toChars_encode (c : Char) (rest : Bytes) :
    toChars (String.utf8EncodeChar c ++ rest) = c :: toChars rest := by
  have hScalar : c.val.toNat < 0xD800 ∨ 0xDFFF < c.val.toNat ∧ c.val.toNat < 0x110000 := c.valid
  have hSame : Char.ofNat c.val.toNat = c := Char.ofNat_toNat c
  simp only [String.utf8EncodeChar]
  generalize c.val.toNat = v at hScalar hSame
  by_cases hOne : v ≤ 0x7F
  · have hRead : readChar (.ofNat v) rest = (Char.ofNat v, rest) :=
      readChar_of_lead (lead_one ⟨v, by omega⟩) rest
    rw [if_pos hOne, List.singleton_append, toChars_cons, hRead, hSame]
  rw [if_neg hOne]
  by_cases hTwo : v ≤ 0x7FF
  · rw [if_pos hTwo, List.cons_append, List.singleton_append, toChars_cons,
      readChar_two (by omega) hTwo, hSame]
  rw [if_neg hTwo]
  by_cases hThree : v ≤ 0xFFFF
  · rw [if_pos hThree, List.cons_append, List.cons_append, List.singleton_append, toChars_cons,
      readChar_three (by omega) hThree (by omega), hSame]
  · rw [if_neg hThree, List.cons_append, List.cons_append, List.cons_append,
      List.singleton_append, toChars_cons, readChar_four (by omega) (by omega), hSame]

@[simp] theorem toText_ofText (s : String) : toText (ofText s) = s := by
  have hChars : ∀ cs : List Char, toChars (cs.flatMap String.utf8EncodeChar) = cs := by
    intro cs
    induction cs with
    | nil => simp [toChars]
    | cons c cs ih => rw [List.flatMap_cons, toChars_encode, ih]
  rw [toText, ofText_eq, hChars, String.ofList_toList]

/-! ## The zero byte -/

theorem ne_zero_of_mem_encode {c : Char} (hChar : c.val.toNat ≠ 0) {b : UInt8}
    (hMem : b ∈ String.utf8EncodeChar c) : b ≠ 0 := by
  have hByte : ∀ n, 0 < n → n < 256 → UInt8.ofNat n ≠ 0 := by
    intro n hPos hLt hZero
    have hNat := congrArg UInt8.toNat hZero
    rw [UInt8.toNat_ofNat', Nat.mod_eq_of_lt hLt] at hNat
    exact absurd hNat (Nat.pos_iff_ne_zero.mp hPos)
  simp only [String.utf8EncodeChar] at hMem
  generalize c.val.toNat = v at hChar hMem
  split_ifs at hMem <;> simp only [List.mem_cons, List.not_mem_nil, or_false] at hMem
  · rw [hMem]
    exact hByte v (by omega) (by omega)
  · rcases hMem with rfl | rfl <;> exact hByte _ (by omega) (by omega)
  · rcases hMem with rfl | rfl | rfl <;> exact hByte _ (by omega) (by omega)
  · rcases hMem with rfl | rfl | rfl | rfl <;> exact hByte _ (by omega) (by omega)

/-- The bytes before the first zero byte are those of the characters before the first zero
character. -/
theorem takeWhile_ofText (s : String) :
    (ofText s).takeWhile (· ≠ 0) = ofText (.ofList (s.toList.takeWhile (· ≠ '\x00'))) := by
  rw [ofText_eq, ofText_eq, String.toList_ofList]
  induction s.toList with
  | nil => rfl
  | cons c cs ih =>
    by_cases hNull : c = '\x00'
    · subst hNull
      rfl
    · have hSome : c.val.toNat ≠ 0 := fun hNat => hNull (Char.ext (UInt32.toNat_inj.mp hNat))
      have hBytes : ∀ b ∈ String.utf8EncodeChar c, decide (b ≠ 0) = true := fun b hMem =>
        decide_eq_true (ne_zero_of_mem_encode hSome hMem)
      rw [List.flatMap_cons, List.takeWhile_append_of_pos hBytes, ih,
        List.takeWhile_cons_of_pos (by simpa using hNull), List.flatMap_cons]

/-! ## ASCII -/

def IsAscii (bytes : Bytes) : Prop := ∀ b ∈ bytes, b < 0x80

theorem isAscii_cons {b : UInt8} {rest : Bytes} :
    IsAscii (b :: rest) ↔ b < 0x80 ∧ rest.IsAscii := List.forall_mem_cons

def withTail (payload : Nat) (b : UInt8) : Nat := payload * 64 + (b.toNat - 0x80)

/-- The code point of a payload and the bytes behind it. -/
def codeOf (payload : Nat) (tails : List UInt8) : Nat := tails.foldl withTail payload

theorem withTail_mono {m n : Nat} {b c : UInt8} (h : m ≤ n) (hByte : b ≤ c) :
    withTail m b ≤ withTail n c :=
  Nat.add_le_add (Nat.mul_le_mul_right 64 h)
    (Nat.sub_le_sub_right (UInt8.le_iff_toNat_le.mp hByte) 0x80)

theorem codeOf_cons (payload : Nat) (b : UInt8) (tails : List UInt8) :
    codeOf payload (b :: tails) = codeOf (withTail payload b) tails := by
  rw [codeOf, codeOf, List.foldl_cons]

theorem codeOf_mono {m n : Nat} (h : m ≤ n) (tails : List UInt8) :
    codeOf m tails ≤ codeOf n tails := by
  induction tails generalizing m n with
  | nil => exact h
  | cons b tails ih =>
    rw [codeOf_cons, codeOf_cons]
    exact ih (withTail_mono h (UInt8.le_refl b))

/-- What is read lies between the code points with the lowest and with the highest bytes. -/
theorem readTails_code (payload : Nat) (ranges : List (UInt8 × UInt8)) (rest : Bytes) :
    (readTails payload ranges rest).1 = replacementCharacter ∨
      ∃ n, (readTails payload ranges rest).1 = Char.ofNat n ∧
        codeOf payload (ranges.map Prod.fst) ≤ n ∧ n ≤ codeOf payload (ranges.map Prod.snd) := by
  fun_induction readTails payload ranges rest with
  | case1 payload rest => exact .inr ⟨payload, rfl, Nat.le_refl _, Nat.le_refl _⟩
  | case2 => exact .inl rfl
  | case3 payload low high ranges b rest hRange ih =>
    rw [List.map_cons, List.map_cons, codeOf_cons, codeOf_cons]
    refine ih.imp_right ?_
    rintro ⟨n, hChar, hLeast, hGreatest⟩
    have hLow := codeOf_mono (withTail_mono (Nat.le_refl payload) hRange.1) (ranges.map Prod.fst)
    have hHigh := codeOf_mono (withTail_mono (Nat.le_refl payload) hRange.2) (ranges.map Prod.snd)
    exact ⟨n, hChar, hLow.trans hLeast, hGreatest.trans hHigh⟩
  | case4 => exact .inl rfl

/-- A first byte that is not ASCII announces characters, and none of them is ASCII. -/
theorem codeOf_lead : ∀ n : Fin 128, ∀ parts ∈ lead (.ofNat (n + 0x80)),
    0x80 ≤ codeOf parts.1 (parts.2.map Prod.fst) ∧
      (codeOf parts.1 (parts.2.map Prod.snd) < 0xD800 ∨
        0xDFFF < codeOf parts.1 (parts.2.map Prod.fst) ∧
          codeOf parts.1 (parts.2.map Prod.snd) < 0x110000) := by
  decide +kernel

theorem readChar_of_not_ascii {b : UInt8} (hByte : 0x80 ≤ b) (rest : Bytes) :
    0x80 ≤ (readChar b rest).1.toNat := by
  have hByte : 0x80 ≤ b.toNat := UInt8.le_iff_toNat_le.mp hByte
  have hBound := b.toNat_lt
  have hSame : UInt8.ofNat (b.toNat - 0x80 + 0x80) = b := by
    rw [Nat.sub_add_cancel hByte, UInt8.ofNat_toNat]
  have hReplaced : 0x80 ≤ replacementCharacter.toNat := by decide
  rw [readChar]
  split
  · rename_i payload ranges hLead
    obtain ⟨hAscii, hScalar⟩ := codeOf_lead ⟨b.toNat - 0x80, by omega⟩ (payload, ranges)
      (by rw [Option.mem_def]; simpa only [hSame] using hLead)
    rcases readTails_code payload ranges rest with hChar | ⟨n, hChar, hLeast, hGreatest⟩
    · rw [hChar]
      exact hReplaced
    · have hValid : n.isValidChar := by
        dsimp only at hScalar
        unfold Nat.isValidChar
        omega
      rw [hChar, Char.ofNat, dif_pos hValid]
      exact hAscii.trans hLeast
  · exact hReplaced

theorem readChar_of_ascii {b : UInt8} (hByte : b < 0x80) (rest : Bytes) :
    readChar b rest = (Char.ofNat b.toNat, rest) := by
  have hLead := lead_one ⟨b.toNat, UInt8.lt_iff_toNat_lt.mp hByte⟩
  rw [UInt8.ofNat_toNat] at hLead
  exact readChar_of_lead hLead rest

theorem encode_of_ascii {b : UInt8} (hByte : b < 0x80) :
    String.utf8EncodeChar (Char.ofNat b.toNat) = [b] := by
  have hByte : b.toNat < 0x80 := UInt8.lt_iff_toNat_lt.mp hByte
  have hValid : b.toNat.isValidChar := .inl (by omega)
  have hCode : (Char.ofNat b.toNat).val.toNat = b.toNat := by
    rw [Char.ofNat, dif_pos hValid]
    rfl
  rw [String.utf8EncodeChar, hCode, if_pos (by omega), UInt8.ofNat_toNat]

theorem not_isAscii_encode {c : Char} (hChar : 0x80 ≤ c.toNat) :
    ¬IsAscii (String.utf8EncodeChar c) := by
  have hLead : ∀ n, 0x80 ≤ n → n < 256 → ¬UInt8.ofNat n < 0x80 := by
    intro n hLow hHigh hAscii
    have hNat := UInt8.lt_iff_toNat_lt.mp hAscii
    rw [UInt8.toNat_ofNat', Nat.mod_eq_of_lt hHigh] at hNat
    exact Nat.not_lt.mpr hLow hNat
  have hCode : 0x80 ≤ c.val.toNat := hChar
  simp only [String.utf8EncodeChar]
  generalize c.val.toNat = v at hCode
  intro hAscii
  split_ifs at hAscii
  · omega
  · exact hLead _ (by omega) (by omega) (isAscii_cons.mp hAscii).1
  · exact hLead _ (by omega) (by omega) (isAscii_cons.mp hAscii).1
  · exact hLead _ (by omega) (by omega) (isAscii_cons.mp hAscii).1

/-- Bytes whose text has ASCII bytes only are those bytes. -/
theorem ofText_toText_of_isAscii {bytes : Bytes} (h : (ofText bytes.toText).IsAscii) :
    ofText bytes.toText = bytes := by
  rw [ofText_eq, toText, String.toList_ofList] at h ⊢
  induction bytes with
  | nil => simp [toChars]
  | cons b rest ih =>
    rw [toChars_cons, List.flatMap_cons] at h ⊢
    obtain ⟨hChar, hRest⟩ := List.forall_mem_append.mp h
    have hByte : b < 0x80 := by
      by_contra hLarge
      exact not_isAscii_encode (readChar_of_not_ascii (UInt8.not_lt.mp hLarge) rest) hChar
    rw [readChar_of_ascii hByte] at hRest ⊢
    rw [encode_of_ascii hByte, ih hRest]
    rfl

end MatrixBridge.Lua.Bytes
