/-!
# Byte strings and text

A Lua string is a sequence of bytes; the bridge speaks in Unicode text. Text becomes its UTF-8
bytes. Bytes become text without failing: each maximal part of an ill-formed sequence is read as
one replacement character.
-/

namespace MatrixBridge.Lua

abbrev Bytes := List UInt8

namespace Bytes

def ofText (s : String) : Bytes := s.toUTF8.toList

def replacementCharacter : Char := '\uFFFD'

/-- What a first byte announces: its payload and the ranges of the bytes that have to follow. -/
def lead (b : UInt8) : Option (Nat × List (UInt8 × UInt8)) :=
  let tail : UInt8 × UInt8 := (0x80, 0xBF)
  let n := b.toNat
  if b ≤ 0x7F then some (n, [])
  else if b < 0xC2 then none
  else if b ≤ 0xDF then some (n - 0xC0, [tail])
  else if b = 0xE0 then some (n - 0xE0, [(0xA0, 0xBF), tail])
  else if b = 0xED then some (n - 0xE0, [(0x80, 0x9F), tail])
  else if b ≤ 0xEF then some (n - 0xE0, [tail, tail])
  else if b = 0xF0 then some (n - 0xF0, [(0x90, 0xBF), tail, tail])
  else if b ≤ 0xF3 then some (n - 0xF0, [tail, tail, tail])
  else if b = 0xF4 then some (n - 0xF0, [(0x80, 0x8F), tail, tail])
  else none

/-- Reads the bytes that have to follow. The first one out of its range ends the character, which
is then a replacement character, and is left for the next. -/
def readTails (payload : Nat) : List (UInt8 × UInt8) → Bytes → Char × Bytes
  | [], rest => (Char.ofNat payload, rest)
  | _, [] => (replacementCharacter, [])
  | (low, high) :: ranges, b :: rest =>
    if low ≤ b ∧ b ≤ high then readTails (payload * 64 + (b.toNat - 0x80)) ranges rest
    else (replacementCharacter, b :: rest)

def readChar (b : UInt8) (rest : Bytes) : Char × Bytes :=
  match lead b with
  | some (payload, ranges) => readTails payload ranges rest
  | none => (replacementCharacter, rest)

theorem length_readTails_le (payload : Nat) (ranges : List (UInt8 × UInt8)) (rest : Bytes) :
    (readTails payload ranges rest).2.length ≤ rest.length := by
  fun_induction readTails payload ranges rest with
  | case1 => exact Nat.le_refl _
  | case2 => exact Nat.le_refl _
  | case3 payload low high ranges b rest _ ih =>
    rw [List.length_cons]
    omega
  | case4 => exact Nat.le_refl _

theorem length_readChar_le (b : UInt8) (rest : Bytes) :
    (readChar b rest).2.length ≤ rest.length := by
  unfold readChar
  split
  · exact length_readTails_le _ _ _
  · exact Nat.le_refl _

def toChars : Bytes → List Char
  | [] => []
  | b :: rest =>
    have := length_readChar_le b rest
    (readChar b rest).1 :: toChars (readChar b rest).2
termination_by bytes => bytes.length

def toText (bytes : Bytes) : String := .ofList bytes.toChars

def toText? (bytes : Bytes) : Option String :=
  let s := bytes.toText
  if ofText s = bytes then some s else none

end Bytes

end MatrixBridge.Lua
