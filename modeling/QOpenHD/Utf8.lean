/-
QOpenHD/Utf8.lean

Bytes that are read as UTF-8, and written as UTF-8 again.

What is not UTF-8 is not kept: every byte at which no character begins is replaced by
U+FFFD, and a byte order mark at the beginning is dropped.

* `reread` — what is written again;
* **`reread_of_isText`** — valid UTF-8 without a byte order mark is kept.

Nothing here depends on what the bytes are for.
-/
import Mathlib.Data.List.Basic

namespace Utf8

/-! ### Reading -/

/-- The character that begins here, if one does. -/
def firstChar (bytes : List UInt8) : Option Char := bytes.toByteArray.utf8DecodeChar? 0

/-- U+FFFD -/
def replacementChar : List UInt8 := [0xEF, 0xBF, 0xBD]

/-- U+FEFF -/
def byteOrderMark : List UInt8 := [0xEF, 0xBB, 0xBF]

/-- The characters from here on, where the first `skip` bytes belong to the one before. -/
def rereadFrom : ℕ → List UInt8 → List UInt8
  | _, [] => []
  | skip + 1, b :: rest => b :: rereadFrom skip rest
  | 0, b :: rest =>
    match firstChar (b :: rest) with
    | some c => b :: rereadFrom (c.utf8Size - 1) rest
    | none => replacementChar ++ rereadFrom 0 rest

/-- The bytes, read and written again. -/
def reread (bytes : List UInt8) : List UInt8 :=
  rereadFrom 0 (if byteOrderMark.isPrefixOf bytes then bytes.drop 3 else bytes)

/-- A letter in Latin-1 behind three others. -/
example : reread [0x43, 0x61, 0x66, 0xE9] = [0x43, 0x61, 0x66, 0xEF, 0xBF, 0xBD] := rfl

/-! ### Text -/

/-- Valid UTF-8 without a byte order mark. -/
structure IsText (bytes : List UInt8) : Prop where
  valid : bytes.toByteArray.IsValidUTF8
  unmarked : byteOrderMark.isPrefixOf bytes = false

instance (bytes : List UInt8) : Decidable (IsText bytes) :=
  decidable_of_iff (bytes.toByteArray.IsValidUTF8 ∧ byteOrderMark.isPrefixOf bytes = false)
    ⟨fun h => ⟨h.1, h.2⟩, fun h => ⟨h.valid, h.unmarked⟩⟩

theorem firstChar_append (c : Char) (rest : List UInt8) :
    firstChar (String.utf8EncodeChar c ++ rest) = some c := by
  rw [firstChar, List.toByteArray_append, ByteArray.utf8DecodeChar?_utf8EncodeChar_append]

/-- What belongs to a character is written as it is. -/
theorem rereadFrom_append (pre rest : List UInt8) :
    rereadFrom pre.length (pre ++ rest) = pre ++ rereadFrom 0 rest := by
  induction pre with
  | nil => rfl
  | cons b pre ih => rw [List.cons_append, List.length_cons, rereadFrom, ih, List.cons_append]

/-- A character is kept, and what follows is read on its own. -/
theorem rereadFrom_char (c : Char) (rest : List UInt8) :
    rereadFrom 0 (String.utf8EncodeChar c ++ rest) =
      String.utf8EncodeChar c ++ rereadFrom 0 rest := by
  have hfirst := firstChar_append c rest
  have hlength := String.length_utf8EncodeChar c
  have hpos := c.utf8Size_pos
  generalize String.utf8EncodeChar c = bytes at hfirst hlength ⊢
  cases bytes with
  | nil =>
      rw [← hlength] at hpos
      exact absurd hpos (Nat.lt_irrefl 0)
  | cons b bytes =>
      have hskip : c.utf8Size - 1 = bytes.length := by rw [← hlength, List.length_cons]; rfl
      rw [List.cons_append] at hfirst ⊢
      rw [rereadFrom, hfirst]
      dsimp only
      rw [hskip, rereadFrom_append, List.cons_append]

theorem rereadFrom_chars (chars : List Char) :
    rereadFrom 0 (chars.flatMap String.utf8EncodeChar) =
      chars.flatMap String.utf8EncodeChar := by
  induction chars with
  | nil => rfl
  | cons c chars ih => rw [List.flatMap_cons, rereadFrom_char, ih]

/-- **Text is kept.** -/
theorem reread_of_isText {bytes : List UInt8} (h : IsText bytes) : reread bytes = bytes := by
  obtain ⟨chars, hchars⟩ := h.valid
  obtain rfl : bytes = chars.flatMap String.utf8EncodeChar := List.toByteArray_inj.mp hchars
  rw [reread, h.unmarked, if_neg Bool.false_ne_true, rereadFrom_chars]

end Utf8
