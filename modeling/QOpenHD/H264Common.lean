/-
QOpenHD/H264Common.lean

`lib/h264/h264_common.cc`: the payload of a NALU as it is written between start
codes (RBSP with emulation bytes).

* **`rbsp_roundTrip`** — what `WriteRbsp` appends, `ParseRbsp` reads back, and there are no
  two zeros in front of a byte below 3 in it, so that no start code is inside.
-/
import Mathlib.Data.List.Infix
import Mathlib.Data.List.Basic

namespace QOpenHD

namespace H264

/-! ### Emulation bytes -/

/-- `H264::ParseRbsp`, on what is left of the data. -/
def parseRbsp : List UInt8 → List UInt8
  | 0 :: 0 :: 3 :: data => 0 :: 0 :: parseRbsp data
  | byte :: data => byte :: parseRbsp data
  | [] => []

def kZerosInStartSequence : ℕ := 2

def kEmulationByte : UInt8 := 3

/-- The loop of `H264::WriteRbsp`, on what is left of the bytes; what it appends. -/
def writeRbspFrom (numConsecutiveZeros : ℕ) : List UInt8 → List UInt8
  | [] => []
  | byte :: bytes =>
      if byte ≤ kEmulationByte ∧ numConsecutiveZeros ≥ kZerosInStartSequence then
        kEmulationByte :: byte :: writeRbspFrom (if byte = 0 then 1 else 0) bytes
      else
        byte :: writeRbspFrom (if byte = 0 then numConsecutiveZeros + 1 else 0) bytes

/-- `H264::WriteRbsp` -/
def writeRbsp (bytes destination : List UInt8) : List UInt8 := destination ++ writeRbspFrom 0 bytes

theorem parseRbsp_cons_of_ne {byte : UInt8} (h : byte ≠ 0) (data : List UInt8) :
    parseRbsp (byte :: data) = byte :: parseRbsp data := by
  rw [parseRbsp]
  rintro data' hbyte -
  exact h hbyte

/-- A zero in front of no emulation byte is read as it is. -/
theorem parseRbsp_zero_cons {data : List UInt8} (h : ¬ [0, 3] <+: data) :
    parseRbsp (0 :: data) = 0 :: parseRbsp data := by
  rw [parseRbsp]
  rintro data' - rfl
  exact h ⟨data', rfl⟩

/-- With the zeros that the loop has counted in front, what it writes is read back. -/
theorem parseRbsp_replicate_writeRbspFrom (bytes : List UInt8) {z : ℕ} (hz : z ≤ 2) :
    parseRbsp (List.replicate z 0 ++ writeRbspFrom z bytes) = List.replicate z 0 ++ bytes := by
  induction bytes generalizing z with
  | nil =>
      obtain rfl | rfl | rfl : z = 0 ∨ z = 1 ∨ z = 2 := by omega
      all_goals rfl
  | cons byte bytes ih =>
      have hzero : parseRbsp (writeRbspFrom 0 bytes) = bytes := ih (z := 0) (by decide)
      have hone : parseRbsp (0 :: writeRbspFrom 1 bytes) = 0 :: bytes := ih (z := 1) (by decide)
      have htwo : parseRbsp (0 :: 0 :: writeRbspFrom 2 bytes) = 0 :: 0 :: bytes :=
        ih (z := 2) le_rfl
      have hnext : parseRbsp (byte :: writeRbspFrom (if byte = 0 then 1 else 0) bytes) =
          byte :: bytes := by
        by_cases h₀ : byte = 0
        · rw [if_pos h₀, h₀, hone]
        · rw [if_neg h₀, parseRbsp_cons_of_ne h₀, hzero]
      rw [writeRbspFrom]
      obtain rfl | rfl | rfl : z = 0 ∨ z = 1 ∨ z = 2 := by omega
      · rw [if_neg (by simp [kZerosInStartSequence])]
        exact hnext
      · rw [if_neg (by simp [kZerosInStartSequence])]
        by_cases h₀ : byte = 0
        · rw [if_pos h₀, h₀]
          exact htwo
        · rw [if_neg h₀] at hnext ⊢
          show parseRbsp (0 :: byte :: _) = 0 :: byte :: bytes
          rw [parseRbsp_zero_cons (by simp [Ne.symm h₀]), hnext]
      · by_cases hescape : byte ≤ kEmulationByte
        · rw [if_pos ⟨hescape, le_rfl⟩]
          show 0 :: 0 :: parseRbsp (byte :: _) = 0 :: 0 :: byte :: bytes
          rw [hnext]
        · have h₀ : byte ≠ 0 := by
            rintro rfl
            exact hescape (by decide)
          have h₃ : byte ≠ 3 := by
            rintro rfl
            exact hescape (by decide)
          rw [if_neg fun h => hescape h.1, if_neg h₀]
          rw [if_neg h₀] at hnext
          show parseRbsp (0 :: 0 :: byte :: _) = 0 :: 0 :: byte :: bytes
          rw [parseRbsp_zero_cons (by simp [Ne.symm h₃]),
            parseRbsp_zero_cons (by simp [Ne.symm h₀]), hnext]

/-- No two zeros stand in front of a byte that would make a start code of them. -/
def NoStartCode (data : List UInt8) : Prop := ∀ byte ≤ 2, ¬ [0, 0, byte] <:+: data

theorem noStartCode_cons_of_ne {byte : UInt8} (h : byte ≠ 0) {data : List UInt8}
    (hdata : NoStartCode data) : NoStartCode (byte :: data) := by
  intro last hlast hinfix
  rcases List.infix_cons_iff.mp hinfix with hprefix | hinfix
  · exact h (List.cons_prefix_cons.mp hprefix).1.symm
  · exact hdata last hlast hinfix

theorem noStartCode_zero_cons {data : List UInt8} (hzero : ∀ byte ≤ 2, ¬ [0, byte] <+: data)
    (hdata : NoStartCode data) : NoStartCode (0 :: data) := by
  intro last hlast hinfix
  rcases List.infix_cons_iff.mp hinfix with hprefix | hinfix
  · exact hzero last hlast (List.cons_prefix_cons.mp hprefix).2
  · exact hdata last hlast hinfix

theorem noStartCode_replicate {z : ℕ} (hz : z ≤ 2) : NoStartCode (List.replicate z 0) := by
  intro last _ hinfix
  have := hinfix.length_le
  rw [List.length_replicate] at this
  exact absurd (this.trans hz) (by simp)

theorem noStartCode_replicate_writeRbspFrom (bytes : List UInt8) {z : ℕ} (hz : z ≤ 2) :
    NoStartCode (List.replicate z 0 ++ writeRbspFrom z bytes) := by
  induction bytes generalizing z with
  | nil =>
      rw [writeRbspFrom, List.append_nil]
      exact noStartCode_replicate hz
  | cons byte bytes ih =>
      have hzero : NoStartCode (writeRbspFrom 0 bytes) := ih (z := 0) (by decide)
      have hone : NoStartCode (0 :: writeRbspFrom 1 bytes) := ih (z := 1) (by decide)
      have htwo : NoStartCode (0 :: 0 :: writeRbspFrom 2 bytes) := ih (z := 2) le_rfl
      have hnext : NoStartCode (byte :: writeRbspFrom (if byte = 0 then 1 else 0) bytes) := by
        by_cases h₀ : byte = 0
        · rwa [if_pos h₀, h₀]
        · rw [if_neg h₀]
          exact noStartCode_cons_of_ne h₀ hzero
      rw [writeRbspFrom]
      obtain rfl | rfl | rfl : z = 0 ∨ z = 1 ∨ z = 2 := by omega
      · rw [if_neg (by simp [kZerosInStartSequence])]
        exact hnext
      · rw [if_neg (by simp [kZerosInStartSequence])]
        by_cases h₀ : byte = 0
        · rw [if_pos h₀, h₀]
          exact htwo
        · rw [if_neg h₀] at hnext ⊢
          exact noStartCode_zero_cons (by simp [Ne.symm h₀]) hnext
      · by_cases hescape : byte ≤ kEmulationByte
        · rw [if_pos ⟨hescape, le_rfl⟩]
          have hthree : NoStartCode (kEmulationByte :: byte :: _) :=
            noStartCode_cons_of_ne (by decide) hnext
          refine noStartCode_zero_cons ?_ (noStartCode_zero_cons ?_ hthree)
          · rintro last hlast ⟨rest, hrest⟩
            obtain ⟨-, rfl, -⟩ : (0 : UInt8) = 0 ∧ last = kEmulationByte ∧ _ := by
              simpa using hrest
            exact absurd hlast (by decide)
          · rintro last - ⟨rest, hrest⟩
            exact absurd (List.cons.inj hrest).1 (by decide)
        · have h₀ : byte ≠ 0 := by
            rintro rfl
            exact hescape (by decide)
          rw [if_neg fun h => hescape h.1, if_neg h₀]
          rw [if_neg h₀] at hnext
          refine noStartCode_zero_cons ?_ (noStartCode_zero_cons (by simp [Ne.symm h₀]) hnext)
          rintro last hlast ⟨rest, hrest⟩
          obtain rfl : last = byte := by simpa using (List.cons.inj (List.cons.inj hrest).2).1
          exact hescape (UInt8.le_trans hlast (by decide))

theorem parseRbsp_writeRbspFrom (bytes : List UInt8) : parseRbsp (writeRbspFrom 0 bytes) = bytes :=
  parseRbsp_replicate_writeRbspFrom bytes (z := 0) (by decide)

/-- **RBSP round trip**: `WriteRbsp` appends what `ParseRbsp` reads back, without a start code. -/
theorem rbsp_roundTrip (bytes destination : List UInt8) :
    ∃ data, writeRbsp bytes destination = destination ++ data ∧ parseRbsp data = bytes ∧
      NoStartCode data :=
  ⟨writeRbspFrom 0 bytes, rfl, parseRbsp_writeRbspFrom bytes,
    noStartCode_replicate_writeRbspFrom bytes (z := 0) (by decide)⟩

end H264

end QOpenHD
