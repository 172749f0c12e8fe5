/-
QOpenHD/Nalu.lean

What the video receivers use of `NALU.hpp`: the size of their buffers and the
two kinds of start codes, 00 00 01 and 00 00 00 01.  Between start codes a NALU
has to be `Clean`.

A `NALU` is a piece of memory that passed the two asserts of the constructor:
it begins with a start code, and is long enough to have a header.
-/
import QOpenHD.Checked

namespace QOpenHD

open Checked

/-- `NALU_MAXLEN` -/
def NALU_MAXLEN : ℕ := 1024 * 1024

/-- `std::array<uint8_t,NALU_MAXLEN>` -/
abbrev NaluArray := Vector UInt8 NALU_MAXLEN

/-- The start code with four bytes, or with three. -/
def startCodeOf (long : Bool) : List UInt8 := if long then [0, 0, 0, 1] else [0, 0, 1]

/-- No start code inside: neither 00 00 00 nor 00 00 01. -/
def Clean (u : List UInt8) : Prop := ¬ [0, 0, 0] <:+: u ∧ ¬ [0, 0, 1] <:+: u

instance (u : List UInt8) : Decidable (Clean u) := inferInstanceAs (Decidable (_ ∧ _))

/-- `NALU::has_valid_prefix` -/
def hasValidPrefix (p : NaluArray) : Exec Bool := do
  let p0 ← loadAt p 0
  let p1 ← loadAt p 1
  let p2 ← loadAt p 2
  let p3 ← loadAt p 3
  pure ((p0 == 0 && p1 == 0 && p2 == 0 && p3 == 1) || (p0 == 0 && p1 == 0 && p2 == 1))

/-- `NALU::write_prefix` -/
def writePrefix (p : NaluArray) (longPrefix : Bool) : Exec NaluArray :=
  if longPrefix then do
    let p ← storeAt p 0 0
    let p ← storeAt p 1 0
    let p ← storeAt p 2 0
    storeAt p 3 1
  else do
    let p ← storeAt p 0 0
    let p ← storeAt p 1 0
    storeAt p 2 1

theorem safe_hasValidPrefix (p : NaluArray) : Safe (hasValidPrefix p) := by
  obtain ⟨p0, h0⟩ := safe_loadAt (v := p) (i := 0) (by decide) (by decide)
  obtain ⟨p1, h1⟩ := safe_loadAt (v := p) (i := 1) (by decide) (by decide)
  obtain ⟨p2, h2⟩ := safe_loadAt (v := p) (i := 2) (by decide) (by decide)
  obtain ⟨p3, h3⟩ := safe_loadAt (v := p) (i := 3) (by decide) (by decide)
  simp [hasValidPrefix, h0, h1, h2, h3]

theorem hasValidPrefix_startCodeOf {p : NaluArray} {long : Bool}
    (h : startCodeOf long <+: p.toList) : hasValidPrefix p = .ok true := by
  cases long with
  | false =>
      have h0 := loadAt_of_isPrefix (i := 0) h (by decide) rfl
      have h1 := loadAt_of_isPrefix (i := 1) h (by decide) rfl
      have h2 := loadAt_of_isPrefix (i := 2) h (by decide) rfl
      obtain ⟨p3, h3⟩ := safe_loadAt (v := p) (i := 3) (by decide) (by decide)
      simp [hasValidPrefix, h0, h1, h2, h3]
  | true =>
      have h0 := loadAt_of_isPrefix (i := 0) h (by decide) rfl
      have h1 := loadAt_of_isPrefix (i := 1) h (by decide) rfl
      have h2 := loadAt_of_isPrefix (i := 2) h (by decide) rfl
      have h3 := loadAt_of_isPrefix (i := 3) h (by decide) rfl
      simp [hasValidPrefix, h0, h1, h2, h3]

/-- A start code can always be written. -/
theorem writePrefix_startCodeOf (p : NaluArray) (long : Bool) :
    ∃ p', writePrefix p long = .ok p' ∧ startCodeOf long <+: p'.toList := by
  obtain ⟨p₁, hs₁, h₁⟩ :=
    storeAt_append (List.nil_prefix (l := p.toList)) (i := 0) rfl (by decide) 0
  obtain ⟨p₂, hs₂, h₂⟩ := storeAt_append h₁ (i := 1) rfl (by decide) 0
  cases long with
  | false =>
      obtain ⟨p₃, hs₃, h₃⟩ := storeAt_append h₂ (i := 2) rfl (by decide) 1
      exact ⟨p₃, by simp [writePrefix, hs₁, hs₂, hs₃], h₃⟩
  | true =>
      obtain ⟨p₃, hs₃, h₃⟩ := storeAt_append h₂ (i := 2) rfl (by decide) 0
      obtain ⟨p₄, hs₄, h₄⟩ := storeAt_append h₃ (i := 3) rfl (by decide) 1
      exact ⟨p₄, by simp [writePrefix, hs₁, hs₂, hs₃, hs₄], h₄⟩

/-! ### The class -/

namespace NALU

/-- `NALU::hasValidPrefixLong` -/
def hasValidPrefixLong (data : List UInt8) : Bool := data.take 4 == [0, 0, 0, 1]

/-- `NALU::hasValidPrefixShort` -/
def hasValidPrefixShort (data : List UInt8) : Bool := data.take 3 == [0, 0, 1]

/-- `NALU::hasValidPrefix` -/
def hasValidPrefix (data : List UInt8) : Bool :=
  hasValidPrefixLong data || hasValidPrefixShort data

/-- `NALU::getMinimumNaluSize`: the prefix of four bytes and the header. -/
def getMinimumNaluSize (isH265 : Bool) : ℕ := if isH265 then 6 else 5

end NALU

/-- The bytes from `m_data` on, `m_data_len` of them, and the codec. -/
structure NALU where
  data : List UInt8
  isH265 : Bool
  prefixValid : NALU.hasValidPrefix data = true
  sizeValid : NALU.getMinimumNaluSize isH265 ≤ data.length

namespace NALU

/-- The constructor.  On fewer bytes than a start code has, the first assert
looks at what is behind them; the second one fails for them in any case. -/
def ofData (data : List UInt8) (isH265 : Bool) : Exec NALU :=
  if prefixValid : hasValidPrefix data = true then
    if sizeValid : getMinimumNaluSize isH265 ≤ data.length then
      .ok ⟨data, isH265, prefixValid, sizeValid⟩
    else .error .assertFailed
  else .error .assertFailed

theorem ofData_eq_ok_iff {data : List UInt8} {isH265 : Bool} {nalu : NALU} :
    ofData data isH265 = .ok nalu ↔ nalu.data = data ∧ nalu.isH265 = isH265 := by
  unfold ofData
  constructor
  · intro h
    split_ifs at h
    obtain rfl := Except.ok.inj h
    exact ⟨rfl, rfl⟩
  · rintro ⟨rfl, rfl⟩
    rw [dif_pos nalu.prefixValid, dif_pos nalu.sizeValid]

theorem safe_ofData_iff {data : List UInt8} {isH265 : Bool} :
    Safe (ofData data isH265) ↔
      hasValidPrefix data = true ∧ getMinimumNaluSize isH265 ≤ data.length := by
  constructor
  · rintro ⟨nalu, h⟩
    obtain ⟨rfl, rfl⟩ := ofData_eq_ok_iff.mp h
    exact ⟨nalu.prefixValid, nalu.sizeValid⟩
  · rintro ⟨hp, hs⟩
    exact ⟨⟨data, isH265, hp, hs⟩, ofData_eq_ok_iff.mpr ⟨rfl, rfl⟩⟩

end NALU

end QOpenHD
