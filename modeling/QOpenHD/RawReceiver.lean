/-
QOpenHD/RawReceiver.lean

`RawReceiver` (`rawreceiver.h`, `rawreceiver.cpp`): splitting a raw Annex-B byte
stream into NALUs, one byte at a time, and when this stays inside the buffer.

The write position is an `int` and every access to `m_curr_nalu` goes through
a checked `loadAt`, `storeAt` or `sliceAt`.  `queue_data` becomes a log of what
it is called with.

The receiver keeps its position in `[0, NALU_MAXLEN - 2]` with one exception.
When a byte fills the buffer the position starts again at 0; when that byte is
moreover a zero behind three zeros, the position is then decremented, to -1,
and the next byte is stored in front of the buffer.

* **`staysInBuffer_iff`** — the receiver stays inside its buffer exactly if no
  such byte (`ZeroAtEnd`) arrives, however the stream is cut into payloads;
* `raw_out_of_bounds` — such a byte can arrive.
-/
import QOpenHD.Nalu

namespace QOpenHD

open Checked

structure RawReceiver where
  currNalu : NaluArray
  naluDataLength : ℤ
  naluSearchState : ℕ
  /-- What `queue_data` has been called with so far. -/
  queued : List (List UInt8)

namespace RawReceiver

/-- A new receiver.  Its buffer is not written before it is used. -/
def new (currNalu : NaluArray) : RawReceiver where
  currNalu := currNalu
  naluDataLength := 0
  naluSearchState := 0
  queued := []

/-- `raw_nalu_callback` with a pointer to `m_curr_nalu`: NALUs below six bytes
are not queued. -/
def rawNaluCallback (s : RawReceiver) (len : ℤ) : Exec RawReceiver :=
  if len < 6 then .ok s
  else do
    let naluData ← sliceAt s.currNalu len
    pure { s with queued := s.queued ++ [naluData] }

/-- Store one byte and advance.  At the end of the buffer the position starts
again at 0. -/
def storeByte (s : RawReceiver) (b : UInt8) : Exec RawReceiver := do
  let currNalu ← storeAt s.currNalu s.naluDataLength b
  let position := s.naluDataLength + 1
  pure { s with currNalu := currNalu
                naluDataLength := if position ≥ NALU_MAXLEN - 1 then 0 else position }

/-- `parsed_prefix_len` -/
def parsedPrefixLen (s : RawReceiver) : ℤ := if s.naluSearchState = 3 then 4 else 3

/-- Forward the NALU in front of a start code that has just been read. -/
def forwardParsed (s : RawReceiver) (valid : Bool) : Exec RawReceiver :=
  if valid && s.naluDataLength > 4 then s.rawNaluCallback (s.naluDataLength - s.parsedPrefixLen)
  else .ok s

/-- A byte 1 behind two zeros or more: the NALU in front of it is complete, and
its own start code moves to the beginning of the buffer. -/
def completeNalu (s : RawReceiver) : Exec RawReceiver := do
  let valid ← hasValidPrefix s.currNalu
  let s ← s.forwardParsed valid
  let currNalu ← writePrefix s.currNalu (s.parsedPrefixLen = 4)
  pure { s with currNalu := currNalu, naluDataLength := s.parsedPrefixLen, naluSearchState := 0 }

/-- Look for start codes. -/
def searchStartCode (s : RawReceiver) (b : UInt8) : Exec RawReceiver :=
  match s.naluSearchState with
  | 0 | 1 =>
    if b = 0 then .ok { s with naluSearchState := s.naluSearchState + 1 }
    else .ok { s with naluSearchState := 0 }
  | 2 | 3 =>
    if b = 0 then
      .ok { s with
        -- ignore this 0
        naluDataLength := if s.naluSearchState = 3 then s.naluDataLength - 1 else s.naluDataLength
        naluSearchState := 3 }
    else if b = 1 then s.completeNalu
    else .ok { s with naluSearchState := 0 }
  | _ => .ok s

/-- The body of the loop in `udp_raw_data_callback`. -/
def udpRawDataByte (s : RawReceiver) (b : UInt8) : Exec RawReceiver := do
  let s ← s.storeByte b
  s.searchStartCode b

def udpRawDataCallback (s : RawReceiver) (data : List UInt8) : Exec RawReceiver :=
  run udpRawDataByte s data

/-! ### Steps -/

/-- The position is inside the buffer, with room for one more byte, and the
search state is one of the four. -/
structure InBuffer (s : RawReceiver) : Prop where
  nonneg : 0 ≤ s.naluDataLength
  le : s.naluDataLength ≤ NALU_MAXLEN - 2
  state : s.naluSearchState ≤ 3

theorem inBuffer_new (currNalu : NaluArray) : (new currNalu).InBuffer where
  nonneg := by simp [new]
  le := by simp [new, NALU_MAXLEN]
  state := by simp [new]

/-- A zero behind three zeros arrives at the end of the buffer. -/
def ZeroAtEnd (s : RawReceiver) (b : UInt8) : Prop :=
  b = 0 ∧ s.naluSearchState = 3 ∧ s.naluDataLength = NALU_MAXLEN - 2

/-- The receiver after a byte was stored. -/
def advance (s : RawReceiver) (currNalu : NaluArray) : RawReceiver :=
  { s with currNalu := currNalu
           naluDataLength :=
             if s.naluDataLength = NALU_MAXLEN - 2 then 0 else s.naluDataLength + 1 }

theorem advance_before_end {s : RawReceiver} (h : s.naluDataLength ≠ NALU_MAXLEN - 2)
    (v : NaluArray) : (s.advance v).naluDataLength = s.naluDataLength + 1 := if_neg h

theorem advance_at_end {s : RawReceiver} (h : s.naluDataLength = NALU_MAXLEN - 2)
    (v : NaluArray) : (s.advance v).naluDataLength = 0 := if_pos h

theorem InBuffer.advance {s : RawReceiver} (h : s.InBuffer) (v : NaluArray) :
    (s.advance v).InBuffer := by
  obtain ⟨h₀, hle, hstate⟩ := h
  have hroom : (0 : ℤ) ≤ NALU_MAXLEN - 2 := by decide
  by_cases hend : s.naluDataLength = NALU_MAXLEN - 2
  · have hzero := advance_at_end hend v
    exact ⟨by omega, by omega, hstate⟩
  · have hnext := advance_before_end hend v
    exact ⟨by omega, by omega, hstate⟩

theorem storeByte_ok {s : RawReceiver} (hle : s.naluDataLength ≤ NALU_MAXLEN - 2) {b : UInt8}
    {v : NaluArray} (hv : storeAt s.currNalu s.naluDataLength b = .ok v) :
    s.storeByte b = .ok (s.advance v) := by
  have hend : s.naluDataLength + 1 ≥ NALU_MAXLEN - 1 ↔ s.naluDataLength = NALU_MAXLEN - 2 := by
    omega
  simp only [storeByte, hv, ok_bind, hend]
  rfl

/-- Inside the buffer a byte can be stored. -/
theorem storeByte_eq {s : RawReceiver} (h : s.InBuffer) (b : UInt8) :
    ∃ v, s.storeByte b = .ok (s.advance v) := by
  obtain ⟨h₀, hle, -⟩ := h
  obtain ⟨v, hv⟩ := safe_storeAt (v := s.currNalu) h₀ (by omega) b
  exact ⟨v, storeByte_ok hle hv⟩

/-- What is queued when a NALU is complete. -/
def completed (s : RawReceiver) (valid : Bool) : List (List UInt8) :=
  if valid ∧ s.naluDataLength > 4 ∧ 6 ≤ s.naluDataLength - s.parsedPrefixLen then
    [s.currNalu.toList.take (s.naluDataLength - s.parsedPrefixLen).toNat]
  else []

theorem forwardParsed_eq {s : RawReceiver} (hle : s.naluDataLength ≤ NALU_MAXLEN) (valid : Bool) :
    s.forwardParsed valid = .ok { s with queued := s.queued ++ s.completed valid } := by
  have hpre : 0 < s.parsedPrefixLen := by
    unfold parsedPrefixLen
    split_ifs <;> decide
  unfold forwardParsed completed rawNaluCallback
  by_cases hvalid : valid ∧ s.naluDataLength > 4
  · rw [if_pos (by simpa using hvalid)]
    by_cases hlen : s.naluDataLength - s.parsedPrefixLen < 6
    · rw [if_pos hlen, if_neg (by omega), List.append_nil]
    · have hslice : (s.naluDataLength - s.parsedPrefixLen).toNat ≤ s.currNalu.toList.length := by
        rw [Vector.length_toList]
        omega
      rw [if_neg hlen, if_pos ⟨hvalid.1, hvalid.2, by omega⟩, sliceAt, if_pos (by omega),
        loadSlice_of_le hslice]
      rfl
  · rw [if_neg (by simpa using hvalid), if_neg (by tauto), List.append_nil]

/-- Completing a NALU: what is queued, and the start code that is left. -/
theorem completeNalu_eq {s : RawReceiver} (hle : s.naluDataLength ≤ NALU_MAXLEN) {valid : Bool}
    (hvalid : hasValidPrefix s.currNalu = .ok valid) :
    ∃ v : NaluArray, startCodeOf (s.parsedPrefixLen = 4) <+: v.toList ∧
      s.completeNalu = .ok {
        currNalu := v
        naluDataLength := s.parsedPrefixLen
        naluSearchState := 0
        queued := s.queued ++ s.completed valid } := by
  obtain ⟨v, hv, hcode⟩ := writePrefix_startCodeOf s.currNalu (s.parsedPrefixLen = 4)
  refine ⟨v, hcode, ?_⟩
  rw [completeNalu, hvalid, ok_bind, forwardParsed_eq hle, ok_bind]
  exact bind_eq_ok_iff.mpr ⟨v, hv, rfl⟩

section SearchStartCode

variable {s : RawReceiver} {b : UInt8}

theorem searchStartCode_few (h : s.naluSearchState ≤ 1) :
    s.searchStartCode b =
      .ok { s with naluSearchState := if b = 0 then s.naluSearchState + 1 else 0 } := by
  obtain h | h : s.naluSearchState = 0 ∨ s.naluSearchState = 1 := by omega
  all_goals
    unfold searchStartCode
    rw [h]
    split_ifs <;> rfl

variable (h : s.naluSearchState = 2 ∨ s.naluSearchState = 3)
include h

theorem searchStartCode_zero :
    s.searchStartCode 0 = .ok { s with
      naluDataLength := if s.naluSearchState = 3 then s.naluDataLength - 1 else s.naluDataLength
      naluSearchState := 3 } := by
  obtain h | h := h
  all_goals
    unfold searchStartCode
    rw [h]
    rfl

theorem searchStartCode_one : s.searchStartCode 1 = s.completeNalu := by
  obtain h | h := h
  all_goals
    unfold searchStartCode
    rw [h]
    rfl

theorem searchStartCode_other (h₀ : b ≠ 0) (h₁ : b ≠ 1) :
    s.searchStartCode b = .ok { s with naluSearchState := 0 } := by
  obtain h | h := h
  all_goals
    unfold searchStartCode
    rw [h]
    simp only [if_neg h₀, if_neg h₁]

end SearchStartCode

/-- Looking for start codes keeps the position inside the buffer, unless it
takes back a zero that is not there. -/
theorem searchStartCode_inBuffer {s : RawReceiver} (h : s.InBuffer) {b : UInt8}
    (hb : b = 0 → s.naluSearchState = 3 → s.naluDataLength ≠ 0) :
    ∃ s', s.searchStartCode b = .ok s' ∧ s'.InBuffer := by
  obtain ⟨h₀, hle, hstate⟩ := h
  by_cases hfew : s.naluSearchState ≤ 1
  · refine ⟨_, searchStartCode_few hfew, h₀, hle, ?_⟩
    simp only
    split_ifs <;> omega
  have hmany : s.naluSearchState = 2 ∨ s.naluSearchState = 3 := by omega
  by_cases hzero : b = 0
  · subst hzero
    refine ⟨_, searchStartCode_zero hmany, ?_, ?_, le_refl 3⟩
    · simp only
      split_ifs with h3
      · have hpos := hb rfl h3
        omega
      · exact h₀
    · simp only
      split_ifs <;> omega
  by_cases hone : b = 1
  · subst hone
    obtain ⟨valid, hvalid⟩ := safe_hasValidPrefix s.currNalu
    obtain ⟨v, -, hv⟩ := completeNalu_eq (by omega) hvalid
    refine ⟨_, (searchStartCode_one hmany).trans hv, ?_, ?_, Nat.zero_le 3⟩
    all_goals
      simp only [parsedPrefixLen]
      split_ifs <;> decide
  · exact ⟨_, searchStartCode_other hmany hzero hone, h₀, hle, Nat.zero_le 3⟩

/-- **Inside the buffer** a byte is handled without a fault, and unless it is a
zero at the end the position stays inside the buffer. -/
theorem udpRawDataByte_inBuffer {s : RawReceiver} (h : s.InBuffer) {b : UInt8}
    (hb : ¬ s.ZeroAtEnd b) : ∃ s', s.udpRawDataByte b = .ok s' ∧ s'.InBuffer := by
  obtain ⟨v, hv⟩ := storeByte_eq h b
  rw [udpRawDataByte, hv, ok_bind]
  apply searchStartCode_inBuffer (h.advance v)
  intro hb₀ h3 hpos
  by_cases hend : s.naluDataLength = NALU_MAXLEN - 2
  · exact hb ⟨hb₀, h3, hend⟩
  · have h₀ := h.nonneg
    have hnext := advance_before_end hend v
    omega

/-- A zero at the end takes the position out of the buffer. -/
theorem udpRawDataByte_zeroAtEnd {s : RawReceiver} (h : s.InBuffer) {b : UInt8}
    (hb : s.ZeroAtEnd b) : ∃ s', s.udpRawDataByte b = .ok s' ∧ s'.naluDataLength = -1 := by
  obtain ⟨v, hv⟩ := storeByte_eq h b
  obtain ⟨rfl, h3, hend⟩ := hb
  rw [udpRawDataByte, hv, ok_bind, searchStartCode_zero (s := s.advance v) (.inr h3)]
  refine ⟨_, rfl, ?_⟩
  simp only [advance_at_end hend v]
  exact if_pos h3

/-- The next byte is stored in front of the buffer. -/
theorem udpRawDataByte_outside {s : RawReceiver} (h : s.naluDataLength < 0) (b : UInt8) :
    s.udpRawDataByte b = .error .outOfBounds := by
  rw [udpRawDataByte, storeByte, storeAt_negative h]
  rfl

/-! ### Runs -/

/-- What the receiver does without leaving the buffer: after any of the
payloads it has not run into a fault, and its position is inside the buffer. -/
def StaysInBuffer (s : RawReceiver) (payloads : List (List UInt8)) : Prop :=
  ∀ done, done <+: payloads → ∃ s', run udpRawDataCallback s done = .ok s' ∧
    0 ≤ s'.naluDataLength ∧ s'.naluDataLength < NALU_MAXLEN

/-- Bytes without a zero at the end keep the receiver inside the buffer. -/
theorem run_inBuffer {s : RawReceiver} {bytes : List UInt8} (h : s.InBuffer)
    (hb : EveryStep (fun s b => ¬ s.ZeroAtEnd b) udpRawDataByte s bytes) :
    ∃ s', run udpRawDataByte s bytes = .ok s' ∧ s'.InBuffer := by
  induction bytes generalizing s with
  | nil => exact ⟨s, rfl, h⟩
  | cons b bytes ih =>
      obtain ⟨s₁, hs₁, h₁⟩ := udpRawDataByte_inBuffer h hb.1
      obtain ⟨s', hs', h'⟩ := ih h₁ (hb.2 s₁ hs₁)
      exact ⟨s', by rw [run_cons, hs₁, ok_bind, hs'], h'⟩

/-- A receiver that is still inside the buffer has met no zero at the end. -/
theorem everyStep_of_run {s s' : RawReceiver} {bytes : List UInt8} (h : s.InBuffer)
    (hrun : run udpRawDataByte s bytes = .ok s') (hpos : 0 ≤ s'.naluDataLength) :
    EveryStep (fun s b => ¬ s.ZeroAtEnd b) udpRawDataByte s bytes ∧ s'.InBuffer := by
  induction bytes generalizing s with
  | nil =>
      obtain rfl := Except.ok.inj hrun
      exact ⟨trivial, h⟩
  | cons b bytes ih =>
      rw [run_cons, bind_eq_ok_iff] at hrun
      obtain ⟨s₁, hs₁, hrun⟩ := hrun
      by_cases hb : s.ZeroAtEnd b
      · -- the position is -1 now: the run ends here, or with a fault
        obtain ⟨s₂, hs₂, hneg⟩ := udpRawDataByte_zeroAtEnd h hb
        obtain rfl : s₁ = s₂ := Except.ok.inj (hs₁.symm.trans hs₂)
        rcases bytes with - | ⟨b', bytes⟩
        · obtain rfl := Except.ok.inj hrun
          omega
        · rw [run_cons, udpRawDataByte_outside (by omega)] at hrun
          cases hrun
      · obtain ⟨s₂, hs₂, h₂⟩ := udpRawDataByte_inBuffer h hb
        obtain rfl : s₁ = s₂ := Except.ok.inj (hs₁.symm.trans hs₂)
        obtain ⟨hevery, h'⟩ := ih h₂ hrun
        refine ⟨⟨hb, fun s₃ hs₃ => ?_⟩, h'⟩
        obtain rfl : s₁ = s₃ := Except.ok.inj (hs₁.symm.trans hs₃)
        exact hevery

theorem staysInBuffer_of_everyStep {s : RawReceiver} {payloads : List (List UInt8)}
    (h : s.InBuffer)
    (hb : EveryStep (fun s b => ¬ s.ZeroAtEnd b) udpRawDataByte s payloads.flatten) :
    s.StaysInBuffer payloads := by
  rintro done ⟨rest, rfl⟩
  rw [List.flatten_append, everyStep_append_iff] at hb
  obtain ⟨s', hs', h'⟩ := run_inBuffer h hb.1
  refine ⟨s', (run_flatten s done).symm.trans hs', h'.nonneg, ?_⟩
  have hle := h'.le
  omega

theorem everyStep_of_staysInBuffer {s : RawReceiver} {payloads : List (List UInt8)}
    (h : s.InBuffer) (hstays : s.StaysInBuffer payloads) :
    EveryStep (fun s b => ¬ s.ZeroAtEnd b) udpRawDataByte s payloads.flatten := by
  obtain ⟨s', hs', hpos, -⟩ := hstays payloads (List.prefix_refl _)
  exact (everyStep_of_run h ((run_flatten s payloads).trans hs') hpos).1

/-- **The receiver stays inside its buffer** exactly if no zero arrives behind
three zeros at the end of the buffer.  The buffer may hold anything at the
beginning, and the stream may be cut anywhere. -/
theorem staysInBuffer_iff (currNalu : NaluArray) (payloads : List (List UInt8)) :
    (new currNalu).StaysInBuffer payloads ↔
      EveryStep (fun s b => ¬ s.ZeroAtEnd b) udpRawDataByte (new currNalu) payloads.flatten :=
  ⟨everyStep_of_staysInBuffer (inBuffer_new currNalu),
    staysInBuffer_of_everyStep (inBuffer_new currNalu)⟩

/-! ### Leaving the buffer -/

/-- A byte that is stored before the end, with no more than one zero in front
of it. -/
theorem udpRawDataByte_few {s : RawReceiver} (h : s.InBuffer)
    (hroom : s.naluDataLength < NALU_MAXLEN - 2) (hfew : s.naluSearchState ≤ 1) (b : UInt8) :
    ∃ s', s.udpRawDataByte b = .ok s' ∧ s'.InBuffer ∧
      s'.naluDataLength = s.naluDataLength + 1 ∧
      s'.naluSearchState = if b = 0 then s.naluSearchState + 1 else 0 := by
  obtain ⟨v, hv⟩ := storeByte_eq h b
  have hnext := advance_before_end (show s.naluDataLength ≠ NALU_MAXLEN - 2 by omega) v
  have hin := h.advance v
  have hstep : s.udpRawDataByte b = .ok { s.advance v with
      naluSearchState := if b = 0 then s.naluSearchState + 1 else 0 } := by
    rw [udpRawDataByte, hv, ok_bind]
    exact searchStartCode_few (s := s.advance v) hfew
  refine ⟨_, hstep, ⟨hin.nonneg, hin.le, ?_⟩, hnext, rfl⟩
  simp only
  split_ifs
  · exact Nat.le_trans (Nat.succ_le_succ hfew) (by decide)
  · exact Nat.zero_le 3

/-- Bytes other than zero move the position forward. -/
theorem run_nonzero {b : UInt8} (hb : b ≠ 0) (n : ℕ) {s : RawReceiver} (h : s.InBuffer)
    (hroom : s.naluDataLength + n ≤ NALU_MAXLEN - 2) (hstate : s.naluSearchState = 0) :
    ∃ s', run udpRawDataByte s (List.replicate n b) = .ok s' ∧ s'.InBuffer ∧
      s'.naluDataLength = s.naluDataLength + n ∧ s'.naluSearchState = 0 := by
  induction n generalizing s with
  | zero => exact ⟨s, rfl, h, by simp, hstate⟩
  | succ n ih =>
      obtain ⟨s₁, hs₁, h₁, hpos₁, hstate₁⟩ := udpRawDataByte_few h (by omega) (by omega) b
      rw [if_neg hb] at hstate₁
      obtain ⟨s', hs', h', hpos', hstate'⟩ := ih h₁ (by omega) hstate₁
      refine ⟨s', ?_, h', by omega, hstate'⟩
      rw [List.replicate_succ, run_cons, hs₁, ok_bind, hs']

/-- A payload that runs over the end of the buffer: other bytes up to five
before its end, and then four zeros. -/
theorem raw_out_of_bounds :
    ¬ ∀ (currNalu : NaluArray) (payloads : List (List UInt8)),
        (new currNalu).StaysInBuffer payloads := by
  intro hall
  have hevery := everyStep_of_staysInBuffer (inBuffer_new (.replicate _ 0))
    (hall (.replicate _ 0) [List.replicate (NALU_MAXLEN - 5) 0xff ++ [0, 0, 0, 0]])
  rw [List.flatten_singleton, everyStep_append_iff] at hevery
  obtain ⟨s, hs, h, hpos, hstate⟩ := run_nonzero (b := 0xff) (by decide) (NALU_MAXLEN - 5)
    (inBuffer_new (.replicate _ 0)) (by simp [new, NALU_MAXLEN]) rfl
  have hpos : s.naluDataLength = NALU_MAXLEN - 5 := by simpa [new, NALU_MAXLEN] using hpos
  obtain ⟨-, hzeros⟩ := hevery.2 s hs
  obtain ⟨s₁, hs₁, h₁, hpos₁, hstate₁⟩ := udpRawDataByte_few h (by omega) (by omega) 0
  obtain ⟨-, hzeros⟩ := hzeros s₁ hs₁
  obtain ⟨s₂, hs₂, h₂, hpos₂, hstate₂⟩ :=
    udpRawDataByte_few h₁ (by omega) (by rw [hstate₁, hstate]; decide) 0
  obtain ⟨-, hzeros⟩ := hzeros s₂ hs₂
  -- the third zero
  have h2 : s₂.naluSearchState = 2 := by rw [hstate₂, hstate₁, hstate]; rfl
  obtain ⟨v, hv⟩ := storeByte_eq h₂ 0
  have hnext := advance_before_end (show s₂.naluDataLength ≠ NALU_MAXLEN - 2 by omega) v
  have h2v : (s₂.advance v).naluSearchState = 2 := h2
  have hs₃ := searchStartCode_zero (.inl h2v)
  refine (hzeros _ (by rw [udpRawDataByte, hv, ok_bind, hs₃])).1 ⟨rfl, rfl, ?_⟩
  simp only [h2v]
  omega

end RawReceiver

end QOpenHD
