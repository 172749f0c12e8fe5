/-
QOpenHD/ParseRTPSafety.lean

When the RTP parser stays inside the datagram and the NALU buffer.

The system: a decoder, freshly constructed, that is fed datagrams of either
codec, or reset, in any order (`Input`, `step`).

Two things can go wrong, and both are said about the payload of a datagram
that is neither too short nor a repetition:

* an aggregation packet whose sizes do not fit its payload.  The loop reads
  the sizes where they ought to be and compares none of them with the end of
  the packet; H264 moreover asserts that every NALU has two bytes.  What it
  needs is the grammar `Units` of `SizePrefixed`.
* a last or middle fragment without any data, while the NALU buffer is full to
  its last byte: `append_nalu_data` asks `std::array::at` for the address
  behind it.

`InBounds` spells this out; **`run_safe_iff_inBounds`**: a run of the parser
is free of faults exactly if every datagram meets `InBounds` when it arrives.
-/
import QOpenHD.ParseRTPSteps

namespace QOpenHD

open Checked SizePrefixed

namespace RTPDecoder

/-- What can happen to a decoder. -/
inductive Input
  | h264 (rtpData : List UInt8)
  | h265 (rtpData : List UInt8)
  | reset

def step (s : RTPDecoder) : Input → Exec RTPDecoder
  | .h264 rtpData => s.parseRTPH264toNALU rtpData
  | .h265 rtpData => s.parseRTPH265toNALU rtpData
  | .reset => .ok s.reset

/-! ### The conditions -/

/-- What the parser needs of an H264 payload while its buffer holds `b`. -/
def PayloadInBoundsH264 (b : NaluBuffer) : List UInt8 → Prop
  | [] => True
  | indicator :: rest =>
    -- STAP-A: the NALUs end inside the packet and have two bytes or more
    ((NaluHeader.ofByte indicator).type = 24 → Units 2 3 rest) ∧
    -- FU-A: no empty last or middle fragment on a full buffer
    ((NaluHeader.ofByte indicator).type = 28 → ∀ fuHeader, rest = [fuHeader] →
      ((FuHeader.ofByte fuHeader).e = 1 ∨ (FuHeader.ofByte fuHeader).s ≠ 1) →
      b.length < NALU_MAXLEN)

/-- What the parser needs of an H265 payload while its buffer holds `b`. -/
def PayloadInBoundsH265 (b : NaluBuffer) : List UInt8 → Prop
  | hdr :: _ :: rest =>
    -- AP: the NALUs end inside the packet
    (nalUnitTypeH265 hdr = 48 → Units 0 2 rest) ∧
    -- FU: no empty last or middle fragment on a full buffer
    (nalUnitTypeH265 hdr = 49 → ∀ fuHeader, rest = [fuHeader] →
      ((FuHeaderH265.ofByte fuHeader).e ≠ 0 ∨ (FuHeaderH265.ofByte fuHeader).s = 0) →
      b.length < NALU_MAXLEN)
  | _ => True

/-- What the parser needs of a datagram: it is too short to be looked at, or it
has no padding and is a repetition or has a good payload. -/
def DatagramInBounds (headers : ℕ) (payloadInBounds : NaluBuffer → List UInt8 → Prop)
    (s : RTPDecoder) (rtpData : List UInt8) : Prop :=
  rtpData.length ≤ headers ∨
    rtpPadding rtpData = 0 ∧
      ((rtpSequence rtpData : ℤ) = s.lastSequenceNumber ∨
        payloadInBounds s.currNalu (rtpData.drop rtpHeaderSize))

/-- What the parser needs of its input. -/
def InBounds (s : RTPDecoder) : Input → Prop
  | .h264 rtpData => DatagramInBounds (rtpHeaderSize + 1) PayloadInBoundsH264 s rtpData
  | .h265 rtpData => DatagramInBounds (rtpHeaderSize + 2) PayloadInBoundsH265 s rtpData
  | .reset => True

/-! ### Aggregation packets -/

theorem h264ForwardAggregated_safe_iff {s : RTPDecoder} {hdr : UInt8} {rest : List UInt8} :
    Safe (s.h264ForwardAggregated (hdr :: rest)) ↔ Units 2 3 rest := by
  refine walk_safe_iff (by decide) ?_ _ s 0 (by omega)
  intro s data size hsize
  rw [h264ReconstructAndForwardOneNalu_safe_iff, ne_eq, ← List.length_eq_zero_iff]
  simp only [NALU_MAXLEN]
  omega

theorem h265ForwardAggregated_safe_iff {s : RTPDecoder} {hdr₀ hdr₁ : UInt8} {rest : List UInt8} :
    Safe (s.h265ForwardAggregated (hdr₀ :: hdr₁ :: rest)) ↔ Units 0 2 rest := by
  refine walk_safe_iff (by decide) ?_ _ s 0 (by omega)
  intro s data size hsize
  rw [h265ForwardOneNalu_safe_iff]
  simp only [NALU_MAXLEN]
  omega

/-! ### Payloads -/

/-- An H264 payload of at least two bytes. -/
theorem h264HandlePacket_safe_iff {s : RTPDecoder} {h : RtpHeader} {b₀ b₁ : UInt8}
    {rest : List UInt8} :
    Safe (s.h264HandlePacket ⟨h, b₀ :: b₁ :: rest⟩) ↔
      PayloadInBoundsH264 s.currNalu (b₀ :: b₁ :: rest) := by
  by_cases h28 : (NaluHeader.ofByte b₀).type = 28
  · by_cases he : (FuHeader.ofByte b₁).e = 1
    · rw [h264HandlePacket_fuEnd h28 he, safe_bind_iff]
      simp only [safe_ok, and_true]
      rw [← Safe, appendNaluData_all_safe_iff]
      simp [PayloadInBoundsH264, h28, he]
    by_cases hs : (FuHeader.ofByte b₁).s = 1
    · rw [h264HandlePacket_fuStart h28 he hs, appendNaluData_all_safe_iff]
      simp [PayloadInBoundsH264, h28, he, hs, NALU_MAXLEN]
    · rw [h264HandlePacket_fuMiddle h28 he hs, safe_bind_iff]
      simp only [safe_ok, and_true]
      rw [← Safe, appendNaluData_all_safe_iff]
      simp [PayloadInBoundsH264, h28, hs]
  by_cases h24 : (NaluHeader.ofByte b₀).type = 24
  · rw [h264HandlePacket_stapA h24, h264ForwardAggregated_safe_iff]
    simp [PayloadInBoundsH264, h24]
  have hgood : PayloadInBoundsH264 s.currNalu (b₀ :: b₁ :: rest) :=
    ⟨fun h => absurd h h24, fun h => absurd h h28⟩
  simp only [hgood, iff_true]
  by_cases hsingle : (NaluHeader.ofByte b₀).type > 0 ∧ (NaluHeader.ofByte b₀).type < 24
  · rw [h264HandlePacket_single hsingle.1 hsingle.2, h264ReconstructAndForwardOneNalu_safe_iff]
    simp
  · rw [h264HandlePacket_unsupported h28 h24 hsingle]
    exact safe_ok s

/-- An H265 payload of at least three bytes. -/
theorem h265HandlePacket_safe_iff {s : RTPDecoder} {h : RtpHeader} {b₀ b₁ b₂ : UInt8}
    {rest : List UInt8} :
    Safe (s.h265HandlePacket ⟨h, b₀ :: b₁ :: b₂ :: rest⟩) ↔
      PayloadInBoundsH265 s.currNalu (b₀ :: b₁ :: b₂ :: rest) := by
  by_cases h49 : nalUnitTypeH265 b₀ = 49
  · by_cases he : (FuHeaderH265.ofByte b₂).e = 0
    · by_cases hs : (FuHeaderH265.ofByte b₂).s = 0
      · rw [h265HandlePacket_fuMiddle h49 he hs, appendNaluData_all_safe_iff]
        simp [PayloadInBoundsH265, h49, hs]
      · rw [h265HandlePacket_fuStart h49 he hs, appendNaluData_all_safe_iff]
        simp [PayloadInBoundsH265, h49, he, hs, h265FuNaluHeader, NALU_MAXLEN]
    · rw [h265HandlePacket_fuEnd h49 he, safe_bind_iff]
      simp only [safe_ok, and_true]
      rw [← Safe, appendNaluData_all_safe_iff]
      simp [PayloadInBoundsH265, h49, he]
  by_cases h48 : nalUnitTypeH265 b₀ = 48
  · rw [h265HandlePacket_ap h48, h265ForwardAggregated_safe_iff]
    simp [PayloadInBoundsH265, h48]
  have hgood : PayloadInBoundsH265 s.currNalu (b₀ :: b₁ :: b₂ :: rest) :=
    ⟨fun h => absurd h h48, fun h => absurd h h49⟩
  simp only [hgood, iff_true]
  by_cases h50 : nalUnitTypeH265 b₀ > 50
  · rw [h265HandlePacket_unsupported h50]
    exact safe_ok s
  · rw [h265HandlePacket_single h50 h48 h49, h265ForwardOneNalu_safe_iff]
    exact fun _ => Nat.le_refl _

/-! ### Datagrams -/

/-- A datagram that is long enough is parsed up to its payload, and its payload
is handled with the same NALU buffer. -/
theorem parseRTPtoNALU_safe_iff {s : RTPDecoder} {rtpData : List UInt8} {extra : ℕ}
    {handlePacket : RTPDecoder → RTPPacket → Exec RTPDecoder}
    {payloadInBounds : NaluBuffer → List UInt8 → Prop}
    (hhandle : ∀ s h, extra < (rtpData.drop rtpHeaderSize).length →
      (Safe (handlePacket s ⟨h, rtpData.drop rtpHeaderSize⟩) ↔
        payloadInBounds s.currNalu (rtpData.drop rtpHeaderSize))) :
    Safe (s.parseRTPtoNALU (rtpHeaderSize + extra) handlePacket rtpData) ↔
      DatagramInBounds (rtpHeaderSize + extra) payloadInBounds s rtpData := by
  unfold parseRTPtoNALU DatagramInBounds
  by_cases hshort : rtpData.length ≤ rtpHeaderSize + extra
  · simp [hshort]
  have hpayload : extra < (rtpData.drop rtpHeaderSize).length := by
    rw [List.length_drop]
    omega
  rw [if_neg hshort, rtpPacket_ofData (by omega)]
  by_cases hpad : rtpPadding rtpData = 0
  · rw [if_pos hpad, ok_bind]
    by_cases hseq : (rtpSequence rtpData : ℤ) = s.lastSequenceNumber
    · rw [validateRTPPacket_repeated hseq]
      simp [hpad, hseq]
    · rw [validateRTPPacket_accepted hseq]
      simp only [↓reduceIte, hhandle _ _ hpayload, hpad, hseq, hshort, false_or, true_and]
      rw [(s.noteMissingPackets_frame (rtpSequence rtpData)).1]
  · simp [hpad, hshort]

/-- **One step** of the parser is free of faults exactly on inputs in bounds. -/
theorem step_safe_iff (s : RTPDecoder) (input : Input) :
    Safe (s.step input) ↔ InBounds s input := by
  cases input with
  | h264 rtpData =>
      apply parseRTPtoNALU_safe_iff
      intro s h hlen
      rcases hp : rtpData.drop rtpHeaderSize with - | ⟨b₀, - | ⟨b₁, rest⟩⟩
      iterate 2
        rw [hp] at hlen
        simp at hlen
      exact h264HandlePacket_safe_iff
  | h265 rtpData =>
      apply parseRTPtoNALU_safe_iff
      intro s h hlen
      rcases hp : rtpData.drop rtpHeaderSize with - | ⟨b₀, - | ⟨b₁, - | ⟨b₂, rest⟩⟩⟩
      iterate 3
        rw [hp] at hlen
        simp at hlen
      exact h265HandlePacket_safe_iff
  | reset => simp [step, InBounds]

/-! ### Runs -/

/-- **Runs of the parser**: no fault on the way exactly if every input is in
bounds when it arrives. -/
theorem run_safe_iff_inBounds (cb feedIncompleteFrames : Bool) (inputs : List Input) :
    Safe (run step (new cb feedIncompleteFrames) inputs) ↔
      EveryStep InBounds step (new cb feedIncompleteFrames) inputs :=
  run_safe_iff_everyStep step_safe_iff _ inputs

/-- A STAP-A packet of 14 bytes, from which the very first size is read past
the end. -/
theorem stapA_out_of_bounds :
    ¬ ∀ (cb feedIncompleteFrames : Bool) (inputs : List Input),
        (∀ rtpData, .h264 rtpData ∈ inputs ∨ .h265 rtpData ∈ inputs → rtpPadding rtpData = 0) →
        Safe (run step (new cb feedIncompleteFrames) inputs) := by
  intro h
  obtain ⟨s, hs⟩ := h true false [.h264 [0x80, 96, 0, 1, 0, 0, 0, 0, 0, 0, 0, 0, 24, 0]]
    (by simp only [List.mem_singleton, Input.h264.injEq, reduceCtorEq, or_false, forall_eq]; rfl)
  have hfault : run step (new true false)
      [.h264 [0x80, 96, 0, 1, 0, 0, 0, 0, 0, 0, 0, 0, 24, 0]] = .error .outOfBounds := rfl
  rw [hfault] at hs
  cases hs

end RTPDecoder

end QOpenHD
