/-
QOpenHD/ParseRTPSteps.lean

What one call of the parser does, as equations: one lemma for each function
of `ParseRTP.lean`, under the conditions that its callers can offer.  The
later files cite these and do not unfold the functions again.

The header bytes are taken apart and put together again in two places; both
are checked on all 256 bytes.
-/
import QOpenHD.ParseRTP

namespace QOpenHD

open Checked SizePrefixed

/-! ### Header bytes -/

/-- A property of all bytes can be decided on bit vectors. -/
theorem forall_uint8 {P : UInt8 → Prop} (h : ∀ b : BitVec 8, P ⟨b⟩) (b : UInt8) : P b :=
  h b.toBitVec

/-- Putting the three fields of a NALU header together gives the byte back. -/
theorem naluHeader_rebuild (b : UInt8) :
    ((NaluHeader.ofByte b).type &&& (0x1f : UInt8)) ||| ((NaluHeader.ofByte b).nri <<< 5) |||
      ((NaluHeader.ofByte b).f <<< 7) = b := by
  revert b
  apply forall_uint8
  decide

/-! ### The RTP header -/

/-- The padding bit of a datagram. -/
def rtpPadding (rtpData : List UInt8) : UInt8 := (rtpData.getD 0 0 >>> 5) &&& 1

/-- The sequence number of a datagram. -/
def rtpSequence (rtpData : List UInt8) : ℕ := be16 (rtpData.getD 2 0) (rtpData.getD 3 0)

theorem rtpPacket_ofData {rtpData : List UInt8} (h : rtpHeaderSize ≤ rtpData.length) :
    RTPPacket.ofData rtpData =
      if rtpPadding rtpData = 0 then
        .ok { header := { padding := 0, sequence := rtpSequence rtpData },
              rtpPayload := rtpData.drop rtpHeaderSize }
      else .error .assertFailed := by
  have hreq : require (rtpData.length ≥ rtpHeaderSize) = .ok () := require_of h
  unfold RTPPacket.ofData
  rw [hreq, ok_bind]
  match rtpData, h with
  | b₀ :: b₁ :: b₂ :: b₃ :: rest, _ =>
    have hseq : loadBE16 (b₀ :: b₁ :: b₂ :: b₃ :: rest) 2 = .ok (be16 b₂ b₃) :=
      loadBE16_eq_ok_iff.mpr ⟨b₂, b₃, rest, rfl, rfl⟩
    by_cases hpad : (b₀ >>> 5) &&& 1 = 0
    · simp [RtpHeader.read, hseq, rtpPadding, rtpSequence, hpad]
    · simp [RtpHeader.read, hseq, rtpPadding, hpad, require]

namespace RTPDecoder

/-! ### Sequence numbers -/

/-- Looking for missing packets leaves the buffer and the callback alone. -/
theorem noteMissingPackets_frame (s : RTPDecoder) (seqNr : ℤ) :
    (s.noteMissingPackets seqNr).currNalu = s.currNalu ∧
      (s.noteMissingPackets seqNr).handed = s.handed ∧
      (s.noteMissingPackets seqNr).cb = s.cb ∧
      (s.noteMissingPackets seqNr).feedIncompleteFrames = s.feedIncompleteFrames := by
  unfold noteMissingPackets
  split_ifs <;> exact ⟨rfl, rfl, rfl, rfl⟩

theorem validateRTPPacket_repeated {s : RTPDecoder} {h : RtpHeader}
    (hseq : (h.sequence : ℤ) = s.lastSequenceNumber) : s.validateRTPPacket h = (false, s) :=
  if_pos hseq

theorem validateRTPPacket_accepted {s : RTPDecoder} {h : RtpHeader}
    (hseq : (h.sequence : ℤ) ≠ s.lastSequenceNumber) :
    s.validateRTPPacket h =
      (true, { s.noteMissingPackets h.sequence with lastSequenceNumber := h.sequence }) :=
  if_neg hseq

/-- The first packet of a stream takes the missing packet flag back. -/
theorem noteMissingPackets_first {s : RTPDecoder} {seqNr : ℤ} (hs : s.lastSequenceNumber = -1) :
    (s.noteMissingPackets seqNr).flagPacketHasGoneMissing = false := by
  simp [noteMissingPackets, hs]

/-- The next packet of a stream leaves the missing packet flag alone. -/
theorem noteMissingPackets_next {s : RTPDecoder} {seqNr : ℤ} (hs : s.lastSequenceNumber ≠ -1)
    (hseq : seqNr = (s.lastSequenceNumber + 1) % 65536) :
    (s.noteMissingPackets seqNr).flagPacketHasGoneMissing = s.flagPacketHasGoneMissing := by
  simp [noteMissingPackets, hs, hseq]

/-- Any other packet raises the missing packet flag. -/
theorem noteMissingPackets_gap {s : RTPDecoder} {seqNr : ℤ}
    (hfeed : s.feedIncompleteFrames = false) (hs : s.lastSequenceNumber ≠ -1)
    (hseq : seqNr ≠ (s.lastSequenceNumber + 1) % 65536) :
    (s.noteMissingPackets seqNr).flagPacketHasGoneMissing = true := by
  simp [noteMissingPackets, hs, hseq, hfeed]

/-! ### The NALU buffer -/

/-- The four byte start code. -/
def startCode : List UInt8 := [0, 0, 0, 1]

@[simp] theorem startCode_length : startCode.length = 4 := rfl

/-- A decoder whose buffer holds `bytes`. -/
def withNalu (s : RTPDecoder) (bytes : List UInt8) (h : bytes.length ≤ NALU_MAXLEN) :
    RTPDecoder :=
  { s with currNalu := ⟨bytes, h⟩ }

section WithNalu

variable {s : RTPDecoder} {bytes : List UInt8} {h : bytes.length ≤ NALU_MAXLEN}

@[simp] theorem withNalu_bytes : (s.withNalu bytes h).currNalu.bytes = bytes := rfl

@[simp] theorem withNalu_cb : (s.withNalu bytes h).cb = s.cb := rfl

@[simp] theorem withNalu_handed : (s.withNalu bytes h).handed = s.handed := rfl

@[simp] theorem withNalu_flag :
    (s.withNalu bytes h).flagPacketHasGoneMissing = s.flagPacketHasGoneMissing := rfl

@[simp] theorem withNalu_feed :
    (s.withNalu bytes h).feedIncompleteFrames = s.feedIncompleteFrames := rfl

@[simp] theorem withNalu_last :
    (s.withNalu bytes h).lastSequenceNumber = s.lastSequenceNumber := rfl

end WithNalu

/-- An append that fits. -/
theorem appendNaluData_fits {s : RTPDecoder} {data : List UInt8} {n : ℕ} (hn : n ≤ data.length)
    (hfull : s.currNalu.bytes.length < NALU_MAXLEN)
    (hfits : (s.currNalu.bytes ++ data.take n).length ≤ NALU_MAXLEN) :
    s.appendNaluData data n = .ok (s.withNalu (s.currNalu.bytes ++ data.take n) hfits) := by
  have hsum : s.currNalu.bytes.length + n ≤ NALU_MAXLEN := by
    simpa [Nat.min_eq_left hn] using hfits
  simp only [appendNaluData, NaluBuffer.length]
  rw [if_neg (by omega), if_neg (by omega), loadSlice_of_le hn, ok_bind, NaluBuffer.push,
    dif_pos hfits]
  rfl

/-- An append that does not fit is skipped. -/
theorem appendNaluData_skips {s : RTPDecoder} {data : List UInt8} {n : ℕ}
    (h : s.currNalu.bytes.length + n > NALU_MAXLEN) : s.appendNaluData data n = .ok s := if_pos h

/-- An append is safe unless it reads too far, or appends nothing to a full
buffer. -/
theorem appendNaluData_safe_iff {s : RTPDecoder} {data : List UInt8} {n : ℕ} :
    Safe (s.appendNaluData data n) ↔ s.currNalu.bytes.length + n > NALU_MAXLEN ∨
      s.currNalu.bytes.length < NALU_MAXLEN ∧ n ≤ data.length := by
  by_cases hskip : s.currNalu.bytes.length + n > NALU_MAXLEN
  · simp [appendNaluData_skips hskip, hskip]
  by_cases hfull : s.currNalu.bytes.length < NALU_MAXLEN
  · by_cases hn : n ≤ data.length
    · have hfits : (s.currNalu.bytes ++ data.take n).length ≤ NALU_MAXLEN := by
        rw [List.length_append, List.length_take, Nat.min_eq_left hn]
        omega
      simp [appendNaluData_fits hn hfull hfits, hfull, hn]
    · simp only [appendNaluData, NaluBuffer.length]
      rw [if_neg hskip, if_neg (by omega), loadSlice, if_neg hn]
      simp [hn, hskip]
  · simp only [appendNaluData, NaluBuffer.length]
    rw [if_neg hskip, if_pos (by omega)]
    simp [hskip, hfull]

/-- An append changes the buffer and nothing else. -/
theorem appendNaluData_frame {s s' : RTPDecoder} {data : List UInt8} {n : ℕ}
    (h : s.appendNaluData data n = .ok s') : s' = { s with currNalu := s'.currNalu } := by
  unfold appendNaluData at h
  split_ifs at h
  · obtain rfl := Except.ok.inj h
    rfl
  · obtain ⟨src, -, h⟩ := bind_eq_ok_iff.mp h
    obtain ⟨currNalu, -, h⟩ := bind_eq_ok_iff.mp h
    obtain rfl := Except.ok.inj h
    rfl

/-- An append that fits, to a buffer that is known. -/
theorem appendNaluData_withNalu {s : RTPDecoder} {bytes data : List UInt8} {n : ℕ}
    {h : bytes.length ≤ NALU_MAXLEN} (hn : n ≤ data.length) (hfull : bytes.length < NALU_MAXLEN)
    (hfits : (bytes ++ data.take n).length ≤ NALU_MAXLEN) :
    (s.withNalu bytes h).appendNaluData data n = .ok (s.withNalu (bytes ++ data.take n) hfits) :=
  appendNaluData_fits (s := s.withNalu bytes h) hn hfull hfits

/-- Appending a whole piece of data is safe unless it is empty and the buffer
is full. -/
theorem appendNaluData_all_safe_iff {s : RTPDecoder} {data : List UInt8} :
    Safe (s.appendNaluData data data.length) ↔
      (data = [] → s.currNalu.bytes.length < NALU_MAXLEN) := by
  have hfits := s.currNalu.fits
  rw [appendNaluData_safe_iff, ← List.length_eq_zero_iff]
  omega

theorem startCode_append_fits {data : List UInt8} (h : data.length + 4 ≤ NALU_MAXLEN) :
    (startCode ++ data).length ≤ NALU_MAXLEN := by
  rw [List.length_append, startCode_length]
  omega

theorem startCode_byte_fits (b : UInt8) : (startCode ++ [b]).length ≤ NALU_MAXLEN :=
  startCode_append_fits (by simp [NALU_MAXLEN])

/-- Writing the start code throws the buffer away. -/
theorem writeH264H265NaluStart_eq (s : RTPDecoder) :
    s.writeH264H265NaluStart true = .ok (s.withNalu startCode (by decide)) := by
  rfl

/-! ### Forwarding -/

theorem checkHasValidPrefix_startCode {data : List UInt8} (h : data ≠ []) :
    checkHasValidPrefix (startCode ++ data) true = true := by
  rcases data with - | ⟨b, data⟩
  · exact absurd rfl h
  · simp [checkHasValidPrefix, startCode]

/-- Without a start code in front, or with fewer than five bytes, nothing is
forwarded. -/
theorem checkHasValidPrefix_eq_false {bytes : List UInt8} (h : ¬ startCode <+: bytes) :
    checkHasValidPrefix bytes true = false := by
  by_contra hne
  refine h ⟨bytes.drop 4, ?_⟩
  simp only [checkHasValidPrefix, ↓reduceIte, Bool.not_eq_false] at hne
  split_ifs at hne
  have htake : bytes.take 4 = startCode := by simpa [startCode] using hne
  rw [← htake, List.take_append_drop]

theorem forwardNALU_valid {s : RTPDecoder} (hcb : s.cb = true)
    (h : checkHasValidPrefix s.currNalu.bytes true = true) :
    s.forwardNALU = { s with handed := s.handed ++ [s.currNalu.bytes] }.dropNalu := by
  simp [forwardNALU, hcb, h]

/-- Forwarding a buffer that holds `data` behind a start code. -/
theorem forwardNALU_withNalu (s : RTPDecoder) (hcb : s.cb = true) {bytes data : List UInt8}
    {h : bytes.length ≤ NALU_MAXLEN} (hbytes : bytes = startCode ++ data) (hne : data ≠ []) :
    (s.withNalu bytes h).forwardNALU.dropNalu =
      { s with handed := s.handed ++ [startCode ++ data] }.dropNalu := by
  subst hbytes
  rw [forwardNALU_valid (s := s.withNalu _ h) hcb (checkHasValidPrefix_startCode hne)]
  rfl

theorem forwardNALU_invalid {s : RTPDecoder} (hcb : s.cb = true)
    (h : checkHasValidPrefix s.currNalu.bytes true = false) : s.forwardNALU = s := by
  simp [forwardNALU, hcb, h]

/-- The decoder after handing `data` behind a start code to the callback. -/
def deliver (s : RTPDecoder) (data : List UInt8) : RTPDecoder :=
  { s with handed := s.handed ++ [startCode ++ data], flagPacketHasGoneMissing := false }.dropNalu

/-! ### H264 packets -/

/-- A whole NALU: everything after its first byte is one append. -/
theorem h264ReconstructAndForwardOneNalu_cons {s : RTPDecoder} {b : UInt8} {rest : List UInt8}
    {n : ℕ} (hn : 1 < n) :
    s.h264ReconstructAndForwardOneNalu (b :: rest) n =
      (s.clearMissingPacketFlag.withNalu (startCode ++ [b]) (startCode_byte_fits b)).appendNaluData
        rest (n - 1) >>= fun s' => .ok s'.forwardNALU.dropNalu := by
  unfold h264ReconstructAndForwardOneNalu
  simp only [require_of hn, ok_bind, load_cons_zero, naluHeader_rebuild,
    writeH264H265NaluStart_eq]
  rfl

theorem h264ReconstructAndForwardOneNalu_safe_iff {s : RTPDecoder} {data : List UInt8} {n : ℕ} :
    Safe (s.h264ReconstructAndForwardOneNalu data n) ↔
      1 < n ∧ data ≠ [] ∧ (n + 4 ≤ NALU_MAXLEN → n ≤ data.length) := by
  by_cases hn : 1 < n
  · rcases data with - | ⟨b, rest⟩
    · simp [h264ReconstructAndForwardOneNalu, require_of hn, load]
    · rw [h264ReconstructAndForwardOneNalu_cons hn, safe_bind_iff]
      simp only [safe_ok, and_true]
      rw [← Safe, appendNaluData_safe_iff, withNalu_bytes, List.length_append, startCode_length]
      simp only [NALU_MAXLEN, List.length_cons, List.length_nil, ne_eq, reduceCtorEq,
        not_false_eq_true, true_and]
      omega
  · simp [h264ReconstructAndForwardOneNalu, require, hn]

/-- A whole NALU that is read: one append, and what is in the buffer goes on. -/
theorem h264ReconstructAndForwardOneNalu_ok {s s' : RTPDecoder} {data : List UInt8} {n : ℕ}
    (h : s.h264ReconstructAndForwardOneNalu data n = .ok s') :
    ∃ b rest s₁, data = b :: rest ∧
      (s.clearMissingPacketFlag.withNalu (startCode ++ [b]) (startCode_byte_fits b)).appendNaluData
        rest (n - 1) = .ok s₁ ∧ s' = s₁.forwardNALU.dropNalu := by
  obtain ⟨h1, hne, -⟩ := h264ReconstructAndForwardOneNalu_safe_iff.mp ⟨s', h⟩
  rcases data with - | ⟨b, rest⟩
  · exact absurd rfl hne
  rw [h264ReconstructAndForwardOneNalu_cons h1, bind_eq_ok_iff] at h
  obtain ⟨s₁, happ, h⟩ := h
  exact ⟨b, rest, s₁, rfl, happ, (Except.ok.inj h).symm⟩

/-- A NALU of an aggregated packet that is read lies within the packet. -/
theorem h264ReconstructAndForwardOneNalu_le {s s' : RTPDecoder} {data : List UInt8} {n : ℕ}
    (hn : n < 65536) (h : s.h264ReconstructAndForwardOneNalu data n = .ok s') :
    n ≤ data.length := by
  refine (h264ReconstructAndForwardOneNalu_safe_iff.mp ⟨s', h⟩).2.2 ?_
  simp only [NALU_MAXLEN]
  omega

/-- A NALU that fits is delivered, whatever follows it in the datagram. -/
theorem h264ReconstructAndForwardOneNalu_nalu {s : RTPDecoder} (hcb : s.cb = true)
    {nalu rest : List UInt8} (h2 : 2 ≤ nalu.length) (hmax : nalu.length + 4 ≤ NALU_MAXLEN) :
    s.h264ReconstructAndForwardOneNalu (nalu ++ rest) nalu.length = .ok (s.deliver nalu) := by
  rcases nalu with - | ⟨b, tail⟩
  · simp at h2
  have hfits : (startCode ++ [b] ++ (tail ++ rest).take tail.length).length ≤ NALU_MAXLEN := by
    simpa [Nat.add_comm, Nat.add_left_comm] using hmax
  have h1 : 1 < (b :: tail).length := h2
  have happ : (s.clearMissingPacketFlag.withNalu (startCode ++ [b])
      (startCode_byte_fits b)).appendNaluData (tail ++ rest) tail.length =
        .ok (s.clearMissingPacketFlag.withNalu _ hfits) :=
    appendNaluData_withNalu (by simp) (by simp [NALU_MAXLEN]) hfits
  have hbytes : startCode ++ [b] ++ (tail ++ rest).take tail.length = startCode ++ b :: tail := by
    simp
  rw [List.cons_append, h264ReconstructAndForwardOneNalu_cons h1, List.length_cons,
    Nat.add_sub_cancel, happ, ok_bind,
    forwardNALU_withNalu s.clearMissingPacketFlag hcb hbytes (by simp)]
  rfl

/-- A STAP-A packet of NALUs that fit: all are delivered, in order. -/
theorem h264ForwardAggregated_units {s : RTPDecoder} (hcb : s.cb = true) {hdr : UInt8}
    {nalu : List UInt8} {nalus : List (List UInt8)}
    (h : ∀ v ∈ nalu :: nalus, 2 ≤ v.length ∧ v.length < 65536) :
    s.h264ForwardAggregated (hdr :: (nalu :: nalus).flatMap sized) =
      .ok ((nalu :: nalus).foldl deliver s) := by
  refine walk_units (I := fun s => s.cb = true) (by decide) nalus nalu _ s 0 hcb ?_ rfl ?_
  · intro v hv
    obtain ⟨h2, hlt⟩ := h v hv
    have hmax : v.length + 4 ≤ NALU_MAXLEN := by
      simp only [NALU_MAXLEN]
      omega
    exact ⟨by omega, hlt, fun s hs =>
      ⟨hs, fun rest => h264ReconstructAndForwardOneNalu_nalu hs h2 hmax⟩⟩
  · have := length_le_flatMap_sized (nalu :: nalus)
    simp only [List.length_cons] at this ⊢
    omega

/-! ### H264 fragments -/

/-- The NALU header that a FU-A packet stands for. -/
def h264FuNaluHeader (indicator fuHeader : UInt8) : UInt8 :=
  ((FuHeader.ofByte fuHeader).type &&& (0x1f : UInt8)) |||
    ((NaluHeader.ofByte indicator).nri <<< 5) ||| ((NaluHeader.ofByte indicator).f <<< 7)

section FuA

variable {s : RTPDecoder} {h : RtpHeader} {indicator fuHeader : UInt8} {frag : List UInt8}

theorem h264HandlePacket_fuEnd (hind : (NaluHeader.ofByte indicator).type = 28)
    (he : (FuHeader.ofByte fuHeader).e = 1) :
    s.h264HandlePacket ⟨h, indicator :: fuHeader :: frag⟩ =
      s.appendNaluData frag frag.length >>= fun s' =>
        .ok { (if !s'.flagPacketHasGoneMissing then s'.forwardNALU else s').dropNalu with
              totalNFragmentsForCurrentFu := 0 } := by
  simp [h264HandlePacket, h264HandleFuA, RTPPacket.getNALUHeaderH264, RTPPacket.getFuHeaderH264,
    RTPPacket.getFuPayloadH264, hind, he]
  rfl

theorem h264HandlePacket_fuStart (hind : (NaluHeader.ofByte indicator).type = 28)
    (he : (FuHeader.ofByte fuHeader).e ≠ 1) (hs : (FuHeader.ofByte fuHeader).s = 1) :
    s.h264HandlePacket ⟨h, indicator :: fuHeader :: frag⟩ =
      ({ s with totalNFragmentsForCurrentFu := 0 }.clearMissingPacketFlag.withNalu
        (startCode ++ [h264FuNaluHeader indicator fuHeader])
        (startCode_byte_fits _)).appendNaluData frag frag.length := by
  simp [h264HandlePacket, h264HandleFuA, RTPPacket.getNALUHeaderH264, RTPPacket.getFuHeaderH264,
    RTPPacket.getFuPayloadH264, hind, he, hs, writeH264H265NaluStart_eq]
  rfl

theorem h264HandlePacket_fuMiddle (hind : (NaluHeader.ofByte indicator).type = 28)
    (he : (FuHeader.ofByte fuHeader).e ≠ 1) (hs : (FuHeader.ofByte fuHeader).s ≠ 1) :
    s.h264HandlePacket ⟨h, indicator :: fuHeader :: frag⟩ =
      s.appendNaluData frag frag.length >>= fun s' =>
        .ok { s' with totalNFragmentsForCurrentFu := s'.totalNFragmentsForCurrentFu + 1 } := by
  simp [h264HandlePacket, h264HandleFuA, RTPPacket.getNALUHeaderH264, RTPPacket.getFuHeaderH264,
    RTPPacket.getFuPayloadH264, hind, he, hs]
  rfl

end FuA

theorem h264HandlePacket_single {s : RTPDecoder} {h : RtpHeader} {b : UInt8} {rest : List UInt8}
    (h0 : (NaluHeader.ofByte b).type > 0) (h24 : (NaluHeader.ofByte b).type < 24) :
    s.h264HandlePacket ⟨h, b :: rest⟩ =
      s.h264ReconstructAndForwardOneNalu (b :: rest) (b :: rest).length := by
  have h28 : (NaluHeader.ofByte b).type ≠ 28 := fun h => by
    rw [h] at h24
    exact absurd h24 (by decide)
  simp [h264HandlePacket, RTPPacket.getNALUHeaderH264, h0, h24, h28]

theorem h264HandlePacket_stapA {s : RTPDecoder} {h : RtpHeader} {b : UInt8} {rest : List UInt8}
    (h24 : (NaluHeader.ofByte b).type = 24) :
    s.h264HandlePacket ⟨h, b :: rest⟩ = s.h264ForwardAggregated (b :: rest) := by
  simp [h264HandlePacket, RTPPacket.getNALUHeaderH264, h24]

theorem h264HandlePacket_unsupported {s : RTPDecoder} {h : RtpHeader} {b : UInt8}
    {rest : List UInt8} (h28 : (NaluHeader.ofByte b).type ≠ 28)
    (h24 : (NaluHeader.ofByte b).type ≠ 24)
    (hsingle : ¬ ((NaluHeader.ofByte b).type > 0 ∧ (NaluHeader.ofByte b).type < 24)) :
    s.h264HandlePacket ⟨h, b :: rest⟩ = .ok s := by
  simp only [h264HandlePacket, RTPPacket.getNALUHeaderH264, List.length_cons, ge_iff_le,
    Nat.le_add_left, require_of, ok_bind, load_cons_zero]
  rw [show (pure (NaluHeader.ofByte b) : Exec NaluHeader) = .ok _ from rfl, ok_bind, if_neg h28,
    if_neg hsingle, if_neg h24]
  rfl

/-- What an H264 payload of at least two bytes makes of the decoder. -/
inductive H264Handled (s : RTPDecoder) (indicator fuHeader : UInt8) (frag : List UInt8) :
    RTPDecoder → Prop
  | fuEnd {s₁ : RTPDecoder} (happ : s.appendNaluData frag frag.length = .ok s₁) :
      H264Handled s indicator fuHeader frag
        { (if !s₁.flagPacketHasGoneMissing then s₁.forwardNALU else s₁).dropNalu with
          totalNFragmentsForCurrentFu := 0 }
  | fuStart {s₁ : RTPDecoder}
      (happ : ({ s with totalNFragmentsForCurrentFu := 0 }.clearMissingPacketFlag.withNalu
        (startCode ++ [h264FuNaluHeader indicator fuHeader])
        (startCode_byte_fits _)).appendNaluData frag frag.length = .ok s₁) :
      H264Handled s indicator fuHeader frag s₁
  | fuMiddle {s₁ : RTPDecoder} (happ : s.appendNaluData frag frag.length = .ok s₁) :
      H264Handled s indicator fuHeader frag
        { s₁ with totalNFragmentsForCurrentFu := s₁.totalNFragmentsForCurrentFu + 1 }
  | aggregated {s₁ : RTPDecoder}
      (h : s.h264ForwardAggregated (indicator :: fuHeader :: frag) = .ok s₁) :
      H264Handled s indicator fuHeader frag s₁
  | single {s₁ : RTPDecoder}
      (h : s.h264ReconstructAndForwardOneNalu (indicator :: fuHeader :: frag)
        (indicator :: fuHeader :: frag).length = .ok s₁) :
      H264Handled s indicator fuHeader frag s₁
  | unsupported : H264Handled s indicator fuHeader frag s

theorem h264HandlePacket_handled {s s' : RTPDecoder} {h : RtpHeader} {b₀ b₁ : UInt8}
    {rest : List UInt8} (hok : s.h264HandlePacket ⟨h, b₀ :: b₁ :: rest⟩ = .ok s') :
    H264Handled s b₀ b₁ rest s' := by
  by_cases h28 : (NaluHeader.ofByte b₀).type = 28
  · by_cases he : (FuHeader.ofByte b₁).e = 1
    · rw [h264HandlePacket_fuEnd h28 he, bind_eq_ok_iff] at hok
      obtain ⟨s₁, happ, hok⟩ := hok
      obtain rfl := Except.ok.inj hok
      exact .fuEnd happ
    by_cases hst : (FuHeader.ofByte b₁).s = 1
    · rw [h264HandlePacket_fuStart h28 he hst] at hok
      exact .fuStart hok
    · rw [h264HandlePacket_fuMiddle h28 he hst, bind_eq_ok_iff] at hok
      obtain ⟨s₁, happ, hok⟩ := hok
      obtain rfl := Except.ok.inj hok
      exact .fuMiddle happ
  by_cases h24 : (NaluHeader.ofByte b₀).type = 24
  · rw [h264HandlePacket_stapA h24] at hok
    exact .aggregated hok
  by_cases hsingle : (NaluHeader.ofByte b₀).type > 0 ∧ (NaluHeader.ofByte b₀).type < 24
  · rw [h264HandlePacket_single hsingle.1 hsingle.2] at hok
    exact .single hok
  · rw [h264HandlePacket_unsupported h28 h24 hsingle] at hok
    obtain rfl := Except.ok.inj hok
    exact .unsupported

/-! ### H265 packets -/

/-- A whole NALU that fits is delivered, whatever follows it in the
datagram. -/
theorem h265ForwardOneNalu_nalu {s : RTPDecoder} (hcb : s.cb = true) {nalu rest : List UInt8}
    (h1 : nalu ≠ []) (hmax : nalu.length + 4 ≤ NALU_MAXLEN) :
    s.h265ForwardOneNalu (nalu ++ rest) nalu.length true = .ok (s.deliver nalu) := by
  have hfits : (startCode ++ (nalu ++ rest).take nalu.length).length ≤ NALU_MAXLEN := by
    simpa [Nat.add_comm] using hmax
  have happ : (s.clearMissingPacketFlag.withNalu startCode (by decide)).appendNaluData
      (nalu ++ rest) nalu.length = .ok (s.clearMissingPacketFlag.withNalu _ hfits) :=
    appendNaluData_withNalu (by simp) (by decide) hfits
  have hbytes : startCode ++ (nalu ++ rest).take nalu.length = startCode ++ nalu := by simp
  simp only [h265ForwardOneNalu, writeH264H265NaluStart_eq, ok_bind, happ]
  rw [forwardNALU_withNalu s.clearMissingPacketFlag hcb hbytes h1]
  rfl

theorem h265ForwardOneNalu_safe_iff {s : RTPDecoder} {data : List UInt8} {n : ℕ} :
    Safe (s.h265ForwardOneNalu data n true) ↔ (n + 4 ≤ NALU_MAXLEN → n ≤ data.length) := by
  simp only [h265ForwardOneNalu, writeH264H265NaluStart_eq, ok_bind, safe_bind_iff, safe_pure,
    and_true]
  rw [← Safe, appendNaluData_safe_iff, withNalu_bytes, startCode_length]
  simp only [NALU_MAXLEN]
  omega

/-- A whole NALU that is read: one append, and what is in the buffer goes on. -/
theorem h265ForwardOneNalu_ok {s s' : RTPDecoder} {data : List UInt8} {n : ℕ}
    (h : s.h265ForwardOneNalu data n true = .ok s') :
    ∃ s₁, (s.clearMissingPacketFlag.withNalu startCode (by decide)).appendNaluData data n =
      .ok s₁ ∧ s' = s₁.forwardNALU.dropNalu := by
  simp only [h265ForwardOneNalu, writeH264H265NaluStart_eq, ok_bind, bind_eq_ok_iff] at h
  obtain ⟨s₁, happ, h⟩ := h
  exact ⟨s₁, happ, (Except.ok.inj h).symm⟩

/-- A NALU of an aggregation packet that is read lies within the packet. -/
theorem h265ForwardOneNalu_le {s s' : RTPDecoder} {data : List UInt8} {n : ℕ} (hn : n < 65536)
    (h : s.h265ForwardOneNalu data n true = .ok s') : n ≤ data.length := by
  refine h265ForwardOneNalu_safe_iff.mp ⟨s', h⟩ ?_
  simp only [NALU_MAXLEN]
  omega

/-- An aggregation packet of NALUs that fit: all are delivered, in order. -/
theorem h265ForwardAggregated_units {s : RTPDecoder} (hcb : s.cb = true) {hdr₀ hdr₁ : UInt8}
    {nalu : List UInt8} {nalus : List (List UInt8)}
    (h : ∀ v ∈ nalu :: nalus, v ≠ [] ∧ v.length < 65536) :
    s.h265ForwardAggregated (hdr₀ :: hdr₁ :: (nalu :: nalus).flatMap sized) =
      .ok ((nalu :: nalus).foldl deliver s) := by
  refine walk_units (I := fun s => s.cb = true) (by decide) nalus nalu _ s 0 hcb ?_ rfl ?_
  · intro v hv
    obtain ⟨h1, hlt⟩ := h v hv
    have hmax : v.length + 4 ≤ NALU_MAXLEN := by
      simp only [NALU_MAXLEN]
      omega
    exact ⟨by omega, hlt, fun s hs => ⟨hs, fun rest => h265ForwardOneNalu_nalu hs h1 hmax⟩⟩
  · have := length_le_flatMap_sized (nalu :: nalus)
    simp only [List.length_cons] at this ⊢
    omega

/-! ### H265 fragments -/

/-- The two NALU header bytes that a FU packet stands for. -/
def h265FuNaluHeader (hdr₀ hdr₁ fuHeader : UInt8) : List UInt8 :=
  [((fuHeader &&& (0x3f : UInt8)) <<< 1) ||| (hdr₀ &&& (0x81 : UInt8)), hdr₁]

theorem h265FuNaluHeader_fits (hdr₀ hdr₁ fuHeader : UInt8) :
    (startCode ++ h265FuNaluHeader hdr₀ hdr₁ fuHeader).length ≤ NALU_MAXLEN :=
  startCode_append_fits (by simp [h265FuNaluHeader, NALU_MAXLEN])

section Fu

variable {s : RTPDecoder} {h : RtpHeader} {hdr₀ hdr₁ fuHeader : UInt8} {frag : List UInt8}

theorem h265HandlePacket_fuEnd (htype : nalUnitTypeH265 hdr₀ = 49)
    (he : (FuHeaderH265.ofByte fuHeader).e ≠ 0) :
    s.h265HandlePacket ⟨h, hdr₀ :: hdr₁ :: fuHeader :: frag⟩ =
      s.appendNaluData frag frag.length >>= fun s' => .ok s'.forwardNALU.dropNalu := by
  simp [h265HandlePacket, h265HandleFu, RTPPacket.getNALUTypeH265, RTPPacket.getFuHeaderH265,
    RTPPacket.getFuPayloadH265, htype, he]
  rfl

theorem h265HandlePacket_fuStart (htype : nalUnitTypeH265 hdr₀ = 49)
    (he : (FuHeaderH265.ofByte fuHeader).e = 0) (hs : (FuHeaderH265.ofByte fuHeader).s ≠ 0) :
    s.h265HandlePacket ⟨h, hdr₀ :: hdr₁ :: fuHeader :: frag⟩ =
      (s.clearMissingPacketFlag.withNalu (startCode ++ h265FuNaluHeader hdr₀ hdr₁ fuHeader)
        (h265FuNaluHeader_fits _ _ _)).appendNaluData frag frag.length := by
  simp [h265HandlePacket, h265HandleFu, RTPPacket.getNALUTypeH265, RTPPacket.getFuHeaderH265,
    RTPPacket.getFuPayloadH265, htype, he, hs, writeH264H265NaluStart_eq]
  rfl

theorem h265HandlePacket_fuMiddle (htype : nalUnitTypeH265 hdr₀ = 49)
    (he : (FuHeaderH265.ofByte fuHeader).e = 0) (hs : (FuHeaderH265.ofByte fuHeader).s = 0) :
    s.h265HandlePacket ⟨h, hdr₀ :: hdr₁ :: fuHeader :: frag⟩ =
      s.appendNaluData frag frag.length := by
  simp [h265HandlePacket, h265HandleFu, RTPPacket.getNALUTypeH265, RTPPacket.getFuHeaderH265,
    RTPPacket.getFuPayloadH265, htype, he, hs]

end Fu

theorem h265HandlePacket_single {s : RTPDecoder} {h : RtpHeader} {b₀ b₁ : UInt8}
    {rest : List UInt8} (h50 : ¬ nalUnitTypeH265 b₀ > 50) (h48 : nalUnitTypeH265 b₀ ≠ 48)
    (h49 : nalUnitTypeH265 b₀ ≠ 49) :
    s.h265HandlePacket ⟨h, b₀ :: b₁ :: rest⟩ =
      s.h265ForwardOneNalu (b₀ :: b₁ :: rest) (b₀ :: b₁ :: rest).length true := by
  simp [h265HandlePacket, RTPPacket.getNALUTypeH265, h50, h48, h49]

theorem h265HandlePacket_ap {s : RTPDecoder} {h : RtpHeader} {b₀ b₁ : UInt8} {rest : List UInt8}
    (h48 : nalUnitTypeH265 b₀ = 48) :
    s.h265HandlePacket ⟨h, b₀ :: b₁ :: rest⟩ = s.h265ForwardAggregated (b₀ :: b₁ :: rest) := by
  simp [h265HandlePacket, RTPPacket.getNALUTypeH265, h48]

theorem h265HandlePacket_unsupported {s : RTPDecoder} {h : RtpHeader} {b₀ b₁ : UInt8}
    {rest : List UInt8} (h50 : nalUnitTypeH265 b₀ > 50) :
    s.h265HandlePacket ⟨h, b₀ :: b₁ :: rest⟩ = .ok s := by
  simp [h265HandlePacket, RTPPacket.getNALUTypeH265, h50]
  rfl

end RTPDecoder

end QOpenHD
