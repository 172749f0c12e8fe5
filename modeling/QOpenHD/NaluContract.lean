/-
QOpenHD/NaluContract.lean

Whether the buffers that the RTP parser hands to its callback pass the asserts
of the `NALU` constructor, with which `RTPReceiver::queue_data` begins.

The system: a decoder with a callback that is fed the datagrams of one codec
(`udpRawDataCallback`).  The parser hands a buffer over when it has five bytes
and begins with the long start code.  This is what an H264 NALU needs, and one
byte less than an H265 NALU needs.

Two packets can leave a buffer of just five bytes behind (`KeepsContract`):

* an H265 aggregation packet with a NALU of one byte;
* the end of an H265 fragmentation unit whose beginning was lost, if the
  fragments that did arrive are a start code and one byte.

**`handed_valid_iff`**: everything handed over in a run is a valid NALU exactly
if no datagram of the run is one of these.
-/
import QOpenHD.Depacketize

namespace QOpenHD

open Checked SizePrefixed

namespace RTPDecoder

/-- `RTPReceiver::udp_raw_data_callback` -/
def udpRawDataCallback (isH265 : Bool) (s : RTPDecoder) (payload : List UInt8) :
    Exec RTPDecoder :=
  if isH265 then s.parseRTPH265toNALU payload else s.parseRTPH264toNALU payload

/-! ### Handing over -/

/-- What is handed over of a buffer. -/
def forwarded (bytes : List UInt8) : List (List UInt8) :=
  if checkHasValidPrefix bytes true then [bytes] else []

/-- Forwarding hands the buffer over, if it is one. -/
theorem forwardNALU_forwarded {s : RTPDecoder} (hcb : s.cb = true) :
    s.forwardNALU.dropNalu.cb = true ∧
      s.forwardNALU.dropNalu.handed = s.handed ++ forwarded s.currNalu.bytes := by
  by_cases h : checkHasValidPrefix s.currNalu.bytes true = true
  · rw [forwardNALU_valid hcb h]
    exact ⟨hcb, by simp [forwarded, h, dropNalu]⟩
  · rw [forwardNALU_invalid hcb (by simpa using h)]
    exact ⟨hcb, by simp [forwarded, h, dropNalu]⟩

theorem checkHasValidPrefix_iff {bytes : List UInt8} :
    checkHasValidPrefix bytes true = true ↔ startCode <+: bytes ∧ 5 ≤ bytes.length := by
  rw [List.prefix_iff_eq_take]
  by_cases h : bytes.length < 5
  · simp [checkHasValidPrefix, h]
  · simp only [checkHasValidPrefix, if_neg h, ↓reduceIte, beq_iff_eq, Nat.not_lt.mp h, and_true]
    exact eq_comm

/-- A buffer that is handed over has a valid prefix and five bytes. -/
theorem forwarded_valid {bytes data : List UInt8} (h : data ∈ forwarded bytes) :
    NALU.hasValidPrefix data = true ∧ 5 ≤ data.length := by
  unfold forwarded at h
  split_ifs at h with hvalid
  · obtain rfl := List.mem_singleton.mp h
    obtain ⟨hpre, hlen⟩ := checkHasValidPrefix_iff.mp hvalid
    have htake : data.take 4 = startCode := (List.prefix_iff_eq_take.mp hpre).symm
    exact ⟨by simp [NALU.hasValidPrefix, NALU.hasValidPrefixLong, htake, startCode], hlen⟩
  · cases h

/-- What is handed over of a buffer is a valid H265 NALU, except for a start
code and one byte. -/
theorem forwarded_valid_iff {bytes : List UInt8} :
    (∀ data ∈ forwarded bytes, Safe (NALU.ofData data true)) ↔
      ¬ (startCode <+: bytes ∧ bytes.length = 5) := by
  simp only [NALU.safe_ofData_iff, NALU.getMinimumNaluSize, ↓reduceIte]
  by_cases hvalid : checkHasValidPrefix bytes true = true
  · obtain ⟨hpre, hlen⟩ := checkHasValidPrefix_iff.mp hvalid
    have hmem : bytes ∈ forwarded bytes := by simp [forwarded, hvalid]
    constructor
    · rintro h ⟨-, h5⟩
      have := (h bytes hmem).2
      omega
    · intro h data hdata
      obtain ⟨hp, hlen'⟩ := forwarded_valid hdata
      obtain rfl : data = bytes := by simpa [forwarded, hvalid] using hdata
      have hne : data.length ≠ 5 := fun h5 => h ⟨hpre, h5⟩
      exact ⟨hp, by omega⟩
  · have hnil : forwarded bytes = [] := by simp [forwarded, hvalid]
    rw [hnil]
    refine ⟨fun _ h => hvalid (checkHasValidPrefix_iff.mpr ⟨h.1, by omega⟩), fun _ _ h => ?_⟩
    cases h

/-- Appending changes the buffer and nothing else. -/
theorem appendNaluData_eq_ok {s s' : RTPDecoder} {data : List UInt8} {n : ℕ}
    (h : s.appendNaluData data n = .ok s') (hn : n ≤ data.length) :
    s'.currNalu.bytes = appended s.currNalu.bytes (data.take n) ∧ s'.handed = s.handed ∧
      s'.cb = s.cb := by
  have hlen : (data.take n).length = n := by simp [hn]
  by_cases hskip : s.currNalu.bytes.length + n > NALU_MAXLEN
  · rw [appendNaluData_skips hskip] at h
    obtain rfl := Except.ok.inj h
    exact ⟨by rw [appended, hlen, if_pos hskip], rfl, rfl⟩
  · obtain hover | ⟨hfull, -⟩ := appendNaluData_safe_iff.mp ⟨s', h⟩
    · exact absurd hover hskip
    have hfits : (s.currNalu.bytes ++ data.take n).length ≤ NALU_MAXLEN := by
      rw [List.length_append, hlen]
      omega
    rw [appendNaluData_fits hn hfull hfits] at h
    obtain rfl := Except.ok.inj h
    exact ⟨by rw [appended, hlen, if_neg hskip, withNalu_bytes], rfl, rfl⟩

/-- Appending a whole piece of data. -/
theorem appendNaluData_all_eq_ok {s s' : RTPDecoder} {data : List UInt8}
    (h : s.appendNaluData data data.length = .ok s') :
    s'.currNalu.bytes = appended s.currNalu.bytes data ∧ s'.handed = s.handed ∧ s'.cb = s.cb := by
  simpa using appendNaluData_eq_ok h (Nat.le_refl _)

/-! ### H264 -/

/-- Everything handed over so far has a valid prefix and five bytes. -/
def HandedLong (s : RTPDecoder) : Prop :=
  s.cb = true ∧ ∀ data ∈ s.handed, NALU.hasValidPrefix data = true ∧ 5 ≤ data.length

theorem HandedLong.of_eq {s s' : RTPDecoder} (hs : HandedLong s) (hcb : s'.cb = s.cb)
    (hhanded : s'.handed = s.handed) : HandedLong s' :=
  ⟨hcb.trans hs.1, fun data hdata => hs.2 data (hhanded ▸ hdata)⟩

theorem HandedLong.append {s : RTPDecoder} (hs : HandedLong s) {data : List UInt8} {n : ℕ}
    {s' : RTPDecoder} (h : s.appendNaluData data n = .ok s') (hn : n ≤ data.length) :
    HandedLong s' :=
  hs.of_eq (appendNaluData_eq_ok h hn).2.2 (appendNaluData_eq_ok h hn).2.1

/-- Forwarding hands over nothing shorter. -/
theorem HandedLong.forward {s : RTPDecoder} (hs : HandedLong s) :
    HandedLong s.forwardNALU.dropNalu := by
  obtain ⟨hcb, hhanded⟩ := forwardNALU_forwarded hs.1
  refine ⟨hcb, fun data hdata => ?_⟩
  rw [hhanded, List.mem_append] at hdata
  rcases hdata with hdata | hdata
  · exact hs.2 data hdata
  · exact forwarded_valid hdata

/-- A whole NALU of a single or an aggregated packet. -/
theorem HandedLong.h264One {s s' : RTPDecoder} (hs : HandedLong s) {data : List UInt8} {n : ℕ}
    (hn : n ≤ data.length) (h : s.h264ReconstructAndForwardOneNalu data n = .ok s') :
    HandedLong s' := by
  obtain ⟨b, rest, s₁, rfl, happ, rfl⟩ := h264ReconstructAndForwardOneNalu_ok h
  have hstart : HandedLong (s.clearMissingPacketFlag.withNalu (startCode ++ [b])
      (startCode_byte_fits b)) := hs.of_eq rfl rfl
  exact (hstart.append happ (by simp at hn; omega)).forward

theorem HandedLong.h264Aggregated {s s' : RTPDecoder} (hs : HandedLong s) {payload : List UInt8}
    (h : s.h264ForwardAggregated payload = .ok s') : HandedLong s' := by
  refine walk_invariant (I := HandedLong) (fun s data size s' hs hsize h => ?_) _ s 0 s' hs h
  exact hs.h264One (h264ReconstructAndForwardOneNalu_le hsize h) h

/-- An H264 payload of at least two bytes. -/
theorem HandedLong.h264Handle {s s' : RTPDecoder} (hs : HandedLong s) {h : RtpHeader}
    {b₀ b₁ : UInt8} {rest : List UInt8}
    (hok : s.h264HandlePacket ⟨h, b₀ :: b₁ :: rest⟩ = .ok s') : HandedLong s' := by
  cases h264HandlePacket_handled hok with
  | fuEnd happ =>
      have hs₁ := hs.append happ (Nat.le_refl _)
      split
      · exact hs₁.forward.of_eq rfl rfl
      · exact hs₁.of_eq rfl rfl
  | fuStart happ =>
      have hstart : HandedLong ({ s with totalNFragmentsForCurrentFu := 0 }
        |>.clearMissingPacketFlag.withNalu (startCode ++ [h264FuNaluHeader b₀ b₁])
          (startCode_byte_fits _)) := hs.of_eq rfl rfl
      exact hstart.append happ (Nat.le_refl _)
  | fuMiddle happ => exact (hs.append happ (Nat.le_refl _)).of_eq rfl rfl
  | aggregated h => exact hs.h264Aggregated h
  | single h => exact hs.h264One (Nat.le_refl _) h
  | unsupported => exact hs

/-! ### H265 -/

/-- What an H265 payload makes the parser hand over while its buffer
holds `b`. -/
def handsOverH265 (b : NaluBuffer) : List UInt8 → List (List UInt8)
  | hdr₀ :: hdr₁ :: rest =>
    if nalUnitTypeH265 hdr₀ > 50 then []
    else if nalUnitTypeH265 hdr₀ = 48 then
      (unitsIn 2 rest.length rest).flatMap fun unit => forwarded (startCode ++ unit)
    else if nalUnitTypeH265 hdr₀ = 49 then
      match rest with
      | fuHeader :: frag =>
        if (FuHeaderH265.ofByte fuHeader).e ≠ 0 then forwarded (appended b.bytes frag) else []
      | [] => []
    else forwarded (appended startCode (hdr₀ :: hdr₁ :: rest))
  | _ => []

/-- One NALU: it is handed over behind a start code. -/
theorem h265ForwardOneNalu_eq_ok {s s' : RTPDecoder} {data : List UInt8} {n : ℕ}
    (hcb : s.cb = true) (hn : n ≤ data.length)
    (h : s.h265ForwardOneNalu data n true = .ok s') :
    s'.cb = true ∧
      s'.handed = s.handed ++ forwarded (appended startCode (data.take n)) := by
  obtain ⟨s₁, happ, rfl⟩ := h265ForwardOneNalu_ok h
  obtain ⟨hbytes, hhanded, hcb₁⟩ := appendNaluData_eq_ok happ hn
  obtain ⟨hcb', hforward⟩ := forwardNALU_forwarded (s := s₁) (hcb₁.trans hcb)
  refine ⟨hcb', ?_⟩
  rw [hforward, hhanded, hbytes]
  rfl

theorem h265ForwardAggregated_eq_ok {s s' : RTPDecoder} {hdr₀ hdr₁ : UInt8} {rest : List UInt8}
    (hcb : s.cb = true) (h : s.h265ForwardAggregated (hdr₀ :: hdr₁ :: rest) = .ok s') :
    s'.cb = true ∧ s'.handed = s.handed ++
      (unitsIn 2 rest.length rest).flatMap fun unit => forwarded (startCode ++ unit) := by
  refine walk_log (I := fun s => s.cb = true) (L := handed) (by decide) ?_ _ s 0 _ s' hcb
    (Nat.le_refl _) h
  intro s data size s' hcb hsize h
  have hle : size ≤ data.length := h265ForwardOneNalu_le hsize h
  obtain ⟨hcb', hhanded⟩ := h265ForwardOneNalu_eq_ok hcb hle h
  refine ⟨hcb', hle, ?_⟩
  have happ : appended startCode (data.take size) = startCode ++ data.take size := by
    refine if_neg ?_
    simp only [startCode_length, List.length_take, NALU_MAXLEN]
    omega
  rw [hhanded, happ]

/-- An H265 payload of at least three bytes. -/
theorem h265HandlePacket_eq_ok {s s' : RTPDecoder} {h : RtpHeader} {b₀ b₁ b₂ : UInt8}
    {rest : List UInt8} (hcb : s.cb = true)
    (hok : s.h265HandlePacket ⟨h, b₀ :: b₁ :: b₂ :: rest⟩ = .ok s') :
    s'.cb = true ∧
      s'.handed = s.handed ++ handsOverH265 s.currNalu (b₀ :: b₁ :: b₂ :: rest) := by
  dsimp only [handsOverH265]
  by_cases h50 : nalUnitTypeH265 b₀ > 50
  · rw [h265HandlePacket_unsupported h50] at hok
    obtain rfl := Except.ok.inj hok
    rw [if_pos h50, List.append_nil]
    exact ⟨hcb, rfl⟩
  by_cases h48 : nalUnitTypeH265 b₀ = 48
  · rw [h265HandlePacket_ap h48] at hok
    rw [if_neg h50, if_pos h48]
    exact h265ForwardAggregated_eq_ok hcb hok
  rw [if_neg h50, if_neg h48]
  by_cases h49 : nalUnitTypeH265 b₀ = 49
  · rw [if_pos h49]
    by_cases he : (FuHeaderH265.ofByte b₂).e = 0
    · rw [if_neg (not_not.mpr he), List.append_nil]
      by_cases hs : (FuHeaderH265.ofByte b₂).s = 0
      · rw [h265HandlePacket_fuMiddle h49 he hs] at hok
        obtain ⟨-, hhanded, hcb'⟩ := appendNaluData_all_eq_ok hok
        exact ⟨hcb'.trans hcb, hhanded⟩
      · rw [h265HandlePacket_fuStart h49 he hs] at hok
        obtain ⟨-, hhanded, hcb'⟩ := appendNaluData_all_eq_ok hok
        exact ⟨hcb'.trans hcb, hhanded⟩
    · rw [if_pos he]
      rw [h265HandlePacket_fuEnd h49 he, bind_eq_ok_iff] at hok
      obtain ⟨s₁, happ, hok⟩ := hok
      obtain rfl := Except.ok.inj hok
      obtain ⟨hbytes, hhanded, hcb₁⟩ := appendNaluData_all_eq_ok happ
      rw [← hbytes, ← hhanded]
      exact forwardNALU_forwarded (hcb₁.trans hcb)
  · rw [h265HandlePacket_single h50 h48 h49] at hok
    rw [if_neg h49]
    simpa using h265ForwardOneNalu_eq_ok hcb (Nat.le_refl _) hok

/-! ### The condition -/

/-- What the contract needs of an H265 payload while the parser's buffer
holds `b`. -/
def PayloadKeepsContract (b : NaluBuffer) : List UInt8 → Prop
  | hdr :: _ :: rest =>
    -- AP: no NALU of one byte
    (nalUnitTypeH265 hdr = 48 → ∀ unit ∈ unitsIn 2 rest.length rest, unit.length ≠ 1) ∧
    -- FU: at its end the buffer is not a start code and one byte
    (nalUnitTypeH265 hdr = 49 → ∀ fuHeader frag, rest = fuHeader :: frag →
      (FuHeaderH265.ofByte fuHeader).e ≠ 0 →
      ¬ (startCode <+: appended b.bytes frag ∧ (appended b.bytes frag).length = 5))
  | _ => True

/-- What the contract needs of a datagram: it is H264, or left alone by the
parser, or has a good payload. -/
def KeepsContract (isH265 : Bool) (s : RTPDecoder) (rtpData : List UInt8) : Prop :=
  isH265 = true → rtpData.length ≤ rtpHeaderSize + 2 ∨
    (rtpSequence rtpData : ℤ) = s.lastSequenceNumber ∨
      PayloadKeepsContract s.currNalu (rtpData.drop rtpHeaderSize)

/-- A payload of at least three bytes. -/
theorem handsOverH265_valid_iff {b : NaluBuffer} {b₀ b₁ b₂ : UInt8} {rest : List UInt8} :
    (∀ data ∈ handsOverH265 b (b₀ :: b₁ :: b₂ :: rest), Safe (NALU.ofData data true)) ↔
      PayloadKeepsContract b (b₀ :: b₁ :: b₂ :: rest) := by
  dsimp only [handsOverH265, PayloadKeepsContract]
  by_cases h50 : nalUnitTypeH265 b₀ > 50
  · have h48 : nalUnitTypeH265 b₀ ≠ 48 := fun h => absurd (h ▸ h50) (by decide)
    have h49 : nalUnitTypeH265 b₀ ≠ 49 := fun h => absurd (h ▸ h50) (by decide)
    simp [h50, h48, h49]
  rw [if_neg h50]
  by_cases h48 : nalUnitTypeH265 b₀ = 48
  · have hone (unit : List UInt8) :
        (∀ data ∈ forwarded (startCode ++ unit), Safe (NALU.ofData data true)) ↔
          unit.length ≠ 1 := by
      rw [forwarded_valid_iff, List.length_append, startCode_length]
      simp [Nat.add_comm 4]
    have h49 : nalUnitTypeH265 b₀ ≠ 49 := by
      rw [h48]
      decide
    simp only [h48, ↓reduceIte, List.mem_flatMap, forall_exists_index, and_imp, true_imp_iff]
    rw [← h48]
    simp only [h49, false_imp_iff, and_true, ← hone]
    exact ⟨fun h unit hunit data hdata => h data unit hunit hdata,
      fun h data unit hunit hdata => h unit hunit data hdata⟩
  rw [if_neg h48]
  by_cases h49 : nalUnitTypeH265 b₀ = 49
  · rw [if_pos h49]
    by_cases he : (FuHeaderH265.ofByte b₂).e ≠ 0
    · rw [if_pos he, forwarded_valid_iff]
      constructor
      · rintro h
        refine ⟨fun h => absurd h h48, fun _ fuHeader frag hrest _ => ?_⟩
        obtain ⟨-, rfl⟩ := List.cons.inj hrest
        exact h
      · exact fun h => h.2 h49 b₂ rest rfl he
    · rw [if_neg he]
      refine ⟨fun _ => ⟨fun h => absurd h h48, fun _ fuHeader frag hrest he' => ?_⟩, nofun⟩
      obtain ⟨rfl, -⟩ := List.cons.inj hrest
      exact absurd he' he
  · rw [if_neg h49, forwarded_valid_iff]
    refine iff_of_true (fun h => ?_) ⟨fun h => absurd h h48, fun h => absurd h h49⟩
    -- the start code alone, or with three bytes and more
    have hlen := h.2
    unfold appended at hlen
    split at hlen <;> simp [startCode] at hlen

/-! ### Datagrams -/

/-- A datagram is left alone, or its payload is handled with the same buffer. -/
theorem parseRTPtoNALU_eq_ok {s s' : RTPDecoder} {rtpData : List UInt8} {extra : ℕ}
    {handlePacket : RTPDecoder → RTPPacket → Exec RTPDecoder}
    (h : s.parseRTPtoNALU (rtpHeaderSize + extra) handlePacket rtpData = .ok s') :
    s' = s ∧ (rtpData.length ≤ rtpHeaderSize + extra ∨
        (rtpSequence rtpData : ℤ) = s.lastSequenceNumber) ∨
      (extra < (rtpData.drop rtpHeaderSize).length ∧
        (rtpSequence rtpData : ℤ) ≠ s.lastSequenceNumber) ∧
      ∃ s₁ hdr, s₁.currNalu = s.currNalu ∧ s₁.handed = s.handed ∧ s₁.cb = s.cb ∧
        handlePacket s₁ ⟨hdr, rtpData.drop rtpHeaderSize⟩ = .ok s' := by
  unfold parseRTPtoNALU at h
  by_cases hshort : rtpData.length ≤ rtpHeaderSize + extra
  · rw [if_pos hshort] at h
    exact .inl ⟨(Except.ok.inj h).symm, .inl hshort⟩
  rw [if_neg hshort, rtpPacket_ofData (by omega)] at h
  split at h
  · rw [ok_bind] at h
    by_cases hseq : (rtpSequence rtpData : ℤ) = s.lastSequenceNumber
    · rw [validateRTPPacket_repeated hseq] at h
      exact .inl ⟨(Except.ok.inj h).symm, .inr hseq⟩
    · rw [validateRTPPacket_accepted hseq] at h
      obtain ⟨hnalu, hhanded, hcb, -⟩ := s.noteMissingPackets_frame (rtpSequence rtpData)
      have hlen : extra < (rtpData.drop rtpHeaderSize).length := by
        rw [List.length_drop]
        omega
      exact .inr ⟨⟨hlen, hseq⟩,
        { s.noteMissingPackets (rtpSequence rtpData) with
          lastSequenceNumber := rtpSequence rtpData },
        _, hnalu, hhanded, hcb, h⟩
  · cases h

/-- **One datagram** for an H264 receiver hands over valid NALUs only. -/
theorem HandedLong.step {s s' : RTPDecoder} (hs : HandedLong s) {rtpData : List UInt8}
    (h : s.udpRawDataCallback false rtpData = .ok s') : HandedLong s' := by
  obtain ⟨rfl, -⟩ | ⟨⟨hlen, -⟩, s₁, hdr, -, hhanded, hcb, h⟩ := parseRTPtoNALU_eq_ok h
  · exact hs
  rcases hp : rtpData.drop rtpHeaderSize with - | ⟨b₀, - | ⟨b₁, rest⟩⟩
  iterate 2
    rw [hp] at hlen
    simp at hlen
  rw [hp] at h
  exact (hs.of_eq hcb hhanded).h264Handle h

/-- **One datagram** for an H265 receiver hands over valid NALUs only, exactly
if it keeps the contract. -/
theorem handed_valid_step {s s' : RTPDecoder} (hs : s.cb = true) {rtpData : List UInt8}
    (h : s.udpRawDataCallback true rtpData = .ok s') :
    s'.cb = true ∧ ((∀ data ∈ s'.handed, Safe (NALU.ofData data true)) ↔
      (∀ data ∈ s.handed, Safe (NALU.ofData data true)) ∧ KeepsContract true s rtpData) := by
  obtain ⟨rfl, hleft⟩ | ⟨⟨hlen, hseq⟩, s₁, hdr, hnalu, hhanded, hcb, h⟩ := parseRTPtoNALU_eq_ok h
  · have hkeeps : KeepsContract true s' rtpData := fun _ => hleft.imp_right .inl
    exact ⟨hs, by simp only [hkeeps, and_true]⟩
  have hkeeps : KeepsContract true s rtpData ↔
      PayloadKeepsContract s.currNalu (rtpData.drop rtpHeaderSize) := by
    have hshort : ¬ rtpData.length ≤ rtpHeaderSize + 2 := by
      rw [List.length_drop] at hlen
      omega
    simp [KeepsContract, hshort, hseq]
  rcases hp : rtpData.drop rtpHeaderSize with - | ⟨b₀, - | ⟨b₁, - | ⟨b₂, rest⟩⟩⟩
  iterate 3
    rw [hp] at hlen
    simp at hlen
  rw [hp] at h
  obtain ⟨hcb', hhanded'⟩ := h265HandlePacket_eq_ok (hcb.trans hs) h
  refine ⟨hcb', ?_⟩
  rw [hkeeps, hp, ← handsOverH265_valid_iff, hhanded', hhanded, hnalu]
  exact List.forall_mem_append

/-! ### Runs -/

/-- **The contract**: a receiver's parser has handed over valid NALUs only,
exactly if every datagram kept the contract when it arrived. -/
theorem handed_valid_iff (isH265 feedIncompleteFrames : Bool) (datagrams : List (List UInt8))
    {s : RTPDecoder}
    (h : run (udpRawDataCallback isH265) (new true feedIncompleteFrames) datagrams = .ok s) :
    (∀ data ∈ s.handed, Safe (NALU.ofData data isH265)) ↔
      EveryStep (KeepsContract isH265) (udpRawDataCallback isH265)
        (new true feedIncompleteFrames) datagrams := by
  cases isH265 with
  | false =>
      have hlong : HandedLong s :=
        run_invariant (I := HandedLong) (fun s i s' hs => hs.step)
          ⟨rfl, fun _ hdata => absurd hdata List.not_mem_nil⟩ h
      have hkeeps : ∀ s rtpData, KeepsContract false s rtpData := fun _ _ h => nomatch h
      refine iff_of_true (fun data hdata => ?_) (everyStep_of_forall hkeeps _ _)
      exact NALU.safe_ofData_iff.mpr (hlong.2 data hdata)
  | true =>
      have hnone : ∀ data ∈ (new true feedIncompleteFrames).handed,
          Safe (NALU.ofData data true) := fun _ hdata => absurd hdata List.not_mem_nil
      have hrun := run_keeps_iff_everyStep (I := fun s => s.cb = true)
        (J := fun s => ∀ data ∈ s.handed, Safe (NALU.ofData data true))
        (P := KeepsContract true) (fun s i s' hs hi => handed_valid_step hs hi) rfl h
      exact hrun.trans (and_iff_right hnone)

/-- A VPS of three bytes in a single packet. -/
theorem handed_valid_iff_vps :
    ∃ s, run (udpRawDataCallback true) (new true false)
        [[0x80, 96, 0, 1, 0, 0, 0, 0, 0, 0, 0, 0, 0x40, 1, 12]] = .ok s ∧
      ((∀ data ∈ s.handed, Safe (NALU.ofData data true)) ↔
        EveryStep (KeepsContract true) (udpRawDataCallback true) (new true false)
          [[0x80, 96, 0, 1, 0, 0, 0, 0, 0, 0, 0, 0, 0x40, 1, 12]]) :=
  ⟨_, rfl, handed_valid_iff true false _ rfl⟩

/-- An aggregation packet with a NALU of one byte: the buffer handed over has
no room for an H265 header. -/
theorem one_byte_nalu_handed :
    ¬ ∀ (isH265 feedIncompleteFrames : Bool) (datagrams : List (List UInt8)) (s : RTPDecoder),
        run (udpRawDataCallback isH265) (new true feedIncompleteFrames) datagrams = .ok s →
        ∀ data ∈ s.handed, Safe (NALU.ofData data isH265) := by
  intro h
  have hvalid := h true false [[0x80, 96, 0, 1, 0, 0, 0, 0, 0, 0, 0, 0, 0x60, 1, 0, 1, 0x42]] _ rfl
    [0, 0, 0, 1, 0x42] (by exact List.mem_singleton.mpr rfl)
  exact absurd (NALU.safe_ofData_iff.mp hvalid).2 (by decide)

end RTPDecoder

end QOpenHD
