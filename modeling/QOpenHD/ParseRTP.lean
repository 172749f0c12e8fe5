/-
QOpenHD/ParseRTP.lean

`RTPDecoder` (`ParseRTP.h`, `ParseRTP.cpp`), function by function.

State.  `m_curr_nalu` is an array of `NALU_MAXLEN` bytes of which the first
`m_nalu_data_length` count; `NaluBuffer` is that part of it, and the bytes
behind it are never read.  The callback `m_cb` becomes a log of what it has
been handed.  Time stamps and log output are left out.

Every function that touches the datagram or the buffer returns an `Exec`:
reading past the end of the datagram, writing past the end of the buffer, a
failing assert and a throwing `std::array::at` are faults.
-/
import QOpenHD.Nalu
import QOpenHD.Rtp

namespace QOpenHD

open Checked SizePrefixed

/-- The bytes of `m_curr_nalu` up to `m_nalu_data_length`. -/
@[ext] structure NaluBuffer where
  bytes : List UInt8
  fits : bytes.length ≤ NALU_MAXLEN

namespace NaluBuffer

/-- `m_nalu_data_length=0` -/
def empty : NaluBuffer := ⟨[], Nat.zero_le _⟩

@[simp] theorem empty_bytes : empty.bytes = [] := rfl

/-- `m_nalu_data_length` -/
abbrev length (b : NaluBuffer) : ℕ := b.bytes.length

/-- Write `data` at the current position and advance it. -/
def push (b : NaluBuffer) (data : List UInt8) : Exec NaluBuffer :=
  if h : (b.bytes ++ data).length ≤ NALU_MAXLEN then .ok ⟨b.bytes ++ data, h⟩
  else .error .outOfBounds

end NaluBuffer

structure RTPDecoder where
  /-- `m_cb!=nullptr` -/
  cb : Bool
  /-- The buffers handed to the callback so far. -/
  handed : List (List UInt8)
  feedIncompleteFrames : Bool
  currNalu : NaluBuffer
  totalNFragmentsForCurrentFu : ℕ
  lastSequenceNumber : ℤ
  flagPacketHasGoneMissing : Bool
  nGaps : ℕ
  nLostPackets : ℤ
  currPacketDiff : ℤ

namespace RTPDecoder

/-- The constructor. -/
def new (cb feedIncompleteFrames : Bool) : RTPDecoder where
  cb := cb
  handed := []
  feedIncompleteFrames := feedIncompleteFrames
  currNalu := .empty
  totalNFragmentsForCurrentFu := 0
  lastSequenceNumber := -1
  flagPacketHasGoneMissing := false
  nGaps := 0
  nLostPackets := 0
  currPacketDiff := 0

def reset (s : RTPDecoder) : RTPDecoder :=
  { s with currNalu := .empty, lastSequenceNumber := -1, flagPacketHasGoneMissing := false,
           nGaps := 0 }

/-! ### Sequence numbers -/

def diffBetweenPackets (lastPacket currPacket : ℤ) : ℤ :=
  if currPacket < lastPacket then currPacket + 65535 + 1 - lastPacket
  else currPacket - lastPacket

/-- The part of `validateRTPPacket` that looks for missing packets. -/
def noteMissingPackets (s : RTPDecoder) (seqNr : ℤ) : RTPDecoder :=
  if s.lastSequenceNumber = -1 then
    -- first packet in stream
    { s with flagPacketHasGoneMissing := false }
  else if seqNr ≠ (s.lastSequenceNumber + 1) % (65535 + 1) then
    -- `m_feed_incomplete_frames` takes the flag back at once
    { s with
      currPacketDiff := diffBetweenPackets s.lastSequenceNumber seqNr
      flagPacketHasGoneMissing := if s.feedIncompleteFrames then false else true
      nGaps := s.nGaps + 1
      nLostPackets := s.nLostPackets + (seqNr - s.lastSequenceNumber) }
  else { s with currPacketDiff := diffBetweenPackets s.lastSequenceNumber seqNr }

/-- Returns false for a repeated packet; notices missing ones. -/
def validateRTPPacket (s : RTPDecoder) (rtpHeader : RtpHeader) : Bool × RTPDecoder :=
  let seqNr : ℤ := rtpHeader.sequence
  if seqNr = s.lastSequenceNumber then (false, s)
  else (true, { s.noteMissingPackets seqNr with lastSequenceNumber := seqNr })

/-- `flagPacketHasGoneMissing=false`, when a new NALU begins. -/
def clearMissingPacketFlag (s : RTPDecoder) : RTPDecoder :=
  { s with flagPacketHasGoneMissing := false }

/-! ### The NALU buffer -/

/-- `m_nalu_data_length=0` -/
def dropNalu (s : RTPDecoder) : RTPDecoder := { s with currNalu := .empty }

/-- Append `dataLen` bytes from the pointer `data`; too many are skipped.  The
position is taken with `std::array::at`, which throws when the buffer is full
even if nothing is to be copied. -/
def appendNaluData (s : RTPDecoder) (data : List UInt8) (dataLen : ℕ) : Exec RTPDecoder :=
  if s.currNalu.length + dataLen > NALU_MAXLEN then .ok s
  else if s.currNalu.length ≥ NALU_MAXLEN then .error .outOfRange
  else do
    let src ← loadSlice data dataLen
    let currNalu ← s.currNalu.push src
    pure { s with currNalu := currNalu }

def appendNaluDataByte (s : RTPDecoder) (byte : UInt8) : Exec RTPDecoder :=
  s.appendNaluData [byte] 1

def writeH264H265NaluStart (s : RTPDecoder) (use4Bytes : Bool) : Exec RTPDecoder := do
  let s := s.dropNalu
  if use4Bytes then
    let s ← s.appendNaluDataByte 0
    let s ← s.appendNaluDataByte 0
    let s ← s.appendNaluDataByte 0
    let s ← s.appendNaluDataByte 1
    require (s.currNalu.length = 4)
    pure s
  else
    let s ← s.appendNaluDataByte 0
    let s ← s.appendNaluDataByte 0
    let s ← s.appendNaluDataByte 1
    require (s.currNalu.length = 3)
    pure s

def checkHasValidPrefix (naluData : List UInt8) (use4BytesStartCode : Bool) : Bool :=
  if naluData.length < 5 then false
  else if use4BytesStartCode then naluData.take 4 == [0, 0, 0, 1]
  else naluData.take 3 == [0, 0, 1]

/-- Hand the buffer to the callback, unless it does not start with a start
code. -/
def forwardNALU (s : RTPDecoder) : RTPDecoder :=
  if s.cb then
    if checkHasValidPrefix s.currNalu.bytes true then
      { s with handed := s.handed ++ [s.currNalu.bytes] }.dropNalu
    else s
  else s.dropNalu

/-- How both parsers begin: datagrams that hold no more than the headers and
repeated packets are left alone. -/
def parseRTPtoNALU (s : RTPDecoder) (headers : ℕ)
    (handlePacket : RTPDecoder → RTPPacket → Exec RTPDecoder) (rtpData : List UInt8) :
    Exec RTPDecoder :=
  if rtpData.length ≤ headers then .ok s
  else do
    let rtpPacket ← RTPPacket.ofData rtpData
    let (valid, s) := s.validateRTPPacket rtpPacket.header
    if valid then handlePacket s rtpPacket else pure s

/-! ### H264 -/

/-- A whole NALU of `dataSize` bytes at the pointer `data`, from a single or an
aggregated packet. -/
def h264ReconstructAndForwardOneNalu (s : RTPDecoder) (data : List UInt8) (dataSize : ℕ) :
    Exec RTPDecoder := do
  require (dataSize > 1)
  let b ← load data 0
  let naluHeader := NaluHeader.ofByte b
  -- a full NALU: the missing packet flag can go
  let s ← s.clearMissingPacketFlag.writeH264H265NaluStart true
  let h264NalHeader : UInt8 :=
    (naluHeader.type &&& (0x1f : UInt8)) ||| (naluHeader.nri <<< 5) ||| (naluHeader.f <<< 7)
  let s ← s.appendNaluDataByte h264NalHeader
  let s ← s.appendNaluData (data.drop 1) (dataSize - 1)
  pure s.forwardNALU.dropNalu

/-- The loop over the NALUs of a STAP-A packet. -/
def h264ForwardAggregated (s : RTPDecoder) (rtpPayload : List UInt8) : Exec RTPDecoder :=
  walk 1 3 h264ReconstructAndForwardOneNalu rtpPayload rtpPayload.length s 0

/-- A FU-A packet. -/
def h264HandleFuA (s : RTPDecoder) (rtpPacket : RTPPacket) (naluHeader : NaluHeader) :
    Exec RTPDecoder := do
  let fuHeader ← rtpPacket.getFuHeaderH264
  let fuPayload := rtpPacket.getFuPayloadH264
  if fuHeader.e = 1 then
    -- end
    let s ← s.appendNaluData fuPayload fuPayload.length
    pure { (if !s.flagPacketHasGoneMissing then s.forwardNALU else s).dropNalu with
           totalNFragmentsForCurrentFu := 0 }
  else if fuHeader.s = 1 then
    -- start: the missing packet flag can go
    let s := { s with totalNFragmentsForCurrentFu := 0 }
    let s ← s.clearMissingPacketFlag.writeH264H265NaluStart true
    let h264NalHeader : UInt8 :=
      (fuHeader.type &&& (0x1f : UInt8)) ||| (naluHeader.nri <<< 5) ||| (naluHeader.f <<< 7)
    let s ← s.appendNaluDataByte h264NalHeader
    s.appendNaluData fuPayload fuPayload.length
  else
    -- middle
    let s ← s.appendNaluData fuPayload fuPayload.length
    pure { s with totalNFragmentsForCurrentFu := s.totalNFragmentsForCurrentFu + 1 }

/-- What `parseRTPH264toNALU` does with a packet that was not rejected. -/
def h264HandlePacket (s : RTPDecoder) (rtpPacket : RTPPacket) : Exec RTPDecoder := do
  let naluHeader ← rtpPacket.getNALUHeaderH264
  if naluHeader.type = 28 then s.h264HandleFuA rtpPacket naluHeader
  else if naluHeader.type > 0 ∧ naluHeader.type < 24 then
    s.h264ReconstructAndForwardOneNalu rtpPacket.rtpPayload rtpPacket.rtpPayload.length
  else if naluHeader.type = 24 then s.h264ForwardAggregated rtpPacket.rtpPayload
  else pure s

def parseRTPH264toNALU (s : RTPDecoder) (rtpData : List UInt8) : Exec RTPDecoder :=
  -- 12 RTP header bytes and the NALU header byte
  s.parseRTPtoNALU (rtpHeaderSize + 1) h264HandlePacket rtpData

/-! ### H265 -/

/-- A whole NALU of `dataSize` bytes at the pointer `data`; nothing has to be
reconstructed. -/
def h265ForwardOneNalu (s : RTPDecoder) (data : List UInt8) (dataSize : ℕ)
    (write4BytesForStartCode : Bool) : Exec RTPDecoder := do
  let s ← s.clearMissingPacketFlag.writeH264H265NaluStart write4BytesForStartCode
  let s ← s.appendNaluData data dataSize
  pure s.forwardNALU.dropNalu

/-- The loop over the NALUs of an aggregation packet (`don_offset` is 1). -/
def h265ForwardAggregated (s : RTPDecoder) (rtpPayload : List UInt8) : Exec RTPDecoder :=
  walk 2 3 (fun s data size => s.h265ForwardOneNalu data size true) rtpPayload rtpPayload.length
    s 0

/-- A FU packet.  The missing packet flag is not looked at when it ends. -/
def h265HandleFu (s : RTPDecoder) (rtpPacket : RTPPacket) : Exec RTPDecoder := do
  let fuHeader ← rtpPacket.getFuHeaderH265
  let fuPayload := rtpPacket.getFuPayloadH265
  if fuHeader.e ≠ 0 then
    -- end
    let s ← s.appendNaluData fuPayload fuPayload.length
    pure s.forwardNALU.dropNalu
  else if fuHeader.s ≠ 0 then
    -- start
    let s ← s.clearMissingPacketFlag.writeH264H265NaluStart true
    let ptr0 ← load rtpPacket.rtpPayload 0
    let ptr1 ← load rtpPacket.rtpPayload 1
    let variableNoIdea ← load rtpPacket.rtpPayload 2
    -- put the type of the FU header into the payload header
    let tmpUnknown : UInt8 :=
      ((variableNoIdea &&& (0x3f : UInt8)) <<< 1) ||| (ptr0 &&& (0x81 : UInt8))
    let s ← s.appendNaluDataByte tmpUnknown
    let s ← s.appendNaluDataByte ptr1
    s.appendNaluData fuPayload fuPayload.length
  else
    -- middle
    s.appendNaluData fuPayload fuPayload.length

/-- What `parseRTPH265toNALU` does with a packet that was not rejected. -/
def h265HandlePacket (s : RTPDecoder) (rtpPacket : RTPPacket) : Exec RTPDecoder := do
  let type ← rtpPacket.getNALUTypeH265
  if type > 50 then pure s
  else if type = 48 then s.h265ForwardAggregated rtpPacket.rtpPayload
  else if type = 49 then s.h265HandleFu rtpPacket
  else s.h265ForwardOneNalu rtpPacket.rtpPayload rtpPacket.rtpPayload.length true

def parseRTPH265toNALU (s : RTPDecoder) (rtpData : List UInt8) : Exec RTPDecoder :=
  -- 12 RTP header bytes and the two NALU header bytes
  s.parseRTPtoNALU (rtpHeaderSize + 2) h265HandlePacket rtpData

end RTPDecoder

end QOpenHD
