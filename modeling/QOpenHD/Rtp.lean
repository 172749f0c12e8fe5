/-
QOpenHD/Rtp.lean

The packet views of `RTP.hpp`.  Constructing an RTP packet reinterprets the
received bytes: a 12 byte header, then the payload.  A pointer into the
datagram is the list of the bytes from there to its end, so that reading past
the end is a fault (`Checked.load`).

A datagram comes from `UDPReceiver`, whose buffer holds 65507 bytes.  Lengths
are natural numbers here: the conversions between `size_t` and `int` that the
parser makes of them change nothing below 2^31.
-/
import QOpenHD.SizePrefixed

namespace QOpenHD

open Checked SizePrefixed

/-! ### RTP header -/

/-- `rtp_header_t`, as far as the parser looks at it.  The payload type is
only logged. -/
structure RtpHeader where
  padding : UInt8
  /-- `getSequence()` -/
  sequence : ℕ

/-- `sizeof(rtp_header_t)` -/
def rtpHeaderSize : ℕ := 12

/-- The reference `*((rtp_header_t*)rtp_data)`. -/
def RtpHeader.read (rtpData : List UInt8) : Exec RtpHeader := do
  let b ← load rtpData 0
  let sequence ← loadBE16 rtpData 2
  pure { padding := (b >>> 5) &&& 1, sequence := sequence }

/-- `RTP::RTPPacket` -/
structure RTPPacket where
  header : RtpHeader
  rtpPayload : List UInt8

/-- The constructor of `RTP::RTPPacket`. -/
def RTPPacket.ofData (rtpData : List UInt8) : Exec RTPPacket := do
  require (rtpData.length ≥ rtpHeaderSize)
  let header ← RtpHeader.read rtpData
  -- padding is not supported
  require (header.padding = 0)
  pure { header := header, rtpPayload := rtpData.drop rtpHeaderSize }

/-! ### H264 headers -/

/-- `nalu_header_t`, which is also `fu_indicator_t`. -/
structure NaluHeader where
  type : UInt8
  nri : UInt8
  f : UInt8

def NaluHeader.ofByte (b : UInt8) : NaluHeader :=
  { type := b &&& 0x1f, nri := (b >>> 5) &&& 0x3, f := b >>> 7 }

/-- `fu_header_t` -/
structure FuHeader where
  type : UInt8
  e : UInt8
  s : UInt8

def FuHeader.ofByte (b : UInt8) : FuHeader :=
  { type := b &&& 0x1f, e := (b >>> 6) &&& 1, s := b >>> 7 }

/-- `getNALUHeaderH264()` -/
def RTPPacket.getNALUHeaderH264 (p : RTPPacket) : Exec NaluHeader := do
  require (p.rtpPayload.length ≥ 1)
  let b ← load p.rtpPayload 0
  pure (NaluHeader.ofByte b)

/-- `RTPPacketH264::getFuHeader()` -/
def RTPPacket.getFuHeaderH264 (p : RTPPacket) : Exec FuHeader := do
  let naluHeader ← p.getNALUHeaderH264
  require (naluHeader.type = 28)
  let b ← load p.rtpPayload 1
  pure (FuHeader.ofByte b)

/-- `RTPPacketH264::getFuPayload()`; its length is `getFuPayloadSize()`. -/
def RTPPacket.getFuPayloadH264 (p : RTPPacket) : List UInt8 := p.rtpPayload.drop 2

/-! ### H265 headers -/

/-- The field `type` of `nal_unit_header_h265_t`, bits 1 to 6 of its first
byte. -/
def nalUnitTypeH265 (b : UInt8) : UInt8 := (b >>> 1) &&& 0x3f

/-- `fu_header_h265_t`; the parser takes `fuType` from the byte itself. -/
structure FuHeaderH265 where
  e : UInt8
  s : UInt8

def FuHeaderH265.ofByte (b : UInt8) : FuHeaderH265 :=
  { e := (b >>> 6) &&& 1, s := b >>> 7 }

/-- The `type` of `getNALUHeaderH265()`. -/
def RTPPacket.getNALUTypeH265 (p : RTPPacket) : Exec UInt8 := do
  require (p.rtpPayload.length ≥ 2)
  let b ← load p.rtpPayload 0
  pure (nalUnitTypeH265 b)

/-- `RTPPacketH265::getFuHeader()` -/
def RTPPacket.getFuHeaderH265 (p : RTPPacket) : Exec FuHeaderH265 := do
  let type ← p.getNALUTypeH265
  require (type = 49)
  let b ← load p.rtpPayload 2
  pure (FuHeaderH265.ofByte b)

/-- `RTPPacketH265::getFuPayload()`; its length is `getFuPayloadSize()`. -/
def RTPPacket.getFuPayloadH265 (p : RTPPacket) : List UInt8 := p.rtpPayload.drop 3

end QOpenHD
