/-
QOpenHD/Depacketize.lean

From an RTP stream back to NALUs, for any codec.

The sender numbers its payloads one after another, modulo 2^16, and puts a 12
byte RTP header in front of each; the channel keeps the order, loses packets
and repeats packets (`arrivals`).  What the payloads mean is left to a `Codec`:
it relates payloads to the packets of `Reassembly`, and its one obligation,
`handles`, is about one packet and one call of its packet handler.

The decoder is compared with the receiver of `Reassembly`: `Realises` says what
its missing packet flag and its NALU buffer look like in each phase, and
`Tracks` adds what its sequence number says about the packets that were lost
since the last one arrived.  One arrival keeps `Tracks` (`Codec.arrival`), so

* `Codec.run_lossless` — when every packet arrives, the decoder delivers what
  the receiver delivers, whatever `feed_incomplete_frames` is;
* `Codec.run_lossy` — with fewer than 65535 packets lost in a row it still
  does, in every run that meets the codec's side condition `Spares` whenever
  a packet arrives while another one is missing.

A `Sender` turns NALUs into payloads that the codec understands; what it sends
is received by `Sender.roundTrip` and `Sender.lossSafe`.
-/
import QOpenHD.ParseRTPSteps
import QOpenHD.Reassembly
import Mathlib.Data.List.Forall2

namespace QOpenHD

open Checked SizePrefixed Reassembly

/-! ### The sender and the channel -/

/-- What an RTP header holds besides the sequence number: marker bit and
payload type, time stamp and source.  The parser looks at none of it. -/
structure RtpFields where
  markerAndPayloadType : UInt8
  timestampAndSources : Vector UInt8 8

/-- A datagram: version 2, neither padding nor extension nor contributing
sources. -/
def rtpDatagram (fields : RtpFields) (sequence : ℕ) (payload : List UInt8) : List UInt8 :=
  0x80 :: fields.markerAndPayloadType ::
    (toBE16 sequence ++ (fields.timestampAndSources.toList ++ payload))

/-- What arrives of the payloads: each is sent with the next sequence number
and arrives as often as the number beside it tells. -/
def arrivals (fields : ℕ → RtpFields) : ℕ → List (List UInt8 × ℕ) → List (List UInt8)
  | _, [] => []
  | k, (payload, copies) :: rest =>
      List.replicate copies (rtpDatagram (fields k) (k % 65536) payload) ++
        arrivals fields (k + 1) rest

section Datagram

variable (fields : RtpFields) (sequence : ℕ) (payload : List UInt8)

theorem rtpDatagram_drop : (rtpDatagram fields sequence payload).drop rtpHeaderSize = payload := by
  have h8 : fields.timestampAndSources.toList.length = 8 := Vector.length_toList
  simp [rtpDatagram, toBE16, rtpHeaderSize, h8]

theorem rtpDatagram_length :
    (rtpDatagram fields sequence payload).length = rtpHeaderSize + payload.length := by
  have h8 : fields.timestampAndSources.toList.length = 8 := Vector.length_toList
  simp only [rtpDatagram, toBE16, List.length_cons, List.length_append, List.length_nil, h8,
    rtpHeaderSize]
  omega

theorem rtpPadding_rtpDatagram : rtpPadding (rtpDatagram fields sequence payload) = 0 := by
  simp only [rtpPadding, rtpDatagram, List.getD_cons_zero]
  decide

theorem rtpSequence_rtpDatagram (h : sequence < 65536) :
    rtpSequence (rtpDatagram fields sequence payload) = sequence := be16_toBE16 h

end Datagram

namespace RTPDecoder

/-! ### One datagram -/

section ParseRTP

variable {s : RTPDecoder} {extra : ℕ} {handlePacket : RTPDecoder → RTPPacket → Exec RTPDecoder}
  {fields : RtpFields} {sequence : ℕ} {payload : List UInt8}

/-- The decoder after `validateRTPPacket` has accepted a packet. -/
def accept (s : RTPDecoder) (sequence : ℕ) : RTPDecoder :=
  { s.noteMissingPackets sequence with lastSequenceNumber := sequence }

theorem parseRTPtoNALU_accepted (hlong : extra < payload.length) (hseq : sequence < 65536)
    (hnew : (sequence : ℤ) ≠ s.lastSequenceNumber) :
    s.parseRTPtoNALU (rtpHeaderSize + extra) handlePacket (rtpDatagram fields sequence payload) =
      handlePacket (s.accept sequence) ⟨⟨0, sequence⟩, payload⟩ := by
  have hlen := rtpDatagram_length fields sequence payload
  unfold parseRTPtoNALU
  rw [if_neg (by omega), rtpPacket_ofData (by omega), if_pos (rtpPadding_rtpDatagram _ _ _),
    ok_bind, rtpDatagram_drop, rtpSequence_rtpDatagram _ _ _ hseq, validateRTPPacket_accepted hnew]
  rfl

/-- A packet that was just accepted is ignored, as often as it is repeated. -/
theorem run_repeated (hseq : sequence < 65536) (hsame : s.lastSequenceNumber = sequence) (n : ℕ) :
    run (fun s => parseRTPtoNALU s (rtpHeaderSize + extra) handlePacket) s
      (List.replicate n (rtpDatagram fields sequence payload)) = .ok s := by
  have hone : s.parseRTPtoNALU (rtpHeaderSize + extra) handlePacket
      (rtpDatagram fields sequence payload) = .ok s := by
    have hlen := rtpDatagram_length fields sequence payload
    unfold parseRTPtoNALU
    split_ifs with hshort
    · rfl
    · rw [rtpPacket_ofData (by omega), if_pos (rtpPadding_rtpDatagram _ _ _), ok_bind,
        rtpSequence_rtpDatagram _ _ _ hseq, validateRTPPacket_repeated hsame.symm]
      rfl
  induction n with
  | zero => rfl
  | succ n ih => rw [List.replicate_succ, run_cons, hone, ok_bind, ih]

end ParseRTP

/-! ### Phases -/

/-- The missing packet flag and the bytes in the NALU buffer in each phase of a
receiver. -/
def Realises (packetHasGoneMissing : Bool) (bytes : List UInt8) : Phase UInt8 → Prop
  | .fresh => packetHasGoneMissing = false ∧ bytes = []
  | .idle => packetHasGoneMissing = false ∧ bytes = []
  | .collecting b => packetHasGoneMissing = false ∧ bytes = startCode ++ b
  | .joined b => packetHasGoneMissing = false ∧ bytes = b
  | .broken => packetHasGoneMissing = true

/-- A NALU that fits into the buffer. -/
def Fits (u : List UInt8) : Prop := u.length + 4 ≤ NALU_MAXLEN

/-- Bytes that are not taken for a NALU when they stand at the beginning of the
buffer. -/
def Harmless (x : List UInt8) : Prop := x.length + 4 ≤ NALU_MAXLEN ∧ ¬ startCode <+: x

/-- What handling a packet did: the phase `ph` it led to, the NALUs `out` it
delivered, and nothing else that matters. -/
structure Handled (s s' : RTPDecoder) (ph : Phase UInt8) (out : List (List UInt8)) : Prop where
  realises : Realises s'.flagPacketHasGoneMissing s'.currNalu.bytes ph
  handed : s'.handed = s.handed ++ out.map (startCode ++ ·)
  last : s'.lastSequenceNumber = s.lastSequenceNumber
  cb : s'.cb = s.cb
  feed : s'.feedIncompleteFrames = s.feedIncompleteFrames

/-! ### Chunks -/

section Chunks

variable {s s' : RTPDecoder} {ph : Phase UInt8} {c : List UInt8}

/-- A chunk that fits behind `b`. -/
theorem appendNaluData_chunk {b : List UInt8} (hbytes : s.currNalu.bytes = b)
    (hfull : b.length < NALU_MAXLEN) (hfits : (b ++ c).length ≤ NALU_MAXLEN) :
    s.appendNaluData c c.length = .ok (s.withNalu (b ++ c) hfits) := by
  subst hbytes
  have happ := appendNaluData_fits (s := s) (Nat.le_refl c.length) hfull (by simpa using hfits)
  simpa only [List.take_length] using happ

/-- The bytes in the buffer after a chunk was appended, or skipped. -/
def appended (bytes c : List UInt8) : List UInt8 :=
  if bytes.length + c.length > NALU_MAXLEN then bytes else bytes ++ c

theorem appendNaluData_appended (hc : c ≠ []) :
    ∃ hb, s.appendNaluData c c.length = .ok (s.withNalu (appended s.currNalu.bytes c) hb) := by
  have hpos := List.length_pos_of_ne_nil hc
  by_cases hskip : s.currNalu.bytes.length + c.length > NALU_MAXLEN
  · simp only [appended, if_pos hskip]
    exact ⟨s.currNalu.fits, appendNaluData_skips hskip⟩
  · simp only [appended, if_neg hskip]
    have hfits : (s.currNalu.bytes ++ c).length ≤ NALU_MAXLEN := by
      rw [List.length_append]
      omega
    exact ⟨hfits, appendNaluData_chunk rfl (by omega) hfits⟩

/-- There is room for a chunk behind the start code and what has arrived. -/
theorem room_for_chunk {b r : List UInt8} (hc : c ≠ []) (hU : Fits (b ++ c ++ r)) :
    (startCode ++ b).length < NALU_MAXLEN ∧ (startCode ++ b ++ c).length ≤ NALU_MAXLEN := by
  have hpos := List.length_pos_of_ne_nil hc
  simp only [Fits, List.length_append] at hU
  simp only [List.length_append, startCode_length]
  omega

/-- A first chunk: the NALU header `hdr` has been written behind a start code,
and the fragment follows. -/
theorem append_first {hdr r : List UInt8} {h : (startCode ++ hdr).length ≤ NALU_MAXLEN}
    (hflag : s.flagPacketHasGoneMissing = false) (hc : c ≠ []) (hU : Fits (hdr ++ c ++ r)) :
    ∃ s', (s.withNalu (startCode ++ hdr) h).appendNaluData c c.length = .ok s' ∧
      Handled s s' (.collecting (hdr ++ c)) [] := by
  obtain ⟨hfull, hfits⟩ := room_for_chunk hc hU
  exact ⟨_, appendNaluData_chunk withNalu_bytes hfull hfits,
    ⟨⟨hflag, by simp⟩, by simp, rfl, rfl, rfl⟩⟩

/-- A middle chunk. -/
theorem append_middle (hr : Realises s.flagPacketHasGoneMissing s.currNalu.bytes ph)
    (hfit : Compatible Fits Harmless ph (.middle c)) :
    ∃ s', s.appendNaluData c c.length = .ok s' ∧ Handled s s' (ph.arrive (.middle c)).1 [] := by
  cases ph with
  | idle => exact absurd hfit id
  -- packets are missing: whatever is in the buffer, nothing is promised of it
  | broken =>
      obtain ⟨hb, happ⟩ := appendNaluData_appended (s := s) hfit
      exact ⟨_, happ, ⟨hr, by simp, rfl, rfl, rfl⟩⟩
  -- the buffer is empty, so the chunk is the first in it
  | fresh =>
      obtain ⟨-, hlen, -⟩ := hfit
      obtain ⟨hflag, hbytes⟩ := hr
      have hfits : ([] ++ c).length ≤ NALU_MAXLEN := by
        rw [List.nil_append]
        omega
      exact ⟨_, appendNaluData_chunk hbytes (by decide) hfits,
        ⟨⟨hflag, rfl⟩, by simp, rfl, rfl, rfl⟩⟩
  | joined b =>
      obtain ⟨-, hlen, -⟩ := hfit
      obtain ⟨hflag, hbytes⟩ := hr
      rw [List.length_append] at hlen
      have hfits : (b ++ c).length ≤ NALU_MAXLEN := by
        rw [List.length_append]
        omega
      exact ⟨_, appendNaluData_chunk hbytes (by omega) hfits,
        ⟨⟨hflag, rfl⟩, by simp, rfl, rfl, rfl⟩⟩
  -- the start code, what has arrived, and the chunk
  | collecting b =>
      obtain ⟨hc, r, hU⟩ := hfit
      obtain ⟨hflag, hbytes⟩ := hr
      obtain ⟨hfull, hfits⟩ := room_for_chunk hc hU
      exact ⟨_, appendNaluData_chunk hbytes hfull hfits,
        ⟨⟨hflag, by simp⟩, by simp, rfl, rfl, rfl⟩⟩

/-- Forwarding and dropping a buffer without a NALU in front. -/
theorem forward_harmless (hcb : s.cb = true) (hflag : s.flagPacketHasGoneMissing = false)
    {x : List UInt8} {hx : x.length ≤ NALU_MAXLEN} (hharmless : ¬ startCode <+: x) :
    Handled s (s.withNalu x hx).forwardNALU.dropNalu .idle [] := by
  rw [forwardNALU_invalid (s := s.withNalu x hx) hcb (checkHasValidPrefix_eq_false hharmless)]
  exact ⟨⟨hflag, rfl⟩, by simp [dropNalu], rfl, rfl, rfl⟩

/-- A last chunk, when nothing is missing: the buffer can be forwarded. -/
theorem append_last (hcb : s.cb = true)
    (hr : Realises s.flagPacketHasGoneMissing s.currNalu.bytes ph)
    (hfit : Compatible Fits Harmless ph (.last c)) (hph : ph ≠ .broken) :
    ∃ s', s.appendNaluData c c.length = .ok s' ∧ s'.flagPacketHasGoneMissing = false ∧
      Handled s s'.forwardNALU.dropNalu (ph.arrive (.last c)).1 (ph.arrive (.last c)).2 := by
  cases ph with
  | idle => exact absurd hfit id
  | broken => exact absurd rfl hph
  | fresh =>
      obtain ⟨-, hlen, hharmless⟩ := hfit
      obtain ⟨hflag, hbytes⟩ := hr
      refine ⟨_, appendNaluData_chunk hbytes (by decide) ?_, hflag,
        forward_harmless hcb hflag (by simpa using hharmless)⟩
      rw [List.nil_append]
      omega
  | joined b =>
      obtain ⟨-, hlen, hharmless⟩ := hfit
      obtain ⟨hflag, hbytes⟩ := hr
      rw [List.length_append] at hlen
      refine ⟨_, appendNaluData_chunk hbytes (by omega) ?_, hflag,
        forward_harmless hcb hflag hharmless⟩
      rw [List.length_append]
      omega
  -- the NALU is complete
  | collecting b =>
      obtain ⟨hc, hU⟩ := hfit
      obtain ⟨hflag, hbytes⟩ := hr
      rw [← List.append_nil (b ++ c)] at hU
      obtain ⟨hfull, hfits⟩ := room_for_chunk hc hU
      refine ⟨_, appendNaluData_chunk hbytes hfull hfits, hflag, ?_⟩
      rw [forwardNALU_withNalu s hcb (List.append_assoc startCode b c) (by simp [hc])]
      exact ⟨⟨hflag, rfl⟩, by simp [dropNalu, Phase.arrive], rfl, rfl, rfl⟩

end Chunks

/-- Delivering several NALUs. -/
theorem handled_deliver {s : RTPDecoder} {nalu : List UInt8} {nalus : List (List UInt8)} :
    Handled s ((nalu :: nalus).foldl deliver s) .idle (nalu :: nalus) := by
  induction nalus generalizing s nalu with
  | nil => exact ⟨⟨rfl, rfl⟩, by simp [deliver, dropNalu], rfl, rfl, rfl⟩
  | cons nalu' nalus ih =>
      have h := @ih (s.deliver nalu) nalu'
      refine ⟨h.realises, ?_, h.last, h.cb, h.feed⟩
      have hhanded := h.handed
      simp only [List.foldl_cons, List.map_cons] at hhanded ⊢
      rw [hhanded]
      simp [deliver, dropNalu]

/-! ### Sequence numbers -/

/-- A packet with this sequence number arrives while a packet is missing: the
flag is raised already, or will be by this packet. -/
def PacketMissing (s : RTPDecoder) (sequence : ℕ) : Prop :=
  s.lastSequenceNumber ≠ -1 ∧ (sequence : ℤ) ≠ s.lastSequenceNumber ∧
    (s.flagPacketHasGoneMissing = true ∨ (sequence : ℤ) ≠ (s.lastSequenceNumber + 1) % 65536)

instance (s : RTPDecoder) (sequence : ℕ) : Decidable (s.PacketMissing sequence) :=
  inferInstanceAs (Decidable (_ ∧ _ ∧ (_ ∨ _)))

/-- The decoder is in phase `ph`, packet `k` is sent next, and this many
packets have been lost since one arrived, if one ever arrived. -/
inductive Tracks (s : RTPDecoder) : Phase UInt8 → ℕ → Option ℕ → Prop
  | fresh {k : ℕ} : s.lastSequenceNumber = -1 →
      Realises s.flagPacketHasGoneMissing s.currNalu.bytes .fresh → Tracks s .fresh k none
  | caughtUp {ph : Phase UInt8} {j : ℕ} : s.lastSequenceNumber = (j % 65536 : ℕ) → ph ≠ .fresh →
      Realises s.flagPacketHasGoneMissing s.currNalu.bytes ph → Tracks s ph (j + 1) (some 0)
  | behind {j m : ℕ} : s.lastSequenceNumber = (j % 65536 : ℕ) → m + 1 < 65535 →
      Tracks s .broken (j + 1 + (m + 1)) (some (m + 1))

/-- The next packet is new, and once it is accepted the flag and the buffer
tell the phase. -/
theorem Tracks.accept {s : RTPDecoder} {ph : Phase UInt8} {k : ℕ} {missed : Option ℕ}
    (h : Tracks s ph k missed)
    (hfeed : s.feedIncompleteFrames = false ∨ missed = none ∨ missed = some 0) :
    ((k % 65536 : ℕ) : ℤ) ≠ s.lastSequenceNumber ∧
      Realises (s.accept (k % 65536)).flagPacketHasGoneMissing
        (s.accept (k % 65536)).currNalu.bytes ph ∧
      (ph = .broken → s.PacketMissing (k % 65536)) := by
  have hbuffer : (s.accept (k % 65536)).currNalu = s.currNalu := (s.noteMissingPackets_frame _).1
  rw [hbuffer]
  cases h with
  | fresh hlast hr =>
      refine ⟨by omega, ?_, nofun⟩
      exact ⟨noteMissingPackets_first hlast, hr.2⟩
  | @caughtUp _ j hlast _ hr =>
      have hflag : (s.accept ((j + 1) % 65536)).flagPacketHasGoneMissing =
          s.flagPacketHasGoneMissing := noteMissingPackets_next (by omega) (by omega)
      refine ⟨by omega, hflag ▸ hr, fun hph => ⟨by omega, by omega, .inl ?_⟩⟩
      subst hph
      exact hr
  | @behind j m hlast hm =>
      have hgap : (((j + 1 + (m + 1)) % 65536 : ℕ) : ℤ) ≠ (s.lastSequenceNumber + 1) % 65536 := by
        omega
      have hfeed : s.feedIncompleteFrames = false := by simpa using hfeed
      exact ⟨by omega, noteMissingPackets_gap hfeed (by omega) hgap,
        fun _ => ⟨by omega, by omega, .inr hgap⟩⟩

/-- A loss keeps the decoder on track. -/
theorem Tracks.lose {s : RTPDecoder} {ph : Phase UInt8} {k : ℕ} {missed : Option ℕ}
    (h : Tracks s ph k missed) (hfew : ∀ m, missed = some m → m + 1 < 65535) :
    Tracks s ph.lose (k + 1) (missed.map (· + 1)) := by
  cases h with
  | fresh hlast hr => exact .fresh hlast hr
  | @caughtUp ph j hlast hph _ =>
      cases ph with
      | fresh => exact absurd rfl hph
      | _ => exact .behind hlast (by decide)
  | @behind j m hlast hm => exact .behind hlast (hfew _ rfl)

end RTPDecoder

open RTPDecoder

/-! ### Codecs -/

/-- How a codec uses RTP: which payload carries what, and how its packets are
handled. -/
structure Codec where
  /-- The parser ignores payloads of no more than this many bytes. -/
  extra : ℕ
  handlePacket : RTPDecoder → RTPPacket → Exec RTPDecoder
  Carries : List UInt8 → Packet UInt8 → Prop
  /-- What the handler needs of its buffer and of a payload that arrives while
  another one is missing. -/
  Spares : NaluBuffer → List UInt8 → Prop
  long : ∀ {payload p}, Carries payload p → extra < payload.length
  handles : ∀ {s h payload p ph}, Carries payload p → s.cb = true →
    Realises s.flagPacketHasGoneMissing s.currNalu.bytes ph → Compatible Fits Harmless ph p →
    (ph = .broken → Spares s.currNalu payload) →
    ∃ s', handlePacket s ⟨h, payload⟩ = .ok s' ∧ Handled s s' (ph.arrive p).1 (ph.arrive p).2

namespace Codec

variable (c : Codec)

def parse (s : RTPDecoder) (rtpData : List UInt8) : Exec RTPDecoder :=
  s.parseRTPtoNALU (rtpHeaderSize + c.extra) c.handlePacket rtpData

/-- The side condition on a datagram. -/
def SparesMissing (s : RTPDecoder) (rtpData : List UInt8) : Prop :=
  s.PacketMissing (rtpSequence rtpData) → c.Spares s.currNalu (rtpData.drop rtpHeaderSize)

variable {c} (fields : ℕ → RtpFields)

/-- **One arrival**, repeated as often as may be, takes the decoder to the next
phase and delivers what the receiver delivers. -/
theorem arrival (n : ℕ) {s : RTPDecoder} {ph : Phase UInt8} {k : ℕ} {missed : Option ℕ}
    {payload : List UInt8} {p : Packet UInt8} (hcarries : c.Carries payload p) (hcb : s.cb = true)
    (hfeed : s.feedIncompleteFrames = false ∨ missed = none ∨ missed = some 0)
    (htracks : Tracks s ph k missed) (hfit : Compatible Fits Harmless ph p)
    (hspares : ph = .broken → c.SparesMissing s (rtpDatagram (fields k) (k % 65536) payload)) :
    ∃ s', c.parse s (rtpDatagram (fields k) (k % 65536) payload) = .ok s' ∧
      run c.parse s' (List.replicate n (rtpDatagram (fields k) (k % 65536) payload)) = .ok s' ∧
      Tracks s' (ph.arrive p).1 (k + 1) (some 0) ∧ s'.cb = true ∧
      s'.feedIncompleteFrames = s.feedIncompleteFrames ∧
      s'.handed = s.handed ++ (ph.arrive p).2.map (startCode ++ ·) := by
  have hk : k % 65536 < 65536 := Nat.mod_lt k (by decide)
  -- first the header is validated, then the payload handled
  obtain ⟨hnew, hr, hmissing⟩ := htracks.accept hfeed
  obtain ⟨hbuffer, hhanded, hcb', hfeed'⟩ := s.noteMissingPackets_frame ((k % 65536 : ℕ) : ℤ)
  obtain ⟨s', hs', hhandled⟩ := c.handles (h := ⟨0, k % 65536⟩) hcarries
    (show (s.accept (k % 65536)).cb = true from hcb'.trans hcb) hr hfit fun hph => by
      have hspares := hspares hph
      rw [SparesMissing, rtpSequence_rtpDatagram _ _ _ hk, rtpDatagram_drop] at hspares
      exact (show (s.accept (k % 65536)).currNalu = s.currNalu from hbuffer) ▸
        hspares (hmissing hph)
  have hlast : s'.lastSequenceNumber = ((k % 65536 : ℕ) : ℤ) := hhandled.last
  refine ⟨s', ?_, run_repeated hk hlast n, ?_, ?_, ?_, ?_⟩
  · exact (parseRTPtoNALU_accepted (c.long hcarries) hk hnew).trans hs'
  · exact .caughtUp hlast (ph.arrive_ne_fresh p) hhandled.realises
  · exact hhandled.cb.trans (hcb'.trans hcb)
  · exact hhandled.feed.trans hfeed'
  · exact hhandled.handed.trans (congrArg (· ++ _) hhanded)

/-- The payloads that were sent, with the number of times each arrives, carry
the events of a course. -/
def Sends (c : Codec) (sent : List (List UInt8 × ℕ)) (es : List (Packet UInt8 × ℕ)) : Prop :=
  List.Forall₂ (fun pc e => c.Carries pc.1 e.1 ∧ pc.2 = e.2) sent es

/-- **No loss**: a decoder that has nothing missing delivers what the receiver
delivers. -/
theorem run_lossless {ph : Phase UInt8} {es : List (Packet UInt8 × ℕ)} {out : List (List UInt8)}
    (h : Course Fits Harmless ph es out) :
    ∀ {s : RTPDecoder} {k : ℕ} {missed : Option ℕ} {sent : List (List UInt8 × ℕ)},
      c.Sends sent es → (∀ pc ∈ sent, 0 < pc.2) → s.cb = true → missed = none ∨ missed = some 0 →
      ph ≠ .broken → Tracks s ph k missed →
      ∃ s', run c.parse s (arrivals fields k sent) = .ok s' ∧
        s'.handed = s.handed ++ out.map (startCode ++ ·) := by
  induction h with
  | nil ph =>
      intro s k missed sent hsent _ _ _ _ _
      cases hsent
      exact ⟨s, rfl, by simp⟩
  -- nothing is lost
  | lost _ _ =>
      intro s k missed sent hsent hpos _ _ _ _
      rcases hsent with - | ⟨⟨-, hcopies⟩, -⟩
      exact absurd hcopies (hpos _ (by simp)).ne'
  | @arrived ph p n es out hfit _ ih =>
      intro s k missed sent hsent hpos hcb hmissed hph htracks
      rcases hsent with - | @⟨⟨payload, _⟩, _, sent, _, ⟨hcarries, rfl⟩, hsent⟩
      obtain ⟨s₁, hs₁, hrep, htracks₁, hcb₁, -, hhanded₁⟩ := arrival fields n
        hcarries hcb (.inr hmissed) htracks hfit fun h => absurd h hph
      obtain ⟨s', hs', hhanded⟩ := ih hsent (fun pc hpc => hpos pc (by simp [hpc])) hcb₁
        (.inr rfl) (Phase.arrive_ne_broken hph p) htracks₁
      refine ⟨s', ?_, by simp [hhanded, hhanded₁]⟩
      rw [arrivals, run_append, List.replicate_succ, run_cons, hs₁, ok_bind, hrep, ok_bind, hs']

/-- **Loss**: a decoder whose packets meet the side condition delivers what the
receiver delivers. -/
theorem run_lossy {ph : Phase UInt8} {es : List (Packet UInt8 × ℕ)} {out : List (List UInt8)}
    (h : Course Fits Harmless ph es out) :
    ∀ {s : RTPDecoder} {k : ℕ} {missed : Option ℕ} {sent : List (List UInt8 × ℕ)},
      c.Sends sent es → FewLost 65535 missed (sent.map Prod.snd) → s.cb = true →
      s.feedIncompleteFrames = false → Tracks s ph k missed →
      EveryStep c.SparesMissing c.parse s (arrivals fields k sent) →
      ∃ s', run c.parse s (arrivals fields k sent) = .ok s' ∧
        s'.handed = s.handed ++ out.map (startCode ++ ·) := by
  induction h with
  | nil ph =>
      intro s k missed sent hsent _ _ _ _ _
      cases hsent
      exact ⟨s, rfl, by simp⟩
  | @lost ph p es out _ ih =>
      intro s k missed sent hsent hfew hcb hfeed htracks hspares
      rcases hsent with - | @⟨⟨payload, _⟩, _, sent, _, ⟨-, rfl⟩, hsent⟩
      -- one more is missing, but not so many that the numbers come round
      have hfew' : (∀ m, missed = some m → m + 1 < 65535) ∧
          FewLost 65535 (missed.map (· + 1)) (sent.map Prod.snd) := by
        cases missed with
        | none => exact ⟨nofun, hfew⟩
        | some m => exact ⟨fun _ h => by cases h; exact hfew.1, hfew.2⟩
      exact @ih s (k + 1) _ sent hsent hfew'.2 hcb hfeed (htracks.lose hfew'.1) hspares
  | @arrived ph p n es out hfit _ ih =>
      intro s k missed sent hsent hfew hcb hfeed htracks hspares
      rcases hsent with - | @⟨⟨payload, _⟩, _, sent, _, ⟨hcarries, rfl⟩, hsent⟩
      have hfew' : FewLost 65535 (some 0) (sent.map Prod.snd) := by
        cases missed <;> exact hfew
      rw [arrivals, List.replicate_succ, List.cons_append] at hspares ⊢
      -- the first copy is handled, the others are recognised
      obtain ⟨s₁, hs₁, hrep, htracks₁, hcb₁, hfeed₁, hhanded₁⟩ := arrival fields
        n hcarries hcb (.inl hfeed) htracks hfit fun _ => hspares.1
      obtain ⟨s', hs', hhanded⟩ := ih hsent hfew' hcb₁ (hfeed₁.trans hfeed) htracks₁
        ((everyStep_append_iff.mp (hspares.2 s₁ hs₁)).2 s₁ hrep)
      refine ⟨s', ?_, by simp [hhanded, hhanded₁]⟩
      rw [run_cons, hs₁, ok_bind, run_append, hrep, ok_bind, hs']

/-! ### Streams -/

theorem sends_zip {payloads : List (List UInt8)} {packets : List (Packet UInt8)}
    (h : List.Forall₂ c.Carries payloads packets) (copies : List ℕ) :
    c.Sends (payloads.zip copies) (packets.zip copies) := by
  induction h generalizing copies with
  | nil => exact .nil
  | cons hcarries _ ih =>
      rcases copies with - | ⟨n, copies⟩
      · exact .nil
      · exact .cons ⟨hcarries, rfl⟩ (ih copies)

section Streams

variable {items : List (Item UInt8)} {payloads : List (List UInt8)}

/-- **Round trip**: a fresh decoder that receives every packet delivers all
units. -/
theorem roundTrip (hcarries : List.Forall₂ c.Carries payloads (items.flatMap Item.packets))
    (hne : ∀ it ∈ items, it.NonEmpty) (hfits : ∀ it ∈ items, ∀ u ∈ it.units, Fits u)
    (feedIncompleteFrames : Bool) (start : ℕ) {copies : List ℕ}
    (hlen : copies.length = payloads.length) (hpos : ∀ n ∈ copies, 0 < n) :
    ∃ s, run c.parse (new true feedIncompleteFrames)
        (arrivals fields start (payloads.zip copies)) = .ok s ∧
      s.handed = (items.flatMap Item.units).map (startCode ++ ·) := by
  have hcourse : Course Fits Harmless .fresh ((items.flatMap Item.packets).zip copies)
      (items.flatMap Item.units) :=
    Course.lossless items hne hfits .fresh copies (hlen.trans hcarries.length_eq) hpos
  exact run_lossless fields hcourse (sends_zip hcarries copies)
    (fun pc hpc => hpos pc.2 (List.of_mem_zip hpc).2) rfl (.inl rfl) nofun (.fresh rfl ⟨rfl, rfl⟩)

/-- A piece of a clean NALU does not look like a NALU. -/
theorem clean_harmless {u x : List UInt8} (hu : Fits u ∧ Clean u) (hx : x <:+: u) :
    Harmless x := by
  refine ⟨?_, fun hstart => hu.2.1 ?_⟩
  · have hlen := hx.length_le
    have hfits : u.length + 4 ≤ NALU_MAXLEN := hu.1
    omega
  · exact (show [0, 0, 0] <:+: startCode from ⟨[], [1], rfl⟩).trans (hstart.isInfix.trans hx)

/-- The decoder was free of faults, and what it handed over is a subsequence of
the units, each behind a start code. -/
def LossSafe (units : List (List UInt8)) (x : Exec RTPDecoder) : Prop :=
  ∃ (s : RTPDecoder) (delivered : List (List UInt8)), x = .ok s ∧ delivered.Sublist units ∧
    s.handed = delivered.map (startCode ++ ·)

/-- **Loss safety**: a fresh decoder that misses the first `joinAt` packets,
and then fewer than 65535 in a row. -/
theorem lossSafe (hcarries : List.Forall₂ c.Carries payloads (items.flatMap Item.packets))
    (hne : ∀ it ∈ items, it.NonEmpty) (hfits : ∀ it ∈ items, ∀ u ∈ it.units, Fits u)
    (hclean : ∀ it ∈ items, ∀ u ∈ it.units, Clean u) (start joinAt : ℕ) {copies : List ℕ}
    (hfew : ¬ List.replicate 65535 0 <:+: copies)
    (hspares : EveryStep c.SparesMissing c.parse (new true false)
      (arrivals fields start (payloads.zip (List.replicate joinAt 0 ++ copies)))) :
    LossSafe (items.flatMap Item.units) (run c.parse (new true false)
      (arrivals fields start (payloads.zip (List.replicate joinAt 0 ++ copies)))) := by
  obtain ⟨out, hcourse, hsub⟩ := Course.lossy (fun u x hu => clean_harmless hu) items hne
    (fun it hit u hu => ⟨hfits it hit u hu, hclean it hit u hu⟩) .fresh
    (List.replicate joinAt 0 ++ copies) trivial
  have hcourse := hcourse.mono (fun u hu => hu.1) (fun x hx => hx)
  obtain ⟨s, hs, hhanded⟩ := run_lossy fields hcourse (sends_zip hcarries _)
    ((fewLost_joining hfew joinAt).zip payloads) rfl rfl (.fresh rfl ⟨rfl, rfl⟩) hspares
  exact ⟨s, out, hs, hsub, hhanded⟩

end Streams

end Codec

/-! ### Senders -/

/-- A sender for a codec: how it sends NALUs (`ν`), one item (`ι`) after
another. -/
structure Sender (c : Codec) (ι ν : Type) where
  nalus : ι → List ν
  bytes : ν → List UInt8
  payloads : ι → List (List UInt8)
  /-- What is being reassembled. -/
  toItem : ι → Item UInt8
  carries : ∀ it, List.Forall₂ c.Carries (payloads it) (toItem it).packets
  nonEmpty : ∀ it, (toItem it).NonEmpty
  units_toItem : ∀ it, (toItem it).units = (nalus it).map bytes
  fits : ∀ n, Fits (bytes n)

namespace Sender

variable {c : Codec} {ι ν : Type} (sender : Sender c ι ν) (fields : ℕ → RtpFields) (items : List ι)

theorem flatMap_carries : List.Forall₂ c.Carries (items.flatMap sender.payloads)
    ((items.map sender.toItem).flatMap Item.packets) := by
  induction items with
  | nil => exact .nil
  | cons it items ih => exact List.rel_append (sender.carries it) ih

theorem flatMap_units : (items.map sender.toItem).flatMap Item.units =
    (items.flatMap sender.nalus).map sender.bytes := by
  rw [List.flatMap_map, List.map_flatMap]
  exact congrArg (List.flatMap · items) (funext sender.units_toItem)

/-- What holds of all NALUs that are sent holds of all units. -/
theorem units_forall {P : List UInt8 → Prop}
    (h : ∀ n ∈ items.flatMap sender.nalus, P (sender.bytes n)) :
    ∀ it ∈ items.map sender.toItem, ∀ u ∈ it.units, P u := by
  intro it hit u hu
  obtain ⟨item, hitem, rfl⟩ := List.mem_map.mp hit
  rw [sender.units_toItem] at hu
  obtain ⟨n, hn, rfl⟩ := List.mem_map.mp hu
  exact h n (List.mem_flatMap.mpr ⟨item, hitem, hn⟩)

theorem items_nonEmpty : ∀ it ∈ items.map sender.toItem, it.NonEmpty :=
  List.forall_mem_map.mpr fun it _ => sender.nonEmpty it

/-- **Round trip**: a fresh decoder that receives every packet delivers all
NALUs. -/
theorem roundTrip (feedIncompleteFrames : Bool) (start : ℕ) {copies : List ℕ}
    (hlen : copies.length = (items.flatMap sender.payloads).length)
    (hpos : ∀ n ∈ copies, 0 < n) :
    ∃ s, run c.parse (new true feedIncompleteFrames)
        (arrivals fields start ((items.flatMap sender.payloads).zip copies)) = .ok s ∧
      s.handed = (items.flatMap sender.nalus).map fun n => startCode ++ sender.bytes n := by
  have h := Codec.roundTrip fields (sender.flatMap_carries items) (sender.items_nonEmpty items)
    (sender.units_forall items fun n _ => sender.fits n) feedIncompleteFrames start hlen hpos
  rwa [sender.flatMap_units, List.map_map] at h

/-- **Loss safety**: a fresh decoder that misses the first `joinAt` packets, and
then fewer than 65535 in a row, delivers a subsequence of the NALUs. -/
theorem lossSafe (hclean : ∀ n ∈ items.flatMap sender.nalus, Clean (sender.bytes n))
    (start joinAt : ℕ) {copies : List ℕ} (hfew : ¬ List.replicate 65535 0 <:+: copies)
    (hspares : EveryStep c.SparesMissing c.parse (new true false)
      (arrivals fields start
        ((items.flatMap sender.payloads).zip (List.replicate joinAt 0 ++ copies)))) :
    Codec.LossSafe ((items.flatMap sender.nalus).map sender.bytes)
      (run c.parse (new true false)
        (arrivals fields start
          ((items.flatMap sender.payloads).zip (List.replicate joinAt 0 ++ copies)))) := by
  have h := Codec.lossSafe fields (sender.flatMap_carries items) (sender.items_nonEmpty items)
    (sender.units_forall items fun n _ => sender.fits n) (sender.units_forall items hclean)
    start joinAt hfew hspares
  rwa [sender.flatMap_units] at h

end Sender

end QOpenHD
