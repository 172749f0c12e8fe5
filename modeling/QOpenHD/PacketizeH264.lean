/-
QOpenHD/PacketizeH264.lean

H264 over RTP: what RFC 6184 lets a sender do, and what `parseRTPH264toNALU`
makes of it.

A sender turns its NALUs into a list of `H264Item`s: a NALU in a packet of its
own, several in a STAP-A packet, or one cut into FU-A packets.  `CarriesH264`
is the meaning of a payload, `h264Codec` the proof that the packet handler
respects it, and the two results are about all lists of items, all headers
and sequence numbers, and all channels:

* **`h264_roundTrip`** — if every packet arrives, once or several times in a
  row, exactly the NALUs that were sent are forwarded, in order;
* **`h264_lossSafe`** — if packets are lost, what is forwarded is a
  subsequence of the NALUs that were sent.
-/
import QOpenHD.Depacketize

namespace QOpenHD

open Checked SizePrefixed Reassembly RTPDecoder

/-! ### NALUs and packets -/

/-- A NALU that is sent on its own, aggregated or fragmented: types 1 to 23, at
least one byte behind the header, and not too long for the receiver. -/
structure H264Nalu where
  header : UInt8
  body : List UInt8
  type_pos : (NaluHeader.ofByte header).type > 0
  type_lt : (NaluHeader.ofByte header).type < 24
  body_ne : body ≠ []
  fits : (header :: body).length + 4 ≤ NALU_MAXLEN

def H264Nalu.bytes (n : H264Nalu) : List UInt8 := n.header :: n.body

/-- How one NALU, or several, are sent. -/
inductive H264Item
  | single (n : H264Nalu)
  /-- The sizes in a STAP-A packet have 16 bits. -/
  | stapA (hdr : UInt8) (hhdr : (NaluHeader.ofByte hdr).type = 24) (n : H264Nalu)
      (ns : List H264Nalu) (hsize : ∀ m ∈ n :: ns, m.bytes.length < 65536)
  /-- The header is not part of the fragments. -/
  | fuA (n : H264Nalu) (first : List UInt8) (middles : List (List UInt8)) (last : List UInt8)
      (hbody : first ++ middles.flatten ++ last = n.body) (hfirst : first ≠ [])
      (hmiddles : ∀ m ∈ middles, m ≠ []) (hlast : last ≠ [])

namespace H264Item

/-- The NALUs of an item. -/
def nalus : H264Item → List H264Nalu
  | single n => [n]
  | stapA _ _ n ns _ => n :: ns
  | fuA n _ _ _ _ _ _ _ => [n]

/-- The FU indicator: F and NRI of the NALU. -/
def fuIndicator (header : UInt8) : UInt8 := (header &&& 0xe0) ||| 28

/-- The FU header: start bit or end bit or none, and the type of the NALU. -/
def fuHeader (bits header : UInt8) : UInt8 := bits ||| (header &&& 0x1f)

/-- The payloads an item is sent as. -/
def payloads : H264Item → List (List UInt8)
  | single n => [n.bytes]
  | stapA hdr _ n ns _ => [hdr :: (n :: ns).flatMap fun m => sized m.bytes]
  | fuA n first middles last _ _ _ _ =>
    (fuIndicator n.header :: fuHeader 0x80 n.header :: first) ::
      (middles.map (fun m => fuIndicator n.header :: fuHeader 0 n.header :: m) ++
        [fuIndicator n.header :: fuHeader 0x40 n.header :: last])

/-- What is being reassembled. -/
def toItem : H264Item → Item UInt8
  | single n => .whole [n.bytes]
  | stapA _ _ n ns _ => .whole ((n :: ns).map H264Nalu.bytes)
  | fuA n first middles last _ _ _ _ => .split (n.header :: first) middles last

theorem toItem_nonEmpty (it : H264Item) : it.toItem.NonEmpty := by
  cases it with
  | single n => trivial
  | stapA hdr hhdr n ns hsize => trivial
  | fuA n first middles last hbody hfirst hmiddles hlast => exact ⟨hmiddles, hlast⟩

theorem units_toItem (it : H264Item) : it.toItem.units = it.nalus.map H264Nalu.bytes := by
  cases it with
  | single n => rfl
  | stapA hdr hhdr n ns hsize => rfl
  | fuA n first middles last hbody hfirst hmiddles hlast =>
      simp [toItem, Item.units, nalus, H264Nalu.bytes, ← hbody]

end H264Item

/-! ### What a payload carries -/

/-- The packet a payload stands for. -/
inductive CarriesH264 : List UInt8 → Packet UInt8 → Prop
  | single {b : UInt8} {rest : List UInt8} : (NaluHeader.ofByte b).type > 0 →
      (NaluHeader.ofByte b).type < 24 → rest ≠ [] → CarriesH264 (b :: rest) (.whole [b :: rest])
  | stapA {hdr : UInt8} {nalu : List UInt8} {nalus : List (List UInt8)} :
      (NaluHeader.ofByte hdr).type = 24 →
      (∀ v ∈ nalu :: nalus, 2 ≤ v.length ∧ v.length < 65536) →
      CarriesH264 (hdr :: (nalu :: nalus).flatMap sized) (.whole (nalu :: nalus))
  | fuStart {indicator fuHeader : UInt8} {frag : List UInt8} :
      (NaluHeader.ofByte indicator).type = 28 → (FuHeader.ofByte fuHeader).e ≠ 1 →
      (FuHeader.ofByte fuHeader).s = 1 → frag ≠ [] →
      CarriesH264 (indicator :: fuHeader :: frag)
        (.first (h264FuNaluHeader indicator fuHeader :: frag))
  | fuMiddle {indicator fuHeader : UInt8} {frag : List UInt8} :
      (NaluHeader.ofByte indicator).type = 28 → (FuHeader.ofByte fuHeader).e ≠ 1 →
      (FuHeader.ofByte fuHeader).s ≠ 1 → frag ≠ [] →
      CarriesH264 (indicator :: fuHeader :: frag) (.middle frag)
  | fuEnd {indicator fuHeader : UInt8} {frag : List UInt8} :
      (NaluHeader.ofByte indicator).type = 28 → (FuHeader.ofByte fuHeader).e = 1 → frag ≠ [] →
      CarriesH264 (indicator :: fuHeader :: frag) (.last frag)

/-- What the two header bytes of a fragment say, for every NALU header. -/
theorem fuA_headers (b : UInt8) :
    (NaluHeader.ofByte (H264Item.fuIndicator b)).type = 28 ∧
      ((FuHeader.ofByte (H264Item.fuHeader 0x80 b)).e ≠ 1 ∧
        (FuHeader.ofByte (H264Item.fuHeader 0x80 b)).s = 1) ∧
      ((FuHeader.ofByte (H264Item.fuHeader 0 b)).e ≠ 1 ∧
        (FuHeader.ofByte (H264Item.fuHeader 0 b)).s ≠ 1) ∧
      (FuHeader.ofByte (H264Item.fuHeader 0x40 b)).e = 1 ∧
      h264FuNaluHeader (H264Item.fuIndicator b) (H264Item.fuHeader 0x80 b) = b := by
  revert b
  apply forall_uint8
  decide +kernel

/-- Every item is sent as payloads that carry it. -/
theorem H264Item.carries (it : H264Item) :
    List.Forall₂ CarriesH264 it.payloads it.toItem.packets := by
  cases it with
  | single n => exact .cons (.single n.type_pos n.type_lt n.body_ne) .nil
  | stapA hdr hhdr n ns hsize =>
      have hlen : ∀ v ∈ (n :: ns).map H264Nalu.bytes, 2 ≤ v.length ∧ v.length < 65536 := by
        intro v hv
        obtain ⟨m, hm, rfl⟩ := List.mem_map.mp hv
        have hpos := List.length_pos_of_ne_nil m.body_ne
        exact ⟨Nat.succ_le_succ hpos, hsize m hm⟩
      have hpayload : ((n :: ns).flatMap fun m => sized m.bytes) =
          ((n :: ns).map H264Nalu.bytes).flatMap sized := by
        rw [List.flatMap_map]
      rw [payloads, hpayload]
      exact .cons (.stapA hhdr hlen) .nil
  | fuA n first middles last hbody hfirst hmiddles hlast =>
      obtain ⟨hind, ⟨he₁, hs₁⟩, ⟨he₂, hs₂⟩, he₃, hhdr⟩ := fuA_headers n.header
      have hstart := CarriesH264.fuStart hind he₁ hs₁ hfirst
      rw [hhdr] at hstart
      refine .cons hstart (List.rel_append ?_ (.cons (.fuEnd hind he₃ hlast) .nil))
      rw [List.forall₂_map_left_iff, List.forall₂_map_right_iff, List.forall₂_same]
      exact fun m hm => .fuMiddle hind he₂ hs₂ (hmiddles m hm)

/-! ### The codec -/

/-- A last fragment while a packet is missing: the buffer is dropped. -/
theorem h264_fuEnd_missing {s : RTPDecoder} {frag : List UInt8} (hfrag : frag ≠ [])
    (hflag : s.flagPacketHasGoneMissing = true) :
    ∃ s', s.appendNaluData frag frag.length = .ok s' ∧ s'.flagPacketHasGoneMissing = true ∧
      Handled s s'.dropNalu .broken [] := by
  obtain ⟨hb, happ⟩ := appendNaluData_appended (s := s) hfrag
  exact ⟨_, happ, hflag, ⟨hflag, by simp [dropNalu], rfl, rfl, rfl⟩⟩

/-- **The H264 packet handler does what a receiver does**, in every phase. -/
theorem h264HandlePacket_handles {s : RTPDecoder} {h : RtpHeader} {payload : List UInt8}
    {p : Packet UInt8} {ph : Phase UInt8} (hcarries : CarriesH264 payload p) (hcb : s.cb = true)
    (hr : Realises s.flagPacketHasGoneMissing s.currNalu.bytes ph)
    (hfit : Compatible Fits Harmless ph p) :
    ∃ s', s.h264HandlePacket ⟨h, payload⟩ = .ok s' ∧
      Handled s s' (ph.arrive p).1 (ph.arrive p).2 := by
  cases hcarries with
  | @single b rest h0 h24 hrest =>
      rw [Phase.arrive_whole, h264HandlePacket_single h0 h24]
      rw [compatible_whole] at hfit
      have hlen : 2 ≤ (b :: rest).length := Nat.succ_le_succ (List.length_pos_of_ne_nil hrest)
      have hone : s.h264ReconstructAndForwardOneNalu (b :: rest ++ []) (b :: rest).length =
          .ok (s.deliver (b :: rest)) :=
        h264ReconstructAndForwardOneNalu_nalu hcb hlen (hfit _ (by simp))
      rw [List.append_nil] at hone
      exact ⟨_, hone, @handled_deliver s (b :: rest) []⟩
  | stapA h24 hlen =>
      rw [Phase.arrive_whole, h264HandlePacket_stapA h24, h264ForwardAggregated_units hcb hlen]
      exact ⟨_, rfl, handled_deliver⟩
  | @fuStart indicator fuHeader frag hind he hs hfrag =>
      rw [Phase.arrive_first, h264HandlePacket_fuStart hind he hs]
      obtain ⟨r, hU⟩ := compatible_first.mp hfit
      obtain ⟨s', hs', hhandled⟩ := append_first (s :=
        { s with totalNFragmentsForCurrentFu := 0 }.clearMissingPacketFlag)
        (h := startCode_byte_fits (h264FuNaluHeader indicator fuHeader)) rfl hfrag (r := r)
        (by simpa using hU)
      exact ⟨s', hs', { hhandled with }⟩
  | fuMiddle hind he hs hfrag =>
      rw [h264HandlePacket_fuMiddle hind he hs]
      obtain ⟨s', hs', hhandled⟩ := append_middle hr hfit
      rw [hs', ok_bind, Phase.arrive_middle_snd]
      exact ⟨_, rfl, { hhandled with }⟩
  | fuEnd hind he hfrag =>
      rw [h264HandlePacket_fuEnd hind he]
      by_cases hph : ph = .broken
      · subst hph
        obtain ⟨s', hs', hflag, hhandled⟩ := h264_fuEnd_missing hfrag hr
        rw [hs', ok_bind]
        refine ⟨_, rfl, ?_⟩
        simp only [hflag, Bool.not_true, Bool.false_eq_true, ↓reduceIte]
        exact { hhandled with }
      · obtain ⟨s', hs', hflag, hhandled⟩ := append_last hcb hr hfit hph
        rw [hs', ok_bind]
        refine ⟨_, rfl, ?_⟩
        simp only [hflag, Bool.not_false, ↓reduceIte]
        exact { hhandled with }

theorem CarriesH264.long {payload : List UInt8} {p : Packet UInt8} (h : CarriesH264 payload p) :
    1 < payload.length := by
  cases h with
  | single _ _ hrest => simpa using List.length_pos_of_ne_nil hrest
  | stapA => simp [sized, toBE16]
  | fuStart => simp
  | fuMiddle => simp
  | fuEnd => simp

/-- H264 over RTP.  Nothing is asked of packets that arrive while another one
is missing. -/
def h264Codec : Codec where
  extra := 1
  handlePacket := h264HandlePacket
  Carries := CarriesH264
  Spares _ _ := True
  long := CarriesH264.long
  handles hcarries hcb hr hfit _ := h264HandlePacket_handles hcarries hcb hr hfit

/-- Items are sent as their payloads. -/
def h264Sender : Sender h264Codec H264Item H264Nalu where
  nalus := H264Item.nalus
  bytes := H264Nalu.bytes
  payloads := H264Item.payloads
  toItem := H264Item.toItem
  carries := H264Item.carries
  nonEmpty := H264Item.toItem_nonEmpty
  units_toItem := H264Item.units_toItem
  fits n := n.fits

/-! ### Results -/

/-- Four NALUs in all three kinds of packets. -/
def h264Sample : List H264Item :=
  [.single ⟨0x67, [0x42], by decide, by decide, by decide, by decide⟩,
    .stapA 0x78 (by decide) ⟨0x68, [0xce], by decide, by decide, by decide, by decide⟩
      [⟨0x06, [0x05, 0x01], by decide, by decide, by decide, by decide⟩] (by decide),
    .fuA ⟨0x65, [0x88, 0x84, 0x21, 0xa0], by decide, by decide, by decide, by decide⟩
      [0x88] [[0x84], [0x21]] [0xa0]
      (by decide) (by decide) (by decide) (by decide)]

variable (fields : ℕ → RtpFields) (items : List H264Item)

/-- **Round trip**: if every packet arrives, and however often it is repeated,
the NALUs that were sent are forwarded, in order and once each, behind a start
code. -/
theorem h264_roundTrip (feedIncompleteFrames : Bool) (start : ℕ) (copies : List ℕ)
    (hlen : copies.length = (items.flatMap H264Item.payloads).length)
    (hpos : ∀ n ∈ copies, 0 < n) :
    ∃ s, run parseRTPH264toNALU (new true feedIncompleteFrames)
        (arrivals fields start ((items.flatMap H264Item.payloads).zip copies)) = .ok s ∧
      s.handed = (items.flatMap H264Item.nalus).map fun n => startCode ++ n.bytes :=
  h264Sender.roundTrip fields items feedIncompleteFrames start hlen hpos

/-- The sample, with its first packet repeated and across the wrap of the
sequence numbers. -/
theorem h264_roundTrip_sample :
    ∃ s, run parseRTPH264toNALU (new true false)
        (arrivals (fun _ => ⟨96, .replicate 8 0⟩) 65533
          ((h264Sample.flatMap H264Item.payloads).zip [2, 1, 1, 1, 1, 3])) = .ok s ∧
      s.handed = [[0, 0, 0, 1, 0x67, 0x42], [0, 0, 0, 1, 0x68, 0xce], [0, 0, 0, 1, 0x06, 0x05, 1],
        [0, 0, 0, 1, 0x65, 0x88, 0x84, 0x21, 0xa0]] :=
  h264_roundTrip (fun _ => ⟨96, .replicate 8 0⟩) h264Sample false 65533 [2, 1, 1, 1, 1, 3]
    (by decide) (by decide)

/-- **Loss safety**: if a receiver misses the first `joinAt` packets, and then
any packets but never 65535 in a row, what it forwards is a subsequence of the
NALUs that were sent, each behind a start code. -/
theorem h264_lossSafe (hclean : ∀ n ∈ items.flatMap H264Item.nalus, Clean n.bytes)
    (start joinAt : ℕ) (copies : List ℕ) (hfew : ¬ List.replicate 65535 0 <:+: copies) :
    Codec.LossSafe ((items.flatMap H264Item.nalus).map H264Nalu.bytes)
      (run parseRTPH264toNALU (new true false)
        (arrivals fields start
          ((items.flatMap H264Item.payloads).zip (List.replicate joinAt 0 ++ copies)))) :=
  h264Sender.lossSafe fields items hclean start joinAt hfew
    (everyStep_of_forall (fun _ _ _ => trivial) _ _)

/-- The sample, without its first packet and with a hole in its last NALU. -/
theorem h264_lossSafe_sample :
    Codec.LossSafe ((h264Sample.flatMap H264Item.nalus).map H264Nalu.bytes)
      (run parseRTPH264toNALU (new true false)
        (arrivals (fun _ => ⟨96, .replicate 8 0⟩) 65533
          ((h264Sample.flatMap H264Item.payloads).zip (List.replicate 1 0 ++ [1, 1, 0, 1, 1])))) :=
  h264_lossSafe (fun _ => ⟨96, .replicate 8 0⟩) h264Sample (by decide) 65533 1 [1, 1, 0, 1, 1]
    fun h => absurd h.length_le (by rw [List.length_replicate]; decide)

end QOpenHD
