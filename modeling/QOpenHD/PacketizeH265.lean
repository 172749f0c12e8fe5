/-
QOpenHD/PacketizeH265.lean

H265 over RTP: what RFC 7798 lets a sender do without decoding order numbers,
and what `parseRTPH265toNALU` makes of it.

The layout is that of `PacketizeH264.lean`: items, the meaning of a payload,
the codec, the results.  One thing is different.  `parseRTPH264toNALU` asks
for the missing packet flag when a fragmented NALU ends and
`parseRTPH265toNALU` does not, so a NALU with a hole in it is forwarded as if
it were whole.  The codec's side condition `SparesH265` leaves exactly these
packets out, and the results are

* **`h265_roundTrip`** — if every packet arrives, once or several times in a
  row, exactly the NALUs that were sent are forwarded, in order;
* **`h265_lossSafe`** — if packets are lost, and no fragmented NALU ends while a
  packet is missing and the buffer looks like a NALU, what is forwarded is a
  subsequence of the NALUs that were sent;
* `h265_forwards_hole` — without that condition it is not.
-/
import QOpenHD.Depacketize

namespace QOpenHD

open Checked SizePrefixed Reassembly RTPDecoder

/-! ### NALUs and packets -/

/-- A NALU that is sent on its own, aggregated or fragmented: types below 48, at
least one byte behind the two header bytes, and not too long for the
receiver. -/
structure H265Nalu where
  header₀ : UInt8
  header₁ : UInt8
  body : List UInt8
  type_lt : nalUnitTypeH265 header₀ < 48
  body_ne : body ≠ []
  fits : (header₀ :: header₁ :: body).length + 4 ≤ NALU_MAXLEN

def H265Nalu.bytes (n : H265Nalu) : List UInt8 := n.header₀ :: n.header₁ :: n.body

/-- How one NALU, or several, are sent. -/
inductive H265Item
  | single (n : H265Nalu)
  /-- The sizes in an aggregation packet have 16 bits. -/
  | ap (hdr₀ hdr₁ : UInt8) (hhdr : nalUnitTypeH265 hdr₀ = 48) (n : H265Nalu)
      (ns : List H265Nalu) (hsize : ∀ m ∈ n :: ns, m.bytes.length < 65536)
  /-- The header bytes are not part of the fragments. -/
  | fu (n : H265Nalu) (first : List UInt8) (middles : List (List UInt8)) (last : List UInt8)
      (hbody : first ++ middles.flatten ++ last = n.body) (hfirst : first ≠ [])
      (hmiddles : ∀ m ∈ middles, m ≠ []) (hlast : last ≠ [])

namespace H265Item

/-- The NALUs of an item. -/
def nalus : H265Item → List H265Nalu
  | single n => [n]
  | ap _ _ _ n ns _ => n :: ns
  | fu n _ _ _ _ _ _ _ => [n]

/-- The first byte of a payload header: that of the NALU, with type 49. -/
def fuPayloadHeader (header₀ : UInt8) : UInt8 :=
  (header₀ &&& (0x81 : UInt8)) ||| ((49 : UInt8) <<< 1)

/-- The FU header: start bit or end bit or none, and the type of the NALU. -/
def fuHeader (bits header₀ : UInt8) : UInt8 := bits ||| nalUnitTypeH265 header₀

/-- The payloads an item is sent as. -/
def payloads : H265Item → List (List UInt8)
  | single n => [n.bytes]
  | ap hdr₀ hdr₁ _ n ns _ => [hdr₀ :: hdr₁ :: (n :: ns).flatMap fun m => sized m.bytes]
  | fu n first middles last _ _ _ _ =>
    (fuPayloadHeader n.header₀ :: n.header₁ :: fuHeader 0x80 n.header₀ :: first) ::
      (middles.map (fun m => fuPayloadHeader n.header₀ :: n.header₁ :: fuHeader 0 n.header₀ :: m) ++
        [fuPayloadHeader n.header₀ :: n.header₁ :: fuHeader 0x40 n.header₀ :: last])

/-- What is being reassembled. -/
def toItem : H265Item → Item UInt8
  | single n => .whole [n.bytes]
  | ap _ _ _ n ns _ => .whole ((n :: ns).map H265Nalu.bytes)
  | fu n first middles last _ _ _ _ => .split (n.header₀ :: n.header₁ :: first) middles last

theorem toItem_nonEmpty (it : H265Item) : it.toItem.NonEmpty := by
  cases it with
  | single n => trivial
  | ap hdr₀ hdr₁ hhdr n ns hsize => trivial
  | fu n first middles last hbody hfirst hmiddles hlast => exact ⟨hmiddles, hlast⟩

theorem units_toItem (it : H265Item) : it.toItem.units = it.nalus.map H265Nalu.bytes := by
  cases it with
  | single n => rfl
  | ap hdr₀ hdr₁ hhdr n ns hsize => rfl
  | fu n first middles last hbody hfirst hmiddles hlast =>
      simp [toItem, Item.units, nalus, H265Nalu.bytes, ← hbody]

end H265Item

/-! ### What a payload carries -/

/-- The packet a payload stands for. -/
inductive CarriesH265 : List UInt8 → Packet UInt8 → Prop
  | single {b₀ b₁ : UInt8} {rest : List UInt8} : nalUnitTypeH265 b₀ < 48 → rest ≠ [] →
      CarriesH265 (b₀ :: b₁ :: rest) (.whole [b₀ :: b₁ :: rest])
  | ap {hdr₀ hdr₁ : UInt8} {nalu : List UInt8} {nalus : List (List UInt8)} :
      nalUnitTypeH265 hdr₀ = 48 → (∀ v ∈ nalu :: nalus, v ≠ [] ∧ v.length < 65536) →
      CarriesH265 (hdr₀ :: hdr₁ :: (nalu :: nalus).flatMap sized) (.whole (nalu :: nalus))
  | fuStart {hdr₀ hdr₁ fuHeader : UInt8} {frag : List UInt8} : nalUnitTypeH265 hdr₀ = 49 →
      (FuHeaderH265.ofByte fuHeader).e = 0 → (FuHeaderH265.ofByte fuHeader).s ≠ 0 → frag ≠ [] →
      CarriesH265 (hdr₀ :: hdr₁ :: fuHeader :: frag)
        (.first (h265FuNaluHeader hdr₀ hdr₁ fuHeader ++ frag))
  | fuMiddle {hdr₀ hdr₁ fuHeader : UInt8} {frag : List UInt8} : nalUnitTypeH265 hdr₀ = 49 →
      (FuHeaderH265.ofByte fuHeader).e = 0 → (FuHeaderH265.ofByte fuHeader).s = 0 → frag ≠ [] →
      CarriesH265 (hdr₀ :: hdr₁ :: fuHeader :: frag) (.middle frag)
  | fuEnd {hdr₀ hdr₁ fuHeader : UInt8} {frag : List UInt8} : nalUnitTypeH265 hdr₀ = 49 →
      (FuHeaderH265.ofByte fuHeader).e ≠ 0 → frag ≠ [] →
      CarriesH265 (hdr₀ :: hdr₁ :: fuHeader :: frag) (.last frag)

/-- What the three header bytes of a fragment say, for every NALU header. -/
theorem fu_headers (b₀ b₁ : UInt8) :
    nalUnitTypeH265 (H265Item.fuPayloadHeader b₀) = 49 ∧
      ((FuHeaderH265.ofByte (H265Item.fuHeader 0x80 b₀)).e = 0 ∧
        (FuHeaderH265.ofByte (H265Item.fuHeader 0x80 b₀)).s ≠ 0) ∧
      ((FuHeaderH265.ofByte (H265Item.fuHeader 0 b₀)).e = 0 ∧
        (FuHeaderH265.ofByte (H265Item.fuHeader 0 b₀)).s = 0) ∧
      (FuHeaderH265.ofByte (H265Item.fuHeader 0x40 b₀)).e ≠ 0 ∧
      h265FuNaluHeader (H265Item.fuPayloadHeader b₀) b₁ (H265Item.fuHeader 0x80 b₀) =
        [b₀, b₁] := by
  simp only [h265FuNaluHeader, List.cons.injEq, and_true]
  revert b₀
  apply forall_uint8
  decide +kernel

/-- Every item is sent as payloads that carry it. -/
theorem H265Item.carries (it : H265Item) :
    List.Forall₂ CarriesH265 it.payloads it.toItem.packets := by
  cases it with
  | single n => exact .cons (.single n.type_lt n.body_ne) .nil
  | ap hdr₀ hdr₁ hhdr n ns hsize =>
      have hlen : ∀ v ∈ (n :: ns).map H265Nalu.bytes, v ≠ [] ∧ v.length < 65536 := by
        intro v hv
        obtain ⟨m, hm, rfl⟩ := List.mem_map.mp hv
        exact ⟨List.cons_ne_nil _ _, hsize m hm⟩
      have hpayload : ((n :: ns).flatMap fun m => sized m.bytes) =
          ((n :: ns).map H265Nalu.bytes).flatMap sized := by
        rw [List.flatMap_map]
      rw [payloads, hpayload]
      exact .cons (.ap hhdr hlen) .nil
  | fu n first middles last hbody hfirst hmiddles hlast =>
      obtain ⟨htype, ⟨he₁, hs₁⟩, ⟨he₂, hs₂⟩, he₃, hhdr⟩ := fu_headers n.header₀ n.header₁
      have hstart : CarriesH265
          (fuPayloadHeader n.header₀ :: n.header₁ :: fuHeader 0x80 n.header₀ :: first) _ :=
        .fuStart htype he₁ hs₁ hfirst
      rw [hhdr] at hstart
      refine .cons hstart (List.rel_append ?_ (.cons (.fuEnd htype he₃ hlast) .nil))
      rw [List.forall₂_map_left_iff, List.forall₂_map_right_iff, List.forall₂_same]
      exact fun m hm => .fuMiddle htype he₂ hs₂ (hmiddles m hm)

/-! ### The codec -/

/-- With this buffer and this payload, no fragmented NALU ends, or what the
buffer would hold then is not taken for a NALU. -/
def SparesH265 (b : NaluBuffer) : List UInt8 → Prop
  | hdr₀ :: _ :: fuHeader :: frag =>
    nalUnitTypeH265 hdr₀ = 49 → (FuHeaderH265.ofByte fuHeader).e ≠ 0 →
      checkHasValidPrefix (appended b.bytes frag) true = false
  | _ => True

instance (b : NaluBuffer) : ∀ payload : List UInt8, Decidable (SparesH265 b payload)
  | _ :: _ :: _ :: _ => inferInstanceAs (Decidable (_ → _ → _ = _))
  | [] => isTrue trivial
  | [_] => isTrue trivial
  | [_, _] => isTrue trivial

/-- **The H265 packet handler does what a receiver does**, in every phase but
one: when a NALU ends while a packet is missing, only if the buffer does not
look like a NALU. -/
theorem h265HandlePacket_handles {s : RTPDecoder} {h : RtpHeader} {payload : List UInt8}
    {p : Packet UInt8} {ph : Phase UInt8} (hcarries : CarriesH265 payload p) (hcb : s.cb = true)
    (hr : Realises s.flagPacketHasGoneMissing s.currNalu.bytes ph)
    (hfit : Compatible Fits Harmless ph p)
    (hspares : ph = .broken → SparesH265 s.currNalu payload) :
    ∃ s', s.h265HandlePacket ⟨h, payload⟩ = .ok s' ∧
      Handled s s' (ph.arrive p).1 (ph.arrive p).2 := by
  cases hcarries with
  | @single b₀ b₁ rest h48 hrest =>
      have h50 : ¬ nalUnitTypeH265 b₀ > 50 := fun h50 =>
        absurd (UInt8.lt_trans h50 h48) (by decide)
      have hne48 : nalUnitTypeH265 b₀ ≠ 48 := fun h => absurd (h ▸ h48) (by decide)
      have hne49 : nalUnitTypeH265 b₀ ≠ 49 := fun h => absurd (h ▸ h48) (by decide)
      rw [Phase.arrive_whole, h265HandlePacket_single h50 hne48 hne49]
      rw [compatible_whole] at hfit
      have hone : s.h265ForwardOneNalu (b₀ :: b₁ :: rest ++ []) (b₀ :: b₁ :: rest).length true =
          .ok (s.deliver (b₀ :: b₁ :: rest)) :=
        h265ForwardOneNalu_nalu hcb (List.cons_ne_nil _ _) (hfit _ (by simp))
      rw [List.append_nil] at hone
      exact ⟨_, hone, @handled_deliver s (b₀ :: b₁ :: rest) []⟩
  | ap h48 hlen =>
      rw [Phase.arrive_whole, h265HandlePacket_ap h48, h265ForwardAggregated_units hcb hlen]
      exact ⟨_, rfl, handled_deliver⟩
  | fuStart htype he hs hfrag =>
      rw [Phase.arrive_first, h265HandlePacket_fuStart htype he hs]
      obtain ⟨r, hU⟩ := compatible_first.mp hfit
      obtain ⟨s', hs', hhandled⟩ := append_first (s := s.clearMissingPacketFlag)
        (h := h265FuNaluHeader_fits _ _ _) rfl hfrag hU
      exact ⟨s', hs', { hhandled with }⟩
  | fuMiddle htype he hs hfrag =>
      rw [h265HandlePacket_fuMiddle htype he hs, Phase.arrive_middle_snd]
      exact append_middle hr hfit
  | @fuEnd hdr₀ hdr₁ fuHeader frag htype he hfrag =>
      rw [h265HandlePacket_fuEnd htype he]
      by_cases hph : ph = .broken
      · have hinvalid := hspares hph htype he
        subst hph
        obtain ⟨hb, happ⟩ := appendNaluData_appended (s := s) hfrag
        rw [happ, ok_bind, forwardNALU_invalid (s := s.withNalu _ hb) hcb hinvalid]
        exact ⟨_, rfl, ⟨hr, by simp [dropNalu, Phase.arrive], rfl, rfl, rfl⟩⟩
      · obtain ⟨s', hs', -, hhandled⟩ := append_last hcb hr hfit hph
        rw [hs', ok_bind]
        exact ⟨_, rfl, hhandled⟩

theorem CarriesH265.long {payload : List UInt8} {p : Packet UInt8} (h : CarriesH265 payload p) :
    2 < payload.length := by
  cases h with
  | single _ hrest => simpa using List.length_pos_of_ne_nil hrest
  | ap => simp [sized, toBE16]
  | fuStart => simp
  | fuMiddle => simp
  | fuEnd => simp

/-- H265 over RTP. -/
def h265Codec : Codec where
  extra := 2
  handlePacket := h265HandlePacket
  Carries := CarriesH265
  Spares := SparesH265
  long := CarriesH265.long
  handles := h265HandlePacket_handles

/-- Items are sent as their payloads. -/
def h265Sender : Sender h265Codec H265Item H265Nalu where
  nalus := H265Item.nalus
  bytes := H265Nalu.bytes
  payloads := H265Item.payloads
  toItem := H265Item.toItem
  carries := H265Item.carries
  nonEmpty := H265Item.toItem_nonEmpty
  units_toItem := H265Item.units_toItem
  fits n := n.fits

/-! ### Results -/

/-- Four NALUs in all three kinds of packets. -/
def h265Sample : List H265Item :=
  [.single ⟨0x40, 0x01, [0x0c], by decide, by decide, by decide⟩,
    .ap 0x60 0x01 (by decide) ⟨0x42, 0x01, [0x01], by decide, by decide, by decide⟩
      [⟨0x44, 0x01, [0xc1, 0x72], by decide, by decide, by decide⟩] (by decide),
    .fu ⟨0x26, 0x01, [1, 2, 3, 4], by decide, by decide, by decide⟩ [1] [[2], [3]] [4]
      (by decide) (by decide) (by decide) (by decide)]

section Results

variable (fields : ℕ → RtpFields) (items : List H265Item)

/-- **Round trip**: if every packet arrives, and however often it is repeated,
the NALUs that were sent are forwarded, in order and once each, behind a start
code. -/
theorem h265_roundTrip (feedIncompleteFrames : Bool) (start : ℕ) (copies : List ℕ)
    (hlen : copies.length = (items.flatMap H265Item.payloads).length)
    (hpos : ∀ n ∈ copies, 0 < n) :
    ∃ s, run parseRTPH265toNALU (new true feedIncompleteFrames)
        (arrivals fields start ((items.flatMap H265Item.payloads).zip copies)) = .ok s ∧
      s.handed = (items.flatMap H265Item.nalus).map fun n => startCode ++ n.bytes :=
  h265Sender.roundTrip fields items feedIncompleteFrames start hlen hpos

/-- The sample, with its first packet repeated and across the wrap of the
sequence numbers. -/
theorem h265_roundTrip_sample :
    ∃ s, run parseRTPH265toNALU (new true false)
        (arrivals (fun _ => ⟨96, .replicate 8 0⟩) 65533
          ((h265Sample.flatMap H265Item.payloads).zip [2, 1, 1, 1, 1, 3])) = .ok s ∧
      s.handed = [[0, 0, 0, 1, 0x40, 0x01, 0x0c], [0, 0, 0, 1, 0x42, 0x01, 0x01],
        [0, 0, 0, 1, 0x44, 0x01, 0xc1, 0x72], [0, 0, 0, 1, 0x26, 0x01, 1, 2, 3, 4]] :=
  h265_roundTrip (fun _ => ⟨96, .replicate 8 0⟩) h265Sample false 65533 [2, 1, 1, 1, 1, 3]
    (by decide) (by decide)

/-- No fragmented NALU ends with this datagram while a packet is missing and
the buffer, with the last fragment appended, looks like a NALU. -/
def NoHoleForwarded (s : RTPDecoder) (rtpData : List UInt8) : Prop :=
  s.PacketMissing (rtpSequence rtpData) → SparesH265 s.currNalu (rtpData.drop rtpHeaderSize)

instance (s : RTPDecoder) (rtpData : List UInt8) : Decidable (NoHoleForwarded s rtpData) :=
  inferInstanceAs (Decidable (_ → _))

/-- **Loss safety, where it holds**: if a receiver misses the first `joinAt`
packets, and then any packets but never 65535 in a row, and no datagram
forwards a NALU with a hole, what it forwards is a subsequence of the NALUs that
were sent, each behind a start code. -/
theorem h265_lossSafe (hclean : ∀ n ∈ items.flatMap H265Item.nalus, Clean n.bytes)
    (start joinAt : ℕ) (copies : List ℕ) (hfew : ¬ List.replicate 65535 0 <:+: copies)
    (hnohole : EveryStep NoHoleForwarded parseRTPH265toNALU (new true false)
      (arrivals fields start
        ((items.flatMap H265Item.payloads).zip (List.replicate joinAt 0 ++ copies)))) :
    Codec.LossSafe ((items.flatMap H265Item.nalus).map H265Nalu.bytes)
      (run parseRTPH265toNALU (new true false)
        (arrivals fields start
          ((items.flatMap H265Item.payloads).zip (List.replicate joinAt 0 ++ copies)))) :=
  h265Sender.lossSafe fields items hclean start joinAt hfew hnohole

end Results

/-- The sample, when the packet of its own and the first fragment are lost. -/
theorem h265_lossSafe_sample :
    Codec.LossSafe ((h265Sample.flatMap H265Item.nalus).map H265Nalu.bytes)
      (run parseRTPH265toNALU (new true false)
        (arrivals (fun _ => ⟨96, .replicate 8 0⟩) 65533
          ((h265Sample.flatMap H265Item.payloads).zip (List.replicate 1 0 ++ [1, 0, 1, 1, 1])))) :=
  h265_lossSafe (fun _ => ⟨96, .replicate 8 0⟩) h265Sample (by decide) 65533 1 [1, 0, 1, 1, 1]
    (fun h => absurd h.length_le (by rw [List.length_replicate]; decide)) (by decide)

/-- One NALU in three fragments. -/
def h265Fragmented : List H265Item :=
  [.fu ⟨0x26, 0x01, [1, 2, 3], by decide, by decide, by decide⟩ [1] [[2]] [3] (by decide)
    (by decide) (by decide) (by decide)]

/-- The middle fragment is lost, and the first and the last one are forwarded
as a NALU that was never sent. -/
theorem h265_forwards_hole :
    ¬ ∀ (fields : ℕ → RtpFields) (items : List H265Item),
        (∀ n ∈ items.flatMap H265Item.nalus, Clean n.bytes) →
        ∀ (start joinAt : ℕ) (copies : List ℕ), ¬ List.replicate 65535 0 <:+: copies →
        Codec.LossSafe ((items.flatMap H265Item.nalus).map H265Nalu.bytes)
          (run parseRTPH265toNALU (new true false)
            (arrivals fields start
              ((items.flatMap H265Item.payloads).zip (List.replicate joinAt 0 ++ copies)))) := by
  intro h
  obtain ⟨s, delivered, hs, hsub, hhanded⟩ := h (fun _ => ⟨96, .replicate 8 0⟩) h265Fragmented
    (by decide) 0 0 [1, 0, 1] fun h => absurd h.length_le (by rw [List.length_replicate]; decide)
  have hrun : (run parseRTPH265toNALU (new true false)
      (arrivals (fun _ => ⟨96, .replicate 8 0⟩) 0
        ((h265Fragmented.flatMap H265Item.payloads).zip (List.replicate 0 0 ++ [1, 0, 1])))).map
          RTPDecoder.handed = .ok [startCode ++ [0x26, 0x01, 1, 3]] := rfl
  rw [hs] at hrun
  have hone : delivered.map (startCode ++ ·) = [startCode ++ [0x26, 0x01, 1, 3]] :=
    hhanded.symm.trans (Except.ok.inj hrun)
  obtain ⟨d, rfl, hd⟩ := List.map_eq_singleton_iff.mp hone
  have hmem : d ∈ [[0x26, 0x01, 1, 2, 3]] := hsub.subset (by simp)
  obtain rfl := List.mem_singleton.mp hmem
  exact absurd hd (by decide)

end QOpenHD
