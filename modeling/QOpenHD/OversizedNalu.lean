/-
QOpenHD/OversizedNalu.lean

Fragmented NALUs that are too long for the buffer of `RTPDecoder`.

A fragment that does not fit is skipped, which nobody takes note of: the next one is
appended if it fits, and the last one forwards whatever is there.

* `Fragmentation` — how a codec sends a NALU in fragments, and what its handler makes of
  them; `h264Fragmentation` and `h265Fragmentation` are the two there are;
* `forwards_kept` — what is forwarded are the start code, the header, and the fragments that
  fitted;
* `next_h264`, `next_h265` — the next NALU is forwarded intact;
* **`not_dropsWhole`** — no NALU that is too long is dropped; something shorter is forwarded
  in its place.
-/
import QOpenHD.NaluContract
import QOpenHD.PacketizeH264
import QOpenHD.PacketizeH265

namespace QOpenHD

open Checked Reassembly RTPDecoder

namespace OversizedNalu

/-! ### Fragments -/

/-- A handler has changed the buffer and the missing packet flag, and nothing else that matters. -/
structure Kept (s s' : RTPDecoder) (flag : Bool) (bytes : List UInt8) : Prop where
  last : s'.lastSequenceNumber = s.lastSequenceNumber
  cb : s'.cb = s.cb
  handed : s'.handed = s.handed
  flag : s'.flagPacketHasGoneMissing = flag
  bytes : s'.currNalu.bytes = bytes

/-- A handler has forwarded what is in the buffer. -/
structure Forwarded (s s' : RTPDecoder) (bytes : List UInt8) : Prop where
  last : s'.lastSequenceNumber = s.lastSequenceNumber
  cb : s'.cb = s.cb
  handed : s'.handed = s.handed ++ forwarded bytes

/-- How a NALU with a header is sent in fragments, and how these are handled. -/
structure Fragmentation where
  extra : ℕ
  handlePacket : RTPDecoder → RTPPacket → Exec RTPDecoder
  header : List UInt8
  header_ne : header ≠ []
  header_fits : (startCode ++ header).length ≤ NALU_MAXLEN
  first : List UInt8 → List UInt8
  middle : List UInt8 → List UInt8
  last : List UInt8 → List UInt8
  long : ∀ c, extra < (first c).length ∧ extra < (middle c).length ∧ extra < (last c).length
  handles_first : ∀ {s s' h c}, handlePacket s ⟨h, first c⟩ = .ok s' →
    Kept s s' false (appended (startCode ++ header) c)
  handles_middle : ∀ {s s' h c}, handlePacket s ⟨h, middle c⟩ = .ok s' →
    Kept s s' s.flagPacketHasGoneMissing (appended s.currNalu.bytes c)
  handles_last : ∀ {s s' h c}, s.cb = true → s.flagPacketHasGoneMissing = false →
    handlePacket s ⟨h, last c⟩ = .ok s' → Forwarded s s' (appended s.currNalu.bytes c)

theorem kept_append {s s' : RTPDecoder} {c : List UInt8}
    (h : s.appendNaluData c c.length = .ok s') :
    Kept s s' s.flagPacketHasGoneMissing (appended s.currNalu.bytes c) := by
  have hframe := appendNaluData_frame h
  obtain ⟨hbytes, hhanded, hcb⟩ := appendNaluData_all_eq_ok h
  exact ⟨by rw [hframe], hcb, hhanded, by rw [hframe], hbytes⟩

theorem Kept.forwarded {s s₁ : RTPDecoder} {flag : Bool} {bytes : List UInt8}
    (h : Kept s s₁ flag bytes) (hcb : s.cb = true) : Forwarded s s₁.forwardNALU.dropNalu bytes := by
  obtain ⟨hcb', hhanded⟩ := forwardNALU_forwarded (h.cb.trans hcb)
  have hlast : s₁.forwardNALU.dropNalu.lastSequenceNumber = s₁.lastSequenceNumber := by
    unfold forwardNALU
    split_ifs <;> rfl
  exact ⟨hlast.trans h.last, hcb'.trans hcb.symm, by rw [hhanded, h.handed, h.bytes]⟩

/-- A NALU with this header, in FU-A packets. -/
def h264Fragmentation (header : UInt8) : Fragmentation where
  extra := 1
  handlePacket := h264HandlePacket
  header := [header]
  header_ne := List.cons_ne_nil _ _
  header_fits := Nat.le_of_ble_eq_true rfl
  first c := H264Item.fuIndicator header :: H264Item.fuHeader 0x80 header :: c
  middle c := H264Item.fuIndicator header :: H264Item.fuHeader 0 header :: c
  last c := H264Item.fuIndicator header :: H264Item.fuHeader 0x40 header :: c
  long c := by simp
  handles_first h := by
    obtain ⟨hind, ⟨he, hs⟩, -, -, hhdr⟩ := fuA_headers header
    rw [h264HandlePacket_fuStart hind he hs] at h
    have hkept := kept_append h
    refine ⟨hkept.last, hkept.cb, hkept.handed, hkept.flag, ?_⟩
    rw [hkept.bytes, withNalu_bytes, hhdr]
  handles_middle h := by
    obtain ⟨hind, -, ⟨he, hs⟩, -, -⟩ := fuA_headers header
    rw [h264HandlePacket_fuMiddle hind he hs, bind_eq_ok_iff] at h
    obtain ⟨s₁, happ, h⟩ := h
    obtain rfl := Except.ok.inj h
    have hkept := kept_append happ
    exact ⟨hkept.last, hkept.cb, hkept.handed, hkept.flag, hkept.bytes⟩
  handles_last hcb hflag h := by
    obtain ⟨hind, -, -, he, -⟩ := fuA_headers header
    rw [h264HandlePacket_fuEnd hind he, bind_eq_ok_iff] at h
    obtain ⟨s₁, happ, h⟩ := h
    obtain rfl := Except.ok.inj h
    have hkept := kept_append happ
    have hforwarded := hkept.forwarded hcb
    rw [hkept.flag, hflag]
    exact ⟨hforwarded.last, hforwarded.cb, hforwarded.handed⟩

/-- A NALU with these two header bytes, in FU packets. -/
def h265Fragmentation (header₀ header₁ : UInt8) : Fragmentation where
  extra := 2
  handlePacket := h265HandlePacket
  header := [header₀, header₁]
  header_ne := List.cons_ne_nil _ _
  header_fits := Nat.le_of_ble_eq_true rfl
  first c := H265Item.fuPayloadHeader header₀ :: header₁ :: H265Item.fuHeader 0x80 header₀ :: c
  middle c := H265Item.fuPayloadHeader header₀ :: header₁ :: H265Item.fuHeader 0 header₀ :: c
  last c := H265Item.fuPayloadHeader header₀ :: header₁ :: H265Item.fuHeader 0x40 header₀ :: c
  long c := by simp
  handles_first h := by
    obtain ⟨htype, ⟨he, hs⟩, -, -, hhdr⟩ := fu_headers header₀ header₁
    rw [h265HandlePacket_fuStart htype he hs] at h
    have hkept := kept_append h
    refine ⟨hkept.last, hkept.cb, hkept.handed, hkept.flag, ?_⟩
    rw [hkept.bytes, withNalu_bytes, hhdr]
  handles_middle h := by
    obtain ⟨htype, -, ⟨he, hs⟩, -, -⟩ := fu_headers header₀ header₁
    rw [h265HandlePacket_fuMiddle htype he hs] at h
    exact kept_append h
  handles_last hcb _ h := by
    obtain ⟨htype, -, -, he, -⟩ := fu_headers header₀ header₁
    rw [h265HandlePacket_fuEnd htype he, bind_eq_ok_iff] at h
    obtain ⟨s₁, happ, h⟩ := h
    obtain rfl := Except.ok.inj h
    exact (kept_append happ).forwarded hcb

/-! ### What arrives -/

namespace Fragmentation

variable (f : Fragmentation)

def parse (s : RTPDecoder) (rtpData : List UInt8) : Exec RTPDecoder :=
  s.parseRTPtoNALU (rtpHeaderSize + f.extra) f.handlePacket rtpData

/-- The payloads of a NALU that is sent in these fragments. -/
def payloads (first : List UInt8) (middles : List (List UInt8)) (last : List UInt8) :
    List (List UInt8) :=
  f.first first :: (middles.map f.middle ++ [f.last last])

end Fragmentation

variable (fields : ℕ → RtpFields)

/-- Payloads that all arrive, in order; the first one is packet `k`. -/
def datagrams (k : ℕ) (payloads : List (List UInt8)) : List (List UInt8) :=
  arrivals fields k (payloads.map (·, 1))

theorem datagrams_cons (k : ℕ) (payload : List UInt8) (rest : List (List UInt8)) :
    datagrams fields k (payload :: rest) =
      rtpDatagram (fields k) (k % 65536) payload :: datagrams fields (k + 1) rest := rfl

/-- Inside a NALU: packet `k` was the latest, and these bytes are in the buffer. -/
structure Inside (s₀ s : RTPDecoder) (k : ℕ) (bytes : List UInt8) : Prop where
  last : s.lastSequenceNumber = (k % 65536 : ℕ)
  cb : s.cb = true
  handed : s.handed = s₀.handed
  flag : s.flagPacketHasGoneMissing = false
  bytes : s.currNalu.bytes = bytes

variable {fields} {f : Fragmentation} {s₀ s s' : RTPDecoder} {k : ℕ}

/-- A packet that is new is handled. -/
theorem handled_of_parse {payload : List UInt8} (hlong : f.extra < payload.length)
    (hnew : ((k % 65536 : ℕ) : ℤ) ≠ s.lastSequenceNumber)
    (h : f.parse s (rtpDatagram (fields k) (k % 65536) payload) = .ok s') :
    f.handlePacket (s.accept (k % 65536)) ⟨⟨0, k % 65536⟩, payload⟩ = .ok s' := by
  have hk : k % 65536 < 65536 := Nat.mod_lt k (by decide)
  rwa [Fragmentation.parse, parseRTPtoNALU_accepted hlong hk hnew] at h

/-- The first fragment. -/
theorem inside_first {c : List UInt8} (hcb : s.cb = true)
    (hnew : ((k % 65536 : ℕ) : ℤ) ≠ s.lastSequenceNumber)
    (h : f.parse s (rtpDatagram (fields k) (k % 65536) (f.first c)) = .ok s') :
    Inside s s' k (appended (startCode ++ f.header) c) := by
  have hkept := f.handles_first (handled_of_parse (f.long c).1 hnew h)
  obtain ⟨-, hhanded, hcb', -⟩ := s.noteMissingPackets_frame ((k % 65536 : ℕ) : ℤ)
  exact ⟨hkept.last, hkept.cb.trans (hcb'.trans hcb), hkept.handed.trans hhanded, hkept.flag,
    hkept.bytes⟩

/-- The packet after the latest one is new, and nothing has gone missing. -/
theorem Inside.accept {bytes : List UInt8} (hs : Inside s₀ s k bytes) :
    (((k + 1) % 65536 : ℕ) : ℤ) ≠ s.lastSequenceNumber ∧
      Inside s₀ (s.accept ((k + 1) % 65536)) (k + 1) bytes := by
  have hlast := hs.last
  obtain ⟨hbuffer, hhanded, hcb, -⟩ := s.noteMissingPackets_frame (((k + 1) % 65536 : ℕ) : ℤ)
  have hflag : (s.accept ((k + 1) % 65536)).flagPacketHasGoneMissing =
      s.flagPacketHasGoneMissing := noteMissingPackets_next (by omega) (by omega)
  exact ⟨by omega, rfl, hcb.trans hs.cb, hhanded.trans hs.handed, hflag.trans hs.flag,
    (congrArg NaluBuffer.bytes hbuffer).trans hs.bytes⟩

theorem Inside.middle {bytes c : List UInt8} (hs : Inside s₀ s k bytes)
    (h : f.parse s (rtpDatagram (fields (k + 1)) ((k + 1) % 65536) (f.middle c)) = .ok s') :
    Inside s₀ s' (k + 1) (appended bytes c) := by
  obtain ⟨hnew, hs₁⟩ := hs.accept
  have hkept := f.handles_middle (handled_of_parse (f.long c).2.1 hnew h)
  exact ⟨hkept.last.trans hs₁.last, hkept.cb.trans hs₁.cb, hkept.handed.trans hs₁.handed,
    hkept.flag.trans hs₁.flag, by rw [hkept.bytes, hs₁.bytes]⟩

/-- The rest of a NALU: the last fragment forwards what was kept. -/
theorem Inside.rest {bytes last : List UInt8} {middles : List (List UInt8)}
    (hs : Inside s₀ s k bytes)
    (h : run f.parse s (datagrams fields (k + 1) (middles.map f.middle ++ [f.last last])) =
      .ok s') :
    s'.lastSequenceNumber = ((k + 1 + middles.length) % 65536 : ℕ) ∧ s'.cb = true ∧
      s'.handed = s₀.handed ++ forwarded ((middles ++ [last]).foldl appended bytes) := by
  induction middles generalizing s k bytes with
  | nil =>
      obtain ⟨s₁, h₁, h⟩ := bind_eq_ok_iff.mp h
      obtain rfl := Except.ok.inj h
      obtain ⟨hnew, hs₁⟩ := hs.accept
      have hout := f.handles_last hs₁.cb hs₁.flag (handled_of_parse (f.long last).2.2 hnew h₁)
      refine ⟨hout.last.trans hs₁.last, hout.cb.trans hs₁.cb, ?_⟩
      rw [hout.handed, hs₁.handed, hs₁.bytes]
      rfl
  | cons c middles ih =>
      obtain ⟨s₁, h₁, h⟩ := bind_eq_ok_iff.mp h
      have hrest := ih (hs.middle h₁) h
      rw [List.length_cons, show k + 1 + (middles.length + 1) = k + 1 + 1 + middles.length by omega]
      exact hrest

/-! ### What is forwarded -/

theorem prefix_foldl_appended (bytes : List UInt8) (fragments : List (List UInt8)) :
    bytes <+: fragments.foldl appended bytes := by
  induction fragments generalizing bytes with
  | nil => exact List.prefix_refl bytes
  | cons c fragments ih =>
      have hone : bytes <+: appended bytes c := by
        unfold appended
        split_ifs
        · exact List.prefix_refl bytes
        · exact List.prefix_append bytes c
      exact hone.trans (ih (appended bytes c))

theorem length_foldl_appended_le {bytes : List UInt8} (h : bytes.length ≤ NALU_MAXLEN)
    (fragments : List (List UInt8)) : (fragments.foldl appended bytes).length ≤ NALU_MAXLEN := by
  induction fragments generalizing bytes with
  | nil => exact h
  | cons c fragments ih =>
      apply ih
      unfold appended
      split_ifs with hroom
      · exact h
      · rw [List.length_append]
        omega

/-- **A NALU in fragments is forwarded, as far as it was kept**, whether it fits or not. -/
theorem forwards_kept {first last : List UInt8} {middles : List (List UInt8)} (hcb : s.cb = true)
    (hnew : ((k % 65536 : ℕ) : ℤ) ≠ s.lastSequenceNumber)
    (h : run f.parse s (datagrams fields k (f.payloads first middles last)) = .ok s') :
    s'.lastSequenceNumber = ((k + 1 + middles.length) % 65536 : ℕ) ∧ s'.cb = true ∧
      s'.handed =
        s.handed ++ [(first :: (middles ++ [last])).foldl appended (startCode ++ f.header)] := by
  obtain ⟨s₁, h₁, h⟩ := bind_eq_ok_iff.mp h
  obtain ⟨hlast, hcb', hhanded⟩ := (inside_first hcb hnew h₁).rest h
  obtain ⟨more, hmore⟩ :=
    prefix_foldl_appended (startCode ++ f.header) (first :: (middles ++ [last]))
  refine ⟨hlast, hcb', hhanded.trans ?_⟩
  rw [← List.foldl_cons, ← hmore, List.append_assoc, forwarded,
    if_pos (checkHasValidPrefix_startCode (by simp [f.header_ne]))]

/-! ### NALUs that are too long -/

/-- The start code, the header and the fragments do not fit into the buffer. -/
def Oversized (header : List UInt8) (fragments : List (List UInt8)) : Prop :=
  NALU_MAXLEN < (startCode ++ header ++ fragments.flatten).length

/-- A NALU that is too long is dropped: nothing is forwarded of it, and the next NALU is forwarded
as it was sent. -/
def DropsWhole (parse : RTPDecoder → List UInt8 → Exec RTPDecoder) (s : RTPDecoder)
    (oversized next : List (List UInt8)) (nalu : List UInt8) : Prop :=
  ∃ s₁ s₂, run parse s oversized = .ok s₁ ∧ s₁.handed = s.handed ∧
    run parse s₁ next = .ok s₂ ∧ s₂.handed = s₁.handed ++ [startCode ++ nalu]

/-- Exactly one thing is forwarded of a NALU, and it is shorter. -/
def ForwardsCut (parse : RTPDecoder → List UInt8 → Exec RTPDecoder) (s : RTPDecoder)
    (oversized : List (List UInt8)) (nalu : List UInt8) : Prop :=
  ∀ s₁, run parse s oversized = .ok s₁ →
    ∃ cut, s₁.handed = s.handed ++ [cut] ∧ cut.length < (startCode ++ nalu).length

theorem Fragmentation.forwardsCut (f : Fragmentation) {first last : List UInt8}
    {middles : List (List UInt8)} (hcb : s.cb = true)
    (hnew : ((k % 65536 : ℕ) : ℤ) ≠ s.lastSequenceNumber)
    (h : Oversized f.header (first :: (middles ++ [last]))) :
    ForwardsCut f.parse s (datagrams fields k (f.payloads first middles last))
      (f.header ++ (first :: (middles ++ [last])).flatten) := by
  intro s₁ h₁
  refine ⟨_, (forwards_kept hcb hnew h₁).2.2, ?_⟩
  rw [← List.append_assoc]
  exact Nat.lt_of_le_of_lt (length_foldl_appended_le f.header_fits _) h

theorem Fragmentation.not_dropped (f : Fragmentation) {first last : List UInt8}
    {middles : List (List UInt8)} (hcb : s.cb = true)
    (hnew : ((k % 65536 : ℕ) : ℤ) ≠ s.lastSequenceNumber) (next : List (List UInt8))
    (nalu : List UInt8) :
    ¬ DropsWhole f.parse s (datagrams fields k (f.payloads first middles last)) next nalu := by
  rintro ⟨s₁, -, h₁, hnothing, -⟩
  have hhanded := (forwards_kept hcb hnew h₁).2.2
  rw [hnothing] at hhanded
  have hlen := congrArg List.length hhanded
  rw [List.length_append, List.length_singleton] at hlen
  omega

/-- A packet that comes next, and delivers a NALU. -/
theorem next_delivered {extra : ℕ} {handlePacket : RTPDecoder → RTPPacket → Exec RTPDecoder}
    {nalu : List UInt8} (hlong : extra < nalu.length)
    (hlast : s.lastSequenceNumber = (k % 65536 : ℕ))
    (hhandle : ∀ s₁ h, s₁.cb = s.cb → handlePacket s₁ ⟨h, nalu⟩ = .ok (s₁.deliver nalu)) :
    ∃ s', run (fun s => parseRTPtoNALU s (rtpHeaderSize + extra) handlePacket) s
        (datagrams fields (k + 1) [nalu]) = .ok s' ∧
      s'.handed = s.handed ++ [startCode ++ nalu] := by
  have hk : (k + 1) % 65536 < 65536 := Nat.mod_lt _ (by decide)
  have hnew : (((k + 1) % 65536 : ℕ) : ℤ) ≠ s.lastSequenceNumber := by omega
  obtain ⟨-, hhanded, hcb, -⟩ := s.noteMissingPackets_frame (((k + 1) % 65536 : ℕ) : ℤ)
  refine ⟨(s.accept ((k + 1) % 65536)).deliver nalu, ?_,
    congrArg (· ++ [startCode ++ nalu]) hhanded⟩
  rw [datagrams_cons, run_cons, parseRTPtoNALU_accepted hlong hk hnew,
    hhandle (s.accept ((k + 1) % 65536)) _ hcb]
  rfl

/-- The next H264 NALU is forwarded as it was sent. -/
theorem next_h264 (hcb : s.cb = true) (hlast : s.lastSequenceNumber = (k % 65536 : ℕ))
    (next : H264Nalu) :
    ∃ s', run parseRTPH264toNALU s (datagrams fields (k + 1) [next.bytes]) = .ok s' ∧
      s'.handed = s.handed ++ [startCode ++ next.bytes] := by
  have hlen : 2 ≤ next.bytes.length :=
    Nat.succ_le_succ (List.length_pos_of_ne_nil next.body_ne)
  refine next_delivered hlen hlast fun s₁ h hs₁ => ?_
  have hone : s₁.h264ReconstructAndForwardOneNalu (next.bytes ++ []) next.bytes.length =
      .ok (s₁.deliver next.bytes) :=
    h264ReconstructAndForwardOneNalu_nalu (hs₁.trans hcb) hlen next.fits
  rw [List.append_nil] at hone
  exact (h264HandlePacket_single next.type_pos next.type_lt).trans hone

theorem next_h265 (hcb : s.cb = true) (hlast : s.lastSequenceNumber = (k % 65536 : ℕ))
    (next : H265Nalu) :
    ∃ s', run parseRTPH265toNALU s (datagrams fields (k + 1) [next.bytes]) = .ok s' ∧
      s'.handed = s.handed ++ [startCode ++ next.bytes] := by
  have hpos := List.length_pos_of_ne_nil next.body_ne
  have hlen : 2 < next.bytes.length := Nat.succ_le_succ (Nat.succ_le_succ hpos)
  refine next_delivered hlen hlast fun s₁ h hs₁ => ?_
  have h48 := next.type_lt
  have h50 : ¬ nalUnitTypeH265 next.header₀ > 50 := fun h50 =>
    absurd (UInt8.lt_trans h50 h48) (by decide)
  have hne48 : nalUnitTypeH265 next.header₀ ≠ 48 := fun h => absurd (h ▸ h48) (by decide)
  have hne49 : nalUnitTypeH265 next.header₀ ≠ 49 := fun h => absurd (h ▸ h48) (by decide)
  have hone : s₁.h265ForwardOneNalu (next.bytes ++ []) next.bytes.length true =
      .ok (s₁.deliver next.bytes) :=
    h265ForwardOneNalu_nalu (hs₁.trans hcb) (List.cons_ne_nil _ _) next.fits
  rw [List.append_nil] at hone
  exact (h265HandlePacket_single h50 hne48 hne49).trans hone

/-- **No NALU that is too long is dropped**, be it H264 or H265: a shorter one is forwarded. -/
theorem not_dropsWhole (fields : ℕ → RtpFields) (s : RTPDecoder) (hcb : s.cb = true) (k : ℕ)
    (hnew : ((k % 65536 : ℕ) : ℤ) ≠ s.lastSequenceNumber) (first : List UInt8)
    (middles : List (List UInt8)) (last : List UInt8) :
    (∀ header, Oversized [header] (first :: (middles ++ [last])) →
      (∀ next : H264Nalu, ¬ DropsWhole parseRTPH264toNALU s
        (datagrams fields k ((h264Fragmentation header).payloads first middles last))
        (datagrams fields (k + 2 + middles.length) [next.bytes]) next.bytes) ∧
      ForwardsCut parseRTPH264toNALU s
        (datagrams fields k ((h264Fragmentation header).payloads first middles last))
        ([header] ++ (first :: (middles ++ [last])).flatten)) ∧
    (∀ header₀ header₁, Oversized [header₀, header₁] (first :: (middles ++ [last])) →
      (∀ next : H265Nalu, ¬ DropsWhole parseRTPH265toNALU s
        (datagrams fields k ((h265Fragmentation header₀ header₁).payloads first middles last))
        (datagrams fields (k + 2 + middles.length) [next.bytes]) next.bytes) ∧
      ForwardsCut parseRTPH265toNALU s
        (datagrams fields k ((h265Fragmentation header₀ header₁).payloads first middles last))
        ([header₀, header₁] ++ (first :: (middles ++ [last])).flatten)) :=
  ⟨fun header h =>
      ⟨fun next => (h264Fragmentation header).not_dropped hcb hnew _ next.bytes,
        (h264Fragmentation header).forwardsCut hcb hnew h⟩,
    fun header₀ header₁ h =>
      ⟨fun next => (h265Fragmentation header₀ header₁).not_dropped hcb hnew _ next.bytes,
        (h265Fragmentation header₀ header₁).forwardsCut hcb hnew h⟩⟩

/-- A fragment; there is room for 17 of them. -/
def fragment : List UInt8 := List.replicate 60000 0

theorem oversized_fragments (header : List UInt8) :
    Oversized header (fragment :: (List.replicate 16 fragment ++ [fragment])) := by
  have hlen : fragment.length = 60000 := List.length_replicate
  simp only [Oversized, NALU_MAXLEN, List.length_append, List.length_flatten, List.map_cons,
    List.map_append, List.map_replicate, List.map_nil, hlen, List.sum_cons, List.sum_append,
    List.sum_replicate_nat, List.sum_nil]
  omega

theorem not_dropsWhole_h264 :
    ¬ DropsWhole parseRTPH264toNALU (.new true false)
      (datagrams (fun _ => ⟨96, .replicate 8 0⟩) 7
        ((h264Fragmentation 0x65).payloads fragment (List.replicate 16 fragment) fragment))
      (datagrams (fun _ => ⟨96, .replicate 8 0⟩) 25 [[0x41, 0x9a]]) [0x41, 0x9a] :=
  ((not_dropsWhole (fun _ => ⟨96, .replicate 8 0⟩) (.new true false) rfl 7 (by decide) fragment
    (List.replicate 16 fragment) fragment).1 0x65 (oversized_fragments [0x65])).1
    ⟨0x41, [0x9a], by decide, by decide, by decide, by decide⟩

/-- An H265 NALU of 18 fragments is not dropped. -/
theorem not_dropsWhole_h265 :
    Oversized [0x26, 0x01] (fragment :: (List.replicate 16 fragment ++ [fragment])) ∧
      ¬ DropsWhole parseRTPH265toNALU (.new true false)
        (datagrams (fun _ => ⟨96, .replicate 8 0⟩) 7
          ((h265Fragmentation 0x26 0x01).payloads fragment (List.replicate 16 fragment) fragment))
        (datagrams (fun _ => ⟨96, .replicate 8 0⟩) 25 [[0x02, 0x01, 0xd0]]) [0x02, 0x01, 0xd0] :=
  ⟨oversized_fragments _,
    (h265Fragmentation 0x26 0x01).not_dropped rfl (by decide) _ [0x02, 0x01, 0xd0]⟩

end OversizedNalu

end QOpenHD
