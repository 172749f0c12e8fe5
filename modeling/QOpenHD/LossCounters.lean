/-
QOpenHD/LossCounters.lean

The counters of lost packets (`m_n_gaps` and `m_n_lost_packets` of `RTPDecoder`).

A stream begins with the first packet that arrives.  Behind it come packets before
each of which some are lost, and any packet may be repeated.  A gap counts once, which is
right.  What it adds to the lost packets is the difference of two sequence numbers:
one packet too many, and 65536 too few where the numbers start again at 0.

* `parseRTPH264toNALU_keepsCounters`, `parseRTPH265toNALU_keepsCounters` — both parsers count a
  datagram as `validateRTPPacket` counts its header;
* `run_nGaps` — the gaps are right after every run;
* **`counters_iff`** — both counters are right after every packet exactly if no packet is
  lost.
-/
import QOpenHD.NaluContract
import Mathlib.Algebra.Ring.Nat

namespace QOpenHD

open Checked SizePrefixed

/-! ### Who counts -/

namespace RTPDecoder

/-- What is left to `validateRTPPacket`. -/
structure KeepsCounters (s s' : RTPDecoder) : Prop where
  last : s'.lastSequenceNumber = s.lastSequenceNumber
  gaps : s'.nGaps = s.nGaps
  lost : s'.nLostPackets = s.nLostPackets

namespace KeepsCounters

variable {s s' s'' : RTPDecoder}

theorem refl (s : RTPDecoder) : KeepsCounters s s := ⟨rfl, rfl, rfl⟩

theorem trans (h : KeepsCounters s s') (h' : KeepsCounters s' s'') : KeepsCounters s s'' :=
  ⟨h'.last.trans h.last, h'.gaps.trans h.gaps, h'.lost.trans h.lost⟩

theorem append {data : List UInt8} {n : ℕ} (h : s.appendNaluData data n = .ok s') :
    KeepsCounters s s' := by
  rw [appendNaluData_frame h]
  exact ⟨rfl, rfl, rfl⟩

theorem forward (s : RTPDecoder) : KeepsCounters s s.forwardNALU.dropNalu := by
  unfold forwardNALU
  split_ifs <;> exact ⟨rfl, rfl, rfl⟩

/-- A whole NALU of a single or an aggregated packet. -/
theorem h264One {data : List UInt8} {n : ℕ}
    (h : s.h264ReconstructAndForwardOneNalu data n = .ok s') : KeepsCounters s s' := by
  obtain ⟨b, rest, s₁, rfl, happ, rfl⟩ := h264ReconstructAndForwardOneNalu_ok h
  have hstart : KeepsCounters s (s.clearMissingPacketFlag.withNalu (startCode ++ [b])
      (startCode_byte_fits b)) := ⟨rfl, rfl, rfl⟩
  exact (hstart.trans (append happ)).trans (forward s₁)

theorem h265One {data : List UInt8} {n : ℕ} (h : s.h265ForwardOneNalu data n true = .ok s') :
    KeepsCounters s s' := by
  obtain ⟨s₁, happ, rfl⟩ := h265ForwardOneNalu_ok h
  have hstart : KeepsCounters s (s.clearMissingPacketFlag.withNalu startCode (by decide)) :=
    ⟨rfl, rfl, rfl⟩
  exact (hstart.trans (append happ)).trans (forward s₁)

theorem walk {skip stop : ℕ} {mem : List UInt8}
    {visit : RTPDecoder → List UInt8 → ℕ → Exec RTPDecoder}
    (hvisit : ∀ s data size s', visit s data size = .ok s' → KeepsCounters s s') {rounds : ℕ}
    (h : SizePrefixed.walk skip stop visit mem rounds s 0 = .ok s') : KeepsCounters s s' :=
  walk_invariant (I := KeepsCounters s)
    (fun s₁ data size s₂ hs _ hone => hs.trans (hvisit s₁ data size s₂ hone)) rounds s 0 s'
    (refl s) h

/-- An H264 payload of at least two bytes. -/
theorem h264Handle {h : RtpHeader} {b₀ b₁ : UInt8} {rest : List UInt8}
    (hok : s.h264HandlePacket ⟨h, b₀ :: b₁ :: rest⟩ = .ok s') : KeepsCounters s s' := by
  cases h264HandlePacket_handled hok with
  | @fuEnd s₁ happ =>
      split
      · exact (append happ).trans ⟨(forward s₁).last, (forward s₁).gaps, (forward s₁).lost⟩
      · exact (append happ).trans ⟨rfl, rfl, rfl⟩
  | fuStart happ => exact ⟨(append happ).last, (append happ).gaps, (append happ).lost⟩
  | fuMiddle happ => exact (append happ).trans ⟨rfl, rfl, rfl⟩
  | aggregated h =>
      exact walk (fun _ _ _ _ hone => h264One hone) h
  | single h => exact h264One h
  | unsupported => exact refl s

/-- An H265 payload of at least three bytes. -/
theorem h265Handle {h : RtpHeader} {b₀ b₁ b₂ : UInt8} {rest : List UInt8}
    (hok : s.h265HandlePacket ⟨h, b₀ :: b₁ :: b₂ :: rest⟩ = .ok s') : KeepsCounters s s' := by
  by_cases h50 : nalUnitTypeH265 b₀ > 50
  · rw [h265HandlePacket_unsupported h50] at hok
    obtain rfl := Except.ok.inj hok
    exact refl s
  by_cases h48 : nalUnitTypeH265 b₀ = 48
  · rw [h265HandlePacket_ap h48] at hok
    exact walk (fun _ _ _ _ hone => h265One hone) hok
  by_cases h49 : nalUnitTypeH265 b₀ = 49
  · by_cases he : (FuHeaderH265.ofByte b₂).e = 0
    · by_cases hs : (FuHeaderH265.ofByte b₂).s = 0
      · rw [h265HandlePacket_fuMiddle h49 he hs] at hok
        exact append hok
      · rw [h265HandlePacket_fuStart h49 he hs] at hok
        have happ := append hok
        exact ⟨happ.last, happ.gaps, happ.lost⟩
    · rw [h265HandlePacket_fuEnd h49 he, bind_eq_ok_iff] at hok
      obtain ⟨s₁, happ, hok⟩ := hok
      obtain rfl := Except.ok.inj hok
      exact (append happ).trans (forward s₁)
  · rw [h265HandlePacket_single h50 h48 h49] at hok
    exact h265One hok

end KeepsCounters

/-! ### Datagrams -/

section Datagrams

variable {s s' : RTPDecoder} {fields : RtpFields} {sequence : ℕ} {payload : List UInt8}

theorem parse_keepsCounters {extra : ℕ} {handlePacket : RTPDecoder → RTPPacket → Exec RTPDecoder}
    (hhandle : ∀ s s' hdr, handlePacket s ⟨hdr, payload⟩ = .ok s' → KeepsCounters s s')
    (hseq : sequence < 65536) (hlong : extra < payload.length)
    (h : s.parseRTPtoNALU (rtpHeaderSize + extra) handlePacket
      (rtpDatagram fields sequence payload) = .ok s') :
    KeepsCounters (s.validateRTPPacket ⟨0, sequence⟩).2 s' := by
  by_cases hnew : (sequence : ℤ) = s.lastSequenceNumber
  · have hrun : run (fun s => parseRTPtoNALU s (rtpHeaderSize + extra) handlePacket) s
        (List.replicate 1 (rtpDatagram fields sequence payload)) = .ok s :=
      run_repeated hseq hnew.symm 1
    rw [List.replicate_one, run_cons, h, ok_bind] at hrun
    obtain rfl := Except.ok.inj hrun
    rw [validateRTPPacket_repeated (h := ⟨0, sequence⟩) hnew]
    exact .refl _
  · rw [parseRTPtoNALU_accepted hlong hseq hnew] at h
    rw [validateRTPPacket_accepted (h := ⟨0, sequence⟩) hnew]
    exact hhandle _ _ _ h

/-- **A datagram counts as its header does**, whatever else it holds. -/
theorem parseRTPH264toNALU_keepsCounters (hseq : sequence < 65536) (hlong : 1 < payload.length)
    (h : s.parseRTPH264toNALU (rtpDatagram fields sequence payload) = .ok s') :
    KeepsCounters (s.validateRTPPacket ⟨0, sequence⟩).2 s' := by
  obtain ⟨b₀, b₁, rest, rfl⟩ : ∃ b₀ b₁ rest, payload = b₀ :: b₁ :: rest := by
    match payload, hlong with
    | b₀ :: b₁ :: rest, _ => exact ⟨b₀, b₁, rest, rfl⟩
  exact parse_keepsCounters (fun _ _ _ hok => KeepsCounters.h264Handle hok) hseq hlong h

theorem parseRTPH265toNALU_keepsCounters (hseq : sequence < 65536) (hlong : 2 < payload.length)
    (h : s.parseRTPH265toNALU (rtpDatagram fields sequence payload) = .ok s') :
    KeepsCounters (s.validateRTPPacket ⟨0, sequence⟩).2 s' := by
  obtain ⟨b₀, b₁, b₂, rest, rfl⟩ : ∃ b₀ b₁ b₂ rest, payload = b₀ :: b₁ :: b₂ :: rest := by
    match payload, hlong with
    | b₀ :: b₁ :: b₂ :: rest, _ => exact ⟨b₀, b₁, b₂, rest, rfl⟩
  exact parse_keepsCounters (fun _ _ _ hok => KeepsCounters.h265Handle hok) hseq hlong h

end Datagrams

end RTPDecoder

/-! ### The stream -/

namespace LossCounters

open RTPDecoder

/-- The decoder; the number of the latest packet that arrived; and for each that arrived after the
first, how many were lost right before it. -/
structure World where
  decoder : RTPDecoder
  latest : ℕ
  losses : List ℕ

/-- The first packet has arrived; its number is `start`. -/
def World.first (cb feedIncompleteFrames : Bool) (start : ℕ) : World :=
  ⟨((RTPDecoder.new cb feedIncompleteFrames).validateRTPPacket ⟨0, start % 65536⟩).2, start, []⟩

inductive Event
  /-- A packet arrives, behind some that were lost. -/
  | next (lost : ℕ) (few : lost < 65535)
  /-- The latest packet arrives again. -/
  | again

def step (w : World) : Event → Exec World
  | .next lost _ =>
    let k := w.latest + lost + 1
    pure ⟨(w.decoder.validateRTPPacket ⟨0, k % 65536⟩).2, k, w.losses ++ [lost]⟩
  | .again =>
    pure { w with decoder := (w.decoder.validateRTPPacket ⟨0, w.latest % 65536⟩).2 }

/-- Both counters are right: the number of times that packets were lost, and the number of packets
that were. -/
structure Right (w : World) : Prop where
  gaps : w.decoder.nGaps = w.losses.countP (0 < ·)
  lost : w.decoder.nLostPackets = w.losses.sum

def Event.lost : Event → ℕ
  | .next lost _ => lost
  | .again => 0

/-! ### One packet -/

/-- What is true after every run. -/
structure Inv (w : World) : Prop where
  last : w.decoder.lastSequenceNumber = (w.latest % 65536 : ℕ)
  gaps : w.decoder.nGaps = w.losses.countP (0 < ·)

theorem inv_first (cb feedIncompleteFrames : Bool) (start : ℕ) :
    Inv (World.first cb feedIncompleteFrames start) ∧
      Right (World.first cb feedIncompleteFrames start) := by
  have hnew : ((start % 65536 : ℕ) : ℤ) ≠ -1 := by omega
  have hfirst : (World.first cb feedIncompleteFrames start).decoder =
      { RTPDecoder.new cb feedIncompleteFrames with
        lastSequenceNumber := (start % 65536 : ℕ) } := by
    rw [World.first, validateRTPPacket_accepted hnew]
    rfl
  exact ⟨⟨by rw [hfirst]; rfl, by rw [hfirst]; rfl⟩, ⟨by rw [hfirst]; rfl, by rw [hfirst]; rfl⟩⟩

theorem noteMissingPackets_of_next {s : RTPDecoder} {seqNr : ℤ} (hs : s.lastSequenceNumber ≠ -1)
    (h : seqNr = (s.lastSequenceNumber + 1) % (65535 + 1)) :
    (s.noteMissingPackets seqNr).nGaps = s.nGaps ∧
      (s.noteMissingPackets seqNr).nLostPackets = s.nLostPackets := by
  rw [noteMissingPackets, if_neg hs, if_neg (not_not.mpr h)]
  exact ⟨rfl, rfl⟩

theorem noteMissingPackets_of_gap {s : RTPDecoder} {seqNr : ℤ} (hs : s.lastSequenceNumber ≠ -1)
    (h : seqNr ≠ (s.lastSequenceNumber + 1) % (65535 + 1)) :
    (s.noteMissingPackets seqNr).nGaps = s.nGaps + 1 ∧
      (s.noteMissingPackets seqNr).nLostPackets =
        s.nLostPackets + (seqNr - s.lastSequenceNumber) := by
  rw [noteMissingPackets, if_neg hs, if_pos h]
  exact ⟨rfl, rfl⟩

/-- What is added to the lost packets: with a gap one too many, and 65536 too few where the numbers
start again. -/
def gapSize (latest lost : ℕ) : ℤ :=
  if lost = 0 then 0 else ((latest + lost + 1) % 65536 : ℕ) - (latest % 65536 : ℕ)

theorem gapSize_eq_iff (latest : ℕ) {lost : ℕ} (_ : lost < 65535) :
    gapSize latest lost = lost ↔ lost = 0 := by
  unfold gapSize
  split_ifs with h
  · simp [h]
  · omega

/-- **A packet that arrives**, and what it does to both counters. -/
theorem Inv.next {w w' : World} (hi : Inv w) {lost : ℕ} {few : lost < 65535}
    (h : step w (.next lost few) = .ok w') :
    Inv w' ∧ w'.losses = w.losses ++ [lost] ∧
      w'.decoder.nLostPackets = w.decoder.nLostPackets + gapSize w.latest lost := by
  have hlast := hi.last
  have hgaps := hi.gaps
  -- at most 65534 are lost, so it is no repetition
  have hnew : (((w.latest + lost + 1) % 65536 : ℕ) : ℤ) ≠ w.decoder.lastSequenceNumber := by omega
  have hseen : w.decoder.lastSequenceNumber ≠ -1 := by omega
  have haccepted : w' = ⟨w.decoder.accept ((w.latest + lost + 1) % 65536), w.latest + lost + 1,
      w.losses ++ [lost]⟩ := by
    rw [← Except.ok.inj h,
      validateRTPPacket_accepted (h := ⟨0, (w.latest + lost + 1) % 65536⟩) hnew]
    rfl
  subst haccepted
  by_cases hlost : lost = 0
  · obtain ⟨hsameGaps, hsameLost⟩ := noteMissingPackets_of_next hseen
      (show (((w.latest + lost + 1) % 65536 : ℕ) : ℤ) =
        (w.decoder.lastSequenceNumber + 1) % (65535 + 1) by omega)
    refine ⟨⟨rfl, ?_⟩, rfl, ?_⟩
    · rw [accept, hsameGaps, hgaps, List.countP_append, hlost]
      rfl
    · rw [accept, hsameLost, gapSize, if_pos hlost, Int.add_zero]
  · obtain ⟨hmoreGaps, hmoreLost⟩ := noteMissingPackets_of_gap hseen
      (show (((w.latest + lost + 1) % 65536 : ℕ) : ℤ) ≠
        (w.decoder.lastSequenceNumber + 1) % (65535 + 1) by omega)
    refine ⟨⟨rfl, ?_⟩, rfl, ?_⟩
    · rw [accept, hmoreGaps, hgaps, List.countP_append, List.countP_singleton]
      simp [Nat.pos_of_ne_zero hlost]
    · rw [accept, hmoreLost, gapSize, if_neg hlost, hlast]

/-- A packet that is repeated, changes nothing. -/
theorem Inv.again {w w' : World} (hi : Inv w) (h : step w .again = .ok w') : w' = w := by
  obtain rfl := Except.ok.inj h
  rw [validateRTPPacket_repeated hi.last.symm]

theorem Inv.step {w w' : World} {e : Event} (hi : Inv w) (h : step w e = .ok w') : Inv w' := by
  rcases e with ⟨lost, few⟩ | -
  · exact (hi.next h).1
  · rw [hi.again h]
    exact hi

/-- **The gaps are right after every run.** -/
theorem run_nGaps (cb feedIncompleteFrames : Bool) (start : ℕ) (events : List Event) {w : World}
    (h : run step (World.first cb feedIncompleteFrames start) events = .ok w) :
    w.decoder.nGaps = w.losses.countP (0 < ·) :=
  (run_invariant (fun _ _ _ hi hstep => Inv.step hi hstep) (inv_first cb _ start).1 h).gaps

/-- A packet leaves both counters right exactly if none was lost right before it. -/
theorem Inv.right_iff {w : World} (hi : Inv w) (hright : Right w) (e : Event) :
    (∀ w', LossCounters.step w e = .ok w' → Right w') ↔ e.lost = 0 := by
  rcases e with ⟨lost, few⟩ | -
  · obtain ⟨hi', hlosses, hlost⟩ :=
      hi.next (show LossCounters.step w (.next lost few) = .ok _ from rfl)
    rw [Event.lost, ← gapSize_eq_iff w.latest few]
    constructor
    · intro h
      have hsum := (h _ rfl).lost
      rw [hlost, hlosses, hright.lost, List.sum_append, List.sum_singleton] at hsum
      omega
    · intro hgap w' h
      obtain rfl := Except.ok.inj h
      refine ⟨hi'.gaps, ?_⟩
      rw [hlost, hlosses, hright.lost, List.sum_append, List.sum_singleton, hgap]
      omega
  · refine iff_of_true (fun w' h => ?_) rfl
    rw [hi.again h]
    exact hright

/-- **Both counters are right after every packet, if and only if no packet is lost behind the
first.** -/
theorem counters_iff (cb feedIncompleteFrames : Bool) (start : ℕ) (events : List Event) :
    Right (World.first cb feedIncompleteFrames start) ∧
        EveryStep (fun w e => ∀ w', step w e = .ok w' → Right w') step
          (World.first cb feedIncompleteFrames start) events ↔
      ∀ e ∈ events, e.lost = 0 := by
  have hsafe : ∀ w e, Safe (step w e) := by
    rintro w (⟨lost, few⟩ | -)
    · exact safe_pure _
    · exact safe_pure _
  obtain ⟨hi, hright⟩ := inv_first cb feedIncompleteFrames start
  rw [and_iff_right hright, ← everyStep_iff_forall hsafe (World.first cb _ start) events]
  exact everyStep_leaves_iff (fun w e w' hw h => hw.step h) (fun w e hw h => hw.right_iff h e) hi
    hright events

/-- One packet is lost, and two are counted. -/
theorem not_right_one_lost :
    ¬ (Right (World.first true false 7) ∧
      EveryStep (fun w e => ∀ w', step w e = .ok w' → Right w') step (World.first true false 7)
        [.next 1 (by decide)]) := by
  rintro ⟨-, hone, -⟩
  have hlost := (hone _ rfl).lost
  revert hlost
  decide

end LossCounters

end QOpenHD
