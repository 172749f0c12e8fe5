/-
QOpenHD/ConfigBuilders.lean

Two buffers with the same parameter sets: what `CodecConfigFinder::get_config_data`
makes for avcodec, and what `h265_configureAMediaFormat` hands to the codec on Android.

The first copies VPS, SPS and PPS to one offset after the other.  The second appends
them in this order with `appendNaluData`, which inserts at the beginning, so they end
up the other way around.

* `configBuffer_eq`, `getConfigData_eq` — the copies make VPS, SPS, PPS;
* `h265ConfigureAMediaFormat_eq` — the insertions make PPS, SPS, VPS;
* **`builders_disagree`** — the two are never the same.
-/
import QOpenHD.LowLagDecoder

namespace QOpenHD

open Checked

namespace ConfigBuilders

/-! ### Copies -/

/-- `memcpy(buf+offset,src,…)` -/
def copyTo (buf : List UInt8) (offset : ℕ) (src : List UInt8) : Exec (List UInt8) :=
  if offset + src.length ≤ buf.length then
    .ok (buf.take offset ++ src ++ buf.drop (offset + src.length))
  else .error .outOfBounds

/-- The buffer of `get_config_data`, for H265. -/
def configBuffer (vps sps pps : List UInt8) : Exec (List UInt8) := do
  let size := sps.length + pps.length + vps.length
  let ret ← copyTo (List.replicate size 0) 0 vps
  let offset := vps.length
  let ret ← copyTo ret offset sps
  let offset := offset + sps.length
  copyTo ret offset pps

/-- A copy right behind what was written. -/
theorem copyTo_append (written src : List UInt8) (n : ℕ) :
    copyTo (written ++ List.replicate (src.length + n) 0) written.length src =
      .ok (written ++ src ++ List.replicate n 0) := by
  unfold copyTo
  rw [if_pos (by simp), List.take_left, List.drop_append, List.drop_replicate]
  simp

theorem configBuffer_eq (vps sps pps : List UInt8) :
    configBuffer vps sps pps = .ok (vps ++ sps ++ pps) := by
  have hsize : sps.length + pps.length + vps.length = vps.length + (sps.length + pps.length) := by
    omega
  have hvps := copyTo_append [] vps (sps.length + pps.length)
  have hsps := copyTo_append vps sps pps.length
  have hpps := copyTo_append (vps ++ sps) pps 0
  rw [List.nil_append, List.length_nil, List.nil_append] at hvps
  rw [Nat.add_zero, List.length_append, List.replicate_zero, List.append_nil] at hpps
  simp only [configBuffer, hsize, hvps, ok_bind, hsps, hpps]

/-! ### The builders -/

variable {finder : CodecConfigFinder} {vps sps pps : NALU}

theorem getConfigData_eq (hvps : finder.VPS = some vps) (hsps : finder.SPS = some sps)
    (hpps : finder.PPS = some pps) :
    finder.getConfigData true = configBuffer vps.data sps.data pps.data := by
  have hall : finder.allConfigAvailable true = true := by
    simp [CodecConfigFinder.allConfigAvailable, hvps, hsps, hpps]
  rw [configBuffer_eq, CodecConfigFinder.getConfigData, require_of hall, hvps, hsps, hpps]
  rfl

theorem h265ConfigureAMediaFormat_eq (hvps : finder.VPS = some vps) (hsps : finder.SPS = some sps)
    (hpps : finder.PPS = some pps) :
    h265ConfigureAMediaFormat finder =
      .ok ⟨"video/hevc", 1280, 720, pps.data ++ sps.data ++ vps.data, none⟩ := by
  rw [h265ConfigureAMediaFormat, hvps, hsps, hpps]
  simp [CodecConfigFinder.getNal, appendNaluData]

/-- The buffer that MediaCodec gets is the one that avcodec gets. -/
def Agree (finder : CodecConfigFinder) : Prop :=
  ∀ format data, h265ConfigureAMediaFormat finder = .ok format →
    finder.getConfigData true = .ok data → format.csd0 = data

theorem agree_iff_of_found (hvps : finder.VPS = some vps) (hsps : finder.SPS = some sps)
    (hpps : finder.PPS = some pps) :
    Agree finder ↔ pps.data ++ sps.data ++ vps.data = vps.data ++ sps.data ++ pps.data := by
  unfold Agree
  rw [h265ConfigureAMediaFormat_eq hvps hsps hpps, getConfigData_eq hvps hsps hpps,
    configBuffer_eq]
  constructor
  · exact fun h => h _ _ rfl rfl
  · rintro h format data hformat hdata
    rw [← Except.ok.inj hformat, ← Except.ok.inj hdata]
    exact h

/-! ### VPS and PPS -/

/-- A NALU is a start code, a byte that tells its type, and the rest. -/
theorem data_cases (nalu : NALU) : ∃ long b rest, nalu.data = startCodeOf long ++ b :: rest ∧
    nalu.nalUnitType =
      if nalu.isH265 then (b &&& (0x7E : UInt8)) >>> 1 else b &&& (0x1f : UInt8) := by
  have hlt := nalu.naluPrefixSize_lt
  have hcode : nalu.data.take nalu.naluPrefixSize =
      startCodeOf (NALU.hasValidPrefixLong nalu.data) := by
    have hvalid := nalu.prefixValid
    unfold NALU.hasValidPrefix at hvalid
    unfold NALU.naluPrefixSize
    by_cases hlong : NALU.hasValidPrefixLong nalu.data = true
    · rw [if_pos hlong, hlong]
      exact eq_of_beq hlong
    · rw [if_neg hlong, Bool.eq_false_iff.mpr hlong]
      rw [Bool.eq_false_iff.mpr hlong, Bool.false_or] at hvalid
      exact eq_of_beq hvalid
  refine ⟨NALU.hasValidPrefixLong nalu.data, nalu.data.get ⟨nalu.naluPrefixSize, hlt⟩,
    nalu.data.drop (nalu.naluPrefixSize + 1), ?_, rfl⟩
  rw [← hcode, List.get_eq_getElem, ← List.drop_eq_getElem_cons hlt, List.take_append_drop]

theorem nalUnitType_VPS {nalu : NALU} (h : nalu.parameterSet = some .VPS) :
    nalu.isH265 = true ∧ nalu.nalUnitType = 32 := by
  unfold NALU.parameterSet at h
  split at h
  · cases h
  split at h
  · cases h
  split at h
  · rename_i hvps
    obtain ⟨hh265, hvps⟩ := Bool.and_eq_true_iff.mp hvps
    exact ⟨hh265, eq_of_beq hvps⟩
  · cases h

theorem nalUnitType_PPS {nalu : NALU} (h : nalu.parameterSet = some .PPS) :
    nalu.nalUnitType = if nalu.isH265 then 34 else 8 := by
  unfold NALU.parameterSet at h
  split at h
  · cases h
  split at h
  · rename_i hpps
    unfold NALU.isPPS at hpps
    split at hpps
    · rename_i hh265
      rw [if_pos hh265]
      exact eq_of_beq hpps
    · rename_i hh264
      rw [if_neg hh264]
      exact eq_of_beq hpps
  split at h
  · cases h
  · cases h

/-- The header of a VPS is not that of a PPS, of either codec. -/
theorem vps_header_ne (b : UInt8) (h : (b &&& (0x7E : UInt8)) >>> 1 = 32) (isH265 : Bool) :
    (if isH265 then (b &&& (0x7E : UInt8)) >>> 1 else b &&& (0x1f : UInt8)) ≠
      if isH265 then 34 else 8 := by
  cases isH265 with
  | true =>
      rw [if_pos rfl, if_pos rfl, h]
      decide
  | false =>
      have hbits : ∀ b : BitVec 8, ((⟨b⟩ : UInt8) &&& (0x7E : UInt8)) >>> 1 = 32 →
          (⟨b⟩ : UInt8) &&& (0x1f : UInt8) ≠ 8 := by decide
      exact hbits b.toBitVec h

/-- What begins with a PPS does not begin with a VPS. -/
theorem pps_append_ne (hvps : vps.parameterSet = some .VPS) (hpps : pps.parameterSet = some .PPS)
    (more more' : List UInt8) : pps.data ++ more ≠ vps.data ++ more' := by
  obtain ⟨long, b, rest, hdata, htype⟩ := data_cases pps
  obtain ⟨long', b', rest', hdata', htype'⟩ := data_cases vps
  obtain ⟨hh265, hvpsType⟩ := nalUnitType_VPS hvps
  rw [hh265, if_pos rfl, hvpsType] at htype'
  rw [nalUnitType_PPS hpps] at htype
  intro hsame
  rw [hdata, hdata'] at hsame
  -- the start codes have the same length, since they end with the first 1
  have hheader : b = b' := by
    cases long <;> cases long' <;> simp [startCodeOf] at hsame
    · exact hsame.1
    · exact hsame.1
  subst hheader
  exact vps_header_ne b htype'.symm pps.isH265 htype.symm

/-! ### What can be stored -/

theorem placed_foldl (nalus : List NALU) :
    LowLagDecoder.Placed (nalus.foldl CodecConfigFinder.saveIfConfig .new) :=
  List.foldlRecOn nalus _ LowLagDecoder.placed_new fun _ hfinder nalu _ =>
    hfinder.saveIfConfig nalu

theorem not_agree_of_placed (hplaced : LowLagDecoder.Placed finder)
    (hall : finder.allConfigAvailable true = true) : ¬ Agree finder := by
  have hstored := CodecConfigFinder.allConfigAvailable_iff.mp hall
  obtain ⟨vps, hvps⟩ := Option.isSome_iff_exists.mp (hstored .VPS rfl)
  obtain ⟨sps, hsps⟩ := Option.isSome_iff_exists.mp (hstored .SPS trivial)
  obtain ⟨pps, hpps⟩ := Option.isSome_iff_exists.mp (hstored .PPS trivial)
  rw [agree_iff_of_found hvps hsps hpps, List.append_assoc, List.append_assoc]
  exact pps_append_ne (hplaced .VPS vps hvps) (hplaced .PPS pps hpps) _ _

/-- **The two builders disagree about whatever can be stored.** -/
theorem builders_disagree (nalus : List NALU)
    (h : (nalus.foldl CodecConfigFinder.saveIfConfig .new).allConfigAvailable true = true) :
    ¬ Agree (nalus.foldl CodecConfigFinder.saveIfConfig .new) :=
  not_agree_of_placed (placed_foldl nalus) h

/-- A small VPS, SPS and PPS. -/
def parameterSets : List NALU :=
  [LowLagDecoder.parameterSetOf true .VPS, LowLagDecoder.parameterSetOf true .SPS,
    LowLagDecoder.parameterSetOf true .PPS]

theorem builders_disagree_small :
    ¬ Agree (parameterSets.foldl CodecConfigFinder.saveIfConfig .new) :=
  builders_disagree parameterSets (by decide)

/-- MediaCodec gets PPS, SPS and VPS, and avcodec VPS, SPS and PPS. -/
theorem not_agree_small :
    ¬ ∀ nalus : List NALU,
      (nalus.foldl CodecConfigFinder.saveIfConfig .new).allConfigAvailable true = true →
        Agree (nalus.foldl CodecConfigFinder.saveIfConfig .new) := by
  intro h
  have hsame := (agree_iff_of_found rfl rfl rfl).mp (h parameterSets (by decide))
  revert hsame
  decide

end ConfigBuilders

end QOpenHD
