/-
QOpenHD/SpsResolution.lean

The resolution that a decoder is configured with.

`croppedWidth` and `croppedHeight` are the size of the cropped frame of an SPS as
the format defines it, `ChromaArrayType` deciding the units.

* `toNat_width` — the parser's width is this one, modulo the 32 bits of its field;
* **`toNat_height_iff`** — its height is, exactly if the SPS has no fields, or a single
  colour plane, or no vertical crop: the unit of the crop lacks the factor for
  fields where there is subsampling;
* **`codec_resolution`** — in every state of every run the decoder's format has
  the size of the tree that its SPS encodes, and 640x480 if there is none.
-/
import QOpenHD.SpsParser
import QOpenHD.LowLagDecoder

namespace QOpenHD

open Checked Grammar BitBuffer

namespace SpsParser

/-! ### The resolution of a tree -/

/-- `ChromaArrayType` of the format. -/
def Chroma.arrayType (c : Chroma) : UInt32 :=
  if c.separateColourPlaneFlag ≠ 0 then 0 else c.chromaFormatIdc

/-- `SubWidthC` of 4:2:0 and 4:2:2, and 1 otherwise. -/
def Chroma.subWidthC (c : Chroma) : ℤ := if c.arrayType = 1 ∨ c.arrayType = 2 then 2 else 1

/-- `SubHeightC` of 4:2:0, and 1 otherwise. -/
def Chroma.subHeightC (c : Chroma) : ℤ := if c.arrayType = 1 then 2 else 1

namespace SpsSyntax

variable (t : SpsSyntax)

/-- The crop offsets of a tree, 0 where there are none. -/
def crop : FrameCrop := t.resolution.value.frameCrop

/-- Fields of a frame: two where the macroblocks may be of fields. -/
def fields : ℤ := if t.resolution.frameMbs.frameMbsOnlyFlag then 1 else 2

/-- The width of the cropped frame in the format's terms. -/
def croppedWidth : ℤ :=
  16 * (t.resolution.picWidthInMbsMinus1.1.toNat + 1) -
    t.profile.chromaValue.subWidthC * (t.crop.left.toNat + t.crop.right.toNat)

/-- The height of the cropped frame in the format's terms; a unit of the vertical crop is as
many lines as there are fields, times `SubHeightC`. -/
def croppedHeight : ℤ :=
  t.fields * (16 * (t.resolution.picHeightInMapUnitsMinus1.1.toNat + 1)) -
    t.profile.chromaValue.subHeightC * t.fields * (t.crop.top.toNat + t.crop.bottom.toNat)

end SpsSyntax

theorem arrayType_eq_zero_iff (c : Chroma) :
    c.arrayType = 0 ↔ c.separateColourPlaneFlag ≠ 0 ∨ c.chromaFormatIdc = 0 := by
  rw [Chroma.arrayType]
  split <;> simp_all

/-- The parser's crop units: horizontally those of the format. -/
theorem inPixels_horizontal (crop : FrameCrop) (c : Chroma) (fmo : UInt32) :
    ∃ unit : UInt32, (unit.toNat : ℤ) = c.subWidthC ∧ (unit = 1 ∨ unit = 2) ∧
      (crop.inPixels c fmo).left = crop.left * unit ∧
      (crop.inPixels c fmo).right = crop.right * unit := by
  rw [FrameCrop.inPixels, Chroma.subWidthC]
  by_cases h₀ : c.separateColourPlaneFlag ≠ 0 ∨ c.chromaFormatIdc = 0
  · rw [if_pos h₀, (arrayType_eq_zero_iff c).mpr h₀]
    exact ⟨1, rfl, .inl rfl, (UInt32.mul_one _).symm, (UInt32.mul_one _).symm⟩
  have harray : c.arrayType = c.chromaFormatIdc := if_neg fun h => h₀ (.inl h)
  rw [if_neg h₀, harray]
  by_cases h₁ : c.chromaFormatIdc = 1
  · rw [if_pos h₁, h₁]
    exact ⟨2, rfl, .inr rfl, rfl, rfl⟩
  by_cases h₂ : c.chromaFormatIdc = 2
  · rw [if_neg h₁, if_pos h₂, h₂]
    exact ⟨2, rfl, .inr rfl, rfl, rfl⟩
  · rw [if_neg h₁, if_neg h₂, if_neg (by simp [h₁, h₂])]
    exact ⟨1, rfl, .inl rfl, (UInt32.mul_one _).symm, (UInt32.mul_one _).symm⟩

/-- Vertically they are those of the format only without subsampling to speak of, or
without fields. -/
theorem inPixels_vertical (crop : FrameCrop) (c : Chroma) (fmo : Bool) :
    ∃ unit : UInt32, (unit.toNat : ℤ) =
        (if c.arrayType = 0 then if fmo then 1 else 2 else c.subHeightC) ∧
      (unit = 1 ∨ unit = 2) ∧
      (crop.inPixels c fmo.toUInt32).top = crop.top * unit ∧
      (crop.inPixels c fmo.toUInt32).bottom = crop.bottom * unit := by
  rw [FrameCrop.inPixels, Chroma.subHeightC]
  by_cases h₀ : c.separateColourPlaneFlag ≠ 0 ∨ c.chromaFormatIdc = 0
  · rw [if_pos h₀, if_pos ((arrayType_eq_zero_iff c).mpr h₀)]
    refine ⟨2 - fmo.toUInt32, ?_, ?_, rfl, rfl⟩ <;> cases fmo <;> decide
  have harray : c.arrayType = c.chromaFormatIdc := if_neg fun h => h₀ (.inl h)
  have hne : c.chromaFormatIdc ≠ 0 := fun h => h₀ (.inr h)
  rw [if_neg h₀, harray, if_neg hne]
  by_cases h₁ : c.chromaFormatIdc = 1
  · rw [if_pos h₁, if_pos h₁]
    exact ⟨2, rfl, .inr rfl, rfl, rfl⟩
  rw [if_neg h₁, if_neg h₁]
  split
  · exact ⟨1, rfl, .inl rfl, (UInt32.mul_one _).symm, (UInt32.mul_one _).symm⟩
  · exact ⟨1, rfl, .inl rfl, (UInt32.mul_one _).symm, (UInt32.mul_one _).symm⟩

/-- `16 * k * (n + 1)` less two offsets of `unit`, in 32 bits. -/
theorem toNat_extent {k unit n a b : UInt32} (hk : k = 1 ∨ k = 2) (hunit : unit = 1 ∨ unit = 2) :
    ((16 * k * (n + 1) - (a * unit + b * unit)).toNat : ℤ) =
      (16 * k.toNat * (n.toNat + 1) - unit.toNat * (a.toNat + b.toNat)) % 2 ^ 32 := by
  have ha := a.toNat_lt
  have hb := b.toNat_lt
  have hn := n.toNat_lt
  rcases hk with rfl | rfl <;> rcases hunit with rfl | rfl <;>
    simp only [UInt32.toNat_sub, UInt32.toNat_mul, UInt32.toNat_add, UInt32.reduceToNat] <;> omega

namespace SpsSyntax

variable (t : SpsSyntax)

/-- The parser's width is the format's, modulo the 32 bits of the field. -/
theorem toNat_width : (t.state.width.toNat : ℤ) = t.croppedWidth % 2 ^ 32 := by
  obtain ⟨unit, hval, hunit, hleft, hright⟩ := inPixels_horizontal t.crop t.profile.chromaValue
    t.resolution.frameMbs.frameMbsOnlyFlag.toUInt32
  have hextent := toNat_extent (k := 1) (n := t.resolution.picWidthInMbsMinus1.1) (a := t.crop.left)
    (b := t.crop.right) (.inl rfl) hunit
  rw [← hleft, ← hright, hval] at hextent
  exact hextent

/-- What the parser's height is without the modulus. -/
def parsedHeight : ℤ :=
  t.fields * (16 * (t.resolution.picHeightInMapUnitsMinus1.1.toNat + 1)) -
    (if t.profile.chromaValue.arrayType = 0 then t.fields else t.profile.chromaValue.subHeightC) *
      (t.crop.top.toNat + t.crop.bottom.toNat)

theorem toNat_height : (t.state.height.toNat : ℤ) = t.parsedHeight % 2 ^ 32 := by
  obtain ⟨unit, hval, hunit, htop, hbottom⟩ := inPixels_vertical t.crop t.profile.chromaValue
    t.resolution.frameMbs.frameMbsOnlyFlag
  have hk : 2 - t.resolution.frameMbs.frameMbsOnlyFlag.toUInt32 = 1 ∨
      2 - t.resolution.frameMbs.frameMbsOnlyFlag.toUInt32 = 2 := by
    cases t.resolution.frameMbs.frameMbsOnlyFlag
    · exact .inr rfl
    · exact .inl rfl
  have hfields : ((2 - t.resolution.frameMbs.frameMbsOnlyFlag.toUInt32).toNat : ℤ) = t.fields := by
    rw [fields]
    cases t.resolution.frameMbs.frameMbsOnlyFlag <;> rfl
  have hextent := toNat_extent (n := t.resolution.picHeightInMapUnitsMinus1.1) (a := t.crop.top)
    (b := t.crop.bottom) hk hunit
  rw [← htop, ← hbottom, hval, hfields] at hextent
  rw [parsedHeight, mul_left_comm, ← mul_assoc]
  exact hextent

/-- The parser's height is the format's, in 32 bits, exactly if there are no fields, or no
subsampling to speak of, or no vertical crop to speak of. -/
theorem toNat_height_iff :
    (t.state.height.toNat : ℤ) = t.croppedHeight % 2 ^ 32 ↔
      t.resolution.frameMbs.frameMbsOnlyFlag = true ∨ t.profile.chromaValue.arrayType = 0 ∨
        2 ^ 32 ∣ t.profile.chromaValue.subHeightC * (t.crop.top.toNat + t.crop.bottom.toNat) := by
  rw [toNat_height, parsedHeight, croppedHeight, Int.emod_eq_emod_iff_emod_sub_eq_zero,
    ← Int.dvd_iff_emod_eq_zero]
  by_cases harray : t.profile.chromaValue.arrayType = 0
  · have hsub : t.profile.chromaValue.subHeightC = 1 := by
      rw [Chroma.subHeightC, harray]
      rfl
    simp [harray, hsub]
  rw [if_neg harray, fields]
  cases t.resolution.frameMbs.frameMbsOnlyFlag with
  | true => simp
  | false =>
      have hdiff (h s o : ℤ) : 2 * h - s * o - (2 * h - s * 2 * o) = s * o := by ring
      rw [if_neg Bool.false_ne_true, hdiff]
      simp [harray]

/-- 1080 lines in fields come out as 1084. -/
example :
    let t : SpsSyntax := { baseline with resolution :=
      ⟨⟨119, by decide⟩, ⟨33, by decide⟩, ⟨false, some false, rfl⟩, true,
        some ⟨⟨0, by decide⟩, ⟨0, by decide⟩, ⟨0, by decide⟩, ⟨2, by decide⟩⟩⟩ }
    t.croppedHeight = 1080 ∧ t.state.height = 1084 := by decide

end SpsSyntax

/-- What `sps_get_width_height` takes of the parsed SPS. -/
def widthHeight (data : List UInt8) : Option (UInt32 × UInt32) :=
  match parseSps data with
  | .ok (some sps) => some (sps.width, sps.height)
  | _ => none

/-- The payload behind the header of a NALU. -/
def payload (nalu : NALU) : List UInt8 := nalu.dataWithoutPrefix.drop 1

/-- The size is the one of the tree that the payload encodes, or 640x480 if there is none. -/
def ShowsSps (data : List UInt8) (width height : Int32) : Prop :=
  (∃ t : SpsSyntax, IsSps data t ∧ width.toInt = t.croppedWidth.bmod (2 ^ 32) ∧
      height.toInt = t.parsedHeight.bmod (2 ^ 32)) ∨
    ((∀ t : SpsSyntax, ¬ IsSps data t) ∧ width = 640 ∧ height = 480)

theorem toInt_toInt32_of_emod {u : UInt32} {n : ℤ} (h : (u.toNat : ℤ) = n % 2 ^ 32) :
    u.toInt32.toInt = n.bmod (2 ^ 32) := by
  have hu : u.toInt32.toInt = (u.toNat : ℤ).bmod (2 ^ 32) := BitVec.toInt_eq_toNat_bmod _
  rw [hu, h]
  exact Int.emod_bmod n (2 ^ 32)

/-- The asserts of `sps_get_width_height`. -/
theorem isSPS_of_spsGetWidthHeight {nalu : NALU} {size : Int32 × Int32}
    (h : nalu.spsGetWidthHeight widthHeight = .ok size) :
    nalu.isSPS = true ∧ nalu.isH265 = false := by
  obtain ⟨_, hsps, h⟩ := bind_eq_ok_iff.mp h
  obtain ⟨_, hcodec, -⟩ := bind_eq_ok_iff.mp h
  exact ⟨require_eq_ok_iff.mp hsps, require_eq_ok_iff.mp hcodec⟩

/-- `sps_get_width_height` on a NALU whose asserts hold. -/
theorem spsGetWidthHeight_shows {nalu : NALU} {width height : Int32}
    (hlen : (H264.parseRbsp (payload nalu)).length ≤ 0xFFFFFFFF)
    (h : nalu.spsGetWidthHeight widthHeight = .ok (width, height)) :
    ShowsSps (payload nalu) width height := by
  obtain ⟨sps, hparse, hsps⟩ := parseSps_eq hlen
  obtain ⟨-, -, h⟩ := bind_eq_ok_iff.mp h
  obtain ⟨-, -, h⟩ := bind_eq_ok_iff.mp h
  have hwh : widthHeight (nalu.dataWithoutPrefix.drop 1) =
      sps.map fun s => (s.width, s.height) := by
    rw [widthHeight, show parseSps (nalu.dataWithoutPrefix.drop 1) = _ from hparse]
    cases sps <;> rfl
  rw [hwh] at h
  cases sps with
  | none =>
      cases h
      refine .inr ⟨fun t ht => ?_, rfl, rfl⟩
      cases (hsps t.state).mpr ⟨t, ht, rfl⟩
  | some s =>
      cases h
      obtain ⟨t, ht, rfl⟩ := (hsps s).mp rfl
      exact .inl ⟨t, ht, toInt_toInt32_of_emod t.toNat_width, toInt_toInt32_of_emod t.toNat_height⟩

/-- The decoder's format is made of an SPS of H264: its `csd-0`, and the size. -/
def MadeOfSps (format : AMediaFormat) : Prop :=
  format.mime = "video/avc" → ∃ sps : NALU, sps.isSPS = true ∧ sps.isH265 = false ∧
    format.csd0 = sps.data ∧ ((H264.parseRbsp (payload sps)).length ≤ 0xFFFFFFFF →
      ShowsSps (payload sps) format.width format.height)

theorem madeOfSps_of_configure {finder : CodecConfigFinder} {isH265 : Bool} {format : AMediaFormat}
    (h : configureAMediaFormat widthHeight finder isH265 = .ok format) : MadeOfSps format := by
  intro hmime
  rw [configureAMediaFormat] at h
  split at h
  · simp only [h265ConfigureAMediaFormat, bind_eq_ok_iff] at h
    obtain ⟨sps, -, pps, -, vps, -, h⟩ := h
    cases h
    have hmime : "video/hevc" = "video/avc" := hmime
    exact absurd hmime (by decide)
  · simp only [h264ConfigureAMediaFormat, bind_eq_ok_iff] at h
    obtain ⟨sps, -, pps, -, ⟨width, height⟩, hsize, h⟩ := h
    cases h
    obtain ⟨hsps, hcodec⟩ := isSPS_of_spsGetWidthHeight hsize
    exact ⟨sps, hsps, hcodec, rfl, fun hlen => spsGetWidthHeight_shows hlen hsize⟩

/-- The format in a state, if there is one, is made of an SPS. -/
def CodecMade (s : LowLagDecoder) : Prop :=
  ∀ format, s.decoder.codec = some format → MadeOfSps format

/-- What has the codec of a state, or none, keeps the property. -/
theorem CodecMade.of_codec {s s' : LowLagDecoder} (hs : CodecMade s)
    (h : s'.decoder.codec = s.decoder.codec ∨ s'.decoder.codec = none) : CodecMade s' := by
  intro format hformat
  rcases h with hsame | hnone
  · exact hs format (hsame ▸ hformat)
  · rw [hnone] at hformat
    cases hformat

theorem codec_release (s : LowLagDecoder) (releaseWindow : Bool) :
    (s.releaseDecoderResourcesLocked releaseWindow).decoder.codec = s.decoder.codec ∨
      (s.releaseDecoderResourcesLocked releaseWindow).decoder.codec = none := by
  unfold LowLagDecoder.releaseDecoderResourcesLocked
  dsimp only
  split_ifs <;> simp

theorem codec_setOutputSurface (s : LowLagDecoder) (surface : Option Bool) :
    (s.setOutputSurface surface).decoder.codec = s.decoder.codec ∨
      (s.setOutputSurface surface).decoder.codec = none := by
  have hrelease := codec_release s true
  cases surface with
  | none =>
      rw [LowLagDecoder.setOutputSurface]
      split
      · exact hrelease
      · exact .inl rfl
  | some window =>
      rw [LowLagDecoder.setOutputSurface]
      dsimp only
      split
      · exact hrelease
      · exact .inl rfl

theorem codec_bufferNALU (s : LowLagDecoder) (nalu : NALU) :
    (s.bufferNALU nalu).1.decoder.codec = s.decoder.codec ∨
      (s.bufferNALU nalu).1.decoder.codec = none := by
  have hdetect : (s.detectCodecChange nalu).decoder.codec = s.decoder.codec ∨
      (s.detectCodecChange nalu).decoder.codec = none := by
    unfold LowLagDecoder.detectCodecChange
    dsimp only
    split
    · exact codec_release s false
    · exact .inl rfl
  unfold LowLagDecoder.bufferNALU
  dsimp only
  split_ifs <;> exact hdetect

theorem CodecMade.step {s s' : LowLagDecoder} {e : LowLagDecoder.Event} (hs : CodecMade s)
    (h : LowLagDecoder.step widthHeight s e = .ok s') : CodecMade s' := by
  cases e with
  | setOutputSurface surface =>
      cases h
      exact hs.of_codec (codec_setOutputSurface s surface)
  | interpretNALU nalu creates =>
      have hbuffer := hs.of_codec (codec_bufferNALU s nalu)
      rw [LowLagDecoder.step, LowLagDecoder.interpretNALU] at h
      split at h
      · cases creates with
        | false =>
            cases h
            exact hbuffer.of_codec (.inr rfl)
        | true =>
            rw [LowLagDecoder.configureStartDecoder, if_pos rfl, bind_eq_ok_iff] at h
            obtain ⟨format, hformat, h⟩ := h
            cases h
            intro format' hsome
            cases hsome
            exact madeOfSps_of_configure hformat
      · cases h
        exact hbuffer

/-- **The resolution of a configured codec**, in every state of every run. -/
theorem codec_resolution {es : List LowLagDecoder.Event} {s : LowLagDecoder} {format : AMediaFormat}
    (h : run (LowLagDecoder.step widthHeight) LowLagDecoder.init es = .ok s)
    (hformat : s.decoder.codec = some format) (hmime : format.mime = "video/avc") :
    ∃ sps : NALU, sps.isSPS = true ∧ sps.isH265 = false ∧ format.csd0 = sps.data ∧
      ((H264.parseRbsp (payload sps)).length ≤ 0xFFFFFFFF →
        ShowsSps (payload sps) format.width format.height) := by
  have hinit : CodecMade LowLagDecoder.init := by
    rintro format' ⟨⟩
  have hs : CodecMade s := run_invariant (fun _ _ _ hm hstep => CodecMade.step hm hstep) hinit h
  exact hs format hformat hmime

/-- An SPS of 640x480, and a PPS. -/
def spsNalu : NALU :=
  ⟨[0, 0, 0, 1, 0x67, 0x42, 0x00, 0x1E, 0xDA, 0x02, 0x80, 0xF6, 0x40], false, rfl, by decide⟩

def ppsNalu : NALU := ⟨[0, 0, 0, 1, 0x68, 0xCE, 0x38, 0x80], false, rfl, by decide⟩

def vgaEvents : List LowLagDecoder.Event :=
  [.setOutputSurface (some true), .interpretNALU spsNalu true, .interpretNALU ppsNalu true]

theorem run_vgaEvents :
    (match run (LowLagDecoder.step widthHeight) LowLagDecoder.init vgaEvents with
      | .ok s => s.decoder.codec.map fun f => (f.mime, f.width, f.height)
      | .error _ => none) = some ("video/avc", 640, 480) := by
  decide +kernel

theorem codec_resolution_vga :
    ∃ s format, run (LowLagDecoder.step widthHeight) LowLagDecoder.init vgaEvents = .ok s ∧
      s.decoder.codec = some format ∧ (format.width, format.height) = (640, 480) ∧
      ∃ sps : NALU, sps.isSPS = true ∧ sps.isH265 = false ∧ format.csd0 = sps.data ∧
        ((H264.parseRbsp (payload sps)).length ≤ 0xFFFFFFFF →
          ShowsSps (payload sps) format.width format.height) := by
  have hrun := run_vgaEvents
  cases h : run (LowLagDecoder.step widthHeight) LowLagDecoder.init vgaEvents with
  | error e =>
      rw [h] at hrun
      cases hrun
  | ok s =>
      rw [h] at hrun
      obtain ⟨format, hformat, hsize⟩ := Option.map_eq_some_iff.mp hrun
      obtain ⟨hmime, hsize⟩ := Prod.mk.inj hsize
      exact ⟨s, format, rfl, hformat, hsize, codec_resolution h hformat hmime⟩

end SpsParser

end QOpenHD
