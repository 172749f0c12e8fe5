/-
QOpenHD/SpsParser.lean

The parser of an H.264 sequence parameter set (`lib/h264/sps_parser.cc`), from
which `NALU::sps_get_width_height` takes the resolution of the video.

`SpsSyntax` is the syntax tree of an SPS up to its VUI part, with the conditions that the
parser checks as fields, and `SpsSyntax.bits` its encoding.

* `reads_parseSpsUpToVui` — `ParseSpsUpToVui` accepts exactly the bits that
  begin with an encoding, returns the state of its tree, stops behind it, and never
  faults;
* **`parseSps_iff`**, **`parseSps_writeRbsp`** — so does `ParseSps` behind the emulation bytes, and
  what is written with them is parsed.
-/
import QOpenHD.BitBuffer
import QOpenHD.H264Common

namespace QOpenHD

open Checked Grammar BitBuffer

/-! ### The parser -/

/-- `SpsParser::SpsState`, with its defaults. -/
structure SpsState where
  width : UInt32 := 0
  height : UInt32 := 0
  deltaPicOrderAlwaysZeroFlag : UInt32 := 0
  separateColourPlaneFlag : UInt32 := 0
  frameMbsOnlyFlag : UInt32 := 0
  log2MaxFrameNum : UInt32 := 4
  log2MaxPicOrderCntLsb : UInt32 := 4
  picOrderCntType : UInt32 := 0
  maxNumRefFrames : UInt32 := 0
  vuiParamsPresent : UInt32 := 0
  id : UInt32 := 0
  deriving DecidableEq

namespace SpsParser

def kScalingDeltaMin : ℤ := -128
def kScaldingDeltaMax : ℤ := 127
def kMaxLog2Minus4 : UInt32 := 32 - 4

/-- The profiles that have chroma format information. -/
def hasChromaFormat (profileIdc : UInt8) : Bool :=
  profileIdc ∈ [100, 110, 122, 244, 44, 83, 86, 118, 128, 138, 139, 134]

/-- The loop over one scaling list, `n` entries before its end. -/
def readScalingList : ℕ → ℤ → ℤ → Reader BitBuffer Unit
  | 0, _, _ => pure ()
  | n + 1, lastScale, nextScale =>
      if nextScale ≠ 0 then do
        let deltaScale ← readSignedExponentialGolomb
        guard (kScalingDeltaMin ≤ deltaScale.toInt ∧ deltaScale.toInt ≤ kScaldingDeltaMax)
        let nextScale := (lastScale + deltaScale.toInt + 256).tmod 256
        readScalingList n (if nextScale ≠ 0 then nextScale else lastScale) nextScale
      else
        readScalingList n lastScale nextScale

def sizeOfScalingList (i : ℕ) : ℕ := if i < 6 then 16 else 64

/-- The list at `i`, if its flag says that it is there. -/
def readOptionalScalingList (i : ℕ) : Reader BitBuffer Unit := do
  let seqScalingListPresentFlag ← readBits 1
  if seqScalingListPresentFlag ≠ 0 then readScalingList (sizeOfScalingList i) 8 8 else pure ()

/-- The loop over the scaling lists, `n` of them from `i` on. -/
def readScalingLists : ℕ → ℕ → Reader BitBuffer Unit
  | 0, _ => pure ()
  | n + 1, i => do
      readOptionalScalingList i
      readScalingLists n (i + 1)

def scalingListCount (chromaFormatIdc : UInt32) : ℕ := if chromaFormatIdc = 3 then 12 else 8

def readSeparateColourPlaneFlag (chromaFormatIdc : UInt32) : Reader BitBuffer UInt32 :=
  if chromaFormatIdc = 3 then readBits 1 else pure 0

/-- `seq_scaling_matrix_present_flag` and the lists behind it. -/
def readScalingMatrix (chromaFormatIdc : UInt32) : Reader BitBuffer Unit := do
  let seqScalingMatrixPresentFlag ← readBits 1
  if seqScalingMatrixPresentFlag ≠ 0 then readScalingLists (scalingListCount chromaFormatIdc) 0
  else pure ()

/-- What decides the units of the cropping. -/
structure Chroma where
  chromaFormatIdc : UInt32 := 1
  separateColourPlaneFlag : UInt32 := 0

/-- The part of an SPS that only some profiles have. -/
def readChroma : Reader BitBuffer Chroma := do
  let chromaFormatIdc ← readExponentialGolomb
  let separateColourPlaneFlag ← readSeparateColourPlaneFlag chromaFormatIdc
  let _ ← readExponentialGolomb
  let _ ← readExponentialGolomb
  skip (consumeBits · 1)
  readScalingMatrix chromaFormatIdc
  pure ⟨chromaFormatIdc, separateColourPlaneFlag⟩

/-- The profile, the level and the chroma format; the id of the SPS and the format are
returned. -/
def readProfile : Reader BitBuffer (UInt32 × Chroma) := do
  let profileIdc ← readUInt8
  skip (consumeBytes · 1)
  skip (consumeBytes · 1)
  let id ← readExponentialGolomb
  let chroma ← (if hasChromaFormat profileIdc then readChroma else pure {} :
    Reader BitBuffer Chroma)
  pure (id, chroma)

/-- A logarithm that is checked before 4 is added. -/
def readLog2 : Reader BitBuffer UInt32 := do
  let log2Minus4 ← readExponentialGolomb
  guard (log2Minus4 ≤ kMaxLog2Minus4)
  pure (log2Minus4 + 4)

structure PicOrderCnt where
  picOrderCntType : UInt32
  log2MaxPicOrderCntLsb : UInt32 := 4
  deltaPicOrderAlwaysZeroFlag : UInt32 := 0

/-- The part behind `pic_order_cnt_type`. -/
def readPicOrderCntOf (picOrderCntType : UInt32) : Reader BitBuffer PicOrderCnt :=
  if picOrderCntType = 0 then do
    let log2MaxPicOrderCntLsb ← readLog2
    pure { picOrderCntType, log2MaxPicOrderCntLsb }
  else if picOrderCntType = 1 then do
    let deltaPicOrderAlwaysZeroFlag ← readBits 1
    let _ ← readExponentialGolomb
    let _ ← readExponentialGolomb
    let numRefFramesInPicOrderCntCycle ← readExponentialGolomb
    readExponentialGolomb.replicate numRefFramesInPicOrderCntCycle.toNat
    pure { picOrderCntType, deltaPicOrderAlwaysZeroFlag }
  else
    pure { picOrderCntType }

def readPicOrderCnt : Reader BitBuffer PicOrderCnt := do
  let picOrderCntType ← readExponentialGolomb
  readPicOrderCntOf picOrderCntType

structure FrameCrop where
  left : UInt32 := 0
  right : UInt32 := 0
  top : UInt32 := 0
  bottom : UInt32 := 0

def readFrameCropOffsets : Reader BitBuffer FrameCrop := do
  let left ← readExponentialGolomb
  let right ← readExponentialGolomb
  let top ← readExponentialGolomb
  let bottom ← readExponentialGolomb
  pure ⟨left, right, top, bottom⟩

def readFrameCrop : Reader BitBuffer FrameCrop := do
  let frameCroppingFlag ← readBits 1
  if frameCroppingFlag ≠ 0 then readFrameCropOffsets else pure {}

/-- `frame_mbs_only_flag`, and `mb_adaptive_frame_field_flag` that is there without it. -/
def readFrameMbsOnlyFlag : Reader BitBuffer UInt32 := do
  let frameMbsOnlyFlag ← readBits 1
  let _ ← (if frameMbsOnlyFlag = 0 then skip (consumeBits · 1) else pure () : Reader BitBuffer Unit)
  pure frameMbsOnlyFlag

structure Resolution where
  picWidthInMbsMinus1 : UInt32
  picHeightInMapUnitsMinus1 : UInt32
  frameMbsOnlyFlag : UInt32
  frameCrop : FrameCrop

def readResolution : Reader BitBuffer Resolution := do
  let picWidthInMbsMinus1 ← readExponentialGolomb
  let picHeightInMapUnitsMinus1 ← readExponentialGolomb
  let frameMbsOnlyFlag ← readFrameMbsOnlyFlag
  skip (consumeBits · 1)
  let frameCrop ← readFrameCrop
  pure ⟨picWidthInMbsMinus1, picHeightInMapUnitsMinus1, frameMbsOnlyFlag, frameCrop⟩

/-- The crop offsets in pixels. -/
def FrameCrop.inPixels (crop : FrameCrop) (chroma : Chroma) (frameMbsOnlyFlag : UInt32) :
    FrameCrop :=
  if chroma.separateColourPlaneFlag ≠ 0 ∨ chroma.chromaFormatIdc = 0 then
    { crop with
      bottom := crop.bottom * (2 - frameMbsOnlyFlag)
      top := crop.top * (2 - frameMbsOnlyFlag) }
  else if chroma.chromaFormatIdc = 1 then
    ⟨crop.left * 2, crop.right * 2, crop.top * 2, crop.bottom * 2⟩
  else if chroma.chromaFormatIdc = 2 then
    { crop with left := crop.left * 2, right := crop.right * 2 }
  else crop

def Resolution.width (r : Resolution) (chroma : Chroma) : UInt32 :=
  let crop := r.frameCrop.inPixels chroma r.frameMbsOnlyFlag
  16 * (r.picWidthInMbsMinus1 + 1) - (crop.left + crop.right)

def Resolution.height (r : Resolution) (chroma : Chroma) : UInt32 :=
  let crop := r.frameCrop.inPixels chroma r.frameMbsOnlyFlag
  16 * (2 - r.frameMbsOnlyFlag) * (r.picHeightInMapUnitsMinus1 + 1) - (crop.top + crop.bottom)

/-- `SpsParser::ParseSpsUpToVui` -/
def parseSpsUpToVui : Reader BitBuffer SpsState := do
  let (id, chroma) ← readProfile
  let log2MaxFrameNum ← readLog2
  let poc ← readPicOrderCnt
  let maxNumRefFrames ← readExponentialGolomb
  skip (consumeBits · 1)
  let r ← readResolution
  let vuiParamsPresent ← readBits 1
  pure
    { width := r.width chroma
      height := r.height chroma
      deltaPicOrderAlwaysZeroFlag := poc.deltaPicOrderAlwaysZeroFlag
      separateColourPlaneFlag := chroma.separateColourPlaneFlag
      frameMbsOnlyFlag := r.frameMbsOnlyFlag
      log2MaxFrameNum := log2MaxFrameNum
      log2MaxPicOrderCntLsb := poc.log2MaxPicOrderCntLsb
      picOrderCntType := poc.picOrderCntType
      maxNumRefFrames := maxNumRefFrames
      vuiParamsPresent := vuiParamsPresent
      id := id }

/-- `SpsParser::ParseSps` -/
def parseSps (data : List UInt8) : Exec (Option SpsState) := do
  let bitBuffer ← BitBuffer.create (H264.parseRbsp data)
  let (sps, _) ← parseSpsUpToVui.exec bitBuffer
  pure sps

/-! ### Elements of the syntax -/

/-- `u(1)` -/
theorem reads_flag : Reads (readBits 1) (fun b : Bool => [b]) Bool.toUInt32 := by
  refine (reads_readBits Nat.one_pos (by decide)).congr ?_ ?_
  · rintro ⟨x, hx⟩
    obtain ⟨b, rfl⟩ := List.length_eq_one_iff.mp hx
    exact ⟨b, rfl, by cases b <;> rfl⟩
  · intro b
    exact ⟨⟨[b], rfl⟩, rfl, by cases b <;> rfl⟩

/-- `u(1)` that is skipped -/
theorem reads_skipFlag : Reads (skip (consumeBits · 1)) (fun b : Bool => [b]) fun _ => () := by
  refine (reads_consumeBits 1).congr ?_ ?_
  · rintro ⟨x, hx⟩
    obtain ⟨b, rfl⟩ := List.length_eq_one_iff.mp hx
    exact ⟨b, rfl, rfl⟩
  · intro b
    exact ⟨⟨[b], rfl⟩, rfl, rfl⟩

/-- `u(8)` that is skipped -/
theorem reads_skipByte : Reads (skip (consumeBytes · 1)) Bits.ofByte fun _ => () := by
  refine (reads_consumeBits 8).congr ?_ ?_
  · rintro ⟨x, hx⟩
    exact ⟨UInt8.ofNat (Bits.toNat x), Bits.ofByte_toNat hx, rfl⟩
  · intro byte
    exact ⟨⟨Bits.ofByte byte, Bits.length_ofByte byte⟩, rfl, rfl⟩

/-- A logarithm that is at most 32 with the 4 that are added. -/
abbrev Log2 : Type := { v : Ue // v.1 ≤ kMaxLog2Minus4 }

theorem reads_readLog2 : Reads readLog2 (fun v : Log2 => v.1.code) fun v => v.1.1 + 4 := by
  refine (reads_readExponentialGolomb.bind fun v =>
    (reads_guard (v.1 ≤ kMaxLog2Minus4)).bind fun _ => reads_pure (v.1 + 4)).congr ?_ ?_
  · rintro ⟨v, hv, -⟩
    exact ⟨⟨v, hv.down⟩, by simp, rfl⟩
  · rintro ⟨v, hv⟩
    exact ⟨⟨v, ⟨hv⟩, ()⟩, by simp, rfl⟩

/-! ### Scaling lists -/

/-- The deltas of a scaling list of `size` entries: in range, and no further ones behind the
first that makes the scale zero. -/
def ScalingDeltas : ℕ → ℤ → List Se → Prop
  | size, scale, [] => size = 0 ∨ scale % 256 = 0
  | size, scale, d :: ds =>
      size ≠ 0 ∧ scale % 256 ≠ 0 ∧ (kScalingDeltaMin ≤ d.1.toInt ∧ d.1.toInt ≤ kScaldingDeltaMax) ∧
        ScalingDeltas (size - 1) (scale + d.1.toInt) ds

abbrev ScalingList (size : ℕ) (scale : ℤ) : Type := { ds : List Se // ScalingDeltas size scale ds }

theorem scalingDeltas_of_zero {size : ℕ} {scale : ℤ} (h : scale % 256 = 0) {ds : List Se} :
    ScalingDeltas size scale ds ↔ ds = [] := by
  cases ds with
  | nil => simp [ScalingDeltas, h]
  | cons d ds => simp [ScalingDeltas, h]

/-- The loop over a list reads what is left of its deltas. -/
theorem reads_readScalingList (n : ℕ) {scale last next : ℤ} (hnext : next = scale % 256)
    (hlast : next ≠ 0 → last = next) :
    Reads (readScalingList n last next)
      (fun ds : ScalingList n scale => ds.1.flatMap Se.code) fun _ => () := by
  induction n generalizing scale last next with
  | zero =>
      refine (reads_pure ()).congr (fun _ => ⟨⟨[], .inl rfl⟩, rfl, rfl⟩) ?_
      rintro ⟨_ | ⟨d, ds⟩, hds⟩
      · exact ⟨(), rfl, rfl⟩
      · exact absurd rfl hds.1
  | succ n ih =>
      rw [readScalingList]
      by_cases hzero : next = 0
      · rw [if_neg (not_not.mpr hzero)]
        have hscale : scale % 256 = 0 := hnext ▸ hzero
        refine (ih hnext hlast).congr ?_ ?_
        · rintro ⟨ds, hds⟩
          obtain rfl := (scalingDeltas_of_zero hscale).mp hds
          exact ⟨⟨[], .inr hscale⟩, rfl, rfl⟩
        · rintro ⟨ds, hds⟩
          obtain rfl := (scalingDeltas_of_zero hscale).mp hds
          exact ⟨⟨[], .inr hscale⟩, rfl, rfl⟩
      · rw [if_pos hzero]
        have hscale : scale % 256 ≠ 0 := hnext ▸ hzero
        have hstep (d : Se) (hd : kScalingDeltaMin ≤ d.1.toInt ∧ d.1.toInt ≤ kScaldingDeltaMax) :
            (last + d.1.toInt + 256).tmod 256 = (scale + d.1.toInt) % 256 := by
          obtain ⟨hlow, -⟩ := hd
          rw [kScalingDeltaMin] at hlow
          rw [hlast hzero, hnext, Int.tmod_eq_emod_of_nonneg (by omega)]
          omega
        refine (reads_readSignedExponentialGolomb.bind fun d => (reads_guard _).bind fun hd =>
          ih (hstep d hd.down) fun h => if_pos h).congr ?_ ?_
        · rintro ⟨d, ⟨hd⟩, ds, hds⟩
          exact ⟨⟨d :: ds, n.succ_ne_zero, hscale, hd, hds⟩, rfl, rfl⟩
        · rintro ⟨_ | ⟨d, ds⟩, hds⟩
          · exact absurd hds (by simp [ScalingDeltas, hscale])
          · exact ⟨⟨d, ⟨hds.2.2.1⟩, ds, hds.2.2.2⟩, rfl, rfl⟩

/-- The scaling lists from `i` on, `n` of them; one that is not there is `none`. -/
def ScalingLists : ℕ → ℕ → Type
  | 0, _ => Unit
  | n + 1, i => Option (ScalingList (sizeOfScalingList i) 8) × ScalingLists n (i + 1)

/-- A part behind the flag that says that it is there. -/
def optionalBits {τ : Type} (enc : τ → List Bool) : Option τ → List Bool
  | none => [false]
  | some t => true :: enc t

def ScalingLists.bits : (n i : ℕ) → ScalingLists n i → List Bool
  | 0, _, _ => []
  | n + 1, i, (ds, rest) =>
      optionalBits (fun ds => ds.1.flatMap Se.code) ds ++ bits n (i + 1) rest

/-- A part that is there where its flag is set. -/
theorem reads_optional {τ α : Type} {p : Reader BitBuffer α} {enc : τ → List Bool} {val : τ → α}
    (hp : Reads p enc val) (a : α) :
    Reads (readBits 1 >>= fun flag => if flag ≠ 0 then p else pure a) (optionalBits enc)
      fun t => (t.map val).getD a := by
  refine Reads.congr (Reads.bind reads_flag fun b => hp.optional (b.toUInt32 ≠ 0) a) ?_ ?_
  · rintro ⟨_ | _, _ | t, ht⟩
    · exact ⟨none, rfl, rfl⟩
    · cases ht
    · cases ht
    · exact ⟨some t, rfl, rfl⟩
  · rintro (_ | t)
    · exact ⟨⟨false, none, rfl⟩, rfl, rfl⟩
    · exact ⟨⟨true, some t, rfl⟩, rfl, rfl⟩

theorem reads_readOptionalScalingList (i : ℕ) :
    Reads (readOptionalScalingList i)
      (optionalBits fun ds : ScalingList (sizeOfScalingList i) 8 => ds.1.flatMap Se.code)
      fun _ => () := by
  have hlist : Reads (readScalingList (sizeOfScalingList i) 8 8)
      (fun ds : ScalingList (sizeOfScalingList i) 8 => ds.1.flatMap Se.code) fun _ => () :=
    reads_readScalingList _ rfl fun _ => rfl
  exact reads_optional hlist ()

theorem reads_readScalingLists (n i : ℕ) :
    Reads (readScalingLists n i) (ScalingLists.bits n i) fun _ => () := by
  induction n generalizing i with
  | zero => exact reads_pure ()
  | succ n ih =>
      refine ((reads_readOptionalScalingList i).bind fun _ => ih (i + 1)).congr ?_ ?_
      · rintro ⟨ds, rest⟩
        exact ⟨(ds, rest), rfl, rfl⟩
      · rintro ⟨ds, rest⟩
        exact ⟨⟨ds, rest⟩, rfl, rfl⟩

/-! ### The syntax tree -/

/-- The part of an SPS that only some profiles have. -/
structure ChromaSyntax where
  chromaFormatIdc : Ue
  separateColourPlaneFlag : Option Bool
  separate_iff : separateColourPlaneFlag.isSome = decide (chromaFormatIdc.1 = 3)
  bitDepthLumaMinus8 : Ue
  bitDepthChromaMinus8 : Ue
  qpprimeYZeroTransformBypassFlag : Bool
  seqScalingMatrix : Option (ScalingLists (scalingListCount chromaFormatIdc.1) 0)

def ChromaSyntax.bits (c : ChromaSyntax) : List Bool :=
  c.chromaFormatIdc.code ++ c.separateColourPlaneFlag.elim [] (fun b => [b]) ++
    c.bitDepthLumaMinus8.code ++ c.bitDepthChromaMinus8.code ++
    [c.qpprimeYZeroTransformBypassFlag] ++
    optionalBits (ScalingLists.bits _ 0) c.seqScalingMatrix

def ChromaSyntax.value (c : ChromaSyntax) : Chroma :=
  ⟨c.chromaFormatIdc.1, (c.separateColourPlaneFlag.map Bool.toUInt32).getD 0⟩

theorem reads_readChroma : Reads readChroma ChromaSyntax.bits ChromaSyntax.value := by
  refine Reads.congr (Reads.bind reads_readExponentialGolomb fun idc =>
    (reads_flag.optional (idc.1 = 3) 0).bind fun _ =>
    reads_readExponentialGolomb.bind fun _ =>
    reads_readExponentialGolomb.bind fun _ =>
    reads_skipFlag.bind fun _ =>
    (reads_optional (reads_readScalingLists _ 0) ()).bind fun _ =>
    reads_pure _) ?_ ?_
  · rintro ⟨idc, ⟨separate, hseparate⟩, luma, chroma, bypass, matrix, -⟩
    exact ⟨⟨idc, separate, hseparate, luma, chroma, bypass, matrix⟩,
      by simp [ChromaSyntax.bits], rfl⟩
  · rintro ⟨idc, separate, hseparate, luma, chroma, bypass, matrix⟩
    exact ⟨⟨idc, ⟨separate, hseparate⟩, luma, chroma, bypass, matrix, ()⟩,
      by simp [ChromaSyntax.bits], rfl⟩

/-- `pic_order_cnt_type` and what it brings. -/
inductive PicOrderCntSyntax
  | type0 (log2MaxPicOrderCntLsbMinus4 : Log2)
  | type1 (deltaPicOrderAlwaysZeroFlag : Bool) (offsetForNonRefPic : Se)
      (offsetForTopToBottomField : Se) (numRefFramesInPicOrderCntCycle : Ue)
      (offsetForRefFrame : { ds : List Se // ds.length = numRefFramesInPicOrderCntCycle.1.toNat })
  | other (picOrderCntType : Ue) (h₀ : picOrderCntType.1 ≠ 0) (h₁ : picOrderCntType.1 ≠ 1)

def PicOrderCntSyntax.type : PicOrderCntSyntax → Ue
  | type0 _ => ⟨0, by decide⟩
  | type1 _ _ _ _ _ => ⟨1, by decide⟩
  | other t _ _ => t

/-- What is behind `pic_order_cnt_type`. -/
def PicOrderCntSyntax.tail : PicOrderCntSyntax → List Bool
  | type0 log2 => log2.1.code
  | type1 zero nonRef topBottom num offsets =>
      [zero] ++ nonRef.code ++ topBottom.code ++ num.code ++ offsets.1.flatMap Se.code
  | other _ _ _ => []

def PicOrderCntSyntax.bits (t : PicOrderCntSyntax) : List Bool := t.type.code ++ t.tail

def PicOrderCntSyntax.value : PicOrderCntSyntax → PicOrderCnt
  | type0 log2 => { picOrderCntType := 0, log2MaxPicOrderCntLsb := log2.1.1 + 4 }
  | type1 zero _ _ _ _ => { picOrderCntType := 1, deltaPicOrderAlwaysZeroFlag := zero.toUInt32 }
  | other t _ _ => { picOrderCntType := t.1 }

theorem reads_readPicOrderCntOf (type : Ue) :
    Reads (readPicOrderCntOf type.1)
      (fun t : { t : PicOrderCntSyntax // t.type = type } => t.1.tail) fun t => t.1.value := by
  obtain ⟨type, hmax⟩ := type
  by_cases h₀ : type = 0
  · subst h₀
    refine Reads.congr (Reads.bind reads_readLog2 fun log2 => reads_pure _) ?_ ?_
    · rintro ⟨log2, -⟩
      exact ⟨⟨.type0 log2, rfl⟩, (List.append_nil _).symm, rfl⟩
    · rintro ⟨log2 | _ | ⟨t, ht₀, ht₁⟩, ht⟩
      · exact ⟨⟨log2, ()⟩, List.append_nil _, rfl⟩
      · cases ht
      · exact absurd (congrArg Subtype.val ht) ht₀
  by_cases h₁ : type = 1
  · subst h₁
    refine Reads.congr (Reads.bind reads_flag fun zero =>
      reads_readExponentialGolomb_se.bind fun _ =>
      reads_readExponentialGolomb_se.bind fun _ =>
      reads_readExponentialGolomb.bind fun num =>
      (reads_readExponentialGolomb_se.replicate _).bind fun _ =>
      reads_pure _) ?_ ?_
    · rintro ⟨zero, nonRef, topBottom, num, offsets, -⟩
      exact ⟨⟨.type1 zero nonRef topBottom num offsets, rfl⟩, by simp [PicOrderCntSyntax.tail], rfl⟩
    · rintro ⟨_ | ⟨zero, nonRef, topBottom, num, offsets⟩ | ⟨t, ht₀, ht₁⟩, ht⟩
      · cases ht
      · exact ⟨⟨zero, nonRef, topBottom, num, offsets, ()⟩, by simp [PicOrderCntSyntax.tail], rfl⟩
      · exact absurd (congrArg Subtype.val ht) ht₁
  · have hother : readPicOrderCntOf type = pure { picOrderCntType := type } := by
      rw [readPicOrderCntOf, if_neg h₀, if_neg h₁]
    rw [hother]
    refine (reads_pure _).congr (fun _ => ⟨⟨.other ⟨type, hmax⟩ h₀ h₁, rfl⟩, rfl, rfl⟩) ?_
    rintro ⟨_ | _ | ⟨t, ht₀, ht₁⟩, ht⟩
    · exact absurd (congrArg Subtype.val ht).symm h₀
    · exact absurd (congrArg Subtype.val ht).symm h₁
    · obtain rfl : t = ⟨type, hmax⟩ := ht
      exact ⟨(), rfl, rfl⟩

theorem reads_readPicOrderCnt :
    Reads readPicOrderCnt PicOrderCntSyntax.bits PicOrderCntSyntax.value := by
  refine Reads.congr (Reads.bind reads_readExponentialGolomb reads_readPicOrderCntOf) ?_ ?_
  · rintro ⟨type, t, rfl⟩
    exact ⟨t, rfl, rfl⟩
  · intro t
    exact ⟨⟨t.type, t, rfl⟩, rfl, rfl⟩

structure FrameCropSyntax where
  left : Ue
  right : Ue
  top : Ue
  bottom : Ue

def FrameCropSyntax.bits (c : FrameCropSyntax) : List Bool :=
  c.left.code ++ c.right.code ++ c.top.code ++ c.bottom.code

def FrameCropSyntax.value (c : FrameCropSyntax) : FrameCrop :=
  ⟨c.left.1, c.right.1, c.top.1, c.bottom.1⟩

theorem reads_readFrameCropOffsets :
    Reads readFrameCropOffsets FrameCropSyntax.bits FrameCropSyntax.value := by
  refine Reads.congr (Reads.bind reads_readExponentialGolomb fun left =>
    reads_readExponentialGolomb.bind fun right =>
    reads_readExponentialGolomb.bind fun top =>
    reads_readExponentialGolomb.bind fun bottom =>
    reads_pure _) ?_ ?_
  · rintro ⟨left, right, top, bottom, -⟩
    exact ⟨⟨left, right, top, bottom⟩, by simp [FrameCropSyntax.bits], rfl⟩
  · rintro ⟨left, right, top, bottom⟩
    exact ⟨⟨left, right, top, bottom, ()⟩, by simp [FrameCropSyntax.bits], rfl⟩

/-- `frame_mbs_only_flag`, and `mb_adaptive_frame_field_flag` that is there without it. -/
structure FrameMbsSyntax where
  frameMbsOnlyFlag : Bool
  mbAdaptiveFrameFieldFlag : Option Bool
  mbAdaptive_iff : mbAdaptiveFrameFieldFlag.isSome = decide (frameMbsOnlyFlag.toUInt32 = 0)

def FrameMbsSyntax.bits (f : FrameMbsSyntax) : List Bool :=
  f.frameMbsOnlyFlag :: f.mbAdaptiveFrameFieldFlag.elim [] fun b => [b]

theorem reads_readFrameMbsOnlyFlag :
    Reads readFrameMbsOnlyFlag FrameMbsSyntax.bits fun f => f.frameMbsOnlyFlag.toUInt32 := by
  refine Reads.congr (Reads.bind reads_flag fun frameMbsOnly =>
    Reads.bind (reads_skipFlag.optional (frameMbsOnly.toUInt32 = 0) ()) fun _ =>
    reads_pure _) ?_ ?_
  · rintro ⟨frameMbsOnly, ⟨mbAdaptive, h⟩, -⟩
    exact ⟨⟨frameMbsOnly, mbAdaptive, h⟩, by simp [FrameMbsSyntax.bits], rfl⟩
  · rintro ⟨frameMbsOnly, mbAdaptive, h⟩
    exact ⟨⟨frameMbsOnly, ⟨mbAdaptive, h⟩, ()⟩, by simp [FrameMbsSyntax.bits], rfl⟩

structure ResolutionSyntax where
  picWidthInMbsMinus1 : Ue
  picHeightInMapUnitsMinus1 : Ue
  frameMbs : FrameMbsSyntax
  direct8x8InferenceFlag : Bool
  frameCrop : Option FrameCropSyntax

def ResolutionSyntax.bits (r : ResolutionSyntax) : List Bool :=
  r.picWidthInMbsMinus1.code ++ r.picHeightInMapUnitsMinus1.code ++ r.frameMbs.bits ++
    [r.direct8x8InferenceFlag] ++ optionalBits FrameCropSyntax.bits r.frameCrop

def ResolutionSyntax.value (r : ResolutionSyntax) : Resolution :=
  ⟨r.picWidthInMbsMinus1.1, r.picHeightInMapUnitsMinus1.1, r.frameMbs.frameMbsOnlyFlag.toUInt32,
    (r.frameCrop.map FrameCropSyntax.value).getD {}⟩

theorem reads_readResolution :
    Reads readResolution ResolutionSyntax.bits ResolutionSyntax.value := by
  refine Reads.congr (Reads.bind reads_readExponentialGolomb fun width =>
    reads_readExponentialGolomb.bind fun height =>
    reads_readFrameMbsOnlyFlag.bind fun _ =>
    reads_skipFlag.bind fun _ =>
    (reads_optional reads_readFrameCropOffsets {}).bind fun crop =>
    reads_pure _) ?_ ?_
  · rintro ⟨width, height, frameMbs, direct, crop, -⟩
    exact ⟨⟨width, height, frameMbs, direct, crop⟩, by simp [ResolutionSyntax.bits], rfl⟩
  · rintro ⟨width, height, frameMbs, direct, crop⟩
    exact ⟨⟨width, height, frameMbs, direct, crop, ()⟩, by simp [ResolutionSyntax.bits], rfl⟩

/-- The part before the frame numbers. -/
structure ProfileSyntax where
  profileIdc : UInt8
  constraintFlags : UInt8
  levelIdc : UInt8
  seqParameterSetId : Ue
  chroma : Option ChromaSyntax
  chroma_iff : chroma.isSome = decide (hasChromaFormat profileIdc = true)

def ProfileSyntax.bits (t : ProfileSyntax) : List Bool :=
  Bits.ofByte t.profileIdc ++ Bits.ofByte t.constraintFlags ++ Bits.ofByte t.levelIdc ++
    t.seqParameterSetId.code ++ t.chroma.elim [] ChromaSyntax.bits

/-- The chroma format is 4:2:0 in the profiles that do not say. -/
def ProfileSyntax.chromaValue (t : ProfileSyntax) : Chroma :=
  (t.chroma.map ChromaSyntax.value).getD {}

theorem reads_readProfile :
    Reads readProfile ProfileSyntax.bits fun t => (t.seqParameterSetId.1, t.chromaValue) := by
  refine Reads.congr (Reads.bind reads_readUInt8 fun profileIdc =>
    reads_skipByte.bind fun _ =>
    reads_skipByte.bind fun _ =>
    reads_readExponentialGolomb.bind fun _ =>
    (reads_readChroma.optional (hasChromaFormat profileIdc = true) {}).bind fun _ =>
    reads_pure _) ?_ ?_
  · rintro ⟨profileIdc, flags, level, id, ⟨chroma, h⟩, -⟩
    exact ⟨⟨profileIdc, flags, level, id, chroma, h⟩, by simp [ProfileSyntax.bits], rfl⟩
  · rintro ⟨profileIdc, flags, level, id, chroma, h⟩
    exact ⟨⟨profileIdc, flags, level, id, ⟨chroma, h⟩, ()⟩, by simp [ProfileSyntax.bits], rfl⟩

/-- The syntax tree of an SPS up to its VUI part. -/
structure SpsSyntax where
  profile : ProfileSyntax
  log2MaxFrameNumMinus4 : Log2
  picOrderCnt : PicOrderCntSyntax
  maxNumRefFrames : Ue
  gapsInFrameNumValueAllowedFlag : Bool
  resolution : ResolutionSyntax
  vuiParametersPresentFlag : Bool

/-- The encoding. -/
def SpsSyntax.bits (t : SpsSyntax) : List Bool :=
  t.profile.bits ++ t.log2MaxFrameNumMinus4.1.code ++ t.picOrderCnt.bits ++
    t.maxNumRefFrames.code ++ [t.gapsInFrameNumValueAllowedFlag] ++ t.resolution.bits ++
    [t.vuiParametersPresentFlag]

/-- The state that the parser makes of a tree. -/
def SpsSyntax.state (t : SpsSyntax) : SpsState where
  width := t.resolution.value.width t.profile.chromaValue
  height := t.resolution.value.height t.profile.chromaValue
  deltaPicOrderAlwaysZeroFlag := t.picOrderCnt.value.deltaPicOrderAlwaysZeroFlag
  separateColourPlaneFlag := t.profile.chromaValue.separateColourPlaneFlag
  frameMbsOnlyFlag := t.resolution.value.frameMbsOnlyFlag
  log2MaxFrameNum := t.log2MaxFrameNumMinus4.1.1 + 4
  log2MaxPicOrderCntLsb := t.picOrderCnt.value.log2MaxPicOrderCntLsb
  picOrderCntType := t.picOrderCnt.value.picOrderCntType
  maxNumRefFrames := t.maxNumRefFrames.1
  vuiParamsPresent := t.vuiParametersPresentFlag.toUInt32
  id := t.profile.seqParameterSetId.1

/-- **`ParseSpsUpToVui` accepts exactly the encodings of syntax trees.** -/
theorem reads_parseSpsUpToVui : Reads parseSpsUpToVui SpsSyntax.bits SpsSyntax.state := by
  refine Reads.congr (Reads.bind reads_readProfile fun profile =>
    reads_readLog2.bind fun _ =>
    reads_readPicOrderCnt.bind fun _ =>
    reads_readExponentialGolomb.bind fun _ =>
    reads_skipFlag.bind fun _ =>
    reads_readResolution.bind fun _ =>
    reads_flag.bind fun _ =>
    reads_pure _) ?_ ?_
  · rintro ⟨profile, frameNum, poc, refFrames, gaps, resolution, vui, -⟩
    exact ⟨⟨profile, frameNum, poc, refFrames, gaps, resolution, vui⟩,
      by simp [SpsSyntax.bits], rfl⟩
  · rintro ⟨profile, frameNum, poc, refFrames, gaps, resolution, vui⟩
    exact ⟨⟨profile, frameNum, poc, refFrames, gaps, resolution, vui, ()⟩,
      by simp [SpsSyntax.bits], rfl⟩

/-! ### `ParseSps` -/

/-- The SPS behind the header of a NALU begins with the encoding of a tree. -/
def IsSps (data : List UInt8) (t : SpsSyntax) : Prop :=
  t.bits <+: Bits.ofBytes (H264.parseRbsp data)

theorem parseSps_eq {data : List UInt8} (hle : (H264.parseRbsp data).length ≤ 0xFFFFFFFF) :
    ∃ sps, parseSps data = .ok sps ∧
      ∀ s, sps = some s ↔ ∃ t : SpsSyntax, IsSps data t ∧ t.state = s := by
  have hcreate : BitBuffer.create (H264.parseRbsp data) =
      .ok ⟨H264.parseRbsp data, 0, 0, hle, by decide, Nat.zero_le _⟩ := dif_pos hle
  generalize hbuf : (⟨H264.parseRbsp data, 0, 0, hle, by decide, Nat.zero_le _⟩ : BitBuffer) = b
    at hcreate
  have hunread : b.unread = Bits.ofBytes (H264.parseRbsp data) := by
    rw [← hbuf]
    rfl
  obtain ⟨⟨sps, b'⟩, hexec⟩ := reads_parseSpsUpToVui.safe b
  refine ⟨sps, by rw [parseSps, hcreate, ok_bind, hexec]; rfl, fun s => ?_⟩
  constructor
  · rintro rfl
    obtain ⟨t, ht, hstate⟩ := (reads_parseSpsUpToVui.iff b s b').mp hexec
    exact ⟨t, ⟨b'.unread, by rw [← ht.2, hunread]⟩, hstate⟩
  · rintro ⟨t, ⟨rest, hrest⟩, rfl⟩
    obtain ⟨x, m, hx, hcons⟩ := exists_consumes (b := b) (n := t.bits.length)
      (by rw [hunread, ← hrest, List.length_append]; omega)
    obtain rfl : x = t.bits := by
      have := hcons.2
      rw [hunread, ← hrest] at this
      exact (List.append_inj this hx.symm).1.symm
    rw [(reads_parseSpsUpToVui.iff b t.state m).mpr ⟨t, hcons, rfl⟩] at hexec
    cases hexec
    rfl

/-- **`ParseSps` returns the state of the tree that the data encodes**, and nothing exactly if
there is none. -/
theorem parseSps_iff (data : List UInt8) (hlen : (H264.parseRbsp data).length ≤ 0xFFFFFFFF) :
    (∀ s, parseSps data = .ok (some s) ↔ ∃ t : SpsSyntax, IsSps data t ∧ t.state = s) ∧
      (parseSps data = .ok none ↔ ∀ t : SpsSyntax, ¬ IsSps data t) := by
  obtain ⟨sps, hparse, hsps⟩ := parseSps_eq hlen
  rw [hparse]
  constructor
  · intro s
    rw [← hsps]
    exact ⟨fun h => Except.ok.inj h, fun h => by rw [h]⟩
  · constructor
    · intro h t ht
      obtain rfl : sps = none := Except.ok.inj h
      cases (hsps t.state).mpr ⟨t, ht, rfl⟩
    · intro h
      cases sps with
      | none => rfl
      | some s =>
          obtain ⟨t, ht, -⟩ := (hsps s).mp rfl
          exact absurd ht (h t)

theorem parseSps_iff_baseline :
    (∀ s, parseSps [0x42, 0x00, 0x1E, 0xDA, 0x02, 0x80, 0xF6, 0x40] = .ok (some s) ↔
      ∃ t : SpsSyntax, IsSps [0x42, 0x00, 0x1E, 0xDA, 0x02, 0x80, 0xF6, 0x40] t ∧ t.state = s) ∧
    (parseSps [0x42, 0x00, 0x1E, 0xDA, 0x02, 0x80, 0xF6, 0x40] = .ok none ↔
      ∀ t : SpsSyntax, ¬ IsSps [0x42, 0x00, 0x1E, 0xDA, 0x02, 0x80, 0xF6, 0x40] t) :=
  parseSps_iff _ (by decide)

/-- 640x480 in the baseline profile. -/
def baseline : SpsSyntax where
  profile := ⟨0x42, 0x00, 0x1E, ⟨0, by decide⟩, none, rfl⟩
  log2MaxFrameNumMinus4 := ⟨⟨0, by decide⟩, by decide⟩
  picOrderCnt := .other ⟨2, by decide⟩ (by decide) (by decide)
  maxNumRefFrames := ⟨1, by decide⟩
  gapsInFrameNumValueAllowedFlag := false
  resolution := ⟨⟨39, by decide⟩, ⟨29, by decide⟩, ⟨true, none, rfl⟩, true, none⟩
  vuiParametersPresentFlag := false

/-- **An SPS that is written is parsed**: behind `WriteRbsp`, the encoding of a tree gives the
state of the tree. -/
theorem parseSps_writeRbsp (t : SpsSyntax) (bytes destination : List UInt8)
    (hlen : bytes.length ≤ 0xFFFFFFFF) (hbits : t.bits <+: Bits.ofBytes bytes) :
    ∃ data, H264.writeRbsp bytes destination = destination ++ data ∧ H264.NoStartCode data ∧
      parseSps data = .ok (some t.state) := by
  have hread := H264.parseRbsp_writeRbspFrom bytes
  obtain ⟨sps, hparse, hsps⟩ := @parseSps_eq (H264.writeRbspFrom 0 bytes) (by rwa [hread])
  refine ⟨_, rfl, H264.noStartCode_replicate_writeRbspFrom bytes (z := 0) (by decide), ?_⟩
  rw [hparse, (hsps t.state).mpr ⟨t, by rw [IsSps, hread]; exact hbits, rfl⟩]

theorem parseSps_writeRbsp_baseline :
    ∃ data, H264.writeRbsp [0x42, 0x00, 0x1E, 0xDA, 0x02, 0x80, 0xF6, 0x40] [0x67] =
        [0x67] ++ data ∧
      H264.NoStartCode data ∧ parseSps data = .ok (some baseline.state) :=
  parseSps_writeRbsp baseline _ _ (by decide) (by decide)

end SpsParser

end QOpenHD
