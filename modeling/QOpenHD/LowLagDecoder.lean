/-
QOpenHD/LowLagDecoder.lean

The decoder on Android (`lowlagdecoder.cpp`): NALUs come in, surfaces come and
go, and as soon as there is a surface and all parameter sets are stored, a codec
is created and configured with them.

A change of the codec of the stream restarts a decoder that is configured, and
then nothing stored is left.  While it is not configured, the flag `IS_H265`
follows the NALU and what is stored stays.

* `Inv` — what is stored, and needed by the codec of `IS_H265`, is of that
  codec; `inv_bufferNALU_iff` — a NALU keeps it exactly under `NoForeignSet`;
* **`configures_one_codec`** — a run whose NALUs all meet `NoForeignSet` never
  fails an assert, and every configuration in it is of one codec;
* `exists_wrong_configuration` — a NALU that does not meet it can be followed by a wrong
  configuration, without another change of the codec.
-/
import QOpenHD.CodecConfig

namespace QOpenHD

open Checked

/-! ### What a codec is configured with -/

/-- The keys of an `AMediaFormat` that are set. -/
structure AMediaFormat where
  mime : String
  width : Int32
  height : Int32
  csd0 : List UInt8
  csd1 : Option (List UInt8)

/-- `NALU::getDataWithoutPrefix` -/
def NALU.dataWithoutPrefix (nalu : NALU) : List UInt8 := nalu.data.drop nalu.naluPrefixSize

/-- A NALU has a header behind its prefix. -/
theorem NALU.four_lt_length (nalu : NALU) : 4 < nalu.data.length := by
  have hmin := nalu.sizeValid
  unfold getMinimumNaluSize at hmin
  split at hmin <;> omega

section Format

-- `webrtc::SpsParser::ParseSps`: width and height, if there is an SPS behind the header
variable (parseSps : List UInt8 → Option (UInt32 × UInt32))

/-- `NALU::sps_get_width_height` -/
def NALU.spsGetWidthHeight (nalu : NALU) : Exec (Int32 × Int32) := do
  require (nalu.isSPS = true)
  require (nalu.isH265 = false)
  match parseSps (nalu.dataWithoutPrefix.drop 1) with
  | some (width, height) => pure (width.toInt32, height.toInt32)
  | none => pure (640, 480)

def h264ConfigureAMediaFormat (kff : CodecConfigFinder) : Exec AMediaFormat := do
  let sps ← CodecConfigFinder.getNal kff.SPS
  let pps ← CodecConfigFinder.getNal kff.PPS
  let videoWH ← sps.spsGetWidthHeight parseSps
  pure ⟨"video/avc", videoWH.1, videoWH.2, sps.data, some pps.data⟩

/-- `CodecConfigFinder::appendNaluData`, which inserts at the beginning. -/
def appendNaluData (buff : List UInt8) (nalu : NALU) : List UInt8 := nalu.data ++ buff

def h265ConfigureAMediaFormat (kff : CodecConfigFinder) : Exec AMediaFormat := do
  let sps ← CodecConfigFinder.getNal kff.SPS
  let pps ← CodecConfigFinder.getNal kff.PPS
  let vps ← CodecConfigFinder.getNal kff.VPS
  let buff := appendNaluData (appendNaluData (appendNaluData [] vps) sps) pps
  pure ⟨"video/hevc", 1280, 720, buff, none⟩

/-- The format that `configureStartDecoder` makes. -/
def configureAMediaFormat (kff : CodecConfigFinder) (isH265 : Bool) : Exec AMediaFormat :=
  if isH265 then h265ConfigureAMediaFormat kff else h264ConfigureAMediaFormat parseSps kff

end Format

/-! ### The decoder -/

/-- A codec is known by the format it was configured with. -/
structure Decoder where
  configured : Bool
  codec : Option AMediaFormat
  /-- There is a window. -/
  window : Bool

structure LowLagDecoder where
  decoder : Decoder
  inputPipeClosed : Bool
  keyFrameFinder : CodecConfigFinder
  isH265 : Bool

namespace LowLagDecoder

def init : LowLagDecoder := ⟨⟨false, none, false⟩, true, .new, false⟩

def releaseDecoderResourcesLocked (s : LowLagDecoder) (releaseWindow : Bool) : LowLagDecoder :=
  let s := { s with inputPipeClosed := true }
  let s := if s.decoder.configured then
      { s with decoder := ⟨false, none, s.decoder.window⟩, keyFrameFinder := .new }
    else s
  let s := if releaseWindow && s.decoder.window then
      { s with decoder := { s.decoder with window := false } }
    else s
  if !releaseWindow && s.decoder.window then { s with inputPipeClosed := false } else s

/-- No surface is `nullptr`; of a surface there may be a window or not. -/
def setOutputSurface (s : LowLagDecoder) : Option Bool → LowLagDecoder
  | none => if s.decoder.window then s.releaseDecoderResourcesLocked true else s
  | some window =>
    let s := if s.decoder.window then s.releaseDecoderResourcesLocked true else s
    { s with decoder := { s.decoder with window := window }, inputPipeClosed := false }

/-- The beginning of `interpretNALU`. -/
def detectCodecChange (s : LowLagDecoder) (nalu : NALU) : LowLagDecoder :=
  let s := if s.decoder.configured && nalu.isH265 != s.isH265 then
      s.releaseDecoderResourcesLocked false
    else s
  { s with isH265 := nalu.isH265 }

/-- `interpretNALU` up to the call of `configureStartDecoder`, and whether it is called. -/
def bufferNALU (s : LowLagDecoder) (nalu : NALU) : LowLagDecoder × Bool :=
  let s := s.detectCodecChange nalu
  if nalu.data.length ≤ 4 then (s, false)
  else if s.inputPipeClosed then
    ({ s with keyFrameFinder := s.keyFrameFinder.saveIfConfig nalu }, false)
  -- the NALU goes to the codec
  else if s.decoder.configured then (s, false)
  else
    let s := { s with keyFrameFinder := s.keyFrameFinder.saveIfConfig nalu }
    (s, s.keyFrameFinder.allConfigAvailable s.isH265)

/-- Whether a codec can be created is not known. -/
def configureStartDecoder (parseSps : List UInt8 → Option (UInt32 × UInt32)) (s : LowLagDecoder)
    (creates : Bool) : Exec LowLagDecoder :=
  if creates then do
    let format ← configureAMediaFormat parseSps s.keyFrameFinder s.isH265
    pure { s with decoder := { s.decoder with codec := some format, configured := true } }
  else pure { s with decoder := { s.decoder with codec := none }, keyFrameFinder := .new }

def interpretNALU (parseSps : List UInt8 → Option (UInt32 × UInt32)) (s : LowLagDecoder)
    (nalu : NALU) (creates : Bool) : Exec LowLagDecoder :=
  if (s.bufferNALU nalu).2 then (s.bufferNALU nalu).1.configureStartDecoder parseSps creates
  else pure (s.bufferNALU nalu).1

inductive Event
  | interpretNALU (nalu : NALU) (creates : Bool)
  | setOutputSurface (surface : Option Bool)

def step (parseSps : List UInt8 → Option (UInt32 × UInt32)) (s : LowLagDecoder) :
    Event → Exec LowLagDecoder
  | .interpretNALU nalu creates => s.interpretNALU parseSps nalu creates
  | .setOutputSurface surface => pure (s.setOutputSurface surface)

/-! ### What is stored -/

/-- Every parameter set is in the place of its kind. -/
def Placed (finder : CodecConfigFinder) : Prop :=
  ∀ kind set, finder.stored kind = some set → set.parameterSet = some kind

/-- What a codec needs is of that codec, as far as it is there. -/
def OneCodec (finder : CodecConfigFinder) (isH265 : Bool) : Prop :=
  ∀ kind set, kind.Needed isH265 → finder.stored kind = some set → set.isH265 = isH265

theorem stored_new (kind : ParameterSet) : CodecConfigFinder.new.stored kind = none := by
  cases kind <;> rfl

theorem placed_new : Placed .new := by
  intro kind set h
  rw [stored_new] at h
  cases h

theorem oneCodec_new (isH265 : Bool) : OneCodec .new isH265 := by
  intro kind set _ h
  rw [stored_new] at h
  cases h

theorem Placed.saveIfConfig {finder : CodecConfigFinder} (h : Placed finder) (nalu : NALU) :
    Placed (finder.saveIfConfig nalu) := by
  intro kind set hset
  rw [CodecConfigFinder.stored_saveIfConfig] at hset
  split at hset
  · rename_i hkind
    obtain rfl := Option.some.inj hset
    exact hkind
  · exact h kind set hset

instance decidableNeeded (isH265 : Bool) : ∀ kind : ParameterSet, Decidable (kind.Needed isH265)
  | .SPS => isTrue trivial
  | .PPS => isTrue trivial
  | .VPS => inferInstanceAs (Decidable (isH265 = true))

theorem forall_parameterSet_iff {p : ParameterSet → Prop} :
    (∀ kind, p kind) ↔ p .SPS ∧ p .PPS ∧ p .VPS := by
  constructor
  · exact fun h => ⟨h .SPS, h .PPS, h .VPS⟩
  · rintro ⟨hsps, hpps, hvps⟩ kind
    cases kind with
    | SPS => exact hsps
    | PPS => exact hpps
    | VPS => exact hvps

instance decidableForallParameterSet (p : ParameterSet → Prop) [DecidablePred p] :
    Decidable (∀ kind, p kind) :=
  decidable_of_iff _ forall_parameterSet_iff.symm

/-- What is stored in the places that a NALU does not fill, and that its codec needs, is of
its codec. -/
def NoForeignSetIn (finder : CodecConfigFinder) (nalu : NALU) : Prop :=
  ∀ kind : ParameterSet, kind.Needed nalu.isH265 → nalu.parameterSet ≠ some kind →
    ∀ set ∈ finder.stored kind, set.isH265 = nalu.isH265

theorem oneCodec_saveIfConfig_iff {finder : CodecConfigFinder} {nalu : NALU} :
    OneCodec (finder.saveIfConfig nalu) nalu.isH265 ↔ NoForeignSetIn finder nalu := by
  constructor
  · intro h kind hneeded hkind set hset
    refine h kind set hneeded ?_
    rw [CodecConfigFinder.stored_saveIfConfig, if_neg hkind]
    exact hset
  · intro h kind set hneeded hset
    rw [CodecConfigFinder.stored_saveIfConfig] at hset
    split at hset
    · obtain rfl := Option.some.inj hset
      rfl
    · rename_i hkind
      exact h kind hneeded hkind set hset

theorem OneCodec.noForeignSetIn {finder : CodecConfigFinder} {nalu : NALU}
    (h : OneCodec finder nalu.isH265) : NoForeignSetIn finder nalu :=
  fun kind hneeded _ set hset => h kind set hneeded hset

/-! ### One step -/

/-- What every step keeps under the condition. -/
structure Inv (s : LowLagDecoder) : Prop where
  placed : Placed s.keyFrameFinder
  oneCodec : OneCodec s.keyFrameFinder s.isH265

theorem inv_init : Inv init := ⟨placed_new, oneCodec_new false⟩

/-- A window that is kept leaves the input pipe open. -/
theorem releaseDecoderResourcesLocked_eq (s : LowLagDecoder) (releaseWindow : Bool) :
    s.releaseDecoderResourcesLocked releaseWindow =
      { decoder := ⟨false, if s.decoder.configured then none else s.decoder.codec,
          s.decoder.window && !releaseWindow⟩
        inputPipeClosed := !(s.decoder.window && !releaseWindow)
        keyFrameFinder := if s.decoder.configured then .new else s.keyFrameFinder
        isH265 := s.isH265 } := by
  obtain ⟨⟨configured, codec, window⟩, inputPipeClosed, keyFrameFinder, isH265⟩ := s
  cases configured <;> cases window <;> cases releaseWindow <;> rfl

theorem Inv.releaseDecoderResourcesLocked {s : LowLagDecoder} (hs : Inv s) (w : Bool) :
    Inv (s.releaseDecoderResourcesLocked w) := by
  rw [releaseDecoderResourcesLocked_eq]
  rcases s.decoder.configured with - | -
  · exact ⟨hs.placed, hs.oneCodec⟩
  · exact ⟨placed_new, oneCodec_new _⟩

theorem Inv.setOutputSurface {s : LowLagDecoder} (hs : Inv s) (surface : Option Bool) :
    Inv (s.setOutputSurface surface) := by
  have hreleased : Inv (if s.decoder.window then s.releaseDecoderResourcesLocked true else s) := by
    split
    · exact hs.releaseDecoderResourcesLocked true
    · exact hs
  rcases surface with - | window
  · exact hreleased
  · exact ⟨hreleased.placed, hreleased.oneCodec⟩

theorem detectCodecChange_isH265 (s : LowLagDecoder) (nalu : NALU) :
    (s.detectCodecChange nalu).isH265 = nalu.isH265 := rfl

/-- Nothing happens while the decoder is not configured. -/
theorem detectCodecChange_of_not_configured {s : LowLagDecoder}
    (h : s.decoder.configured = false) (nalu : NALU) :
    s.detectCodecChange nalu = { s with isH265 := nalu.isH265 } := by
  rw [detectCodecChange, h, Bool.false_and, if_neg Bool.false_ne_true]

/-- A decoder that was configured has nothing of the other codec afterwards. -/
theorem Inv.detectCodecChange {s : LowLagDecoder} (hs : Inv s)
    (h : s.decoder.configured = true) (nalu : NALU) : Inv (s.detectCodecChange nalu) := by
  by_cases hcodec : nalu.isH265 = s.isH265
  · have hsame : s.detectCodecChange nalu = s := by
      rw [LowLagDecoder.detectCodecChange, hcodec, bne_self_eq_false, Bool.and_false,
        if_neg Bool.false_ne_true]
    rw [hsame]
    exact hs
  · have hchange : (s.decoder.configured && nalu.isH265 != s.isH265) = true := by
      rw [h, Bool.true_and, bne_iff_ne]
      exact hcodec
    have hfinder : (s.detectCodecChange nalu).keyFrameFinder = .new := by
      rw [LowLagDecoder.detectCodecChange, if_pos hchange, releaseDecoderResourcesLocked_eq, h]
      rfl
    constructor
    · rw [hfinder]
      exact placed_new
    · rw [hfinder]
      exact oneCodec_new _

/-- A NALU is saved, unless it goes to the codec. -/
theorem bufferNALU_eq (s : LowLagDecoder) (nalu : NALU) :
    s.bufferNALU nalu =
      if !(s.detectCodecChange nalu).inputPipeClosed &&
          (s.detectCodecChange nalu).decoder.configured then
        (s.detectCodecChange nalu, false)
      else
        ({ s.detectCodecChange nalu with
            keyFrameFinder := (s.detectCodecChange nalu).keyFrameFinder.saveIfConfig nalu },
          !(s.detectCodecChange nalu).inputPipeClosed &&
            ((s.detectCodecChange nalu).keyFrameFinder.saveIfConfig nalu).allConfigAvailable
              nalu.isH265) := by
  have hflag := detectCodecChange_isH265 s nalu
  unfold bufferNALU
  rw [if_neg (Nat.not_le.mpr nalu.four_lt_length)]
  generalize s.detectCodecChange nalu = s₁ at hflag ⊢
  obtain ⟨⟨configured, codec, window⟩, inputPipeClosed, keyFrameFinder, isH265⟩ := s₁
  obtain rfl : isH265 = nalu.isH265 := hflag
  cases inputPipeClosed <;> cases configured <;> rfl

/-- While the decoder is not configured, every NALU is saved. -/
theorem bufferNALU_of_not_configured {s : LowLagDecoder} (h : s.decoder.configured = false)
    (nalu : NALU) :
    s.bufferNALU nalu =
      ({ s with isH265 := nalu.isH265, keyFrameFinder := s.keyFrameFinder.saveIfConfig nalu },
        !s.inputPipeClosed &&
          (s.keyFrameFinder.saveIfConfig nalu).allConfigAvailable nalu.isH265) := by
  rw [bufferNALU_eq, detectCodecChange_of_not_configured h]
  simp only [h, Bool.and_false, Bool.false_eq_true, if_false]

/-- The condition: as long as the decoder is not configured, no NALU comes with a parameter set
of the other codec in a place that its codec needs and that it does not fill. -/
def NoForeignSet (s : LowLagDecoder) : Event → Prop
  | .interpretNALU nalu _ =>
    s.decoder.configured = false → NoForeignSetIn s.keyFrameFinder nalu
  | .setOutputSurface _ => True

instance decidableNoForeignSet (s : LowLagDecoder) : ∀ e, Decidable (s.NoForeignSet e)
  | .interpretNALU _ _ => inferInstanceAs (Decidable (_ → ∀ _, _ → _ → ∀ set ∈ _, _))
  | .setOutputSurface _ => isTrue trivial

/-- **Under the condition, and only under it, a NALU keeps what is stored of one codec.** -/
theorem inv_bufferNALU_iff {s : LowLagDecoder} (hs : Inv s) (nalu : NALU) (creates : Bool) :
    Inv (s.bufferNALU nalu).1 ↔ s.NoForeignSet (.interpretNALU nalu creates) := by
  rcases hconf : s.decoder.configured with - | -
  · have hiff : OneCodec (s.keyFrameFinder.saveIfConfig nalu) nalu.isH265 ↔
        NoForeignSetIn s.keyFrameFinder nalu := oneCodec_saveIfConfig_iff
    rw [bufferNALU_of_not_configured hconf]
    constructor
    · exact fun hi _ => hiff.mp hi.oneCodec
    · exact fun hP => ⟨hs.placed.saveIfConfig nalu, hiff.mpr (hP hconf)⟩
  · refine iff_of_true ?_ fun hnot => ?_
    · have hi := hs.detectCodecChange hconf nalu
      rw [bufferNALU_eq]
      split
      · exact hi
      · exact ⟨hi.placed.saveIfConfig nalu,
          oneCodec_saveIfConfig_iff.mpr (OneCodec.noForeignSetIn hi.oneCodec)⟩
    · rw [hconf] at hnot
      cases hnot

/-! ### Configuring -/

/-- Whenever `configureStartDecoder` runs, everything that it uses is there, and of the codec
of `IS_H265`. -/
def ConfiguresOneCodec (s : LowLagDecoder) : Event → Prop
  | .interpretNALU nalu _ =>
    (s.bufferNALU nalu).2 = true → ∀ kind : ParameterSet,
      kind.Needed (s.bufferNALU nalu).1.isH265 →
        ∃ set ∈ (s.bufferNALU nalu).1.keyFrameFinder.stored kind,
          set.isH265 = (s.bufferNALU nalu).1.isH265
  | .setOutputSurface _ => True

instance decidableConfiguresOneCodec (s : LowLagDecoder) :
    ∀ e, Decidable (s.ConfiguresOneCodec e)
  | .interpretNALU _ _ => inferInstanceAs (Decidable (_ → ∀ _, _ → ∃ set ∈ _, _))
  | .setOutputSurface _ => isTrue trivial

/-- Whoever configures has everything. -/
theorem allConfigAvailable_of_bufferNALU {s : LowLagDecoder} {nalu : NALU}
    (h : (s.bufferNALU nalu).2 = true) :
    (s.bufferNALU nalu).1.keyFrameFinder.allConfigAvailable
      (s.bufferNALU nalu).1.isH265 = true := by
  rw [bufferNALU_eq] at h ⊢
  split at h
  · cases h
  · rename_i hsaved
    rw [if_neg hsaved]
    exact (Bool.and_eq_true_iff.mp h).2

theorem Inv.configuresOneCodec {s : LowLagDecoder} {nalu : NALU}
    (hi : Inv (s.bufferNALU nalu).1) (creates : Bool) :
    s.ConfiguresOneCodec (.interpretNALU nalu creates) := by
  intro hcall kind hneeded
  have hall := allConfigAvailable_of_bufferNALU hcall
  obtain ⟨set, hset⟩ := Option.isSome_iff_exists.mp
    (CodecConfigFinder.allConfigAvailable_iff.mp hall kind hneeded)
  exact ⟨set, hset, hi.oneCodec kind set hneeded hset⟩

section Step

variable (parseSps : List UInt8 → Option (UInt32 × UInt32))

/-- The asserts hold for what is in the place of the SPS, if it is of H264. -/
theorem safe_spsGetWidthHeight {sps : NALU} (hset : sps.parameterSet = some .SPS)
    (hcodec : sps.isH265 = false) : Safe (sps.spsGetWidthHeight parseSps) := by
  have hsps : sps.isSPS = true := by
    unfold NALU.parameterSet at hset
    by_contra hnot
    rw [if_neg hnot] at hset
    split_ifs at hset <;> cases hset
  rw [NALU.spsGetWidthHeight, require_of hsps, ok_bind, require_of hcodec, ok_bind]
  split <;> exact safe_pure _

theorem getNal_of_stored {finder : CodecConfigFinder} {kind : ParameterSet} {set : NALU}
    (h : finder.stored kind = some set) :
    CodecConfigFinder.getNal (finder.stored kind) = .ok set := by
  rw [h]
  rfl

/-- A format can be made of parameter sets of one codec. -/
theorem safe_configureAMediaFormat {finder : CodecConfigFinder} {isH265 : Bool}
    (hplaced : Placed finder) (hcodec : OneCodec finder isH265)
    (hall : finder.allConfigAvailable isH265 = true) :
    Safe (configureAMediaFormat parseSps finder isH265) := by
  have hstored := CodecConfigFinder.allConfigAvailable_iff.mp hall
  obtain ⟨sps, hsps⟩ := Option.isSome_iff_exists.mp (hstored .SPS trivial)
  obtain ⟨pps, hpps⟩ := Option.isSome_iff_exists.mp (hstored .PPS trivial)
  have hgetSps : CodecConfigFinder.getNal finder.SPS = .ok sps := getNal_of_stored hsps
  have hgetPps : CodecConfigFinder.getNal finder.PPS = .ok pps := getNal_of_stored hpps
  rcases isH265 with - | -
  · have hsafe : Safe (sps.spsGetWidthHeight parseSps) :=
      safe_spsGetWidthHeight parseSps (hplaced .SPS sps hsps) (hcodec .SPS sps trivial hsps)
    rw [configureAMediaFormat, if_neg Bool.false_ne_true, h264ConfigureAMediaFormat, hgetSps,
      ok_bind, hgetPps, ok_bind]
    exact safe_bind_pure_iff.mpr hsafe
  · obtain ⟨vps, hvps⟩ := Option.isSome_iff_exists.mp (hstored .VPS rfl)
    have hgetVps : CodecConfigFinder.getNal finder.VPS = .ok vps := getNal_of_stored hvps
    rw [configureAMediaFormat, if_pos rfl, h265ConfigureAMediaFormat, hgetSps, ok_bind, hgetPps,
      ok_bind, hgetVps, ok_bind]
    exact safe_pure _

/-- A codec is configured with what is stored; where none can be created, the finder starts
anew. -/
theorem Inv.configureStartDecoder {s : LowLagDecoder} (hs : Inv s)
    (hall : s.keyFrameFinder.allConfigAvailable s.isH265 = true) (creates : Bool) :
    ∃ s', s.configureStartDecoder parseSps creates = .ok s' ∧ Inv s' := by
  unfold LowLagDecoder.configureStartDecoder
  rcases creates with - | -
  · exact ⟨_, rfl, placed_new, oneCodec_new _⟩
  · obtain ⟨format, hformat⟩ := safe_configureAMediaFormat parseSps hs.placed hs.oneCodec hall
    rw [if_pos rfl, hformat]
    exact ⟨_, rfl, hs.placed, hs.oneCodec⟩

/-- **A step that meets the condition** succeeds and configures with one codec. -/
theorem Inv.step {s : LowLagDecoder} {e : Event} (hs : Inv s) (hP : s.NoForeignSet e) :
    s.ConfiguresOneCodec e ∧ ∃ s', step parseSps s e = .ok s' ∧ Inv s' := by
  rcases e with ⟨nalu, creates⟩ | surface
  · have hi := (inv_bufferNALU_iff hs nalu creates).mpr hP
    refine ⟨hi.configuresOneCodec creates, ?_⟩
    show ∃ s', s.interpretNALU parseSps nalu creates = .ok s' ∧ Inv s'
    unfold interpretNALU
    split
    · rename_i hcall
      exact hi.configureStartDecoder parseSps (allConfigAvailable_of_bufferNALU hcall) creates
    · exact ⟨_, rfl, hi⟩
  · exact ⟨trivial, _, rfl, hs.setOutputSurface surface⟩

end Step

/-! ### Small parameter sets -/

/-- The header of a parameter set; there is no VPS in H264. -/
def headerOf (isH265 : Bool) : ParameterSet → UInt8
  | .SPS => if isH265 then 0x42 else 0x67
  | .PPS => if isH265 then 0x44 else 0x68
  | .VPS => if isH265 then 0x40 else 0x09

/-- A small parameter set. -/
def parameterSetOf (isH265 : Bool) (kind : ParameterSet) : NALU where
  data := [0, 0, 0, 1, headerOf isH265 kind, 1]
  isH265 := isH265
  prefixValid := rfl
  sizeValid := by
    show NALU.getMinimumNaluSize isH265 ≤ 6
    cases isH265 <;> decide

theorem parameterSet_parameterSetOf {isH265 : Bool} {kind : ParameterSet}
    (h : kind.Needed isH265) : (parameterSetOf isH265 kind).parameterSet = some kind := by
  cases kind with
  | SPS => cases isH265 <;> decide
  | PPS => cases isH265 <;> decide
  | VPS =>
      obtain rfl : isH265 = true := h
      decide

/-! ### Runs -/

/-- **A run that meets the condition never fails an assert, and whenever it configures a codec
all parameter sets are of the codec that `IS_H265` names.** -/
theorem configures_one_codec (parseSps : List UInt8 → Option (UInt32 × UInt32))
    (es : List Event) (hP : EveryStep NoForeignSet (step parseSps) init es) :
    Safe (run (step parseSps) init es) ∧
      EveryStep ConfiguresOneCodec (step parseSps) init es :=
  run_safe_of_everyStep (fun _ _ hs h => hs.step parseSps h) inv_init hP

/-- A decoder with a surface gets the parameter sets of H264, and then, configured, those of
H265. -/
theorem configures_example :
    EveryStep ConfiguresOneCodec (step fun _ => none) init
      ([.setOutputSurface (some true)] ++
        [parameterSetOf false .SPS, parameterSetOf false .PPS, parameterSetOf true .VPS,
          parameterSetOf true .SPS, parameterSetOf true .PPS].map (.interpretNALU · true)) := by
  refine (configures_one_codec _ _ ?_).2
  decide

/-- SPS and PPS of H265 are stored when the PPS of H264 comes: that makes two for H264. -/
theorem not_configures_one_codec :
    ¬ ∀ es : List Event, EveryStep ConfiguresOneCodec (step fun _ => none) init es := by
  intro h
  have hcall := h ([.setOutputSurface (some true)] ++
    [parameterSetOf true .SPS, parameterSetOf true .PPS, parameterSetOf false .PPS].map
      (.interpretNALU · true))
  revert hcall
  decide

/-! ### The condition cannot be weaker -/

/-- The decoder is not configured, and `kind`, which the codec needs, is there of the other
codec. -/
structure Foreign (s : LowLagDecoder) (isH265 : Bool) (kind : ParameterSet) : Prop where
  notConfigured : s.decoder.configured = false
  needed : kind.Needed isH265
  stored : ∃ set ∈ s.keyFrameFinder.stored kind, set.isH265 ≠ isH265

/-- A NALU that does not replace it is saved, and either the decoder is configured with it, or
all is as before. -/
theorem Foreign.interpretNALU {s : LowLagDecoder} {nalu : NALU} {kind : ParameterSet}
    (hs : Foreign s nalu.isH265 kind) (hkind : nalu.parameterSet ≠ some kind) (creates : Bool)
    (hone : s.ConfiguresOneCodec (.interpretNALU nalu creates)) :
    ∃ s', (∀ parseSps, step parseSps s (.interpretNALU nalu creates) = .ok s') ∧
      Foreign s' nalu.isH265 kind ∧ s'.inputPipeClosed = s.inputPipeClosed ∧
      s'.keyFrameFinder = s.keyFrameFinder.saveIfConfig nalu ∧
      (s.inputPipeClosed = false → ¬ s'.keyFrameFinder.allConfigAvailable nalu.isH265 = true) := by
  obtain ⟨hconf, hneeded, set, hset, hcodec⟩ := hs
  have hbuffer := bufferNALU_of_not_configured hconf nalu
  have hstored : (s.keyFrameFinder.saveIfConfig nalu).stored kind = some set := by
    rw [CodecConfigFinder.stored_saveIfConfig, if_neg hkind]
    exact hset
  have hcall : (s.bufferNALU nalu).2 = false := by
    refine Bool.eq_false_iff.mpr fun hcall => ?_
    obtain ⟨set', hset', hcodec'⟩ := hone hcall kind (by rw [hbuffer]; exact hneeded)
    rw [hbuffer] at hset' hcodec'
    obtain rfl := Option.some.inj (hstored.symm.trans hset')
    exact hcodec hcodec'
  refine ⟨(s.bufferNALU nalu).1, fun parseSps => ?_, ?_⟩
  · show s.interpretNALU parseSps nalu creates = _
    rw [LowLagDecoder.interpretNALU, hcall, if_neg Bool.false_ne_true]
    rfl
  · rw [hbuffer] at hcall ⊢
    refine ⟨⟨hconf, hneeded, set, hstored, hcodec⟩, rfl, rfl, fun hopen hall => ?_⟩
    simp only [hopen, Bool.not_false, Bool.true_and] at hcall
    rw [hall] at hcall
    cases hcall

/-- A surface opens the input pipe. -/
theorem Foreign.setOutputSurface {s : LowLagDecoder} {isH265 : Bool} {kind : ParameterSet}
    (hs : Foreign s isH265 kind) (window : Bool) :
    Foreign (s.setOutputSurface (some window)) isH265 kind ∧
      (s.setOutputSurface (some window)).inputPipeClosed = false := by
  have hreleased : Foreign (if s.decoder.window then s.releaseDecoderResourcesLocked true else s)
      isH265 kind := by
    split
    · rw [releaseDecoderResourcesLocked_eq, hs.notConfigured]
      exact ⟨rfl, hs.needed, hs.stored⟩
    · exact hs
  exact ⟨⟨hreleased.notConfigured, hreleased.needed, hreleased.stored⟩, rfl⟩

/-- As long as every configuration is of one codec, the NALUs that come do not complete what is
needed. -/
theorem Foreign.not_allConfigAvailable (parseSps : List UInt8 → Option (UInt32 × UInt32))
    {isH265 : Bool} {kind : ParameterSet} {sets : List NALU} {s : LowLagDecoder}
    (hs : Foreign s isH265 kind) (hopen : s.inputPipeClosed = false)
    (hsets : ∀ set ∈ sets, set.isH265 = isH265 ∧ set.parameterSet ≠ some kind) (hne : sets ≠ [])
    (hone : EveryStep ConfiguresOneCodec (step parseSps) s (sets.map (.interpretNALU · true))) :
    ¬ (sets.foldl CodecConfigFinder.saveIfConfig s.keyFrameFinder).allConfigAvailable isH265 =
      true := by
  induction sets generalizing s with
  | nil => exact absurd rfl hne
  | cons nalu sets ih =>
      obtain ⟨hstep, hrest⟩ := hone
      obtain ⟨rfl, hkind⟩ := hsets nalu List.mem_cons_self
      obtain ⟨s', hs', hforeign, hopen', hfinder, hnot⟩ := hs.interpretNALU hkind true hstep
      rw [List.foldl_cons, ← hfinder]
      rcases sets with - | ⟨next, sets⟩
      · exact hnot hopen
      · exact ih hforeign (hopen'.trans hopen)
          (fun set hset => hsets set (List.mem_cons_of_mem nalu hset)) (List.cons_ne_nil next sets)
          (hrest s' (hs' parseSps))

/-- What is saved is there in the end. -/
theorem isSome_stored_foldl {sets : List NALU} {finder : CodecConfigFinder} {kind : ParameterSet}
    (h : (finder.stored kind).isSome ∨ ∃ set ∈ sets, set.parameterSet = some kind) :
    ((sets.foldl CodecConfigFinder.saveIfConfig finder).stored kind).isSome := by
  induction sets generalizing finder with
  | nil =>
      obtain h | ⟨set, hset, -⟩ := h
      · exact h
      · exact absurd hset List.not_mem_nil
  | cons nalu sets ih =>
      refine ih ?_
      rw [CodecConfigFinder.stored_saveIfConfig]
      obtain h | ⟨set, hset, hkind⟩ := h
      · refine Or.inl ?_
        split
        · exact Option.isSome_some
        · exact h
      · obtain rfl | hset := List.mem_cons.mp hset
        · exact Or.inl (by rw [if_pos hkind]; exact Option.isSome_some)
        · exact Or.inr ⟨set, hset, hkind⟩

/-- No change of the codec. -/
def Event.IsOf (isH265 : Bool) : Event → Prop
  | .interpretNALU nalu _ => nalu.isH265 = isH265
  | .setOutputSurface _ => True

/-- The kinds that a codec needs besides `kind`. -/
def othersNeeded (isH265 : Bool) (kind : ParameterSet) : List ParameterSet :=
  (if isH265 then [.SPS, .PPS, .VPS] else [.SPS, .PPS]).filter (· ≠ kind)

theorem mem_othersNeeded_iff {isH265 : Bool} {kind other : ParameterSet} :
    other ∈ othersNeeded isH265 kind ↔ other.Needed isH265 ∧ other ≠ kind := by
  unfold othersNeeded
  cases isH265 <;> cases other <;> simp [ParameterSet.Needed]

theorem othersNeeded_ne_nil (isH265 : Bool) (kind : ParameterSet) :
    othersNeeded isH265 kind ≠ [] := by
  cases isH265 <;> cases kind <;> decide

/-- **After a NALU that does not meet the condition, some NALUs of the same codec lead to a
wrong configuration**, at the latest when there is a surface. -/
theorem exists_wrong_configuration (parseSps : List UInt8 → Option (UInt32 × UInt32))
    {s : LowLagDecoder} {nalu : NALU} {creates : Bool}
    (hP : ¬ s.NoForeignSet (.interpretNALU nalu creates)) :
    ∃ es : List Event, (∀ e ∈ es, e.IsOf nalu.isH265) ∧
      ¬ EveryStep ConfiguresOneCodec (step parseSps) s (.interpretNALU nalu creates :: es) := by
  have hforeign : ∃ kind, Foreign s nalu.isH265 kind ∧ nalu.parameterSet ≠ some kind := by
    by_contra hnone
    refine hP fun hconf kind hneeded hkind set hset => ?_
    by_contra hcodec
    exact hnone ⟨kind, ⟨hconf, hneeded, set, hset, hcodec⟩, hkind⟩
  obtain ⟨kind, hs, hkind⟩ := hforeign
  let sets := (othersNeeded nalu.isH265 kind).map (parameterSetOf nalu.isH265)
  have hsets : ∀ set ∈ sets, set.isH265 = nalu.isH265 ∧ set.parameterSet ≠ some kind := by
    intro set hset
    obtain ⟨other, hother, rfl⟩ := List.mem_map.mp hset
    obtain ⟨hneeded, hne⟩ := mem_othersNeeded_iff.mp hother
    refine ⟨rfl, ?_⟩
    rw [parameterSet_parameterSetOf hneeded]
    exact fun h => hne (Option.some.inj h)
  have hne : sets ≠ [] :=
    fun h => othersNeeded_ne_nil nalu.isH265 kind (List.map_eq_nil_iff.mp h)
  refine ⟨.setOutputSurface (some true) :: sets.map (.interpretNALU · true), ?_, ?_⟩
  · intro e he
    obtain rfl | he := List.mem_cons.mp he
    · trivial
    · obtain ⟨set, hset, rfl⟩ := List.mem_map.mp he
      exact (hsets set hset).1
  · rintro ⟨hone, hrest⟩
    obtain ⟨s₁, h₁, hs₁, -, -, -⟩ := hs.interpretNALU hkind creates hone
    obtain ⟨-, hrest⟩ := hrest s₁ (h₁ parseSps)
    obtain ⟨hs₂, hopen⟩ := hs₁.setOutputSurface true
    have hnot := hs₂.not_allConfigAvailable parseSps hopen hsets hne (hrest _ rfl)
    refine hnot (CodecConfigFinder.allConfigAvailable_iff.mpr fun other hneeded => ?_)
    by_cases hother : other = kind
    · subst hother
      obtain ⟨-, -, set, hset, -⟩ := hs₂
      exact isSome_stored_foldl (Or.inl (Option.isSome_of_mem hset))
    · exact isSome_stored_foldl (Or.inr ⟨parameterSetOf nalu.isH265 other,
        List.mem_map_of_mem (mem_othersNeeded_iff.mpr ⟨hneeded, hother⟩),
        parameterSet_parameterSetOf hneeded⟩)

end LowLagDecoder

end QOpenHD
