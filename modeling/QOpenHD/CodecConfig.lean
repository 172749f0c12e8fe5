/-
QOpenHD/CodecConfig.lean

What a NALU is for (`NALUnitType.hpp` and the predicates of `NALU.hpp`), and
`CodecConfigFinder`, which keeps the parameter sets of a stream.

The source asks for SPS, PPS and VPS one after another.  They are the three
kinds of parameter sets, and a NALU is of one kind at most (`parameterSet`); the
finder has one place for each kind (`stored`).  What its functions do is then
said for all kinds at once, in `stored_saveIfConfig`,
`allConfigAvailable_iff` and `checkIsStillSameConfigData_some`.
-/
import QOpenHD.Nalu

namespace QOpenHD

open Checked

/-! ### Unit types -/

namespace NALUnitType.H264

def NAL_UNIT_TYPE_SEI : UInt8 := 6
def NAL_UNIT_TYPE_SPS : UInt8 := 7
def NAL_UNIT_TYPE_PPS : UInt8 := 8
def NAL_UNIT_TYPE_AUD : UInt8 := 9
def NAL_UNIT_TYPE_DPS : UInt8 := 16

end NALUnitType.H264

namespace NALUnitType.H265

def NAL_UNIT_VPS : UInt8 := 32
def NAL_UNIT_SPS : UInt8 := 33
def NAL_UNIT_PPS : UInt8 := 34
def NAL_UNIT_ACCESS_UNIT_DELIMITER : UInt8 := 35
def NAL_UNIT_PREFIX_SEI : UInt8 := 39
def NAL_UNIT_SUFFIX_SEI : UInt8 := 40

end NALUnitType.H265

namespace NALU

open NALUnitType

/-- `NALU::get_nalu_prefix_size` -/
def naluPrefixSize (nalu : NALU) : ℕ := if hasValidPrefixLong nalu.data then 4 else 3

/-- There is a byte behind the prefix. -/
theorem naluPrefixSize_lt (nalu : NALU) : nalu.naluPrefixSize < nalu.data.length := by
  have hmin : 5 ≤ getMinimumNaluSize nalu.isH265 := by
    unfold getMinimumNaluSize
    split <;> omega
  have hsize := nalu.sizeValid
  unfold naluPrefixSize
  split <;> omega

/-- `NALU::get_nal_unit_type` -/
def nalUnitType (nalu : NALU) : UInt8 :=
  let b := nalu.data.get ⟨nalu.naluPrefixSize, nalu.naluPrefixSize_lt⟩
  if nalu.isH265 then (b &&& (0x7E : UInt8)) >>> 1 else b &&& (0x1f : UInt8)

def isSPS (nalu : NALU) : Bool :=
  if nalu.isH265 then nalu.nalUnitType == H265.NAL_UNIT_SPS
  else nalu.nalUnitType == H264.NAL_UNIT_TYPE_SPS

def isPPS (nalu : NALU) : Bool :=
  if nalu.isH265 then nalu.nalUnitType == H265.NAL_UNIT_PPS
  else nalu.nalUnitType == H264.NAL_UNIT_TYPE_PPS

/-- To be asked of H265 NALUs only. -/
def isVPS (nalu : NALU) : Bool := nalu.nalUnitType == H265.NAL_UNIT_VPS

def isAud (nalu : NALU) : Bool :=
  if nalu.isH265 then nalu.nalUnitType == H265.NAL_UNIT_ACCESS_UNIT_DELIMITER
  else nalu.nalUnitType == H264.NAL_UNIT_TYPE_AUD

def isSei (nalu : NALU) : Bool :=
  if nalu.isH265 then
    nalu.nalUnitType == H265.NAL_UNIT_PREFIX_SEI || nalu.nalUnitType == H265.NAL_UNIT_SUFFIX_SEI
  else nalu.nalUnitType == H264.NAL_UNIT_TYPE_SEI

/-- There are none in H265. -/
def isDps (nalu : NALU) : Bool :=
  if nalu.isH265 then false else nalu.nalUnitType == H264.NAL_UNIT_TYPE_DPS

def isConfig (nalu : NALU) : Bool := nalu.isSPS || nalu.isPPS || (nalu.isH265 && nalu.isVPS)

/-- What is left when everything is dropped that decoding frames does not
need. -/
def isFrame (nalu : NALU) : Bool :=
  !nalu.isConfig && !nalu.isAud && !nalu.isSei && !nalu.isDps

end NALU

/-! ### Parameter sets -/

/-- The kinds of parameter sets. -/
inductive ParameterSet
  | SPS
  | PPS
  | VPS
  deriving DecidableEq

/-- The kind of a NALU, in the order in which the source asks for it. -/
def NALU.parameterSet (nalu : NALU) : Option ParameterSet :=
  if nalu.isSPS then some .SPS
  else if nalu.isPPS then some .PPS
  else if nalu.isH265 && nalu.isVPS then some .VPS
  else none

theorem NALU.isConfig_eq_isSome (nalu : NALU) : nalu.isConfig = nalu.parameterSet.isSome := by
  unfold isConfig parameterSet
  cases nalu.isSPS <;> cases nalu.isPPS <;> cases nalu.isH265 && nalu.isVPS <;> rfl

theorem NALU.isFrame_of_parameterSet {nalu : NALU} {kind : ParameterSet}
    (h : nalu.parameterSet = some kind) : nalu.isFrame = false := by
  have hconfig : nalu.isConfig = true := by rw [isConfig_eq_isSome, h, Option.isSome_some]
  simp [isFrame, hconfig]

/-- What a decoder needs. -/
def ParameterSet.Needed (isH265 : Bool) : ParameterSet → Prop
  | .SPS => True
  | .PPS => True
  | .VPS => isH265 = true

/-- H264 has no VPS. -/
theorem NALU.needed_of_parameterSet {nalu : NALU} {kind : ParameterSet}
    (h : nalu.parameterSet = some kind) : kind.Needed nalu.isH265 := by
  cases kind with
  | SPS => trivial
  | PPS => trivial
  | VPS =>
      show nalu.isH265 = true
      unfold parameterSet at h
      split at h
      · cases h
      split at h
      · cases h
      split at h
      · rename_i hvps
        exact (Bool.and_eq_true_iff.mp hvps).1
      · cases h

/-! ### The finder -/

structure CodecConfigFinder where
  SPS : Option NALU
  PPS : Option NALU
  /-- VPS are only used in H265. -/
  VPS : Option NALU

namespace CodecConfigFinder

def new : CodecConfigFinder := ⟨none, none, none⟩

def saveIfConfig (finder : CodecConfigFinder) (nalu : NALU) : CodecConfigFinder :=
  if nalu.isSPS then { finder with SPS := some nalu }
  else if nalu.isPPS then { finder with PPS := some nalu }
  else if nalu.isH265 && nalu.isVPS then { finder with VPS := some nalu }
  else finder

def allConfigAvailable (finder : CodecConfigFinder) (isH265 : Bool) : Bool :=
  if isH265 then finder.SPS.isSome && finder.PPS.isSome && finder.VPS.isSome
  else finder.SPS.isSome && finder.PPS.isSome

/-- `get_nal()` of a pointer. -/
def getNal : Option NALU → Exec NALU
  | some nalu => .ok nalu
  | none => .error .outOfBounds

/-- What the decoder is told: the VPS comes before SPS and PPS. -/
def getConfigData (finder : CodecConfigFinder) (isH265 : Bool) : Exec (List UInt8) := do
  require (finder.allConfigAvailable isH265 = true)
  let sps ← getNal finder.SPS
  let pps ← getNal finder.PPS
  if isH265 then
    let vps ← getNal finder.VPS
    pure (vps.data ++ sps.data ++ pps.data)
  else pure (sps.data ++ pps.data)

/-- Compare a NALU with the one behind a pointer. -/
def compare (nalu : NALU) (pointer : Option NALU) : Exec Bool := do
  let other ← getNal pointer
  pure (nalu.data == other.data)

def checkIsStillSameConfigData (finder : CodecConfigFinder) (nalu : NALU) : Exec Bool := do
  require (finder.allConfigAvailable nalu.isH265 = true)
  if nalu.isSPS then compare nalu finder.SPS
  else if nalu.isPPS then compare nalu finder.PPS
  else if nalu.isH265 && nalu.isVPS then compare nalu finder.VPS
  else pure true

/-- The place of a kind. -/
def stored (finder : CodecConfigFinder) : ParameterSet → Option NALU
  | .SPS => finder.SPS
  | .PPS => finder.PPS
  | .VPS => finder.VPS

/-- Saving fills the place of the NALU's kind. -/
theorem stored_saveIfConfig (finder : CodecConfigFinder) (nalu : NALU) (kind : ParameterSet) :
    (finder.saveIfConfig nalu).stored kind =
      if nalu.parameterSet = some kind then some nalu else finder.stored kind := by
  unfold saveIfConfig NALU.parameterSet
  cases nalu.isSPS <;> cases nalu.isPPS <;> cases nalu.isH265 && nalu.isVPS <;>
    cases kind <;> rfl

/-- All that is needed is there. -/
theorem allConfigAvailable_iff {finder : CodecConfigFinder} {isH265 : Bool} :
    finder.allConfigAvailable isH265 = true ↔
      ∀ kind : ParameterSet, kind.Needed isH265 → (finder.stored kind).isSome := by
  constructor
  · intro h kind hneeded
    cases kind with
    | SPS => cases isH265 <;> simp_all [allConfigAvailable, stored]
    | PPS => cases isH265 <;> simp_all [allConfigAvailable, stored]
    | VPS =>
        obtain rfl : isH265 = true := hneeded
        simp_all [allConfigAvailable, stored]
  · intro h
    have hsps : finder.SPS.isSome := h .SPS trivial
    have hpps : finder.PPS.isSome := h .PPS trivial
    cases isH265 with
    | false => simp [allConfigAvailable, hsps, hpps]
    | true =>
        have hvps : finder.VPS.isSome := h .VPS rfl
        simp [allConfigAvailable, hsps, hpps, hvps]

/-- The decoder can be told as soon as all that is needed is there. -/
theorem safe_getConfigData_iff {finder : CodecConfigFinder} {isH265 : Bool} :
    Safe (finder.getConfigData isH265) ↔ finder.allConfigAvailable isH265 = true := by
  constructor
  · rintro ⟨data, h⟩
    obtain ⟨_, hreq, -⟩ := bind_eq_ok_iff.mp h
    exact require_eq_ok_iff.mp hreq
  · intro hall
    have hstored := allConfigAvailable_iff.mp hall
    obtain ⟨sps, hsps⟩ := Option.isSome_iff_exists.mp (hstored .SPS trivial)
    obtain ⟨pps, hpps⟩ := Option.isSome_iff_exists.mp (hstored .PPS trivial)
    simp only [stored] at hsps hpps
    cases isH265 with
    | false => simp [getConfigData, require_of hall, hsps, hpps, getNal]
    | true =>
        obtain ⟨vps, hvps⟩ := Option.isSome_iff_exists.mp (hstored .VPS rfl)
        simp only [stored] at hvps
        simp [getConfigData, require_of hall, hsps, hpps, hvps, getNal]

/-- Anything that is no parameter set is the same. -/
theorem checkIsStillSameConfigData_none {finder : CodecConfigFinder} {nalu : NALU}
    (hall : finder.allConfigAvailable nalu.isH265 = true) (hset : nalu.parameterSet = none) :
    finder.checkIsStillSameConfigData nalu = .ok true := by
  unfold NALU.parameterSet at hset
  unfold checkIsStillSameConfigData
  rw [require_of hall, ok_bind]
  split_ifs at hset ⊢
  rfl

/-- A parameter set is compared with the one of its kind. -/
theorem checkIsStillSameConfigData_some {finder : CodecConfigFinder} {nalu : NALU}
    {kind : ParameterSet} (hall : finder.allConfigAvailable nalu.isH265 = true)
    (hset : nalu.parameterSet = some kind) :
    ∃ other, finder.stored kind = some other ∧
      finder.checkIsStillSameConfigData nalu = .ok (nalu.data == other.data) := by
  obtain ⟨other, hother⟩ := Option.isSome_iff_exists.mp
    (allConfigAvailable_iff.mp hall kind (NALU.needed_of_parameterSet hset))
  refine ⟨other, hother, ?_⟩
  have hcompare : finder.checkIsStillSameConfigData nalu = compare nalu (finder.stored kind) := by
    unfold NALU.parameterSet at hset
    unfold checkIsStillSameConfigData
    rw [require_of hall, ok_bind]
    split_ifs at hset ⊢ <;> (obtain rfl := Option.some.inj hset; rfl)
  rw [hcompare, hother]
  rfl

end CodecConfigFinder

end QOpenHD
