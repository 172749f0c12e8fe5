/-
QOpenHD/MavlinkTelemetry.lean

`MavlinkTelemetry` (`MavlinkTelemetry.h`, `MavlinkTelemetry.cpp`): which flight
controller there is.

The first message of another system than those of OpenHD that looks like one of a
flight controller tells its ids.  Two objects keep them: `MavlinkTelemetry`, which
commands and mission requests are addressed by, and `FCMavlinkSystem`
(`fcmavlinksystem.cpp`), which decides whose telemetry is displayed.

* **`knows_run`** — what both know after any messages;
* **`addressed_iff`** — commands and mission requests are addressed to the flight
  controller exactly if its two ids are equal: `get_fc_mav_id` exchanges them;
* **`agree_iff`** — the two objects agree exactly if the first flight controller has
  not the system id 255, which only `FCMavlinkSystem` rejects.
-/
import QOpenHD.Checked
import QOpenHD.Mavlink

namespace QOpenHD

open Checked

/-! ### The two objects -/

/-- What `MavlinkTelemetry` knows of the flight controller. -/
structure MavlinkTelemetry where
  fcFound : Bool
  fcSysId : ℤ
  fcCompId : ℤ
  deriving DecidableEq

/-- `FCMavlinkSystem`, but for what it displays. -/
structure FCMavlinkSystem where
  discovered : Bool
  sysId : ℤ
  deriving DecidableEq

namespace FCMavlinkSystem

def getFcSysId (fc : FCMavlinkSystem) : Exec (Option UInt8) :=
  if fc.discovered then do
    require (fc.sysId ≥ 0)
    pure (some (UInt8.ofInt fc.sysId))
  else pure none

/-- What is set is smaller than `UINT8_MAX`. -/
def setSystemId (fc : FCMavlinkSystem) (sysId : ℤ) : Bool × FCMavlinkSystem :=
  if sysId < 0 ∨ sysId ≥ 255 then (false, fc)
  else (true, { discovered := true, sysId := sysId })

end FCMavlinkSystem

namespace MavlinkTelemetry

/-- `MavlinkTelemetry::FCMavId`: the component comes first. -/
structure FCMavId where
  compId : ℤ
  sysId : ℤ

/-- The values in braces are for the members in their order. -/
def getFcMavId (t : MavlinkTelemetry) : FCMavId :=
  if t.fcFound then ⟨t.fcSysId, t.fcCompId⟩ else ⟨1, MAV_COMP_ID_AUTOPILOT1.toNat⟩

/-- Both objects, and the messages that were passed on to the flight controller's
telemetry. -/
structure World where
  telemetry : MavlinkTelemetry
  fc : FCMavlinkSystem
  displayed : List MavlinkMessage

def World.init : World := ⟨⟨false, -1, -1⟩, ⟨false, -1⟩, []⟩

/-- A flight controller is found. -/
def World.found (w : World) (sourceSysid sourceCompid : UInt8) : World :=
  { w with
    fc := (w.fc.setSystemId sourceSysid.toNat).2
    telemetry := {
      fcFound := true
      fcSysId := sourceSysid.toNat
      fcCompId := sourceCompid.toNat } }

/-- The beginning of `process_mavlink_message`: whose message it is. -/
def World.discover (w : World) (msg : MavlinkMessage) : World :=
  if msg.sysid = OHD_SYS_ID_AIR then w
  else if msg.sysid = OHD_SYS_ID_GROUND then w
  else if ¬ w.telemetry.fcFound then
    -- a component id of ArduPilot, a system id of Betaflight, both ids of INAV
    if msg.compid = MAV_COMP_ID_AUTOPILOT1 then w.found msg.sysid msg.compid
    else if msg.sysid = 0 then w.found msg.sysid msg.compid
    else if msg.compid = MAV_COMP_ID_SYSTEM_CONTROL ∧ msg.sysid = 1 then
      w.found msg.sysid msg.compid
    else w
  else w

/-- A message, and whether it is for somebody else: a time synchronization, or
consumed by `CmdSender` or `XParam`. -/
structure Received where
  msg : MavlinkMessage
  consumed : Bool

def processMavlinkMessage (w : World) (received : Received) : Exec World :=
  let w := w.discover received.msg
  if received.consumed then .ok w
  else if received.msg.sysid = OHD_SYS_ID_AIR then .ok w
  else if received.msg.sysid = OHD_SYS_ID_GROUND then .ok w
  else do
    match ← w.fc.getFcSysId with
    | some fcSysId =>
      if received.msg.sysid = fcSysId then
        pure { w with displayed := w.displayed ++ [received.msg] }
      else pure w
    | none => pure w

/-! ### What is found -/

/-- The message is from a flight controller. -/
def FromFc (msg : MavlinkMessage) : Prop :=
  msg.sysid ≠ OHD_SYS_ID_AIR ∧ msg.sysid ≠ OHD_SYS_ID_GROUND ∧
    (msg.compid = MAV_COMP_ID_AUTOPILOT1 ∨ msg.sysid = 0 ∨
      (msg.compid = MAV_COMP_ID_SYSTEM_CONTROL ∧ msg.sysid = 1))

instance (msg : MavlinkMessage) : Decidable (FromFc msg) := inferInstanceAs (Decidable (_ ∧ _))

theorem discover_of_found {w : World} (h : w.telemetry.fcFound = true) (msg : MavlinkMessage) :
    w.discover msg = w := by
  simp [World.discover, h]

theorem discover_of_not_found {w : World} (h : w.telemetry.fcFound = false)
    (msg : MavlinkMessage) :
    w.discover msg = if FromFc msg then w.found msg.sysid msg.compid else w := by
  simp only [World.discover, h, FromFc]
  grind

/-- The system id and the component id of the first flight controller. -/
def firstFc (messages : List Received) : Option (UInt8 × UInt8) :=
  (messages.find? fun received => FromFc received.msg).map fun received =>
    (received.msg.sysid, received.msg.compid)

/-- What both objects know after these messages. -/
structure Knows (messages : List Received) (w : World) : Prop where
  unknown : firstFc messages = none →
    w.telemetry = World.init.telemetry ∧ w.fc = World.init.fc
  known : ∀ s c, firstFc messages = some (s, c) →
    w.telemetry = ⟨true, s.toNat, c.toNat⟩ ∧ w.fc = (World.init.fc.setSystemId s.toNat).2
  displayed : ∀ msg ∈ w.displayed, ∃ c, firstFc messages = some (msg.sysid, c)

theorem firstFc_append (messages : List Received) (received : Received) :
    firstFc (messages ++ [received]) = (firstFc messages).or
      (if FromFc received.msg then some (received.msg.sysid, received.msg.compid) else none) := by
  rw [firstFc, firstFc, List.find?_append, Option.map_or]
  congr 1
  by_cases h : FromFc received.msg
  · simp [h]
  · simp [h]

theorem ofInt_toNat (s : UInt8) : UInt8.ofInt s.toNat = s := by
  apply UInt8.toNat_inj.mp
  have hlt := s.toNat_lt
  rw [UInt8.ofInt, UInt8.toNat_ofNat']
  omega

/-- The system id that `FCMavlinkSystem` has, if it was told one. -/
theorem getFcSysId_setSystemId (s : UInt8) :
    (World.init.fc.setSystemId s.toNat).2.getFcSysId = .ok (if s = 255 then none else some s) := by
  by_cases h : s = 255
  · subst h
    rfl
  · have hlt : s.toNat < 255 := by
      have hne : s.toNat ≠ 255 := fun heq => h (UInt8.toNat_inj.mp heq)
      have hle := s.toNat_lt
      omega
    rw [FCMavlinkSystem.setSystemId, if_neg (by omega), FCMavlinkSystem.getFcSysId, if_pos rfl,
      require_of (Int.natCast_nonneg _), ok_bind, if_neg h, ofInt_toNat]
    rfl

theorem Knows.getFcSysId {messages : List Received} {w : World} (h : Knows messages w) :
    w.fc.getFcSysId = .ok ((firstFc messages).bind fun id =>
      if id.1 = 255 then none else some id.1) := by
  rcases hfirst : firstFc messages with - | ⟨s, c⟩
  · rw [(h.unknown hfirst).2]
    rfl
  · rw [(h.known s c hfirst).2, getFcSysId_setSystemId]
    rfl

theorem knows_nil : Knows [] World.init := ⟨fun _ => ⟨rfl, rfl⟩, nofun, nofun⟩

/-- The beginning of a step. -/
theorem Knows.discover {messages : List Received} {w : World} (h : Knows messages w)
    (received : Received) : Knows (messages ++ [received]) (w.discover received.msg) := by
  rcases hfirst : firstFc messages with - | ⟨s, c⟩
  · obtain ⟨htelemetry, hfc⟩ := h.unknown hfirst
    -- before a flight controller is there nothing is displayed
    have hnone : ∀ msg, msg ∉ w.displayed := fun msg hmsg => by
      obtain ⟨c, hc⟩ := h.displayed msg hmsg
      rw [hfirst] at hc
      cases hc
    rw [discover_of_not_found (by rw [htelemetry]; rfl)]
    have hnext := firstFc_append messages received
    rw [hfirst, Option.none_or] at hnext
    -- this message is its first one, or from somebody else
    split_ifs at hnext ⊢ with hfrom
    · refine ⟨fun hno => ?_, fun s c hsc => ?_, fun msg hmsg => absurd hmsg (hnone msg)⟩
      · rw [hnext] at hno
        cases hno
      · obtain ⟨rfl, rfl⟩ := Prod.mk.inj (Option.some.inj (hnext.symm.trans hsc))
        exact ⟨rfl, by rw [← hfc]; rfl⟩
    · refine ⟨fun _ => ⟨htelemetry, hfc⟩, fun s c hsc => ?_,
        fun msg hmsg => absurd hmsg (hnone msg)⟩
      rw [hnext] at hsc
      cases hsc
  · have hnext := firstFc_append messages received
    rw [hfirst, Option.some_or] at hnext
    obtain ⟨htelemetry, hfc⟩ := h.known s c hfirst
    rw [discover_of_found (by rw [htelemetry])]
    refine ⟨fun hno => ?_, fun s' c' hsc => ?_, fun msg hmsg => ?_⟩
    · rw [hnext] at hno
      cases hno
    · obtain ⟨rfl, rfl⟩ := Prod.mk.inj (Option.some.inj (hnext.symm.trans hsc))
      exact ⟨htelemetry, hfc⟩
    · obtain ⟨c', hc'⟩ := h.displayed msg hmsg
      exact ⟨c', by rw [hnext, ← hfirst, hc']⟩

/-- **One message.** -/
theorem Knows.step {messages : List Received} {w : World} (h : Knows messages w)
    (received : Received) :
    ∃ w', processMavlinkMessage w received = .ok w' ∧ Knows (messages ++ [received]) w' := by
  have hdiscover := h.discover received
  unfold processMavlinkMessage
  simp only [hdiscover.getFcSysId, ok_bind]
  split_ifs
  · exact ⟨_, rfl, hdiscover⟩
  · exact ⟨_, rfl, hdiscover⟩
  · exact ⟨_, rfl, hdiscover⟩
  · rcases hfirst : firstFc (messages ++ [received]) with - | ⟨s, c⟩
    · exact ⟨_, rfl, hdiscover⟩
    · simp only [Option.bind_some]
      split_ifs with hmax
      · exact ⟨_, rfl, hdiscover⟩
      · simp only
        split_ifs with hsame
        · refine ⟨_, rfl, hdiscover.unknown, hdiscover.known, fun msg hmsg => ?_⟩
          rcases List.mem_append.mp hmsg with hold | hlast
          · exact hdiscover.displayed msg hold
          · rw [List.mem_singleton.mp hlast, hsame]
            exact ⟨c, hfirst⟩
        · exact ⟨_, rfl, hdiscover⟩

theorem knows_run (messages : List Received) :
    ∃ w, run processMavlinkMessage World.init messages = .ok w ∧ Knows messages w := by
  induction messages using List.reverseRecOn with
  | nil => exact ⟨_, rfl, knows_nil⟩
  | append_singleton messages received ih =>
      obtain ⟨w, hw, hknows⟩ := ih
      obtain ⟨w', hw', hknows'⟩ := hknows.step received
      exact ⟨w', by rw [run_append, hw, ok_bind, run_cons, hw', ok_bind, run_nil], hknows'⟩

/-! ### Addresses -/

/-- What is built for the flight controller. -/
inductive FCMessage
  | commandLong (cmd : CommandLong)
  | missionRequestList (request : MissionRequestList)
  | missionRequestInt (request : MissionRequestInt)
  deriving DecidableEq

/-- `target_system` and `target_component`. -/
def FCMessage.target : FCMessage → UInt8 × UInt8
  | .commandLong cmd => (cmd.targetSystem, cmd.targetComponent)
  | .missionRequestList request => (request.targetSystem, request.targetComponent)
  | .missionRequestInt request => (request.targetSystem, request.targetComponent)

def createRequestMissionCount (fcSysId fcCompId : UInt8) : MissionRequestList :=
  ⟨fcSysId, fcCompId, MAV_MISSION_TYPE_MISSION⟩

def createRequestMissionMsg (fcSysId fcCompId : UInt8) (sequence : ℤ) : MissionRequestInt :=
  ⟨UInt16.ofInt sequence, fcSysId, fcCompId, MAV_MISSION_TYPE_MISSION⟩

/-- What every sender does: `create(fc_id.sys_id,fc_id.comp_id)`. -/
def forFc {α : Type} (t : MavlinkTelemetry) (create : UInt8 → UInt8 → α) : α :=
  create (UInt8.ofInt t.getFcMavId.sysId) (UInt8.ofInt t.getFcMavId.compId)

/-- What QOpenHD asks of the flight controller. -/
inductive FCRequest
  | armFcAsync (arm : Bool)
  | flightModeCmdAsync (cmdMsg : ℤ)
  | sendCommandReboot (reboot : Bool)
  | sendCommandCompassCalibration
  | requestHomePositionFromFc
  | setMsgInterval (msgId intervalUs : ℤ)
  | requestMissionCount
  | requestMission (missionToRequest : ℤ)

def MAVLINK_MSG_ID_HOME_POSITION : ℤ := 242

def message (t : MavlinkTelemetry) : FCRequest → FCMessage
  | .armFcAsync arm => .commandLong (t.forFc fun s c => createCmdArm s c arm)
  | .flightModeCmdAsync cmdMsg =>
    .commandLong (t.forFc fun s c => createCmdDoSetFlightMode s c cmdMsg)
  | .sendCommandReboot reboot =>
    .commandLong (t.forFc fun s c => createCmdReboot s c reboot false)
  | .sendCommandCompassCalibration => .commandLong (t.forFc createCmdCompassCalibration)
  | .requestHomePositionFromFc =>
    .commandLong (t.forFc fun s c => createCmdRequestMessage s c MAVLINK_MSG_ID_HOME_POSITION)
  | .setMsgInterval msgId intervalUs =>
    .commandLong (t.forFc fun s c => createCmdSetMsgInterval s c msgId intervalUs)
  | .requestMissionCount => .missionRequestList (t.forFc createRequestMissionCount)
  | .requestMission missionToRequest =>
    .missionRequestInt (t.forFc fun s c => createRequestMissionMsg s c missionToRequest)

/-- Every sender addresses its message the same way. -/
theorem target_message (t : MavlinkTelemetry) (request : FCRequest) :
    (t.message request).target =
      (UInt8.ofInt t.getFcMavId.sysId, UInt8.ofInt t.getFcMavId.compId) := by
  cases request <;> rfl

/-- **What is sent to the flight controller is addressed to it exactly if its system id
and its component id are the same.** -/
theorem addressed_iff (messages : List Received) {s c : UInt8}
    (h : firstFc messages = some (s, c)) :
    ∃ w, run processMavlinkMessage World.init messages = .ok w ∧
      w.telemetry = ⟨true, s.toNat, c.toNat⟩ ∧
        ∀ request, (w.telemetry.message request).target = (s, c) ↔ s = c := by
  obtain ⟨w, hw, hknows⟩ := knows_run messages
  obtain ⟨htelemetry, -⟩ := hknows.known s c h
  refine ⟨w, hw, htelemetry, fun request => ?_⟩
  rw [target_message, htelemetry]
  show (UInt8.ofInt c.toNat, UInt8.ofInt s.toNat) = (s, c) ↔ s = c
  rw [ofInt_toNat, ofInt_toNat, Prod.mk.injEq]
  exact ⟨fun hcs => hcs.2, fun hsc => ⟨hsc.symm, hsc⟩⟩

/-- Some message of a flight controller. -/
def heartbeat (sysid compid : UInt8) : Received := ⟨⟨sysid, compid, .other⟩, false⟩

theorem addressed_default :
    ∃ w, run processMavlinkMessage World.init
        [heartbeat OHD_SYS_ID_AIR MAV_COMP_ID_ONBOARD_COMPUTER, heartbeat 1 1] = .ok w ∧
      w.telemetry = ⟨true, 1, 1⟩ ∧
        ∀ request, (w.telemetry.message request).target = (1, 1) ↔ (1 : UInt8) = 1 :=
  addressed_iff [heartbeat OHD_SYS_ID_AIR MAV_COMP_ID_ONBOARD_COMPUTER, heartbeat 1 1] (s := 1)
    (c := 1) (by decide)

/-- A flight controller with the system id 2: it is told to arm by a command for the
system 1. -/
theorem arm_misaddressed :
    firstFc [heartbeat 2 MAV_COMP_ID_AUTOPILOT1] = some (2, MAV_COMP_ID_AUTOPILOT1) ∧
      ∃ w, run processMavlinkMessage World.init [heartbeat 2 MAV_COMP_ID_AUTOPILOT1] = .ok w ∧
        (w.telemetry.message (.armFcAsync true)).target ≠ (2, MAV_COMP_ID_AUTOPILOT1) := by
  refine ⟨by decide, _, rfl, fun htarget => ?_⟩
  cases congrArg Prod.fst htarget

/-! ### Agreement -/

/-- After a message the two objects agree, and neither changes what it knew. -/
structure Agrees (w w' : World) : Prop where
  found : w'.telemetry.fcFound = true ↔ ∃ id, w'.fc.getFcSysId = .ok (some id)
  value : ∀ id, w'.fc.getFcSysId = .ok (some id) → w'.telemetry.fcSysId = id.toNat
  fixed : w.telemetry.fcFound = true → w'.telemetry = w.telemetry ∧ w'.fc = w.fc
  /-- What is displayed is of the system that commands are for. -/
  displayed : ∀ msg ∈ w'.displayed, w'.telemetry.fcSysId = msg.sysid.toNat
  /-- As long as none is known, a flight controller can be found. -/
  findable : w'.fc.getFcSysId = .ok none → ∀ msg, FromFc msg → msg.sysid ≠ 255 →
    (w'.discover msg).fc.getFcSysId = .ok (some msg.sysid)

def AgreesAfter (w : World) (received : Received) : Prop :=
  ∃ w', processMavlinkMessage w received = .ok w' ∧ Agrees w w'

/-- The system id of the first flight controller is one that both accept. -/
def Usable (messages : List Received) : Prop := ∀ s c, firstFc messages = some (s, c) → s ≠ 255

section

variable {messages : List Received} {w w' : World} {received : Received}

/-- What is displayed is of the system that is known. -/
theorem Knows.displayed_eq (h : Knows messages w) {s c : UInt8}
    (hfirst : firstFc messages = some (s, c)) :
    ∀ msg ∈ w.displayed, w.telemetry.fcSysId = msg.sysid.toNat := by
  intro msg hmsg
  obtain ⟨c', hc'⟩ := h.displayed msg hmsg
  obtain ⟨rfl, rfl⟩ := Prod.mk.inj (Option.some.inj (hfirst.symm.trans hc'))
  rw [(h.known _ _ hfirst).1]

/-- The objects keep what they know. -/
theorem Knows.fixed (h : Knows messages w) (h' : Knows (messages ++ [received]) w')
    (hfound : w.telemetry.fcFound = true) : w'.telemetry = w.telemetry ∧ w'.fc = w.fc := by
  rcases hbefore : firstFc messages with - | ⟨s, c⟩
  · rw [(h.unknown hbefore).1] at hfound
    cases hfound
  · have hfirst : firstFc (messages ++ [received]) = some (s, c) := by
      rw [firstFc_append, hbefore, Option.some_or]
    obtain ⟨htelemetry, hfc⟩ := h.known s c hbefore
    obtain ⟨htelemetry', hfc'⟩ := h'.known s c hfirst
    exact ⟨htelemetry'.trans htelemetry.symm, hfc'.trans hfc.symm⟩

/-- As long as no flight controller is there, the objects agree. -/
theorem Knows.agrees_of_unknown (h : Knows messages w) (h' : Knows (messages ++ [received]) w')
    (hfirst : firstFc (messages ++ [received]) = none) : Agrees w w' := by
  have hget := h'.getFcSysId
  rw [hfirst] at hget
  obtain ⟨htelemetry, hfc⟩ := h'.unknown hfirst
  refine ⟨?_, fun id hid => ?_, h.fixed h', fun msg hmsg => ?_, fun _ msg hfrom hmax => ?_⟩
  · rw [htelemetry, hget]
    exact ⟨nofun, nofun⟩
  · rw [hget] at hid
    cases hid
  · obtain ⟨c, hc⟩ := h'.displayed msg hmsg
    rw [hfirst] at hc
    cases hc
  · rw [discover_of_not_found (by rw [htelemetry]; rfl), if_pos hfrom]
    show (w'.fc.setSystemId msg.sysid.toNat).2.getFcSysId = _
    rw [hfc, getFcSysId_setSystemId, if_neg hmax]

/-- When the first flight controller has a system id, the objects agree exactly if it
is not 255. -/
theorem Knows.agrees_iff_of_known (h : Knows messages w) (h' : Knows (messages ++ [received]) w')
    {s c : UInt8} (hfirst : firstFc (messages ++ [received]) = some (s, c)) :
    Agrees w w' ↔ s ≠ 255 := by
  obtain ⟨htelemetry, -⟩ := h'.known s c hfirst
  have hget := h'.getFcSysId
  rw [hfirst, Option.bind_some] at hget
  constructor
  · rintro hagrees rfl
    -- it is found by one of the objects only
    obtain ⟨id, hid⟩ := hagrees.found.mp (by rw [htelemetry])
    rw [hget] at hid
    cases hid
  · intro hmax
    rw [if_neg hmax] at hget
    refine ⟨?_, fun id hid => ?_, h.fixed h', h'.displayed_eq hfirst, fun hnone => ?_⟩
    · rw [htelemetry]
      exact iff_of_true rfl ⟨s, hget⟩
    · rw [hget] at hid
      obtain rfl := Option.some.inj (Except.ok.inj hid)
      rw [htelemetry]
    · rw [hget] at hnone
      cases hnone

theorem Knows.agrees_iff (h : Knows messages w) (h' : Knows (messages ++ [received]) w') :
    Agrees w w' ↔ Usable (messages ++ [received]) := by
  rcases hfirst : firstFc (messages ++ [received]) with - | ⟨s, c⟩
  · refine iff_of_true (h.agrees_of_unknown h' hfirst) fun s c hsc => ?_
    rw [hfirst] at hsc
    cases hsc
  · rw [h.agrees_iff_of_known h' hfirst]
    constructor
    · intro hmax s' c' hsc
      obtain ⟨rfl, rfl⟩ := Prod.mk.inj (Option.some.inj (hfirst.symm.trans hsc))
      exact hmax
    · intro husable
      exact husable s c hfirst

end

/-- From some moment on. -/
theorem Knows.agree_iff_run {before : List Received} {w : World} (h : Knows before w)
    (husable : Usable before) (messages : List Received) :
    EveryStep AgreesAfter processMavlinkMessage w messages ↔ Usable (before ++ messages) := by
  induction messages generalizing before w with
  | nil => exact iff_of_true trivial (by rwa [List.append_nil])
  | cons received messages ih =>
      obtain ⟨w', hw', h'⟩ := h.step received
      have hagrees := h.agrees_iff h'
      constructor
      · rintro ⟨⟨w'', hw'', hagrees'⟩, hrest⟩
        obtain rfl := Except.ok.inj (hw'.symm.trans hw'')
        simpa using (ih h' (hagrees.mp hagrees')).mp (hrest w' hw')
      · intro hall
        rw [← List.singleton_append, ← List.append_assoc] at hall
        have hfirst : Usable (before ++ [received]) := fun s c hsc => by
          apply hall s c
          rw [firstFc] at hsc ⊢
          obtain ⟨first, hfind, heq⟩ := Option.map_eq_some_iff.mp hsc
          rw [List.find?_append, hfind, Option.some_or, Option.map_some, heq]
        refine ⟨⟨w', hw', hagrees.mpr hfirst⟩, fun w'' hw'' => ?_⟩
        obtain rfl := Except.ok.inj (hw'.symm.trans hw'')
        exact (ih h' hfirst).mpr hall

/-- **The two objects agree after every message exactly if the first flight controller
has not the system id 255**: only one of them rejects it. -/
theorem agree_iff (messages : List Received) :
    EveryStep AgreesAfter processMavlinkMessage World.init messages ↔ Usable messages :=
  knows_nil.agree_iff_run nofun messages

/-- Behind a message of the system 255 the flight controller with the ids 1 and 1 is not
found. -/
theorem blocked_by_255 :
    ¬ EveryStep AgreesAfter processMavlinkMessage World.init [heartbeat 255 1, heartbeat 1 1] := by
  rintro ⟨⟨w', hw', hagrees⟩, -⟩
  obtain rfl := Except.ok.inj hw'
  obtain ⟨id, hid⟩ := hagrees.found.mp rfl
  cases hid

end MavlinkTelemetry

end QOpenHD
