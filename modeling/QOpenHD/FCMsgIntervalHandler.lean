/-
QOpenHD/FCMsgIntervalHandler.lean

Setting the message intervals of the flight controller
(`fcmsgintervalhandler.h`, `fcmsgintervalhandler.cpp`): one command after the
other, each when the one before it was accepted.

The system is the handler together with its commands that are not answered yet,
and those sent since the last restart.  A restart does not take back the command
that is on its way.  Its result is taken for one of the new round.

* `Phase` — what the handler waits for, as long as there is one command at most;
* **`one_outstanding_and_complete_iff`** — after every step of a run there is at most
  one command without a result, and "all set" is said only when every interval
  was sent since the last restart, and accepted, exactly if no command is
  enqueued while one from before the last restart is without a result.
-/
import QOpenHD.CmdSender
import QOpenHD.MavlinkTelemetry

namespace QOpenHD

open Checked

/-! ### The intervals -/

def MAVLINK_MSG_ID_SYS_STATUS : ℤ := 1
def MAVLINK_MSG_ID_SYSTEM_TIME : ℤ := 2
def MAVLINK_MSG_ID_GPS_RAW_INT : ℤ := 24
def MAVLINK_MSG_ID_SCALED_PRESSURE : ℤ := 29
def MAVLINK_MSG_ID_ATTITUDE : ℤ := 30
def MAVLINK_MSG_ID_GLOBAL_POSITION_INT : ℤ := 33
def MAVLINK_MSG_ID_MISSION_CURRENT : ℤ := 42
def MAVLINK_MSG_ID_RC_CHANNELS : ℤ := 65
def MAVLINK_MSG_ID_VFR_HUD : ℤ := 74
def MAVLINK_MSG_ID_BATTERY_STATUS : ℤ := 147
def MAVLINK_MSG_ID_WIND : ℤ := 168
def MAVLINK_MSG_ID_AOA_SSA : ℤ := 11020

/-- The three settings that `opt_send_messages` reads. -/
structure RateSettings where
  setMavlinkMessageRates : Bool
  highSpeed : Bool
  highSpeedRcChannels : Bool

/-- What they are before the user changes them. -/
def RateSettings.default : RateSettings := ⟨true, false, false⟩

/-- A message added to the HUD. -/
inductive HudMessage
  | info (text : String)
  | warning (text : String)
  deriving DecidableEq

namespace FCMsgIntervalHandler

/-- Which message, and how many times a second. -/
structure MessageInterval where
  msgId : ℤ
  intervalHz : ℤ
  deriving DecidableEq

/-- `m_intervals` -/
def intervals : List MessageInterval :=
  [⟨MAVLINK_MSG_ID_SYS_STATUS, 2⟩, ⟨MAVLINK_MSG_ID_SYSTEM_TIME, 1⟩,
    ⟨MAVLINK_MSG_ID_GPS_RAW_INT, 1⟩, ⟨MAVLINK_MSG_ID_ATTITUDE, 30⟩,
    ⟨MAVLINK_MSG_ID_GLOBAL_POSITION_INT, 2⟩, ⟨MAVLINK_MSG_ID_RC_CHANNELS, 2⟩,
    ⟨MAVLINK_MSG_ID_VFR_HUD, 2⟩, ⟨MAVLINK_MSG_ID_BATTERY_STATUS, 1⟩,
    ⟨MavlinkTelemetry.MAVLINK_MSG_ID_HOME_POSITION, 1⟩, ⟨MAVLINK_MSG_ID_WIND, 1⟩,
    ⟨MAVLINK_MSG_ID_AOA_SSA, 1⟩, ⟨MAVLINK_MSG_ID_SCALED_PRESSURE, 1⟩,
    ⟨MAVLINK_MSG_ID_MISSION_CURRENT, 1⟩]

/-- `interval_us`, for the rate that the settings ask for. -/
def intervalUs (settings : RateSettings) (interval : MessageInterval) : ℤ :=
  let hz := if settings.highSpeedRcChannels && interval.msgId == MAVLINK_MSG_ID_RC_CHANNELS then 15
    else interval.intervalHz
  let hz := if settings.highSpeed then hz * 2 else hz
  1000 * 1000 / hz

/-- "FC message interval(s) set" -/
def intervalsSet : HudMessage := .info "FC message interval(s) set"

/-- "Cannot set FC message interval(s)" -/
def cannotSetIntervals : HudMessage := .warning "Cannot set FC message interval(s)"

end FCMsgIntervalHandler

/-! ### The handler -/

structure FCMsgIntervalHandler where
  readyForNextCommand : Bool
  nextRateIndex : ℕ

namespace FCMsgIntervalHandler

def new : FCMsgIntervalHandler := ⟨true, 0⟩

/-- What a call of `opt_send_messages` does besides. -/
inductive Action
  | nothing
  | enqueued (interval : MessageInterval) (command : CommandLong)
  | report (message : HudMessage)

/-- Whether there is room for a command in the queue is for `CmdSender` to say. -/
def optSendMessages (s : FCMsgIntervalHandler) (settings : RateSettings)
    (telemetry : MavlinkTelemetry) (enqueueSuccess : Bool) : FCMsgIntervalHandler × Action :=
  if !settings.setMavlinkMessageRates then (s, .nothing)
  else if s.readyForNextCommand then
    match intervals[s.nextRateIndex]? with
    | some interval =>
      let command := telemetry.forFc fun sysId compId =>
        createCmdSetMsgInterval sysId compId interval.msgId (intervalUs settings interval)
      if enqueueSuccess then (⟨false, s.nextRateIndex + 1⟩, .enqueued interval command)
      else (s, .nothing)
    | none => (⟨false, s.nextRateIndex⟩, .report intervalsSet)
  else (s, .nothing)

def MAV_RESULT_ACCEPTED : UInt8 := 0

/-- `is_accepted` -/
def isAccepted (result : RunCommandResult) : Bool :=
  match result.optAck with
  | some ack => ack.result == MAV_RESULT_ACCEPTED
  | none => false

/-- The callback, and the warning it adds. -/
def resultCb (s : FCMsgIntervalHandler) (result : RunCommandResult) :
    FCMsgIntervalHandler × List HudMessage :=
  if isAccepted result then (⟨true, s.nextRateIndex⟩, [])
  else (⟨false, s.nextRateIndex⟩, [cannotSetIntervals])

def restart (_ : FCMsgIntervalHandler) : FCMsgIntervalHandler := ⟨true, 0⟩

/-! ### The system -/

/-- A command that was enqueued, the number of the call, and the element it was made for. -/
structure SetRate where
  id : ℕ
  interval : MessageInterval
  command : CommandLong

/-- The handler; how many commands were enqueued, and which of them are without a result; those
enqueued since the last restart; the numbers of those that were accepted; and the messages that
the last step added. -/
structure World where
  handler : FCMsgIntervalHandler
  calls : ℕ
  outstanding : List SetRate
  round : List SetRate
  accepted : List ℕ
  messages : List HudMessage

def World.init : World := ⟨new, 0, [], [], [], []⟩

inductive Event
  | optSendMessages (settings : RateSettings) (telemetry : MavlinkTelemetry)
    (enqueueSuccess : Bool)
  | restart
  /-- `CmdSender` has the result of a command. -/
  | result (id : ℕ) (result : RunCommandResult)

def step (w : World) : Event → Exec World
  | .optSendMessages settings telemetry enqueueSuccess =>
    match w.handler.optSendMessages settings telemetry enqueueSuccess with
    | (handler, .nothing) => pure { w with handler := handler, messages := [] }
    | (handler, .enqueued interval command) =>
      pure
        { handler := handler
          calls := w.calls + 1
          outstanding := w.outstanding ++ [⟨w.calls, interval, command⟩]
          round := w.round ++ [⟨w.calls, interval, command⟩]
          accepted := w.accepted
          messages := [] }
    | (handler, .report message) => pure { w with handler := handler, messages := [message] }
  | .restart => pure { w with handler := w.handler.restart, round := [], messages := [] }
  | .result id result => do
    require (∃ c ∈ w.outstanding, c.id = id)
    pure
      { w with
        handler := (w.handler.resultCb result).1
        outstanding := w.outstanding.eraseP (·.id == id)
        accepted := if isAccepted result then id :: w.accepted else w.accepted
        messages := (w.handler.resultCb result).2 }

/-- Every element was sent since the last restart, in the order of the list, and accepted. -/
def Complete (w : World) : Prop :=
  w.round.map SetRate.interval = intervals ∧ ∀ c ∈ w.round, c.id ∈ w.accepted

/-- What is asked of every state. -/
def Sound (w : World) : Prop :=
  w.outstanding.length ≤ 1 ∧ (intervalsSet ∈ w.messages → Complete w)

/-- The condition: nothing is enqueued while a command from before the last restart is without
a result. -/
def NothingStale (w : World) : Event → Prop
  | .optSendMessages settings _ enqueueSuccess =>
    settings.setMavlinkMessageRates = true → enqueueSuccess = true →
      ∀ c ∈ w.outstanding, ∃ c' ∈ w.round, c'.id = c.id
  | _ => True

/-! ### One step -/

/-- What a call of `opt_send_messages` does. -/
theorem optSendMessages_cases (s : FCMsgIntervalHandler) (settings : RateSettings)
    (telemetry : MavlinkTelemetry) (enqueueSuccess : Bool) :
    (s.optSendMessages settings telemetry enqueueSuccess = (s, .nothing) ∧
        (settings.setMavlinkMessageRates = true → enqueueSuccess = true →
          s.readyForNextCommand = false)) ∨
      (∃ interval command, intervals[s.nextRateIndex]? = some interval ∧
        settings.setMavlinkMessageRates = true ∧ enqueueSuccess = true ∧
        s.readyForNextCommand = true ∧
        s.optSendMessages settings telemetry enqueueSuccess =
          (⟨false, s.nextRateIndex + 1⟩, .enqueued interval command)) ∨
      (intervals.length ≤ s.nextRateIndex ∧ s.readyForNextCommand = true ∧
        s.optSendMessages settings telemetry enqueueSuccess =
          (⟨false, s.nextRateIndex⟩, .report intervalsSet)) := by
  unfold optSendMessages
  rcases hon : settings.setMavlinkMessageRates with - | -
  · exact .inl ⟨rfl, fun h => by cases h⟩
  rcases hready : s.readyForNextCommand with - | -
  · exact .inl ⟨rfl, fun _ _ => rfl⟩
  rcases hget : intervals[s.nextRateIndex]? with - | interval
  · exact .inr (.inr ⟨List.getElem?_eq_none_iff.mp hget, rfl, rfl⟩)
  rcases enqueueSuccess with - | -
  · exact .inl ⟨rfl, fun _ h => by cases h⟩
  · exact .inr (.inl ⟨interval, _, rfl, rfl, rfl, rfl, rfl⟩)

/-- What the handler waits for, when there is one command at most without a result. -/
inductive Phase (w : World) : Prop
  | idle (hout : w.outstanding = [])
      (hacc : w.handler.readyForNextCommand = true → ∀ c ∈ w.round, c.id ∈ w.accepted)
  | waiting (before : List SetRate) (c : SetRate) (hout : w.outstanding = [c])
      (hround : w.round = before ++ [c]) (hready : w.handler.readyForNextCommand = false)
      (hacc : ∀ c' ∈ before, c'.id ∈ w.accepted)
  | stale (c : SetRate) (hout : w.outstanding = [c]) (hround : w.round = [])
      (hready : w.handler.readyForNextCommand = true)

/-- What every step keeps under the condition. -/
structure Inv (w : World) : Prop where
  sent : w.round.map SetRate.interval = intervals.take w.handler.nextRateIndex
  phase : Phase w

theorem inv_init : Inv World.init := ⟨rfl, .idle rfl fun _ => nofun⟩

theorem Inv.length_outstanding_le {w : World} (hi : Inv w) : w.outstanding.length ≤ 1 := by
  rcases hi.phase with ⟨hout, -⟩ | ⟨before, c, hout, -, -, -⟩ | ⟨c, hout, -, -⟩ <;> simp [hout]

theorem Inv.messages {w : World} (hi : Inv w) (messages : List HudMessage) :
    Inv { w with messages := messages } := by
  refine ⟨hi.sent, ?_⟩
  rcases hi.phase with ⟨hout, hacc⟩ | ⟨before, c, hout, hround, hready, hacc⟩ |
    ⟨c, hout, hround, hready⟩
  · exact .idle hout hacc
  · exact .waiting before c hout hround hready hacc
  · exact .stale c hout hround hready

/-- As long as nothing was sent since a restart, the first interval is next. -/
theorem Inv.nextRateIndex_eq_zero {w : World} (hi : Inv w) (hround : w.round = []) :
    w.handler.nextRateIndex = 0 := by
  have hsent := hi.sent
  rw [hround, List.map_nil, eq_comm, List.take_eq_nil_iff] at hsent
  rcases hsent with h | h
  · exact h
  · cases h

/-- A command is enqueued: the handler waits for its result. -/
theorem Inv.enqueued {w : World} (hi : Inv w) {interval : MessageInterval} (command : CommandLong)
    (hget : intervals[w.handler.nextRateIndex]? = some interval)
    (hready : w.handler.readyForNextCommand = true)
    (hstale : ∀ c ∈ w.outstanding, ∃ c' ∈ w.round, c'.id = c.id) :
    Inv ⟨⟨false, w.handler.nextRateIndex + 1⟩, w.calls + 1,
      w.outstanding ++ [⟨w.calls, interval, command⟩], w.round ++ [⟨w.calls, interval, command⟩],
      w.accepted, []⟩ := by
  refine ⟨?_, ?_⟩
  · rw [List.map_append, hi.sent, List.take_add_one, hget]
    rfl
  · rcases hi.phase with ⟨hout, hacc⟩ | ⟨before, c, -, -, hready', -⟩ | ⟨c, hout, hround, -⟩
    · exact .waiting w.round ⟨w.calls, interval, command⟩ (by rw [hout]; rfl) rfl rfl (hacc hready)
    · rw [hready] at hready'
      cases hready'
    · obtain ⟨c', hc', -⟩ := hstale c (by rw [hout]; exact List.mem_singleton_self c)
      rw [hround] at hc'
      exact absurd hc' List.not_mem_nil

/-- Behind the last interval, everything was sent and accepted. -/
theorem Inv.complete {w : World} (hi : Inv w) (hlast : intervals.length ≤ w.handler.nextRateIndex)
    (hready : w.handler.readyForNextCommand = true) : w.outstanding = [] ∧ Complete w := by
  have hsent : w.round.map SetRate.interval = intervals := by
    rw [hi.sent, List.take_of_length_le hlast]
  rcases hi.phase with ⟨hout, hacc⟩ | ⟨before, c, -, -, hready', -⟩ | ⟨c, -, hround, -⟩
  · exact ⟨hout, hsent, hacc hready⟩
  · rw [hready] at hready'
    cases hready'
  · rw [hi.nextRateIndex_eq_zero hround] at hlast
    exact absurd hlast (by decide)

/-- A restart: what is on its way is from before it. -/
theorem Inv.restart {w : World} (hi : Inv w) :
    Inv { w with handler := w.handler.restart, round := [], messages := [] } := by
  refine ⟨rfl, ?_⟩
  rcases hi.phase with ⟨hout, -⟩ | ⟨before, c, hout, -, -, -⟩ | ⟨c, hout, -, -⟩
  · exact .idle hout fun _ => nofun
  · exact .stale c hout rfl rfl
  · exact .stale c hout rfl rfl

/-- The callback says nothing, or warns. -/
theorem intervalsSet_notMem_resultCb (s : FCMsgIntervalHandler) (result : RunCommandResult) :
    intervalsSet ∉ (s.resultCb result).2 := by
  unfold resultCb
  split
  · exact List.not_mem_nil
  · exact fun h => by cases List.mem_singleton.mp h

/-- A result: nothing is left on its way. -/
theorem Inv.result {w : World} (hi : Inv w) {id : ℕ} (result : RunCommandResult)
    (hid : ∃ c ∈ w.outstanding, c.id = id) :
    Inv
      { w with
        handler := (w.handler.resultCb result).1
        outstanding := w.outstanding.eraseP (·.id == id)
        accepted := if isAccepted result then id :: w.accepted else w.accepted
        messages := (w.handler.resultCb result).2 } := by
  obtain ⟨c', hc', rfl⟩ := hid
  have hindex : (w.handler.resultCb result).1.nextRateIndex = w.handler.nextRateIndex := by
    unfold resultCb
    split <;> rfl
  have hready : (w.handler.resultCb result).1.readyForNextCommand = isAccepted result := by
    unfold resultCb
    split
    · rename_i hacc
      exact hacc.symm
    · rename_i hacc
      exact (Bool.eq_false_iff.mpr hacc).symm
  refine ⟨?_, ?_⟩
  · rw [hindex]
    exact hi.sent
  rcases hi.phase with ⟨hout, -⟩ | ⟨before, c, hout, hround, -, hacc⟩ | ⟨c, hout, hround, -⟩
  · rw [hout] at hc'
    exact absurd hc' List.not_mem_nil
  · rw [hout, List.mem_singleton] at hc'
    subst hc'
    refine .idle (by simp [hout]) fun haccepted c hc => ?_
    rw [hready] at haccepted
    rw [if_pos haccepted]
    rw [hround, List.mem_append, List.mem_singleton] at hc
    obtain hc | rfl := hc
    · exact List.mem_cons_of_mem _ (hacc c hc)
    · exact List.mem_cons_self
  · rw [hout, List.mem_singleton] at hc'
    subst hc'
    refine .idle (by simp [hout]) fun _ c hc => ?_
    rw [hround] at hc
    exact absurd hc List.not_mem_nil

/-- **A step that meets the condition** keeps the invariant, and reports rightly. -/
theorem Inv.step {w w' : World} {e : Event} (hi : Inv w) (hP : NothingStale w e)
    (h : step w e = .ok w') : Inv w' ∧ (intervalsSet ∈ w'.messages → Complete w') := by
  rcases e with ⟨settings, telemetry, enqueueSuccess⟩ | - | ⟨id, result⟩
  · rcases optSendMessages_cases w.handler settings telemetry enqueueSuccess with
      ⟨heq, -⟩ | ⟨interval, command, hget, hon, henqueue, hready, heq⟩ | ⟨hlast, hready, heq⟩
    · simp only [FCMsgIntervalHandler.step, heq] at h
      obtain rfl := Except.ok.inj h
      exact ⟨hi.messages [], nofun⟩
    · simp only [FCMsgIntervalHandler.step, heq] at h
      obtain rfl := Except.ok.inj h
      exact ⟨hi.enqueued command hget hready (hP hon henqueue), nofun⟩
    · simp only [FCMsgIntervalHandler.step, heq] at h
      obtain rfl := Except.ok.inj h
      obtain ⟨hout, hcomplete⟩ := hi.complete hlast hready
      exact ⟨⟨hi.sent, .idle hout fun hready' => by cases hready'⟩, fun _ => hcomplete⟩
  · obtain rfl := Except.ok.inj h
    exact ⟨hi.restart, nofun⟩
  · obtain ⟨_, hreq, h⟩ := bind_eq_ok_iff.mp h
    obtain rfl := Except.ok.inj h
    refine ⟨hi.result result (require_eq_ok_iff.mp hreq), fun hmem => ?_⟩
    exact absurd hmem (intervalsSet_notMem_resultCb w.handler result)

/-- A step that does not meet the condition leaves two commands without a result. -/
theorem Inv.nothingStale {w : World} {e : Event} (hi : Inv w)
    (h : ∀ w', FCMsgIntervalHandler.step w e = .ok w' → w'.outstanding.length ≤ 1) :
    NothingStale w e := by
  rcases e with ⟨settings, telemetry, enqueueSuccess⟩ | - | ⟨id, result⟩
  · intro hon henqueue c hc
    rcases hi.phase with ⟨hout, -⟩ | ⟨before, c', hout, hround, -, -⟩ | ⟨c', hout, hround, hready⟩
    · rw [hout] at hc
      exact absurd hc List.not_mem_nil
    · rw [hout] at hc
      refine ⟨c, ?_, rfl⟩
      rw [hround]
      exact List.mem_append_right before hc
    · exfalso
      rcases optSendMessages_cases w.handler settings telemetry enqueueSuccess with
        ⟨-, hnot⟩ | ⟨interval, command, -, -, -, -, heq⟩ | ⟨hlast, -, -⟩
      · rw [hnot hon henqueue] at hready
        cases hready
      · simp only [FCMsgIntervalHandler.step, heq] at h
        have htwo := h _ rfl
        simp only [hout, List.length_append, List.length_cons, List.length_nil] at htwo
        omega
      · rw [hi.nextRateIndex_eq_zero hround] at hlast
        exact absurd hlast (by decide)
  · trivial
  · trivial

/-! ### Runs -/

/-- **After every step of a run one command at most is without a result, and the handler reports
only when all is set, exactly if nothing is enqueued while a command from before the last
restart is without a result.** -/
theorem one_outstanding_and_complete_iff (es : List Event) :
    EveryStep (fun w e => ∀ w', step w e = .ok w' → Sound w') step World.init es ↔
      EveryStep NothingStale step World.init es := by
  refine everyStep_congr_of_keeps (fun w e hi => ?_)
    (fun w e w' hi hP h => (Inv.step hi hP h).1) inv_init es
  constructor
  · exact fun hsound => hi.nothingStale fun w' h => (hsound w' h).1
  · intro hP w' h
    obtain ⟨hi', hreport⟩ := Inv.step hi hP h
    exact ⟨hi'.length_outstanding_le, hreport⟩

/-- A restart between a command and its result: the next call sends a second one. -/
theorem not_one_outstanding :
    ¬ ∀ es : List Event,
      EveryStep (fun w e => ∀ w', step w e = .ok w' → Sound w') step World.init es := by
  intro h
  have hstep := h [.optSendMessages .default ⟨true, 1, 1⟩ true, .restart,
    .optSendMessages .default ⟨true, 1, 1⟩ true]
  obtain ⟨-, hrest⟩ := hstep
  obtain ⟨-, hrest⟩ := hrest _ rfl
  obtain ⟨hlast, -⟩ := hrest _ rfl
  exact absurd (hlast _ rfl).1 (by decide)

end FCMsgIntervalHandler

end QOpenHD
