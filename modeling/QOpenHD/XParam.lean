/-
QOpenHD/XParam.lean

`XParam` (`xparam.h`, `xparam.cpp`): setting and fetching the extended
parameters of a server over a lossy link.

The sets are a `RetryQueue` beside that of the get-alls: `try_set_param_async`
refuses a set when five are under way, `handle_param_ext_ack` is an answer to
the first set for the acknowledged parameter of the sender, and a set is sent
unchanged every time.

The system (`World`, `step`) is both queues together with the calls of
`try_set_param_async` that were made.

* **`sets_exactlyOnce`** — every accepted set is either running or called back
  once, and has been sent as often as it counts, unchanged; an acknowledgement
  removes the oldest set it refers to and touches nothing else.
-/
import QOpenHD.XParamGetAll

namespace QOpenHD

open Checked RetryQueue

/-! ### Sets -/

/-- The string up to its terminator, which a full field does without. -/
def fieldString {n : ℕ} (field : Vector UInt8 n) : List UInt8 := field.toList.takeWhile (· ≠ 0)

/-- `get_param_id` -/
def getParamId (paramId : Vector UInt8 16) : List UInt8 := fieldString paramId

/-- `XParam::SetParamResult` -/
structure SetParamResult where
  response : Option ParamExtAck
  nTransmissions : ℕ
  deriving DecidableEq

def SetParamResult.isAccepted (result : SetParamResult) : Bool :=
  result.response.any fun ack => ack.paramResult == PARAM_ACK_ACCEPTED

/-- How a server that has applied a set acknowledges it. -/
def acknowledge (cmd : ParamExtSet) : ParamExtAck :=
  ⟨cmd.paramId, cmd.paramValue, cmd.paramType, PARAM_ACK_ACCEPTED⟩

/-- `m_running_commands`, the messages sent and the callbacks called. -/
abbrev ParamSets := Queue ParamExtSet ParamExtSet SetParamResult

namespace ParamSets

/-- A set is sent as it is, every time. -/
def protocol : Protocol ParamExtSet ParamExtSet SetParamResult where
  emit cmd := [cmd]
  next cmd _ := cmd
  expired nTransmissions := { response := none, nTransmissions := nTransmissions }

/-- `XParam::MAX_N_SIMULTANOEUS_COMMANDS` -/
def MAX_N_SIMULTANOEUS_COMMANDS : ℕ := 5

def trySetParamAsync (s : ParamSets) (cmd : ParamExtSet) (resultCb : ℕ)
    (retransmitDelay nWantedRetransmissions : ℕ) (now : ℤ) : Exec (Bool × ParamSets) := do
  require (nWantedRetransmissions ≥ 1)
  require (retransmitDelay ≥ 10)
  if s.running.length ≥ MAX_N_SIMULTANOEUS_COMMANDS then pure (false, s)
  else
    let runningCmd : Job ParamExtSet :=
      { payload := cmd
        cb := resultCb
        nWanted := nWantedRetransmissions
        retransmitDelay := milliseconds retransmitDelay
        nTransmissions := 0
        lastTransmission := now }
    pure (true, s.enqueue protocol runningCmd now)

/-- What `find_remove_running_command_threadsafe` looks for. -/
def refersTo (ack : ParamExtAck) (senderSysid senderCompid : UInt8) (cmd : ParamExtSet) : Bool :=
  getParamId cmd.paramId == getParamId ack.paramId && cmd.paramType == ack.paramType &&
    cmd.targetSystem == senderSysid && cmd.targetComponent == senderCompid

def handleParamExtAck (s : ParamSets) (ack : ParamExtAck) (senderSysid senderCompid : UInt8) :
    Bool × ParamSets :=
  s.answer (refersTo ack senderSysid senderCompid) fun runningCmdSet =>
    { response := some ack, nTransmissions := runningCmdSet.nTransmissions }

def checkTimeoutParamSet (clock : ℕ → ℤ) (s : ParamSets) : Exec ParamSets := pass protocol clock s

/-- The loop of `check_timeout_param_set`, when it comes to an end, is a series
of visits. -/
theorem checkTimeoutParamSet_eq_visits {clock : ℕ → ℤ} {s s' : ParamSets}
    (h : s.checkTimeoutParamSet clock = .ok s') : ∃ vs, s' = s.visits protocol vs :=
  pass_eq_visits protocol h

/-- A call returns when it keeps to what is asserted. -/
theorem safe_trySetParamAsync_iff (s : ParamSets) (cmd : ParamExtSet) (resultCb : ℕ)
    (retransmitDelay nWanted : ℕ) (now : ℤ) :
    Safe (s.trySetParamAsync cmd resultCb retransmitDelay nWanted now) ↔
      1 ≤ nWanted ∧ 10 ≤ retransmitDelay := by
  constructor
  · intro h
    obtain ⟨_, hwanted, h⟩ := safe_bind_iff.mp h
    obtain ⟨_, hdelay, -⟩ := safe_bind_iff.mp h
    exact ⟨require_eq_ok_iff.mp hwanted, require_eq_ok_iff.mp hdelay⟩
  · rintro ⟨hwanted, hdelay⟩
    rw [trySetParamAsync, require_of hwanted, require_of hdelay, ok_bind, ok_bind]
    split_ifs
    · exact safe_pure _
    · exact safe_pure _

/-- What a call does, when it returns. -/
theorem trySetParamAsync_cases {s s' : ParamSets} {cmd : ParamExtSet} {resultCb : ℕ}
    {retransmitDelay nWanted : ℕ} {now : ℤ} {accepted : Bool}
    (h : s.trySetParamAsync cmd resultCb retransmitDelay nWanted now = .ok (accepted, s')) :
    1 ≤ nWanted ∧
      ((accepted = false ∧ s.running.length ≥ MAX_N_SIMULTANOEUS_COMMANDS ∧ s' = s) ∨
        (accepted = true ∧ s.running.length < MAX_N_SIMULTANOEUS_COMMANDS ∧
          s' = s.enqueue protocol
            ⟨cmd, resultCb, nWanted, milliseconds retransmitDelay, 0, now⟩ now)) := by
  obtain ⟨_, hwanted, h⟩ := bind_eq_ok_iff.mp h
  obtain ⟨_, -, h⟩ := bind_eq_ok_iff.mp h
  refine ⟨require_eq_ok_iff.mp hwanted, ?_⟩
  split_ifs at h with hfull
  · obtain ⟨rfl, rfl⟩ := Prod.mk.inj (Except.ok.inj h)
    exact .inl ⟨rfl, hfull, rfl⟩
  · obtain ⟨rfl, rfl⟩ := Prod.mk.inj (Except.ok.inj h)
    exact .inr ⟨rfl, Nat.lt_of_not_ge hfull, rfl⟩

/-- What an acknowledgement does. -/
theorem handleParamExtAck_cases (s : ParamSets) (ack : ParamExtAck)
    (senderSysid senderCompid : UInt8) :
    ((∀ j ∈ s.running, refersTo ack senderSysid senderCompid j.payload = false) ∧
        s.handleParamExtAck ack senderSysid senderCompid = (false, s)) ∨
      ∃ pre j post, s.running = pre ++ j :: post ∧
        refersTo ack senderSysid senderCompid j.payload = true ∧
        (∀ j' ∈ pre, refersTo ack senderSysid senderCompid j'.payload = false) ∧
        s.handleParamExtAck ack senderSysid senderCompid =
          (true, ⟨pre ++ post, s.sent, s.called ++ [(j.cb, ⟨some ack, j.nTransmissions⟩)]⟩) := by
  unfold handleParamExtAck Queue.answer
  rcases hfound : Queue.takeFirst (refersTo ack senderSysid senderCompid) s.running with
    - | ⟨j, rest⟩
  · refine .inl ⟨fun j hj => ?_, rfl⟩
    have hnone := find?_eq_takeFirst (refersTo ack senderSysid senderCompid) s.running
    rw [hfound, Option.map_none, List.find?_eq_none] at hnone
    simpa using hnone j hj
  · obtain ⟨pre, post, hrunning, rfl, hj, hpre⟩ := takeFirst_eq_some hfound
    exact .inr ⟨pre, j, post, hrunning, hj, hpre, rfl⟩

/-- However often it was sent, a set is what it was. -/
theorem after_eq (cmd : ParamExtSet) (n : ℕ) : protocol.after cmd n = cmd := by
  induction n with
  | zero => rfl
  | succ n ih => exact ih

theorem transmissions_eq (cmd : ParamExtSet) (n : ℕ) :
    protocol.transmissions cmd n = List.replicate n cmd := by
  induction n with
  | zero => rfl
  | succ n ih =>
      rw [Protocol.transmissions_succ, ih, after_eq, List.replicate_succ']
      rfl

end ParamSets

/-! ### The system -/

namespace XParam

/-- Both queues, and the calls of `try_set_param_async` so far. -/
structure World where
  sets : ParamSets
  calls : List (Call ParamExtSet)
  getAlls : GetAlls.World

def World.init : World := ⟨Queue.empty, [], GetAlls.World.init⟩

inductive Event
  | trySetParamAsync (cmd : ParamExtSet) (retransmitDelay nWantedRetransmissions : ℕ) (now : ℤ)
  | paramExtAck (ack : ParamExtAck) (senderSysid senderCompid : UInt8)
  /-- The sets a timeout pass gets to, and the times it looks at them. -/
  | timeoutPassSet (vs : List (ℕ × ℤ × ℤ))
  | getAll (e : GetAlls.Event)

def step (w : World) : Event → Exec World
  | .trySetParamAsync cmd retransmitDelay nWanted now => do
    let (accepted, sets) ←
      w.sets.trySetParamAsync cmd w.calls.length retransmitDelay nWanted now
    pure { w with sets := sets, calls := w.calls ++ [⟨cmd, nWanted, accepted⟩] }
  | .paramExtAck ack senderSysid senderCompid =>
    .ok { w with sets := (w.sets.handleParamExtAck ack senderSysid senderCompid).2 }
  | .timeoutPassSet vs => .ok { w with sets := w.sets.visits ParamSets.protocol vs }
  | .getAll e => do
    let getAlls ← GetAlls.step w.getAlls e
    pure { w with getAlls := getAlls }

/-- A call keeps to what is asserted, and a parameter value has its slots. -/
def Admissible (w : World) : Event → Prop
  | .trySetParamAsync _ retransmitDelay nWanted _ => 1 ≤ nWanted ∧ 10 ≤ retransmitDelay
  | .getAll e => GetAlls.HasSlots w.getAlls e
  | _ => True

theorem safe_step_iff (w : World) (e : Event) : Safe (step w e) ↔ Admissible w e := by
  rcases e with ⟨cmd, retransmitDelay, nWanted, now⟩ | ⟨ack, senderSysid, senderCompid⟩ | vs | e
  · rw [Admissible, ← ParamSets.safe_trySetParamAsync_iff w.sets cmd w.calls.length
      retransmitDelay nWanted now]
    exact safe_bind_pure_iff
  · exact iff_of_true (safe_ok _) trivial
  · exact iff_of_true (safe_ok _) trivial
  · rw [Admissible, ← GetAlls.safe_step_iff]
    exact safe_bind_pure_iff

/-- The answers that are possible: acknowledgements. -/
def AckFor (cmd : ParamExtSet) (nTransmissions : ℕ) (result : SetParamResult) : Prop :=
  ∃ ack senderSysid senderCompid,
    ParamSets.refersTo ack senderSysid senderCompid cmd = true ∧ result = ⟨some ack, nTransmissions⟩

/-- What every step keeps. -/
structure Inv (w : World) : Prop where
  ledger : Ledger ParamSets.protocol AckFor w.calls w.sets
  atMost : w.sets.running.length ≤ ParamSets.MAX_N_SIMULTANOEUS_COMMANDS

theorem inv_init : Inv World.init := ⟨ledger_empty, Nat.zero_le _⟩

/-- **One step keeps the invariant.** -/
theorem Inv.step {w w' : World} {e : Event} (hi : Inv w) (h : XParam.step w e = .ok w') :
    Inv w' := by
  rcases e with ⟨cmd, retransmitDelay, nWanted, now⟩ | ⟨ack, senderSysid, senderCompid⟩ | vs | e
  · obtain ⟨⟨accepted, sets⟩, hcall, hw'⟩ := bind_eq_ok_iff.mp h
    obtain rfl := Except.ok.inj hw'
    obtain ⟨hwanted, ⟨rfl, -, rfl⟩ | ⟨rfl, hroom, rfl⟩⟩ := ParamSets.trySetParamAsync_cases hcall
    · exact ⟨hi.ledger.reject rfl, hi.atMost⟩
    · refine ⟨hi.ledger.enqueue rfl hwanted rfl rfl rfl rfl now, ?_⟩
      simpa [Queue.enqueue] using Nat.succ_le_of_lt hroom
  · obtain rfl := Except.ok.inj h
    refine ⟨hi.ledger.answer fun j hj => ?_, (length_answer_le _ _ _).trans hi.atMost⟩
    exact ⟨ack, senderSysid, senderCompid, hj, rfl⟩
  · obtain rfl := Except.ok.inj h
    exact ⟨hi.ledger.visits vs, (length_visits_le _ _ _).trans hi.atMost⟩
  · obtain ⟨getAlls, -, hw'⟩ := bind_eq_ok_iff.mp h
    obtain rfl := Except.ok.inj hw'
    exact ⟨hi.ledger, hi.atMost⟩

theorem inv_run {events : List Event} {w : World}
    (h : run XParam.step World.init events = .ok w) : Inv w :=
  run_invariant (fun _ _ _ hi hstep => hi.step hstep) inv_init h

/-! ### Exactly once -/

/-- What was sent for call `c` with the callback `t`: it `n` times. -/
structure Transmitted (sent : List (ℕ × ParamExtSet)) (t : ℕ) (c : Call ParamExtSet) (n : ℕ) :
    Prop where
  pos : 1 ≤ n
  le : n ≤ c.nWanted
  messages : Queue.sentFor sent t = List.replicate n c.payload

/-- The acknowledgement is for this parameter and comes from where it was set. -/
def RefersTo (ack : ParamExtAck) (senderSysid senderCompid : UInt8) (cmd : ParamExtSet) : Prop :=
  getParamId cmd.paramId = getParamId ack.paramId ∧ cmd.paramType = ack.paramType ∧
    cmd.targetSystem = senderSysid ∧ cmd.targetComponent = senderCompid

theorem refersTo_eq_true_iff {ack : ParamExtAck} {senderSysid senderCompid : UInt8}
    {cmd : ParamExtSet} :
    ParamSets.refersTo ack senderSysid senderCompid cmd = true ↔
      RefersTo ack senderSysid senderCompid cmd := by
  simp [ParamSets.refersTo, RefersTo, and_assoc]

theorem refersTo_eq_false_iff {ack : ParamExtAck} {senderSysid senderCompid : UInt8}
    {cmd : ParamExtSet} :
    ParamSets.refersTo ack senderSysid senderCompid cmd = false ↔
      ¬ RefersTo ack senderSysid senderCompid cmd := by
  rw [← refersTo_eq_true_iff, Bool.not_eq_true]

/-- What `XParam` promises those who set parameters. -/
structure ExactlyOnce (w : World) : Prop where
  atMost : w.sets.running.length ≤ 5
  rejected : ∀ t c, w.calls[t]? = some c → c.accepted = false →
    t ∉ w.sets.called.map Prod.fst ∧ Queue.sentFor w.sets.sent t = []
  accepted : ∀ t c, IsAccepted w.calls t c →
    (t ∈ w.sets.running.map Job.cb ∧ t ∉ w.sets.called.map Prod.fst) ∨
      (t ∉ w.sets.running.map Job.cb ∧ (w.sets.called.map Prod.fst).count t = 1)
  running : ∀ j ∈ w.sets.running, ∃ c, IsAccepted w.calls j.cb c ∧ j.payload = c.payload ∧
    Transmitted w.sets.sent j.cb c j.nTransmissions
  called : ∀ t result, (t, result) ∈ w.sets.called → ∃ c, IsAccepted w.calls t c ∧
    Transmitted w.sets.sent t c result.nTransmissions ∧
    (result.response = none → result.nTransmissions = c.nWanted) ∧
    ∀ ack, result.response = some ack →
      ∃ senderSysid senderCompid, RefersTo ack senderSysid senderCompid c.payload
  /-- Nothing refers to the acknowledgement: nothing changes. -/
  unmatched : ∀ ack senderSysid senderCompid,
    (∀ j ∈ w.sets.running, ¬ RefersTo ack senderSysid senderCompid j.payload) →
      step w (.paramExtAck ack senderSysid senderCompid) = .ok w
  /-- The oldest set it refers to leaves and is called back, and all else stays. -/
  matched : ∀ ack senderSysid senderCompid pre j post, w.sets.running = pre ++ j :: post →
    RefersTo ack senderSysid senderCompid j.payload →
      (∀ j' ∈ pre, ¬ RefersTo ack senderSysid senderCompid j'.payload) →
        step w (.paramExtAck ack senderSysid senderCompid) = .ok { w with
          sets := {
            running := pre ++ post
            sent := w.sets.sent
            called := w.sets.called ++ [(j.cb, ⟨some ack, j.nTransmissions⟩)] } }

theorem transmitted_of_sent {calls : List (Call ParamExtSet)} {sent : List (ℕ × ParamExtSet)}
    {t n : ℕ} {c : Call ParamExtSet} (h : Sent ParamSets.protocol calls sent t c n) :
    Transmitted sent t c n :=
  ⟨h.pos, h.le, by rw [h.messages, ParamSets.transmissions_eq]⟩

/-- An acknowledgement nothing refers to. -/
theorem step_unmatched {w : World} {ack : ParamExtAck} {senderSysid senderCompid : UInt8}
    (h : ∀ j ∈ w.sets.running, ¬ RefersTo ack senderSysid senderCompid j.payload) :
    step w (.paramExtAck ack senderSysid senderCompid) = .ok w := by
  rw [step, ParamSets.handleParamExtAck, Queue.answer,
    takeFirst_eq_none fun j hj => refersTo_eq_false_iff.mpr (h j hj)]

/-- An acknowledgement and the oldest set it refers to. -/
theorem handleParamExtAck_matched {s : ParamSets} {ack : ParamExtAck}
    {senderSysid senderCompid : UInt8} {pre post : List (Job ParamExtSet)} {j : Job ParamExtSet}
    (hrunning : s.running = pre ++ j :: post)
    (hj : RefersTo ack senderSysid senderCompid j.payload)
    (hpre : ∀ j' ∈ pre, ¬ RefersTo ack senderSysid senderCompid j'.payload) :
    s.handleParamExtAck ack senderSysid senderCompid =
      (true, ⟨pre ++ post, s.sent, s.called ++ [(j.cb, ⟨some ack, j.nTransmissions⟩)]⟩) := by
  rw [ParamSets.handleParamExtAck, Queue.answer, hrunning,
    takeFirst_append (fun j' hj' => refersTo_eq_false_iff.mpr (hpre j' hj'))
      (refersTo_eq_true_iff.mpr hj)]

theorem step_matched {w : World} {ack : ParamExtAck} {senderSysid senderCompid : UInt8}
    {pre post : List (Job ParamExtSet)} {j : Job ParamExtSet}
    (hrunning : w.sets.running = pre ++ j :: post)
    (hj : RefersTo ack senderSysid senderCompid j.payload)
    (hpre : ∀ j' ∈ pre, ¬ RefersTo ack senderSysid senderCompid j'.payload) :
    step w (.paramExtAck ack senderSysid senderCompid) = .ok { w with
      sets := {
        running := pre ++ post
        sent := w.sets.sent
        called := w.sets.called ++ [(j.cb, ⟨some ack, j.nTransmissions⟩)] } } := by
  rw [step, handleParamExtAck_matched hrunning hj hpre]

/-- The invariant says it all. -/
theorem Inv.exactlyOnce {w : World} (hi : Inv w) : ExactlyOnce w where
  atMost := hi.atMost
  rejected := fun _ _ ht hc => (hi.ledger.rejected ht hc).2
  accepted := fun _ _ hc => hi.ledger.exactlyOnce hc
  running := fun j hj => by
    obtain ⟨c, hc⟩ := hi.ledger.running j hj
    exact ⟨c, hc.sent.accepted, by rw [hc.payload, ParamSets.after_eq],
      transmitted_of_sent hc.sent⟩
  called := fun t result ht => by
    obtain ⟨c, n, hsent, hout⟩ := hi.ledger.called _ ht
    rcases hout with ⟨ack, senderSysid, senderCompid, hrefers, rfl⟩ | ⟨rfl, rfl⟩
    · rw [ParamSets.after_eq, refersTo_eq_true_iff] at hrefers
      refine ⟨c, hsent.accepted, transmitted_of_sent hsent, nofun, fun ack' hack' => ?_⟩
      obtain rfl := Option.some.inj hack'
      exact ⟨senderSysid, senderCompid, hrefers⟩
    · exact ⟨c, hsent.accepted, transmitted_of_sent hsent, fun _ => rfl, nofun⟩
  unmatched := fun _ _ _ h => step_unmatched h
  matched := fun _ _ _ _ _ _ hrunning hj hpre => step_matched hrunning hj hpre

/-- **Every accepted set is called back exactly once**, and until then it is
under way: in whatever order calls, acknowledgements and timeout passes come, at
every moment. -/
theorem sets_exactlyOnce (events : List Event)
    (hevents : EveryStep Admissible step World.init events) :
    ∃ w, run step World.init events = .ok w ∧ ExactlyOnce w := by
  obtain ⟨w, hrun⟩ := (run_safe_iff_everyStep safe_step_iff World.init events).mpr hevents
  exact ⟨w, hrun, (inv_run hrun).exactlyOnce⟩

/-- A set of the parameter `paramId` of the air unit to the 32-bit integer
`value`. -/
def airSet (paramId : Vector UInt8 16) (value : UInt8) : ParamExtSet where
  targetSystem := OHD_SYS_ID_AIR
  targetComponent := MAV_COMP_ID_ONBOARD_COMPUTER
  paramId := paramId
  paramValue := (Vector.replicate 128 0).set 0 value
  paramType := 6

/-- An id of 16 bytes, without terminator. -/
def videoBitrate : Vector UInt8 16 :=
  #v[86, 95, 66, 73, 84, 82, 65, 84, 69, 95, 77, 66, 73, 84, 83, 49]

/-- A set that is sent twice before it is acknowledged, and acknowledged twice. -/
theorem sets_exactlyOnce_retransmitted :
    ∃ w, run step World.init
        [.trySetParamAsync (airSet videoBitrate 8) 500 3 0,
          .timeoutPassSet [(0, milliseconds 600, milliseconds 600)],
          .paramExtAck (acknowledge (airSet videoBitrate 8)) OHD_SYS_ID_AIR
            MAV_COMP_ID_ONBOARD_COMPUTER,
          .paramExtAck (acknowledge (airSet videoBitrate 8)) OHD_SYS_ID_AIR
            MAV_COMP_ID_ONBOARD_COMPUTER] = .ok w ∧ ExactlyOnce w := by
  apply sets_exactlyOnce
  refine ⟨⟨by decide, by decide⟩, fun _ _ => ⟨trivial, fun _ _ => ⟨trivial, fun _ _ => ?_⟩⟩⟩
  exact ⟨trivial, fun _ _ => trivial⟩

end XParam

end QOpenHD
