/-
QOpenHD/CmdSender.lean

`CmdSender` (`cmdsender.h`, `cmdsender.cpp`): sending MAVLink commands over a
lossy link.

It is a `RetryQueue`: `send_command` is a transmission, `handle_cmd_ack` an
answer to the first running command with the acknowledged id, `handle_timeout`
a pass.  The result callback of a command is the number of the call it was
passed to.

The system (`World`, `step`) is a sender together with the calls of
`send_command_long_async` that were made.  A timeout pass visits any of the
commands; what the loop of `handle_timeout` does is one such series of visits
(`handleTimeout_eq_visits`).

* **`run_exactlyOnce`** — every accepted call is either running or called back
  once, after as many transmissions as its result reports, and the messages
  sent for it count their repetitions;
* **`attributed_iff`** — acknowledgements call back commands that were sent to
  where they come from exactly as long as the oldest running command with the
  acknowledged id is one.
-/
import QOpenHD.Mavlink
import QOpenHD.RetryQueue

namespace QOpenHD

open Checked RetryQueue

/-- `CmdSender::RunCommandResult` -/
structure RunCommandResult where
  optAck : Option CommandAck
  nTransmissions : ℕ
  deriving DecidableEq

/-- `MAX_N_SIMULTANOEUS_COMMANDS` -/
def MAX_N_SIMULTANOEUS_COMMANDS : ℕ := 5

/-- `m_running_commands`, the messages sent and the callbacks called. -/
abbrev CmdSender := Queue CommandLong CommandLong RunCommandResult

namespace CmdSender

/-- What `send_command` sends and how it changes the command, and the result of
a command that timed out. -/
def protocol : Protocol CommandLong CommandLong RunCommandResult where
  emit cmd := [cmd]
  next cmd nTransmissions := { cmd with confirmation := UInt8.ofNat nTransmissions }
  expired nTransmissions := { optAck := none, nTransmissions := nTransmissions }

def sendCommandLongAsync (s : CmdSender) (cmd : CommandLong) (resultCb : ℕ)
    (retransmitDelay nWantedRetransmissions : ℕ) (now : ℤ) : Exec (Bool × CmdSender) := do
  require (nWantedRetransmissions ≥ 1)
  require (retransmitDelay ≥ 10)
  if s.running.length ≥ MAX_N_SIMULTANOEUS_COMMANDS then pure (false, s)
  else
    let runningCmd : Job CommandLong :=
      { payload := cmd
        cb := resultCb
        nWanted := nWantedRetransmissions
        retransmitDelay := milliseconds retransmitDelay
        nTransmissions := 0
        lastTransmission := now }
    pure (true, s.enqueue protocol runningCmd now)

/-- What `find_remove_running_command_threadsafe` looks for. -/
def refersTo (commandId : UInt16) (cmd : CommandLong) : Bool := cmd.command == commandId

def handleCmdAck (s : CmdSender) (ack : CommandAck) : Bool × CmdSender :=
  s.answer (refersTo ack.command) fun runningCommand =>
    { optAck := some ack, nTransmissions := runningCommand.nTransmissions }

/-- Acknowledgements for somebody else are left alone. -/
def processMessage (selfSysid selfCompid : UInt8) (s : CmdSender) (msg : MavlinkMessage) :
    Bool × CmdSender :=
  match msg.payload with
  | .commandAck ack =>
    if ack.targetSystem = selfSysid ∧ ack.targetComponent = selfCompid then s.handleCmdAck ack
    else (false, s)
  | _ => (false, s)

def handleTimeout (clock : ℕ → ℤ) (s : CmdSender) : Exec CmdSender := pass protocol clock s

/-- The loop of `handle_timeout`, when it comes to an end, is a series of
visits. -/
theorem handleTimeout_eq_visits {clock : ℕ → ℤ} {s s' : CmdSender}
    (h : s.handleTimeout clock = .ok s') : ∃ vs, s' = s.visits protocol vs :=
  pass_eq_visits protocol h

/-- A call returns when it keeps to what is asserted. -/
theorem safe_sendCommandLongAsync (s : CmdSender) (cmd : CommandLong) (resultCb : ℕ)
    {retransmitDelay nWanted : ℕ} (now : ℤ) (hwanted : 1 ≤ nWanted)
    (hdelay : 10 ≤ retransmitDelay) :
    Safe (s.sendCommandLongAsync cmd resultCb retransmitDelay nWanted now) := by
  unfold sendCommandLongAsync
  rw [require_of hwanted, require_of hdelay, ok_bind, ok_bind]
  split_ifs
  · exact safe_pure _
  · exact safe_pure _

/-- What a call does, when it returns. -/
theorem sendCommandLongAsync_cases {s s' : CmdSender} {cmd : CommandLong} {resultCb : ℕ}
    {retransmitDelay nWanted : ℕ} {now : ℤ} {accepted : Bool}
    (h : s.sendCommandLongAsync cmd resultCb retransmitDelay nWanted now = .ok (accepted, s')) :
    1 ≤ nWanted ∧
      ((accepted = false ∧ s.running.length ≥ MAX_N_SIMULTANOEUS_COMMANDS ∧ s' = s) ∨
        (accepted = true ∧ s.running.length < MAX_N_SIMULTANOEUS_COMMANDS ∧
          s' = s.enqueue protocol
            ⟨cmd, resultCb, nWanted, milliseconds retransmitDelay, 0, now⟩ now)) := by
  obtain ⟨_, hwanted, h⟩ := bind_eq_ok_iff.mp h
  obtain ⟨_, -, h⟩ := bind_eq_ok_iff.mp h
  refine ⟨require_eq_ok_iff.mp hwanted, ?_⟩
  split_ifs at h with hfull
  · obtain ⟨rfl, rfl⟩ := Prod.mk.inj (Except.ok.inj h)
    exact .inl ⟨rfl, hfull, rfl⟩
  · obtain ⟨rfl, rfl⟩ := Prod.mk.inj (Except.ok.inj h)
    exact .inr ⟨rfl, Nat.lt_of_not_ge hfull, rfl⟩

/-- A command is accepted if there is room for it. -/
theorem accepted_iff {s s' : CmdSender} {cmd : CommandLong} {resultCb : ℕ}
    {retransmitDelay nWanted : ℕ} {now : ℤ} {accepted : Bool}
    (h : s.sendCommandLongAsync cmd resultCb retransmitDelay nWanted now = .ok (accepted, s')) :
    accepted = true ↔ s.running.length < MAX_N_SIMULTANOEUS_COMMANDS := by
  obtain ⟨-, ⟨rfl, hfull, -⟩ | ⟨rfl, hroom, -⟩⟩ := sendCommandLongAsync_cases h
  · exact iff_of_false Bool.false_ne_true (Nat.not_lt.mpr hfull)
  · exact iff_of_true rfl hroom

/-! ### The system -/

/-- A sender, the calls of `send_command_long_async` so far, and the messages
received so far. -/
structure World where
  sender : CmdSender
  calls : List (Call CommandLong)
  received : List MavlinkMessage

def World.init : World := ⟨Queue.empty, [], []⟩

inductive Event
  | sendCommandLongAsync (cmd : CommandLong) (retransmitDelay nWantedRetransmissions : ℕ) (now : ℤ)
  | message (msg : MavlinkMessage)
  /-- The running commands a timeout pass gets to, and the times it looks at
  them. -/
  | timeoutPass (vs : List (ℕ × ℤ × ℤ))

variable (selfSysid selfCompid : UInt8)

def step (w : World) : Event → Exec World
  | .sendCommandLongAsync cmd retransmitDelay nWanted now => do
    let (accepted, sender) ←
      w.sender.sendCommandLongAsync cmd w.calls.length retransmitDelay nWanted now
    pure ⟨sender, w.calls ++ [⟨cmd, nWanted, accepted⟩], w.received⟩
  | .message msg =>
    .ok ⟨(processMessage selfSysid selfCompid w.sender msg).2, w.calls, w.received ++ [msg]⟩
  | .timeoutPass vs => .ok ⟨w.sender.visits protocol vs, w.calls, w.received⟩

/-- A call as callers make it: confirmation 0, 1 to 255 transmissions, and a
delay the sender accepts. -/
def Event.Admissible : Event → Prop
  | .sendCommandLongAsync cmd retransmitDelay nWanted _ =>
    cmd.confirmation = 0 ∧ 1 ≤ nWanted ∧ nWanted ≤ 255 ∧ 10 ≤ retransmitDelay
  | _ => True

/-- The message is an acknowledgement, and meant for us. -/
def IsAck (msg : MavlinkMessage) (ack : CommandAck) : Prop :=
  msg.payload = .commandAck ack ∧ ack.targetSystem = selfSysid ∧ ack.targetComponent = selfCompid

/-- What a message does. -/
theorem processMessage_cases (s : CmdSender) (msg : MavlinkMessage) :
    processMessage selfSysid selfCompid s msg = (false, s) ∨
      ∃ ack, IsAck selfSysid selfCompid msg ack ∧
        processMessage selfSysid selfCompid s msg = s.handleCmdAck ack := by
  unfold processMessage
  rcases hmsg : msg.payload with ack | response | -
  · by_cases hself : ack.targetSystem = selfSysid ∧ ack.targetComponent = selfCompid
    · exact .inr ⟨ack, ⟨hmsg, hself⟩, if_pos hself⟩
    · exact .inl (if_neg hself)
  · exact .inl rfl
  · exact .inl rfl

variable {selfSysid selfCompid} in
theorem processMessage_of_isAck {s : CmdSender} {msg : MavlinkMessage} {ack : CommandAck}
    (h : IsAck selfSysid selfCompid msg ack) :
    processMessage selfSysid selfCompid s msg = s.handleCmdAck ack := by
  obtain ⟨hmsg, hself⟩ := h
  simp only [processMessage, hmsg, if_pos hself]

/-- A result with an acknowledgement: one that was received, is meant for us and
for the command. -/
def AckFor (received : List MavlinkMessage) (cmd : CommandLong) (nTransmissions : ℕ)
    (result : RunCommandResult) : Prop :=
  ∃ msg ∈ received, ∃ ack, IsAck selfSysid selfCompid msg ack ∧
    result = ⟨some ack, nTransmissions⟩ ∧ ack.command = cmd.command

/-- What every step keeps. -/
structure Inv (w : World) : Prop where
  ledger : Ledger protocol (AckFor selfSysid selfCompid w.received) w.calls w.sender
  atMost : w.sender.running.length ≤ MAX_N_SIMULTANOEUS_COMMANDS

variable {selfSysid selfCompid}

theorem inv_init : Inv selfSysid selfCompid World.init := ⟨ledger_empty, Nat.zero_le _⟩

/-- **One step keeps the invariant.** -/
theorem Inv.step {w w' : World} {e : Event} (hi : Inv selfSysid selfCompid w)
    (h : CmdSender.step selfSysid selfCompid w e = .ok w') : Inv selfSysid selfCompid w' := by
  rcases e with ⟨cmd, retransmitDelay, nWanted, now⟩ | msg | vs
  · obtain ⟨⟨accepted, sender⟩, hcall, hw'⟩ := bind_eq_ok_iff.mp h
    obtain rfl := Except.ok.inj hw'
    obtain ⟨hwanted, ⟨rfl, -, rfl⟩ | ⟨rfl, hroom, rfl⟩⟩ := sendCommandLongAsync_cases hcall
    · exact ⟨hi.ledger.reject rfl, hi.atMost⟩
    · refine ⟨hi.ledger.enqueue rfl hwanted rfl rfl rfl rfl now, ?_⟩
      simpa [Queue.enqueue] using Nat.succ_le_of_lt hroom
  · obtain rfl := Except.ok.inj h
    have hledger : Ledger protocol (AckFor selfSysid selfCompid (w.received ++ [msg])) w.calls
        w.sender :=
      hi.ledger.mono fun _ _ _ hanswer => by
        obtain ⟨m, hm, hack⟩ := hanswer
        exact ⟨m, List.mem_append_left _ hm, hack⟩
    show Inv selfSysid selfCompid
      ⟨(processMessage selfSysid selfCompid w.sender msg).2, w.calls, w.received ++ [msg]⟩
    rcases processMessage_cases selfSysid selfCompid w.sender msg with hmsg | ⟨ack, hack, hmsg⟩
    · rw [hmsg]
      exact ⟨hledger, hi.atMost⟩
    · rw [hmsg]
      refine ⟨hledger.answer fun j hj => ?_, (length_answer_le _ _ _).trans hi.atMost⟩
      exact ⟨msg, by simp, ack, hack, rfl, (eq_of_beq hj).symm⟩
  · obtain rfl := Except.ok.inj h
    exact ⟨hi.ledger.visits vs, (length_visits_le _ _ _).trans hi.atMost⟩

theorem inv_run {events : List Event} {w : World}
    (h : run (CmdSender.step selfSysid selfCompid) World.init events = .ok w) :
    Inv selfSysid selfCompid w :=
  run_invariant (fun _ _ _ hi hstep => hi.step hstep) inv_init h

/-! ### Exactly once -/

/-- After `n` transmissions a command counts them. -/
theorem after_eq {cmd : CommandLong} (h : cmd.confirmation = 0) (n : ℕ) :
    protocol.after cmd n = { cmd with confirmation := UInt8.ofNat n } := by
  induction n with
  | zero => simp [Protocol.after, ← h]
  | succ n ih => rw [Protocol.after, ih, protocol]

theorem transmissions_eq {cmd : CommandLong} (h : cmd.confirmation = 0) (n : ℕ) :
    protocol.transmissions cmd n =
      (List.range n).map fun k => { cmd with confirmation := UInt8.ofNat k } := by
  rw [List.map_eq_flatMap]
  show ((List.range n).flatMap fun k => [protocol.after cmd k]) = _
  simp only [after_eq h]

/-- What was sent for call `c` with the callback `t`: it `n` times, counted by
the confirmation. -/
structure Transmitted (sent : List (ℕ × CommandLong)) (t : ℕ) (c : Call CommandLong) (n : ℕ) :
    Prop where
  pos : 1 ≤ n
  le : n ≤ c.nWanted
  count : (Queue.sentFor sent t).length = n
  confirmation : ∀ k (cmd : CommandLong), (Queue.sentFor sent t)[k]? = some cmd →
    cmd.confirmation.toNat = k ∧ cmd = { c.payload with confirmation := cmd.confirmation }

variable (selfSysid selfCompid)

/-- What the sender promises its callers. -/
structure ExactlyOnce (w : World) : Prop where
  atMost : w.sender.running.length ≤ MAX_N_SIMULTANOEUS_COMMANDS
  rejected : ∀ t c, w.calls[t]? = some c → c.accepted = false →
    t ∉ w.sender.called.map Prod.fst ∧ Queue.sentFor w.sender.sent t = []
  accepted : ∀ t c, IsAccepted w.calls t c →
    (t ∈ w.sender.running.map Job.cb ∧ t ∉ w.sender.called.map Prod.fst) ∨
      (t ∉ w.sender.running.map Job.cb ∧ (w.sender.called.map Prod.fst).count t = 1)
  running : ∀ j ∈ w.sender.running, ∃ c, IsAccepted w.calls j.cb c ∧
    Transmitted w.sender.sent j.cb c j.nTransmissions
  called : ∀ t result, (t, result) ∈ w.sender.called → ∃ c, IsAccepted w.calls t c ∧
    Transmitted w.sender.sent t c result.nTransmissions ∧
    (result.optAck = none → result.nTransmissions = c.nWanted) ∧
    ∀ ack, result.optAck = some ack → ack.command = c.payload.command ∧
      ∃ msg ∈ w.received, IsAck selfSysid selfCompid msg ack

/-- The calls so far were made as callers make them. -/
def AdmissibleCalls (w : World) : Prop :=
  ∀ c ∈ w.calls, c.payload.confirmation = 0 ∧ c.nWanted ≤ 255

variable {selfSysid selfCompid}

theorem transmitted_of_sent {calls : List (Call CommandLong)} {sent : List (ℕ × CommandLong)}
    {t n : ℕ} {c : Call CommandLong} (h : Sent protocol calls sent t c n)
    (hzero : c.payload.confirmation = 0) (hmax : c.nWanted ≤ 255) : Transmitted sent t c n := by
  have hmessages := h.messages
  rw [transmissions_eq hzero] at hmessages
  refine ⟨h.pos, h.le, by simp [hmessages], fun k cmd hk => ?_⟩
  rw [hmessages, List.getElem?_map, Option.map_eq_some_iff] at hk
  obtain ⟨k', hk', rfl⟩ := hk
  obtain ⟨hlt, rfl⟩ := List.getElem?_eq_some_iff.mp hk'
  rw [List.length_range] at hlt
  have hle := h.le
  refine ⟨?_, rfl⟩
  show (UInt8.ofNat _).toNat = k
  rw [List.getElem_range, UInt8.toNat_ofNat', Nat.mod_eq_of_lt]
  omega

/-- The invariant says it all. -/
theorem Inv.exactlyOnce {w : World} (hi : Inv selfSysid selfCompid w) (hcalls : AdmissibleCalls w) :
    ExactlyOnce selfSysid selfCompid w := by
  have hadm : ∀ {t c}, IsAccepted w.calls t c → c.payload.confirmation = 0 ∧ c.nWanted ≤ 255 :=
    fun hc => hcalls _ (List.mem_of_getElem? hc.1)
  refine ⟨hi.atMost, fun t c ht hc => (hi.ledger.rejected ht hc).2,
    fun t c hc => hi.ledger.exactlyOnce hc, fun j hj => ?_, fun t result ht => ?_⟩
  · obtain ⟨c, hc⟩ := hi.ledger.running j hj
    obtain ⟨hzero, hmax⟩ := hadm hc.sent.accepted
    exact ⟨c, hc.sent.accepted, transmitted_of_sent hc.sent hzero hmax⟩
  · obtain ⟨c, n, hsent, hout⟩ := hi.ledger.called _ ht
    obtain ⟨hzero, hmax⟩ := hadm hsent.accepted
    have htransmitted := transmitted_of_sent hsent hzero hmax
    rcases hout with ⟨msg, hmsg, ack, hack, rfl, hcommand⟩ | ⟨rfl, rfl⟩
    · rw [after_eq hzero] at hcommand
      refine ⟨c, hsent.accepted, htransmitted, nofun, fun ack' hack' => ?_⟩
      obtain rfl := Option.some.inj hack'
      exact ⟨hcommand, msg, hmsg, hack⟩
    · exact ⟨c, hsent.accepted, htransmitted, fun _ => rfl, nofun⟩

/-- Calls made as callers make them are answered. -/
theorem step_admissible {w : World} {e : Event} (hcalls : AdmissibleCalls w) (he : e.Admissible) :
    ∃ w', step selfSysid selfCompid w e = .ok w' ∧ AdmissibleCalls w' := by
  rcases e with ⟨cmd, retransmitDelay, nWanted, now⟩ | msg | vs
  · obtain ⟨hzero, hwanted, hmax, hdelay⟩ := he
    obtain ⟨⟨accepted, sender⟩, hcall⟩ :=
      safe_sendCommandLongAsync w.sender cmd w.calls.length now hwanted hdelay
    refine ⟨_, by rw [step, hcall, ok_bind]; rfl, fun c hc => ?_⟩
    rcases List.mem_append.mp hc with hold | hlast
    · exact hcalls c hold
    · obtain rfl := List.mem_singleton.mp hlast
      exact ⟨hzero, hmax⟩
  · exact ⟨_, rfl, hcalls⟩
  · exact ⟨_, rfl, hcalls⟩

/-- **Every accepted call is called back exactly once**, and until then it is
under way: in whatever order calls, messages and timeout passes come, at every
moment. -/
theorem run_exactlyOnce (events : List Event) (hevents : ∀ e ∈ events, e.Admissible) :
    ∃ w, run (step selfSysid selfCompid) World.init events = .ok w ∧
      ExactlyOnce selfSysid selfCompid w := by
  obtain ⟨w, hrun, hcalls⟩ := run_total (fun _ _ => step_admissible)
    (show AdmissibleCalls World.init from nofun) hevents
  exact ⟨w, hrun, (inv_run hrun).exactlyOnce hcalls⟩

/-- The answer of an OpenHD system to a reboot command. -/
def rebootAck (sysid : UInt8) : MavlinkMessage where
  sysid := sysid
  compid := MAV_COMP_ID_ONBOARD_COMPUTER
  payload := .commandAck {
    command := MAV_CMD_PREFLIGHT_REBOOT_SHUTDOWN
    result := 0
    progress := 0
    resultParam2 := 0
    targetSystem := 255
    targetComponent := MAV_COMP_ID_MISSIONPLANNER }

def rebootGnd : CommandLong :=
  createCmdReboot OHD_SYS_ID_GROUND MAV_COMP_ID_ONBOARD_COMPUTER true true

def rebootAir : CommandLong :=
  createCmdReboot OHD_SYS_ID_AIR MAV_COMP_ID_ONBOARD_COMPUTER true true

/-- The ground unit is told to reboot, told so again after 600 ms, and answers;
then the air unit is told to reboot. -/
def reboots : List Event :=
  [.sendCommandLongAsync rebootGnd 500 3 0,
    .timeoutPass [(0, milliseconds 600, milliseconds 600)],
    .message (rebootAck OHD_SYS_ID_GROUND),
    .sendCommandLongAsync rebootAir 500 3 (milliseconds 1000)]

theorem run_exactlyOnce_reboots :
    ∃ w, run (step 255 MAV_COMP_ID_MISSIONPLANNER) World.init reboots = .ok w ∧
      ExactlyOnce 255 MAV_COMP_ID_MISSIONPLANNER w := by
  apply run_exactlyOnce reboots
  simp [reboots, Event.Admissible, rebootGnd, rebootAir, createCmdReboot]

/-! ### Who is called back -/

/-- The command was sent to where the message comes from. -/
def SentTo (cmd : CommandLong) (msg : MavlinkMessage) : Prop :=
  cmd.targetSystem = msg.sysid ∧ cmd.targetComponent = msg.compid

instance (cmd : CommandLong) (msg : MavlinkMessage) : Decidable (SentTo cmd msg) :=
  inferInstanceAs (Decidable (_ ∧ _))

variable (selfSysid selfCompid)

/-- A message that acknowledges a command calls back commands that were sent to
where it comes from, and if none of these has the acknowledged id, it does
nothing. -/
def Attributed (w : World) : Event → Prop
  | .message msg =>
    ∀ ack, IsAck selfSysid selfCompid msg ack →
      (∀ j ∈ w.sender.running, ∀ result,
        (j.cb, result) ∈ (processMessage selfSysid selfCompid w.sender msg).2.called →
          SentTo j.payload msg) ∧
      ((∀ j ∈ w.sender.running, refersTo ack.command j.payload = true → ¬ SentTo j.payload msg) →
        processMessage selfSysid selfCompid w.sender msg = (false, w.sender))
  | _ => True

/-- The oldest running command with the acknowledged id, if there is one, was
sent to where the acknowledgement comes from. -/
def OldestSentTo (w : World) : Event → Prop
  | .message msg =>
    ∀ ack, IsAck selfSysid selfCompid msg ack →
      ∀ j, w.sender.running.find? (fun j => refersTo ack.command j.payload) = some j →
        SentTo j.payload msg
  | _ => True

variable {selfSysid selfCompid}

/-- One acknowledgement. -/
theorem handleCmdAck_attributed_iff {w : World} (hi : Inv selfSysid selfCompid w)
    (msg : MavlinkMessage) (ack : CommandAck) :
    ((∀ j ∈ w.sender.running, ∀ result, (j.cb, result) ∈ (w.sender.handleCmdAck ack).2.called →
        SentTo j.payload msg) ∧
      ((∀ j ∈ w.sender.running, refersTo ack.command j.payload = true → ¬ SentTo j.payload msg) →
        w.sender.handleCmdAck ack = (false, w.sender))) ↔
      ∀ j, w.sender.running.find? (fun j => refersTo ack.command j.payload) = some j →
        SentTo j.payload msg := by
  have hfresh : ∀ j ∈ w.sender.running, ∀ result, (j.cb, result) ∉ w.sender.called :=
    fun j hj result hin => (ticket_unique hi.ledger.nodup hj).1 (List.mem_map_of_mem hin)
  rw [find?_eq_takeFirst, handleCmdAck, Queue.answer]
  rcases hfound : Queue.takeFirst (refersTo ack.command) w.sender.running with - | ⟨j, rest⟩
  · refine iff_of_true ⟨fun j hj result hin => absurd hin (hfresh j hj result), fun _ => rfl⟩ nofun
  · obtain ⟨pre, post, hrunning, -, hmatch, -⟩ := takeFirst_eq_some hfound
    have hj : j ∈ w.sender.running := by simp [hrunning]
    simp only [Option.map_some, Option.some.injEq, forall_eq']
    constructor
    · intro h
      exact h.1 j hj _ (List.mem_append_right _ (List.mem_singleton_self _))
    · intro hsent
      refine ⟨fun j' hj' result hin => ?_, fun hnone => absurd hsent (hnone j hj hmatch)⟩
      rcases List.mem_append.mp hin with hold | hlast
      · exact absurd hold (hfresh j' hj' result)
      · obtain ⟨hcb, -⟩ := Prod.mk.inj (List.mem_singleton.mp hlast)
        obtain rfl := (ticket_unique hi.ledger.nodup hj).2 j' hj' hcb
        exact hsent

/-- **An acknowledgement is attributed to its sender exactly if the oldest
running command with its id was sent there**: the sender of an acknowledgement is
not looked at. -/
theorem attributed_iff (events : List Event) :
    EveryStep (Attributed selfSysid selfCompid) (step selfSysid selfCompid) World.init events ↔
      EveryStep (OldestSentTo selfSysid selfCompid) (step selfSysid selfCompid) World.init
        events := by
  apply everyStep_congr (fun _ _ _ hi hstep => hi.step hstep) ?_ inv_init
  intro w e hi
  rcases e with _ | msg | _
  · exact Iff.rfl
  · apply forall_congr'
    intro ack
    apply forall_congr'
    intro hack
    rw [processMessage_of_isAck hack]
    exact handleCmdAck_attributed_iff hi msg ack
  · exact Iff.rfl

/-- The ground unit answers both of the messages it was sent: its second answer
is taken for that of the air unit. -/
theorem air_called_back_for_ground :
    ¬ EveryStep (Attributed 255 MAV_COMP_ID_MISSIONPLANNER) (step 255 MAV_COMP_ID_MISSIONPLANNER)
      World.init (reboots ++ [.message (rebootAck OHD_SYS_ID_GROUND)]) := by
  intro h
  obtain ⟨hsecond, -⟩ := (everyStep_append_iff.mp h).2 _ rfl
  obtain ⟨-, hnothing⟩ := hsecond _ ⟨rfl, rfl, rfl⟩
  have haccepted := congrArg Prod.fst (hnothing (by decide))
  revert haccepted
  decide

end CmdSender

end QOpenHD
