/-
QOpenHD/FCAction.lean

Changing the flight mode (`FCAction::flight_mode_cmd_async`, `fcaction.cpp`): one
change at a time, which a flag stands for.

The system is the flag together with the queue that all commands share, and the
calls of `send_command_long_async` that were made for a flight mode.  The flag is
set before the command is enqueued.  A callback takes it back, and where the
queue is full nobody is called back.

* `Inv` — the flag is set exactly while a flight mode command is in the queue, and
  there is one at most;
* **`flag_iff`** — a run keeps it exactly if every change that is tried finds room in
  the queue.
-/
import QOpenHD.FCMsgIntervalHandler

namespace QOpenHD

open Checked RetryQueue

namespace FCAction

/-- The flag `m_has_currently_runnning_flight_mode_change`, the queue with the calls that were
made, the numbers of those that were made for a flight mode, and what was added to the HUD. -/
structure World where
  hasCurrentlyRunnningFlightModeChange : Bool
  cmdSender : CmdSender.World
  flightModes : List ℕ
  hud : List HudMessage

def World.init : World := ⟨false, .init, [], []⟩

/-- `add_message_info` -/
def World.addMessageInfo (w : World) (text : String) : World :=
  { w with hud := w.hud ++ [.info text] }

/-! ### The callback -/

/-- What the callback says. -/
def resultText (result : RunCommandResult) : String :=
  match result.optAck with
  | none => "FC not reachable"
  | some _ =>
    if FCMsgIntervalHandler.isAccepted result then "Flight mode success"
    else "Flight mode unsupported"

/-- The callback of a flight mode command; those of others are no concern of the flag. -/
def World.callBack (w : World) (called : ℕ × RunCommandResult) : World :=
  if called.1 ∈ w.flightModes then
    { w.addMessageInfo (resultText called.2) with hasCurrentlyRunnningFlightModeChange := false }
  else w

/-- The queue has changed, and all callbacks that it called are called. -/
def World.after (w : World) (cmdSender : CmdSender.World) : World :=
  (cmdSender.sender.called.drop w.cmdSender.sender.called.length).foldl World.callBack
    { w with cmdSender := cmdSender }

/-! ### The system -/

/-- The command is sent 6 times, 250 ms apart. -/
def flightModeCmdAsync (w : World) (cmdMsg : ℤ) (isAlive : Bool) (telemetry : MavlinkTelemetry)
    (now : ℤ) : Exec World :=
  if cmdMsg < 0 then pure (w.addMessageInfo ("Invalid FM " ++ toString cmdMsg))
  else if !isAlive then pure (w.addMessageInfo "FC not alive")
  else if w.hasCurrentlyRunnningFlightModeChange then
    pure (w.addMessageInfo "Busy, please try again later")
  else do
    let command := telemetry.forFc fun sysId compId => createCmdDoSetFlightMode sysId compId cmdMsg
    let calls := w.cmdSender.calls
    let (result, sender) ←
      w.cmdSender.sender.sendCommandLongAsync command calls.length 250 6 now
    let w : World := {
      hasCurrentlyRunnningFlightModeChange := true
      cmdSender := ⟨sender, calls ++ [⟨command, 6, result⟩], w.cmdSender.received⟩
      flightModes := w.flightModes ++ [calls.length]
      hud := w.hud }
    pure (if result then w else w.addMessageInfo "Failed, please try again later")

inductive Event
  | flightModeCmdAsync (cmdMsg : ℤ) (isAlive : Bool) (telemetry : MavlinkTelemetry) (now : ℤ)
  /-- Somebody else sends a command, a message arrives, or time has passed. -/
  | cmdSender (e : CmdSender.Event)

variable (selfSysid selfCompid : UInt8)

def step (w : World) : Event → Exec World
  | .flightModeCmdAsync cmdMsg isAlive telemetry now =>
    flightModeCmdAsync w cmdMsg isAlive telemetry now
  | .cmdSender e => do
    let cmdSender ← CmdSender.step selfSysid selfCompid w.cmdSender e
    pure (w.after cmdSender)

/-- Who is in the queue. -/
def World.tickets (w : World) : List ℕ := w.cmdSender.sender.running.map Job.cb

/-- A command for a flight mode is in the queue. -/
def World.Running (w : World) : Prop :=
  ∃ j ∈ w.cmdSender.sender.running, j.cb ∈ w.flightModes ∧ j.payload.command = MAV_CMD_DO_SET_MODE

/-- The flag says whether it is. -/
def FlagRight (w : World) : Prop := w.hasCurrentlyRunnningFlightModeChange = true ↔ w.Running

/-- The condition: a change that gets as far as the queue finds room there. -/
def FindsRoom (w : World) : Event → Prop
  | .flightModeCmdAsync cmdMsg isAlive _ _ =>
    0 ≤ cmdMsg → isAlive = true → w.hasCurrentlyRunnningFlightModeChange = false →
      w.cmdSender.sender.running.length < MAX_N_SIMULTANOEUS_COMMANDS
  | .cmdSender _ => True

/-- What every step keeps under the condition. -/
structure Inv (w : World) : Prop where
  cmdSender : CmdSender.Inv selfSysid selfCompid w.cmdSender
  /-- The numbers are those of calls with flight modes. -/
  command : ∀ t ∈ w.flightModes, ∃ c, w.cmdSender.calls[t]? = some c ∧
    c.payload.command = MAV_CMD_DO_SET_MODE
  one : ∀ t ∈ w.tickets, ∀ t' ∈ w.tickets, t ∈ w.flightModes → t' ∈ w.flightModes → t = t'
  flag : w.hasCurrentlyRunnningFlightModeChange = true ↔ ∃ t ∈ w.tickets, t ∈ w.flightModes

variable {selfSysid selfCompid}

theorem inv_init : Inv selfSysid selfCompid World.init where
  cmdSender := CmdSender.inv_init
  command := nofun
  one := nofun
  flag := iff_of_false Bool.false_ne_true fun ⟨_, h, _⟩ => absurd h List.not_mem_nil

/-! ### What is in the queue -/

theorem command_after (cmd : CommandLong) (n : ℕ) :
    (CmdSender.protocol.after cmd n).command = cmd.command := by
  induction n with
  | zero => rfl
  | succ n ih => exact ih

/-- What is in the queue under one of the numbers is a command for a flight mode. -/
theorem Inv.running_iff {w : World} (hi : Inv selfSysid selfCompid w) :
    w.Running ↔ ∃ t ∈ w.tickets, t ∈ w.flightModes := by
  constructor
  · rintro ⟨j, hj, hmine, -⟩
    exact ⟨j.cb, List.mem_map_of_mem hj, hmine⟩
  · rintro ⟨t, ht, hmine⟩
    obtain ⟨j, hj, rfl⟩ := List.mem_map.mp ht
    refine ⟨j, hj, hmine, ?_⟩
    obtain ⟨c, hc⟩ := hi.cmdSender.ledger.running j hj
    obtain ⟨c', hc', hcommand⟩ := hi.command j.cb hmine
    obtain rfl := Option.some.inj (hc.sent.accepted.1.symm.trans hc')
    rw [hc.payload, command_after, hcommand]

theorem Inv.flagRight {w : World} (hi : Inv selfSysid selfCompid w) : FlagRight w :=
  hi.flag.trans hi.running_iff.symm

theorem Inv.lt_length {w : World} (hi : Inv selfSysid selfCompid w) {t : ℕ}
    (h : t ∈ w.flightModes) : t < w.cmdSender.calls.length := by
  obtain ⟨c, hc, -⟩ := hi.command t h
  exact (List.getElem?_eq_some_iff.mp hc).1

/-- What was added to the HUD does not matter. -/
theorem Inv.addMessageInfo {w : World} (hi : Inv selfSysid selfCompid w) (text : String) :
    Inv selfSysid selfCompid (w.addMessageInfo text) :=
  ⟨hi.cmdSender, hi.command, hi.one, hi.flag⟩

/-! ### The steps of the others -/

/-- What a step of the sender does to the queue: it may take in `fresh`, which is a new number,
and calls back those who leave. -/
theorem cmdSender_step_cases {w w' : CmdSender.World} {e : CmdSender.Event}
    (h : CmdSender.step selfSysid selfCompid w e = .ok w') :
    ∃ fresh new more, (∀ t ∈ fresh, t = w.calls.length) ∧
      w'.calls = w.calls ++ more ∧ w'.sender.called = w.sender.called ++ new ∧
      (w.sender.running.map Job.cb ++ fresh).Perm
        (w'.sender.running.map Job.cb ++ new.map Prod.fst) := by
  rcases e with ⟨cmd, retransmitDelay, nWanted, now⟩ | msg | vs
  · obtain ⟨⟨accepted, sender⟩, hcall, hw'⟩ := bind_eq_ok_iff.mp h
    obtain rfl := Except.ok.inj hw'
    obtain ⟨-, ⟨rfl, -, rfl⟩ | ⟨rfl, -, rfl⟩⟩ := CmdSender.sendCommandLongAsync_cases hcall
    · exact ⟨[], [], _, nofun, rfl, (List.append_nil _).symm, List.Perm.refl _⟩
    · refine ⟨[w.calls.length], [], _, fun t ht => List.mem_singleton.mp ht, rfl,
        (List.append_nil _).symm, ?_⟩
      simp [Queue.enqueue, Job.transmitted]
  · obtain rfl := Except.ok.inj h
    have hback : ∃ new, CallsBack w.sender
        (CmdSender.processMessage selfSysid selfCompid w.sender msg).2 new := by
      rcases CmdSender.processMessage_cases selfSysid selfCompid w.sender msg with
        hmsg | ⟨ack, -, hmsg⟩
      · exact ⟨[], by rw [hmsg]; exact .refl _⟩
      · rw [hmsg]
        exact callsBack_answer w.sender _ _
    obtain ⟨new, hnew⟩ := hback
    exact ⟨[], new, [], nofun, (List.append_nil _).symm, hnew.called,
      by rw [List.append_nil]; exact hnew.tickets⟩
  · obtain rfl := Except.ok.inj h
    obtain ⟨new, hnew⟩ := callsBack_visits CmdSender.protocol w.sender vs
    exact ⟨[], new, [], nofun, (List.append_nil _).symm, hnew.called,
      by rw [List.append_nil]; exact hnew.tickets⟩

/-- The callbacks take the flag back if one of them is for a flight mode. -/
theorem foldl_callBack (w : World) (new : List (ℕ × RunCommandResult)) :
    (new.foldl World.callBack w).cmdSender = w.cmdSender ∧
      (new.foldl World.callBack w).flightModes = w.flightModes ∧
      ((new.foldl World.callBack w).hasCurrentlyRunnningFlightModeChange = true ↔
        w.hasCurrentlyRunnningFlightModeChange = true ∧ ∀ e ∈ new, e.1 ∉ w.flightModes) := by
  induction new generalizing w with
  | nil => exact ⟨rfl, rfl, (and_iff_left nofun).symm⟩
  | cons e new ih =>
      obtain ⟨hcmdSender, hmodes, hflag⟩ := ih (w.callBack e)
      rw [List.foldl_cons, List.forall_mem_cons]
      by_cases hmine : e.1 ∈ w.flightModes
      · have hback : w.callBack e = { w.addMessageInfo (resultText e.2) with
            hasCurrentlyRunnningFlightModeChange := false } := if_pos hmine
        rw [hback] at hcmdSender hmodes hflag ⊢
        exact ⟨hcmdSender, hmodes,
          iff_of_false (fun h => Bool.false_ne_true (hflag.mp h).1) fun h => h.2.1 hmine⟩
      · have hback : w.callBack e = w := if_neg hmine
        rw [hback] at hcmdSender hmodes hflag ⊢
        rw [and_iff_right hmine]
        exact ⟨hcmdSender, hmodes, hflag⟩

/-- **A step of the sender keeps the invariant.** -/
theorem Inv.after {w : World} {cmdSender : CmdSender.World} {e : CmdSender.Event}
    (hi : Inv selfSysid selfCompid w)
    (h : CmdSender.step selfSysid selfCompid w.cmdSender e = .ok cmdSender) :
    Inv selfSysid selfCompid (w.after cmdSender) := by
  have hsender := hi.cmdSender.step h
  obtain ⟨fresh, new, more, hfresh, hcalls, hcalled, hperm⟩ := cmdSender_step_cases h
  have hnew : cmdSender.sender.called.drop w.cmdSender.sender.called.length = new := by
    rw [hcalled, List.drop_left]
  obtain ⟨hcmdSender, hmodes, hflag⟩ := foldl_callBack { w with cmdSender := cmdSender } new
  -- a flight mode command that is there now was there before
  have hbefore : ∀ t ∈ cmdSender.sender.running.map Job.cb ++ new.map Prod.fst,
      t ∈ w.flightModes → t ∈ w.tickets := by
    intro t ht hmine
    refine (List.mem_append.mp (hperm.mem_iff.mpr ht)).resolve_right fun hnot => ?_
    have hlt := hi.lt_length hmine
    rw [hfresh t hnot] at hlt
    exact Nat.lt_irrefl _ hlt
  unfold World.after
  rw [hnew]
  refine ⟨?_, ?_, ?_, ?_⟩
  · rw [hcmdSender]
    exact hsender
  · rw [hcmdSender, hmodes]
    intro t ht
    obtain ⟨c, hc, hcommand⟩ := hi.command t ht
    refine ⟨c, ?_, hcommand⟩
    show cmdSender.calls[t]? = some c
    rw [hcalls, List.getElem?_append_left (hi.lt_length ht), hc]
  · rw [World.tickets, hcmdSender, hmodes]
    intro t ht t' ht' hmine hmine'
    exact hi.one t (hbefore t (List.mem_append_left _ ht) hmine) t'
      (hbefore t' (List.mem_append_left _ ht') hmine') hmine hmine'
  · rw [hflag, World.tickets, hcmdSender, hmodes]
    constructor
    · rintro ⟨hset, hnone⟩
      obtain ⟨t, ht, hmine⟩ := hi.flag.mp hset
      rcases List.mem_append.mp (hperm.mem_iff.mp (List.mem_append_left _ ht)) with hstays | hleft
      · exact ⟨t, hstays, hmine⟩
      · obtain ⟨e, he, rfl⟩ := List.mem_map.mp hleft
        exact absurd hmine (hnone e he)
    · rintro ⟨t, ht, hmine⟩
      have hold := hbefore t (List.mem_append_left _ ht) hmine
      refine ⟨hi.flag.mpr ⟨t, hold, hmine⟩, fun e he hmine' => ?_⟩
      -- nobody is in the queue and called back
      have hleft : e.1 ∈ new.map Prod.fst := List.mem_map_of_mem he
      have hsame := hi.one t hold e.1 (hbefore e.1 (List.mem_append_right _ hleft) hmine') hmine
        hmine'
      have hnodup : (cmdSender.sender.running.map Job.cb ++
          cmdSender.sender.called.map Prod.fst).Nodup := hsender.ledger.nodup
      rw [hcalled, List.map_append] at hnodup
      exact (List.nodup_append.mp hnodup).2.2 t ht e.1 (List.mem_append_right _ hleft) hsame

/-! ### A change of the flight mode -/

/-- A call gets as far as the queue. -/
def Starts (w : World) (cmdMsg : ℤ) (isAlive : Bool) : Prop :=
  0 ≤ cmdMsg ∧ isAlive = true ∧ w.hasCurrentlyRunnningFlightModeChange = false

/-- What a call does: it says something, or it sets the flag and tries to enqueue a command. -/
theorem flightModeCmdAsync_cases {w w' : World} {cmdMsg : ℤ} {isAlive : Bool}
    {telemetry : MavlinkTelemetry} {now : ℤ}
    (h : flightModeCmdAsync w cmdMsg isAlive telemetry now = .ok w') :
    (¬ Starts w cmdMsg isAlive ∧ ∃ text, w' = w.addMessageInfo text) ∨
      Starts w cmdMsg isAlive ∧
        ∃ command result sender text, command.command = MAV_CMD_DO_SET_MODE ∧
          w.cmdSender.sender.sendCommandLongAsync command w.cmdSender.calls.length 250 6 now =
            .ok (result, sender) ∧
          w' = ⟨true, ⟨sender, w.cmdSender.calls ++ [⟨command, 6, result⟩], w.cmdSender.received⟩,
            w.flightModes ++ [w.cmdSender.calls.length], w.hud ++ text⟩ := by
  unfold flightModeCmdAsync at h
  split at h
  · rename_i hinvalid
    exact .inl ⟨fun hstart => absurd hstart.1 (Int.not_le.mpr hinvalid), _,
      (Except.ok.inj h).symm⟩
  rename_i hvalid
  split at h
  · rename_i hdead
    exact .inl ⟨fun hstart => by simp [hstart.2.1] at hdead, _, (Except.ok.inj h).symm⟩
  rename_i halive
  split at h
  · rename_i hbusy
    exact .inl ⟨fun hstart => by simp [hstart.2.2] at hbusy, _, (Except.ok.inj h).symm⟩
  rename_i hfree
  obtain ⟨⟨result, sender⟩, hsend, h⟩ := bind_eq_ok_iff.mp h
  obtain rfl := Except.ok.inj h
  refine .inr ⟨⟨Int.not_lt.mp hvalid, by simpa using halive, by simpa using hfree⟩, ?_⟩
  cases result with
  | true => exact ⟨_, _, _, [], rfl, hsend, by rw [List.append_nil]; rfl⟩
  | false => exact ⟨_, _, _, _, rfl, hsend, rfl⟩

/-- A call returns: what `send_command_long_async` asserts is met. -/
theorem safe_flightModeCmdAsync (w : World) (cmdMsg : ℤ) (isAlive : Bool)
    (telemetry : MavlinkTelemetry) (now : ℤ) :
    Safe (flightModeCmdAsync w cmdMsg isAlive telemetry now) := by
  unfold flightModeCmdAsync
  split_ifs
  · exact safe_pure _
  · exact safe_pure _
  · exact safe_pure _
  · exact safe_bind_pure_iff.mpr
      (w.cmdSender.sender.safe_sendCommandLongAsync _ _ now (by decide) (by decide))

/-- **A change that finds room keeps the invariant**: its command is the only one there. -/
theorem Inv.enqueued {w : World} (hi : Inv selfSysid selfCompid w)
    (hfree : w.hasCurrentlyRunnningFlightModeChange = false) {command : CommandLong}
    (hcommand : command.command = MAV_CMD_DO_SET_MODE) {sender : CmdSender} {now : ℤ}
    (hsend : w.cmdSender.sender.sendCommandLongAsync command w.cmdSender.calls.length 250 6 now =
      .ok (true, sender)) (hud : List HudMessage) :
    Inv selfSysid selfCompid
      ⟨true, ⟨sender, w.cmdSender.calls ++ [⟨command, 6, true⟩], w.cmdSender.received⟩,
        w.flightModes ++ [w.cmdSender.calls.length], hud⟩ := by
  have hstep : CmdSender.step selfSysid selfCompid w.cmdSender
      (.sendCommandLongAsync command 250 6 now) =
        .ok ⟨sender, w.cmdSender.calls ++ [⟨command, 6, true⟩], w.cmdSender.received⟩ := by
    rw [CmdSender.step, hsend]
    rfl
  -- no number but the new one is both in the queue and that of a flight mode
  have hnone : ∀ t ∈ w.tickets, t ∉ w.flightModes := by
    intro t ht hmine
    have hset := hi.flag.mpr ⟨t, ht, hmine⟩
    rw [hfree] at hset
    exact Bool.false_ne_true hset
  have hqueue : sender.running.map Job.cb = w.tickets ++ [w.cmdSender.calls.length] := by
    obtain ⟨-, ⟨h, -⟩ | ⟨-, -, rfl⟩⟩ := CmdSender.sendCommandLongAsync_cases hsend
    · cases h
    · simp [World.tickets, Queue.enqueue, Job.transmitted]
  have hold : ∀ t ∈ w.tickets, t < w.cmdSender.calls.length := fun t ht =>
    hi.cmdSender.ledger.ticket_lt (List.mem_append_left _ ht)
  have honly : ∀ t ∈ sender.running.map Job.cb, t ∈ w.flightModes ++ [w.cmdSender.calls.length] →
      t = w.cmdSender.calls.length := by
    intro t ht hmine
    rw [hqueue, List.mem_append, List.mem_singleton] at ht
    rcases ht with ht | rfl
    · rw [List.mem_append, List.mem_singleton] at hmine
      exact hmine.resolve_left (hnone t ht)
    · rfl
  refine ⟨hi.cmdSender.step hstep, ?_, ?_, ?_⟩
  · intro t ht
    rcases List.mem_append.mp ht with ht | ht
    · obtain ⟨c, hc, hmode⟩ := hi.command t ht
      exact ⟨c, by rw [← hc]; exact List.getElem?_append_left (hi.lt_length ht), hmode⟩
    · obtain rfl := List.mem_singleton.mp ht
      exact ⟨_, List.getElem?_concat_length, hcommand⟩
  · intro t ht t' ht' hmine hmine'
    exact (honly t ht hmine).trans (honly t' ht' hmine').symm
  · refine iff_of_true rfl ⟨w.cmdSender.calls.length, ?_, ?_⟩
    · show w.cmdSender.calls.length ∈ sender.running.map Job.cb
      rw [hqueue]
      exact List.mem_append_right _ (List.mem_singleton_self _)
    · exact List.mem_append_right _ (List.mem_singleton_self _)

/-- **A change that finds no room leaves the flag set**, and nobody will take it back. -/
theorem Inv.not_flagRight {w : World} (hi : Inv selfSysid selfCompid w)
    (hfree : w.hasCurrentlyRunnningFlightModeChange = false) {command : CommandLong}
    {sender : CmdSender} {now : ℤ}
    (hsend : w.cmdSender.sender.sendCommandLongAsync command w.cmdSender.calls.length 250 6 now =
      .ok (false, sender)) (hud : List HudMessage) :
    ¬ FlagRight ⟨true, ⟨sender, w.cmdSender.calls ++ [⟨command, 6, false⟩], w.cmdSender.received⟩,
      w.flightModes ++ [w.cmdSender.calls.length], hud⟩ := by
  obtain ⟨-, ⟨-, -, rfl⟩ | ⟨h, -⟩⟩ := CmdSender.sendCommandLongAsync_cases hsend
  · intro hright
    obtain ⟨j, hj, hmine, -⟩ := hright.mp rfl
    have hin : j.cb ∈ w.tickets := List.mem_map_of_mem hj
    rcases List.mem_append.mp hmine with hmine | hnew
    · have hset := hi.flag.mpr ⟨j.cb, hin, hmine⟩
      rw [hfree] at hset
      exact Bool.false_ne_true hset
    · have hlt := hi.cmdSender.ledger.ticket_lt (List.mem_append_left _ hin)
      rw [List.mem_singleton.mp hnew] at hlt
      exact Nat.lt_irrefl _ hlt
  · cases h

/-! ### The whole run -/

/-- **A step that meets the condition keeps the invariant.** -/
theorem Inv.step {w w' : World} {e : Event} (hi : Inv selfSysid selfCompid w)
    (hroom : FindsRoom w e) (h : step selfSysid selfCompid w e = .ok w') :
    Inv selfSysid selfCompid w' := by
  rcases e with ⟨cmdMsg, isAlive, telemetry, now⟩ | e
  · rcases flightModeCmdAsync_cases h with ⟨-, text, rfl⟩ |
      ⟨⟨hvalid, halive, hfree⟩, command, result, sender, text, hcommand, hsend, rfl⟩
    · exact hi.addMessageInfo text
    · obtain rfl := (CmdSender.accepted_iff hsend).mpr (hroom hvalid halive hfree)
      exact hi.enqueued hfree hcommand hsend _
  · obtain ⟨cmdSender, hstep, h⟩ := bind_eq_ok_iff.mp h
    obtain rfl := Except.ok.inj h
    exact hi.after hstep

/-- A step leaves the flag right exactly if it meets the condition. -/
theorem Inv.flagRight_iff {w : World} (hi : Inv selfSysid selfCompid w) (e : Event) :
    (∀ w', FCAction.step selfSysid selfCompid w e = .ok w' → FlagRight w') ↔ FindsRoom w e := by
  constructor
  · intro hright
    rcases e with ⟨cmdMsg, isAlive, telemetry, now⟩ | e
    · intro hvalid halive hfree
      obtain ⟨w', h⟩ := safe_flightModeCmdAsync w cmdMsg isAlive telemetry now
      rcases flightModeCmdAsync_cases h with ⟨hnot, -⟩ |
        ⟨-, command, result, sender, text, -, hsend, rfl⟩
      · exact absurd ⟨hvalid, halive, hfree⟩ hnot
      · cases result with
        | true => exact (CmdSender.accepted_iff hsend).mp rfl
        | false => exact absurd (hright _ h) (hi.not_flagRight hfree hsend _)
    · trivial
  · exact fun hroom w' h => (hi.step hroom h).flagRight

/-- **The flag is set after every step exactly while a flight mode command is in the queue, if and
only if every change that gets as far as the queue finds room there.** -/
theorem flag_iff (selfSysid selfCompid : UInt8) (events : List Event) :
    EveryStep (fun w e => ∀ w', step selfSysid selfCompid w e = .ok w' → FlagRight w')
        (step selfSysid selfCompid) World.init events ↔
      EveryStep FindsRoom (step selfSysid selfCompid) World.init events :=
  everyStep_congr_of_keeps (fun _ e hi => hi.flagRight_iff e)
    (fun _ _ _ hi hroom h => hi.step hroom h) inv_init events

/-- Another user of the queue. -/
def reboot : Event := .cmdSender (.sendCommandLongAsync CmdSender.rebootAir 500 3 0)

/-- Others have filled the queue when the user changes the flight mode: the flag stays set. -/
theorem not_flagRight_full :
    ¬ EveryStep (fun w e => ∀ w', step 255 MAV_COMP_ID_MISSIONPLANNER w e = .ok w' → FlagRight w')
      (step 255 MAV_COMP_ID_MISSIONPLANNER) World.init
      (List.replicate 5 reboot ++ [.flightModeCmdAsync 4 true ⟨true, 1, 1⟩ 1]) := by
  intro h
  obtain ⟨hchange, -⟩ := (everyStep_append_iff.mp h).2 _ rfl
  obtain ⟨j, hj, hmine, -⟩ := (hchange _ rfl).mp rfl
  have hthere : j.cb ∈ [0, 1, 2, 3, 4] := List.mem_map_of_mem hj
  have hnew : j.cb ∈ [5] := hmine
  rw [List.mem_singleton.mp hnew] at hthere
  exact absurd hthere (by decide)

end FCAction

end QOpenHD
