/-
QOpenHD/XParamServer.lean

Setting the parameters of one server over a channel that loses and delays
messages.

The server applies every `PARAM_EXT_SET` it receives and acknowledges it with
the id, the type and the value it has set.  A message is on its way until it is
delivered or lost; one may overtake another.

`find_remove_running_command_threadsafe` does not compare values, so an
acknowledgement can be taken for that of another set of the same parameter.

* **`ownValue_iff_fresh`** — sets are completed by acknowledgements of their own
  values, whatever becomes of the messages, exactly as long as no parameter is
  set while another value for it is queued or on its way.
-/
import QOpenHD.XParam

namespace QOpenHD

open Checked RetryQueue

/-! ### Values for parameters -/

/-- A value for a parameter of the server. -/
structure Assignment where
  paramId : List UInt8
  paramType : UInt8
  paramValue : Vector UInt8 128
  deriving DecidableEq

def ParamExtSet.assignment (cmd : ParamExtSet) : Assignment :=
  ⟨getParamId cmd.paramId, cmd.paramType, cmd.paramValue⟩

def ParamExtAck.assignment (ack : ParamExtAck) : Assignment :=
  ⟨getParamId ack.paramId, ack.paramType, ack.paramValue⟩

/-- The same value, if it is for the same parameter. -/
def Agrees (a b : Assignment) : Prop :=
  a.paramId = b.paramId → a.paramType = b.paramType → a.paramValue = b.paramValue

instance (a b : Assignment) : Decidable (Agrees a b) := inferInstanceAs (Decidable (_ → _))

theorem Agrees.refl (a : Assignment) : Agrees a a := fun _ _ => rfl

theorem Agrees.symm {a b : Assignment} (h : Agrees a b) : Agrees b a :=
  fun hid htype => (h hid.symm htype.symm).symm

/-! ### The system -/

namespace XParamServer

/-- `XParam`, and the messages that are on their way. -/
structure World where
  xparam : XParam.World
  toServer : List ParamExtSet
  toXParam : List ParamExtAck

def World.init : World := ⟨XParam.World.init, [], []⟩

inductive Event
  | trySetParamAsync (paramId : Vector UInt8 16) (paramType : UInt8) (paramValue : Vector UInt8 128)
      (retransmitDelay nWantedRetransmissions : ℕ) (now : ℤ)
  | timeoutPassSet (vs : List (ℕ × ℤ × ℤ))
  | serverReceives (i : ℕ)
  | xparamReceives (i : ℕ)
  | losesSet (i : ℕ)
  | losesAck (i : ℕ)
  deriving DecidableEq

variable (serverSysid serverCompid : UInt8)

def setCommand (paramId : Vector UInt8 16) (paramType : UInt8) (paramValue : Vector UInt8 128) :
    ParamExtSet :=
  ⟨serverSysid, serverCompid, paramId, paramValue, paramType⟩

/-- What `XParam` does, and the messages it sends. -/
def xparamStep (w : World) (e : XParam.Event) : Exec World := do
  let xparam ← XParam.step w.xparam e
  let sent := xparam.sets.sent.drop w.xparam.sets.sent.length
  pure { w with xparam := xparam, toServer := w.toServer ++ sent.map Prod.snd }

def step (w : World) : Event → Exec World
  | .trySetParamAsync paramId paramType paramValue retransmitDelay nWanted now =>
    xparamStep w (.trySetParamAsync
      (setCommand serverSysid serverCompid paramId paramType paramValue) retransmitDelay nWanted
      now)
  | .timeoutPassSet vs => xparamStep w (.timeoutPassSet vs)
  | .serverReceives i =>
    match w.toServer[i]? with
    | some cmd =>
      .ok { w with toServer := w.toServer.eraseIdx i, toXParam := w.toXParam ++ [acknowledge cmd] }
    | none => .ok w
  | .xparamReceives i =>
    match w.toXParam[i]? with
    | some ack =>
      xparamStep { w with toXParam := w.toXParam.eraseIdx i }
        (.paramExtAck ack serverSysid serverCompid)
    | none => .ok w
  | .losesSet i => .ok { w with toServer := w.toServer.eraseIdx i }
  | .losesAck i => .ok { w with toXParam := w.toXParam.eraseIdx i }

/-- Every set that was completed as accepted, was so by an acknowledgement of
its value. -/
def OwnValue (w : World) : Prop :=
  ∀ t result, (t, result) ∈ w.xparam.sets.called → result.isAccepted = true →
    ∃ c ack, IsAccepted w.xparam.calls t c ∧ result.response = some ack ∧
      ack.paramValue = c.payload.paramValue

/-- The values that are queued or on their way. -/
def World.about (w : World) : List Assignment :=
  w.xparam.sets.running.map (fun j => j.payload.assignment) ++
    (w.toServer.map ParamExtSet.assignment ++ w.toXParam.map ParamExtAck.assignment)

/-- `XParam` accepts a set. -/
def Accepts (s : ParamSets) (retransmitDelay nWanted : ℕ) : Prop :=
  1 ≤ nWanted ∧ 10 ≤ retransmitDelay ∧ s.running.length < ParamSets.MAX_N_SIMULTANOEUS_COMMANDS

/-- No other value for the parameter is queued or on its way when it is set. -/
def Fresh (w : World) : Event → Prop
  | .trySetParamAsync paramId paramType paramValue retransmitDelay nWanted _ =>
    Accepts w.xparam.sets retransmitDelay nWanted →
      ∀ a ∈ w.about, Agrees a ⟨getParamId paramId, paramType, paramValue⟩
  | _ => True

/-! ### One step -/

/-- What every step keeps: a set that is queued is the only value about for its
parameter. -/
structure Inv (w : World) : Prop where
  xparam : XParam.Inv w.xparam
  target : ∀ j ∈ w.xparam.sets.running,
    j.payload.targetSystem = serverSysid ∧ j.payload.targetComponent = serverCompid
  agrees : ∀ j ∈ w.xparam.sets.running, ∀ a ∈ w.about, Agrees a j.payload.assignment
  accepted : ∀ ack ∈ w.toXParam, ack.paramResult = PARAM_ACK_ACCEPTED
  ownValue : OwnValue w

variable {serverSysid serverCompid}

theorem inv_init : Inv serverSysid serverCompid World.init :=
  ⟨XParam.inv_init, nofun, nofun, nofun, nofun⟩

theorem mem_about {w : World} {a : Assignment} :
    a ∈ w.about ↔ (∃ j ∈ w.xparam.sets.running, j.payload.assignment = a) ∨
      (∃ cmd ∈ w.toServer, cmd.assignment = a) ∨ ∃ ack ∈ w.toXParam, ack.assignment = a := by
  simp only [World.about, List.mem_append, List.mem_map]

/-- Nothing new is about. -/
theorem Inv.of_subset {w w' : World} (hi : Inv serverSysid serverCompid w)
    (hx : XParam.Inv w'.xparam)
    (hrunning : ∀ j' ∈ w'.xparam.sets.running, ∃ j ∈ w.xparam.sets.running, j.payload = j'.payload)
    (htoServer : ∀ cmd ∈ w'.toServer, cmd.assignment ∈ w.about)
    (htoXParam : ∀ ack ∈ w'.toXParam, ack.assignment ∈ w.about ∧
      ack.paramResult = PARAM_ACK_ACCEPTED) (hown : OwnValue w') :
    Inv serverSysid serverCompid w' := by
  refine ⟨hx, fun j' hj' => ?_, fun j' hj' a ha => ?_, fun ack hack => (htoXParam ack hack).2,
    hown⟩
  · obtain ⟨j, hj, hpayload⟩ := hrunning j' hj'
    exact hpayload ▸ hi.target j hj
  · obtain ⟨j, hj, hpayload⟩ := hrunning j' hj'
    rw [← hpayload]
    apply hi.agrees j hj a
    rcases mem_about.mp ha with ⟨j₁', hj₁', rfl⟩ | ⟨cmd, hcmd, rfl⟩ | ⟨ack, hack, rfl⟩
    · obtain ⟨j₁, hj₁, hpayload₁⟩ := hrunning j₁' hj₁'
      exact mem_about.mpr (.inl ⟨j₁, hj₁, by rw [hpayload₁]⟩)
    · exact htoServer cmd hcmd
    · exact (htoXParam ack hack).1

theorem mem_about_of_toServer {w : World} {cmd : ParamExtSet} (h : cmd ∈ w.toServer) :
    cmd.assignment ∈ w.about :=
  mem_about.mpr (.inr (.inl ⟨cmd, h, rfl⟩))

theorem mem_about_of_toXParam {w : World} {ack : ParamExtAck} (h : ack ∈ w.toXParam) :
    ack.assignment ∈ w.about :=
  mem_about.mpr (.inr (.inr ⟨ack, h, rfl⟩))

theorem Inv.toXParam {w : World} (hi : Inv serverSysid serverCompid w) {ack : ParamExtAck}
    (h : ack ∈ w.toXParam) :
    ack.assignment ∈ w.about ∧ ack.paramResult = PARAM_ACK_ACCEPTED :=
  ⟨mem_about_of_toXParam h, hi.accepted ack h⟩

/-- What the step of `XParam` sends is on its way. -/
theorem xparamStep_eq {w : World} {e : XParam.Event} {x : XParam.World}
    (h : XParam.step w.xparam e = .ok x) {more : List (ℕ × ParamExtSet)}
    (hmore : x.sets.sent = w.xparam.sets.sent ++ more) :
    xparamStep w e = .ok ⟨x, w.toServer ++ more.map Prod.snd, w.toXParam⟩ := by
  rw [xparamStep, h, ok_bind, hmore, List.drop_left]
  rfl

/-- What `XParam` promises is kept. -/
theorem xparamInv_step {w w' : World} {e : XParam.Event} (hx : XParam.Inv w.xparam)
    (h : xparamStep w e = .ok w') : XParam.Inv w'.xparam := by
  obtain ⟨x, hx', hw'⟩ := bind_eq_ok_iff.mp h
  rw [← Except.ok.inj hw']
  exact hx.step hx'

/-- A set has been accepted: it is queued last, and its message is the last on its
way. -/
structure Queued (w w₁ : World) (j₀ : Job ParamExtSet) : Prop where
  running : w₁.xparam.sets.running = w.xparam.sets.running ++ [j₀]
  toServer : w₁.toServer = w.toServer ++ [j₀.payload]
  toXParam : w₁.toXParam = w.toXParam

/-- A call of `try_set_param_async`. -/
theorem trySetParamAsync_cases {w w' : World} {cmd : ParamExtSet} {retransmitDelay nWanted : ℕ}
    {now : ℤ} (h : xparamStep w (.trySetParamAsync cmd retransmitDelay nWanted now) = .ok w') :
    ∃ accepted, (accepted = true ↔ Accepts w.xparam.sets retransmitDelay nWanted) ∧
      w'.xparam.calls = w.xparam.calls ++ [⟨cmd, nWanted, accepted⟩] ∧
      w'.xparam.sets.called = w.xparam.sets.called ∧
      (accepted = false → w'.xparam.sets = w.xparam.sets ∧ w'.toServer = w.toServer ∧
        w'.toXParam = w.toXParam) ∧
      (accepted = true → ∃ j, Queued w w' j ∧ j.payload = cmd) := by
  obtain ⟨x, hx, hw'⟩ := bind_eq_ok_iff.mp h
  obtain ⟨⟨accepted, sets⟩, hcall, hx⟩ := bind_eq_ok_iff.mp hx
  obtain rfl := Except.ok.inj hx
  obtain rfl := Except.ok.inj hw'
  obtain ⟨hwanted, hdelay⟩ := (ParamSets.safe_trySetParamAsync_iff _ _ _ _ _ _).mp ⟨_, hcall⟩
  refine ⟨accepted, ?_⟩
  obtain ⟨-, ⟨rfl, hfull, rfl⟩ | ⟨rfl, hroom, rfl⟩⟩ := ParamSets.trySetParamAsync_cases hcall
  · refine ⟨⟨nofun, fun haccepts => absurd haccepts.2.2 (Nat.not_lt.mpr hfull)⟩, rfl, rfl,
      fun _ => ⟨rfl, ?_, rfl⟩, nofun⟩
    simp
  · refine ⟨⟨fun _ => ⟨hwanted, hdelay, hroom⟩, fun _ => rfl⟩, rfl, rfl, nofun, fun _ => ?_⟩
    refine ⟨_, ⟨rfl, ?_, rfl⟩, rfl⟩
    simp [Queue.enqueue, Job.transmitted, Job.messages, ParamSets.protocol]

section

variable {w w₁ : World} {j₀ : Job ParamExtSet}

/-- The new value is about twice: queued, and on its way to the server. -/
theorem Queued.about (h : Queued w w₁ j₀) :
    ∀ a ∈ w₁.about, a ∈ w.about ∨ a = j₀.payload.assignment := by
  intro a ha
  rcases mem_about.mp ha with ⟨j, hj, rfl⟩ | ⟨cmd, hcmd, rfl⟩ | ⟨ack, hack, rfl⟩
  · rw [h.running] at hj
    rcases List.mem_append.mp hj with hold | hlast
    · exact .inl (mem_about.mpr (.inl ⟨j, hold, rfl⟩))
    · exact .inr (by rw [List.mem_singleton.mp hlast])
  · rw [h.toServer] at hcmd
    rcases List.mem_append.mp hcmd with hold | hlast
    · exact .inl (mem_about_of_toServer hold)
    · exact .inr (by rw [List.mem_singleton.mp hlast])
  · exact .inl (mem_about_of_toXParam (h.toXParam ▸ hack))

/-- A fresh value is queued. -/
theorem Inv.queued (hi : Inv serverSysid serverCompid w) (h : Queued w w₁ j₀)
    (hx : XParam.Inv w₁.xparam)
    (htarget : j₀.payload.targetSystem = serverSysid ∧ j₀.payload.targetComponent = serverCompid)
    (hnew : ∀ a ∈ w.about, Agrees a j₀.payload.assignment) (hown : OwnValue w₁) :
    Inv serverSysid serverCompid w₁ := by
  refine ⟨hx, fun j hj => ?_, fun j hj a ha => ?_,
    fun ack hack => hi.accepted ack (h.toXParam ▸ hack), hown⟩
  · rw [h.running] at hj
    rcases List.mem_append.mp hj with hold | hlast
    · exact hi.target j hold
    · rw [List.mem_singleton.mp hlast]
      exact htarget
  · rw [h.running] at hj
    rcases List.mem_append.mp hj with hold | hlast
    · rcases h.about a ha with hold' | rfl
      · exact hi.agrees j hold a hold'
      · exact (hnew _ (mem_about.mpr (.inl ⟨j, hold, rfl⟩))).symm
    · rw [List.mem_singleton.mp hlast]
      rcases h.about a ha with hold' | rfl
      · exact hnew a hold'
      · exact Agrees.refl _

end

theorem Inv.trySetParamAsync {w w' : World} {paramId : Vector UInt8 16} {paramType : UInt8}
    {paramValue : Vector UInt8 128} {retransmitDelay nWanted : ℕ} {now : ℤ}
    (hi : Inv serverSysid serverCompid w)
    (hfresh : Fresh w (.trySetParamAsync paramId paramType paramValue retransmitDelay nWanted now))
    (h : XParamServer.step serverSysid serverCompid w
      (.trySetParamAsync paramId paramType paramValue retransmitDelay nWanted now) = .ok w') :
    Inv serverSysid serverCompid w' := by
  have hx := xparamInv_step hi.xparam h
  obtain ⟨accepted, haccepts, hcalls, hcalled, hrejected, haccepted⟩ := trySetParamAsync_cases h
  have hown : OwnValue w' := by
    intro t result hresult haccept
    obtain ⟨c, ack, hc, hack, hvalue⟩ := hi.ownValue t result (hcalled ▸ hresult) haccept
    exact ⟨c, ack, hcalls ▸ hc.append _, hack, hvalue⟩
  -- refused, or queued
  rcases accepted with - | -
  · obtain ⟨hsets, htoServer, htoXParam⟩ := hrejected rfl
    refine hi.of_subset hx (fun j hj => ⟨j, hsets ▸ hj, rfl⟩) (fun cmd hcmd => ?_)
      (fun ack hack => ?_) hown
    · exact mem_about_of_toServer (htoServer ▸ hcmd)
    · exact hi.toXParam (htoXParam ▸ hack)
  · obtain ⟨j₀, hqueued, hj₀⟩ := haccepted rfl
    have hnew := hfresh (haccepts.mp rfl)
    refine hi.queued hqueued hx ?_ ?_ hown
    · rw [hj₀]
      exact ⟨rfl, rfl⟩
    · rw [hj₀]
      exact hnew

theorem Inv.timeoutPassSet {w w' : World} {vs : List (ℕ × ℤ × ℤ)}
    (hi : Inv serverSysid serverCompid w) (h : xparamStep w (.timeoutPassSet vs) = .ok w') :
    Inv serverSysid serverCompid w' := by
  have hnext : ∀ p n, ParamSets.protocol.next p n = p := fun _ _ => rfl
  obtain ⟨more, hsent, hmore⟩ := sent_visits hnext w.xparam.sets vs
  rw [xparamStep_eq rfl hsent] at h
  obtain rfl := Except.ok.inj h
  refine hi.of_subset (hi.xparam.step (e := .timeoutPassSet vs) rfl) ?_ (fun cmd hcmd => ?_)
    (fun ack hack => hi.toXParam hack) fun t result hresult haccept => ?_
  · intro j' hj'
    obtain ⟨j, hj, -, hpayload⟩ := running_visits hnext w.xparam.sets vs j' hj'
    exact ⟨j, hj, hpayload⟩
  · rcases List.mem_append.mp hcmd with hold | hnew
    · exact mem_about_of_toServer hold
    · obtain ⟨e, he, rfl⟩ := List.mem_map.mp hnew
      obtain ⟨j, hj, -, hemit⟩ := hmore e he
      rw [List.mem_singleton.mp hemit]
      exact mem_about.mpr (.inl ⟨j, hj, rfl⟩)
  · rcases called_visits w.xparam.sets vs _ hresult with hold | ⟨n, hexpired⟩
    · exact hi.ownValue t result hold haccept
    · obtain rfl : result = ⟨none, n⟩ := hexpired
      cases haccept

/-- An acknowledgement sends nothing. -/
theorem xparamStep_paramExtAck (w : World) (ack : ParamExtAck) (senderSysid senderCompid : UInt8) :
    xparamStep w (.paramExtAck ack senderSysid senderCompid) =
      .ok { w with xparam := { w.xparam with
        sets := (w.xparam.sets.handleParamExtAck ack senderSysid senderCompid).2 } } := by
  have hsent : (w.xparam.sets.handleParamExtAck ack senderSysid senderCompid).2.sent =
      w.xparam.sets.sent ++ [] := by
    rw [List.append_nil]
    rcases ParamSets.handleParamExtAck_cases w.xparam.sets ack senderSysid senderCompid with
      ⟨-, heq⟩ | ⟨pre, j, post, -, -, -, heq⟩
    · rw [heq]
    · rw [heq]
  rw [xparamStep_eq rfl hsent, List.map_nil, List.append_nil]

theorem step_serverReceives {w : World} {i : ℕ} {cmd : ParamExtSet}
    (h : w.toServer[i]? = some cmd) :
    step serverSysid serverCompid w (.serverReceives i) = .ok { w with
      toServer := w.toServer.eraseIdx i
      toXParam := w.toXParam ++ [acknowledge cmd] } := by
  simp only [step, h]

theorem step_xparamReceives {w : World} {i : ℕ} {ack : ParamExtAck}
    (h : w.toXParam[i]? = some ack) :
    step serverSysid serverCompid w (.xparamReceives i) = .ok { w with
      xparam := { w.xparam with
        sets := (w.xparam.sets.handleParamExtAck ack serverSysid serverCompid).2 }
      toXParam := w.toXParam.eraseIdx i } := by
  simp only [step, h, xparamStep_paramExtAck]

/-- An acknowledgement that was on its way. -/
theorem Inv.paramExtAck {w : World} {i : ℕ} {ack : ParamExtAck}
    (hi : Inv serverSysid serverCompid w) (hack : w.toXParam[i]? = some ack) :
    Inv serverSysid serverCompid { w with
      xparam := { w.xparam with
        sets := (w.xparam.sets.handleParamExtAck ack serverSysid serverCompid).2 }
      toXParam := w.toXParam.eraseIdx i } := by
  have hxinv := hi.xparam.step (e := .paramExtAck ack serverSysid serverCompid) rfl
  have herase : ∀ a ∈ w.toXParam.eraseIdx i, a.assignment ∈ w.about ∧
      a.paramResult = PARAM_ACK_ACCEPTED := fun a ha => hi.toXParam (List.mem_of_mem_eraseIdx ha)
  rcases ParamSets.handleParamExtAck_cases w.xparam.sets ack serverSysid serverCompid with
    ⟨-, heq⟩ | ⟨pre, j, post, hrunning, hj, -, heq⟩
  · simp only [heq]
    exact hi.of_subset hi.xparam (fun j hj => ⟨j, hj, rfl⟩)
      (fun cmd hcmd => mem_about_of_toServer hcmd) herase hi.ownValue
  · simp only [heq] at hxinv ⊢
    refine hi.of_subset hxinv (fun j' hj' => ⟨j', ?_, rfl⟩)
      (fun cmd hcmd => mem_about_of_toServer hcmd) herase fun t result hresult haccept => ?_
    · rw [hrunning]
      rcases List.mem_append.mp hj' with hpre | hpost
      · exact List.mem_append_left _ hpre
      · exact List.mem_append_right _ (List.mem_cons_of_mem _ hpost)
    · rcases List.mem_append.mp hresult with hold | hlast
      · exact hi.ownValue t result hold haccept
      · obtain ⟨rfl, rfl⟩ := Prod.mk.inj (List.mem_singleton.mp hlast)
        -- the acknowledgement was about, so it agrees with the set it completes
        have hmem : j ∈ w.xparam.sets.running := by simp [hrunning]
        obtain ⟨c, hc⟩ := hi.xparam.ledger.running j hmem
        obtain ⟨hid, htype, -⟩ := XParam.refersTo_eq_true_iff.mp hj
        have hagrees := hi.agrees j hmem _ (mem_about_of_toXParam (List.mem_of_getElem? hack))
        have hpayload := hc.payload
        rw [ParamSets.after_eq] at hpayload
        exact ⟨c, ack, hc.sent.accepted, rfl, hpayload ▸ hagrees hid.symm htype.symm⟩

/-- **One step keeps the invariant**, if what is set is fresh. -/
theorem Inv.step {w w' : World} {e : Event} (hi : Inv serverSysid serverCompid w)
    (hfresh : Fresh w e) (h : XParamServer.step serverSysid serverCompid w e = .ok w') :
    Inv serverSysid serverCompid w' := by
  have hself : ∀ j' ∈ w.xparam.sets.running, ∃ j ∈ w.xparam.sets.running, j.payload = j'.payload :=
    fun j hj => ⟨j, hj, rfl⟩
  rcases e with ⟨paramId, paramType, paramValue, retransmitDelay, nWanted, now⟩ | vs | i | i | i | i
  · exact hi.trySetParamAsync hfresh h
  · exact hi.timeoutPassSet h
  · rcases hcmd : w.toServer[i]? with - | cmd
    · simp only [XParamServer.step, hcmd] at h
      exact Except.ok.inj h ▸ hi
    · obtain rfl := Except.ok.inj ((step_serverReceives hcmd).symm.trans h)
      -- the message becomes its acknowledgement
      refine hi.of_subset hi.xparam hself
        (fun cmd hcmd => mem_about_of_toServer (List.mem_of_mem_eraseIdx hcmd))
        (fun ack hack => ?_) hi.ownValue
      rcases List.mem_append.mp hack with hold | hlast
      · exact hi.toXParam hold
      · rw [List.mem_singleton.mp hlast]
        exact ⟨mem_about_of_toServer (List.mem_of_getElem? hcmd), rfl⟩
  · rcases hack : w.toXParam[i]? with - | ack
    · simp only [XParamServer.step, hack] at h
      exact Except.ok.inj h ▸ hi
    · obtain rfl := Except.ok.inj ((step_xparamReceives hack).symm.trans h)
      exact hi.paramExtAck hack
  · obtain rfl := Except.ok.inj h
    exact hi.of_subset hi.xparam hself
      (fun cmd hcmd => mem_about_of_toServer (List.mem_of_mem_eraseIdx hcmd))
      (fun ack hack => hi.toXParam hack) hi.ownValue
  · obtain rfl := Except.ok.inj h
    exact hi.of_subset hi.xparam hself (fun cmd hcmd => mem_about_of_toServer hcmd)
      (fun ack hack => hi.toXParam (List.mem_of_mem_eraseIdx hack)) hi.ownValue

/-! ### Stale acknowledgements -/

/-- An acknowledgement of another value completes the oldest set it refers to. -/
theorem completed_by_other {w : World} (hx : XParam.Inv w.xparam) {i : ℕ} {ack : ParamExtAck}
    (hack : w.toXParam[i]? = some ack) (haccepted : ack.paramResult = PARAM_ACK_ACCEPTED)
    {pre post : List (Job ParamExtSet)} {j : Job ParamExtSet}
    (hrunning : w.xparam.sets.running = pre ++ j :: post)
    (hj : XParam.RefersTo ack serverSysid serverCompid j.payload)
    (hpre : ∀ j' ∈ pre, ¬ XParam.RefersTo ack serverSysid serverCompid j'.payload)
    (hvalue : ack.paramValue ≠ j.payload.paramValue) :
    ∃ w', step serverSysid serverCompid w (.xparamReceives i) = .ok w' ∧ ¬ OwnValue w' := by
  refine ⟨_, step_xparamReceives hack, fun hown => ?_⟩
  have hcalled : (j.cb, ⟨some ack, j.nTransmissions⟩) ∈
      (w.xparam.sets.handleParamExtAck ack serverSysid serverCompid).2.called := by
    rw [XParam.handleParamExtAck_matched hrunning hj hpre]
    exact List.mem_append_right _ (List.mem_singleton_self _)
  obtain ⟨c, ack', hc, hack', hvalue'⟩ := hown _ _ hcalled
    (by simp [SetParamResult.isAccepted, haccepted])
  obtain rfl := Option.some.inj hack'
  obtain ⟨c', hc'⟩ := hx.ledger.running j (by simp [hrunning])
  obtain rfl : c = c' := Option.some.inj (hc.1.symm.trans hc'.sent.accepted.1)
  have hpayload := hc'.payload
  rw [ParamSets.after_eq] at hpayload
  exact hvalue (hvalue'.trans (by rw [hpayload]))

/-- The server receives a message, and `XParam` its answer. -/
theorem answered_by_other {w : World} (hx : XParam.Inv w.xparam) {i : ℕ} {cmd : ParamExtSet}
    (hcmd : w.toServer[i]? = some cmd) {pre post : List (Job ParamExtSet)} {j : Job ParamExtSet}
    (hrunning : w.xparam.sets.running = pre ++ j :: post)
    (hj : XParam.RefersTo (acknowledge cmd) serverSysid serverCompid j.payload)
    (hpre : ∀ j' ∈ pre, ¬ XParam.RefersTo (acknowledge cmd) serverSysid serverCompid j'.payload)
    (hvalue : cmd.paramValue ≠ j.payload.paramValue) :
    ∃ w', run (step serverSysid serverCompid) w
      [.serverReceives i, .xparamReceives w.toXParam.length] = .ok w' ∧ ¬ OwnValue w' := by
  rw [run_cons, step_serverReceives hcmd, ok_bind]
  obtain ⟨w', hw', hown⟩ := completed_by_other (w := { w with
    toServer := w.toServer.eraseIdx i
    toXParam := w.toXParam ++ [acknowledge cmd] }) hx (i := w.toXParam.length) (by simp) rfl
    hrunning hj hpre hvalue
  exact ⟨w', by rw [run_cons, hw', ok_bind, run_nil], hown⟩

/-- What becomes of messages, and the passing of time. -/
def Event.OfChannel : Event → Prop
  | .trySetParamAsync .. => False
  | _ => True

section

variable {w w₁ : World} {j₀ : Job ParamExtSet}

/-- No other set of the parameter is queued: what is on its way completes the new
one. -/
theorem stale_alone (hi : Inv serverSysid serverCompid w) (hx₁ : XParam.Inv w₁.xparam)
    (hqueued : Queued w w₁ j₀)
    (htarget : j₀.payload.targetSystem = serverSysid ∧ j₀.payload.targetComponent = serverCompid)
    (hnone : ∀ j ∈ w.xparam.sets.running,
      ¬ XParam.RefersTo (acknowledge j₀.payload) serverSysid serverCompid j.payload)
    {a : Assignment} (ha : a ∈ w.about) (hagrees : ¬ Agrees a j₀.payload.assignment) :
    ∃ more, (∀ e ∈ more, e.OfChannel) ∧
      ∃ w', run (step serverSysid serverCompid) w₁ more = .ok w' ∧ ¬ OwnValue w' := by
  obtain ⟨hid, htype, hvalue⟩ : a.paramId = getParamId j₀.payload.paramId ∧
      a.paramType = j₀.payload.paramType ∧ a.paramValue ≠ j₀.payload.paramValue := by
    simpa [Agrees, ParamExtSet.assignment] using hagrees
  -- an acknowledgement for the parameter refers to no set but the new one
  have hpre : ∀ ack : ParamExtAck, ack.assignment.paramId = a.paramId →
      ack.paramType = a.paramType → ∀ j ∈ w.xparam.sets.running,
        ¬ XParam.RefersTo ack serverSysid serverCompid j.payload := by
    intro ack hack htype' j hj hrefers
    apply hnone j hj
    exact ⟨hrefers.1.trans (hack.trans hid), hrefers.2.1.trans (htype'.trans htype), hrefers.2.2⟩
  have hrefers : ∀ ack : ParamExtAck, ack.assignment.paramId = a.paramId →
      ack.paramType = a.paramType →
        XParam.RefersTo ack serverSysid serverCompid j₀.payload := by
    intro ack hack htype'
    exact ⟨(hack.trans hid).symm, (htype'.trans htype).symm, htarget⟩
  rcases mem_about.mp ha with ⟨j, hj, rfl⟩ | ⟨cmd, hcmd, rfl⟩ | ⟨ack, hack, rfl⟩
  · obtain ⟨htarget', htarget''⟩ := hi.target j hj
    exact absurd ⟨hid, htype, htarget', htarget''⟩ (hnone j hj)
  · obtain ⟨i, hlt, rfl⟩ := List.getElem_of_mem hcmd
    have hget : w₁.toServer[i]? = some w.toServer[i] := by
      rw [hqueued.toServer, List.getElem?_append_left hlt, List.getElem?_eq_getElem hlt]
    obtain ⟨w', hw', hown⟩ := answered_by_other hx₁ hget hqueued.running (hrefers _ rfl rfl)
      (hpre _ rfl rfl) hvalue
    exact ⟨_, by simp [Event.OfChannel], w', hw', hown⟩
  · obtain ⟨i, hlt, rfl⟩ := List.getElem_of_mem hack
    have hget : w₁.toXParam[i]? = some w.toXParam[i] := by
      rw [hqueued.toXParam, List.getElem?_eq_getElem hlt]
    obtain ⟨w', hw', hown⟩ := completed_by_other hx₁ hget (hi.accepted _ hack) hqueued.running
      (hrefers _ rfl rfl) (hpre _ rfl rfl) hvalue
    exact ⟨[.xparamReceives i], by simp [Event.OfChannel], w',
      by rw [run_cons, hw', ok_bind, run_nil], hown⟩

/-- Sets of the parameter are queued: the acknowledgement of the new one completes
the oldest before its time. -/
theorem stale_behind (hi : Inv serverSysid serverCompid w) (hx₁ : XParam.Inv w₁.xparam)
    (hqueued : Queued w w₁ j₀) {pre post : List (Job ParamExtSet)} {j : Job ParamExtSet}
    (hrunning : w.xparam.sets.running = pre ++ j :: post)
    (hj : XParam.RefersTo (acknowledge j₀.payload) serverSysid serverCompid j.payload)
    (hpre : ∀ j' ∈ pre,
      ¬ XParam.RefersTo (acknowledge j₀.payload) serverSysid serverCompid j'.payload)
    {a : Assignment} (ha : a ∈ w.about) (hagrees : ¬ Agrees a j₀.payload.assignment) :
    ∃ more, (∀ e ∈ more, e.OfChannel) ∧
      ∃ w', run (step serverSysid serverCompid) w₁ more = .ok w' ∧ ¬ OwnValue w' := by
  have hmem : j ∈ w.xparam.sets.running := by simp [hrunning]
  -- what the oldest one agrees with, the new one does not
  have hother : j₀.payload.paramValue ≠ j.payload.paramValue := by
    intro heq
    apply hagrees
    intro hid htype
    exact (hi.agrees j hmem a ha (hid.trans hj.1.symm) (htype.trans hj.2.1.symm)).trans heq.symm
  have hrunning₁ : w₁.xparam.sets.running = pre ++ j :: (post ++ [j₀]) := by
    rw [hqueued.running, hrunning, List.append_assoc, List.cons_append]
  have hget : w₁.toServer[w.toServer.length]? = some j₀.payload := by
    rw [hqueued.toServer, List.getElem?_concat_length]
  obtain ⟨w', hw', hown⟩ := answered_by_other hx₁ hget hrunning₁ hj hpre hother
  exact ⟨_, by simp [Event.OfChannel], w', hw', hown⟩

end

/-- **After a set that is not fresh, messages can arrive so that one is completed by
an acknowledgement of another value.** -/
theorem stale_of_not_fresh {w : World} {e : Event} (hi : Inv serverSysid serverCompid w)
    (hfresh : ¬ Fresh w e) :
    ∃ more, (∀ e' ∈ more, e'.OfChannel) ∧
      ∃ w', run (step serverSysid serverCompid) w (e :: more) = .ok w' ∧ ¬ OwnValue w' := by
  rcases e with ⟨paramId, paramType, paramValue, retransmitDelay, nWanted, now⟩ | vs | i | i | i | i
  · simp only [Fresh, Classical.not_imp, not_forall] at hfresh
    obtain ⟨haccepts, a, ha, hagrees⟩ := hfresh
    obtain ⟨w₁, h₁⟩ : Safe (step serverSysid serverCompid w
        (.trySetParamAsync paramId paramType paramValue retransmitDelay nWanted now)) := by
      apply safe_bind_pure_iff.mpr
      exact (XParam.safe_step_iff _ _).mpr ⟨haccepts.1, haccepts.2.1⟩
    -- the set is accepted, and messages of the channel do the rest
    have hx₁ := xparamInv_step hi.xparam h₁
    obtain ⟨accepted, haccepted, -, -, -, hqueued⟩ := trySetParamAsync_cases h₁
    obtain ⟨j₀, hqueued, hj₀⟩ := hqueued (haccepted.mpr haccepts)
    have htarget : j₀.payload.targetSystem = serverSysid ∧
        j₀.payload.targetComponent = serverCompid := by
      rw [hj₀]
      exact ⟨rfl, rfl⟩
    have hother : ¬ Agrees a j₀.payload.assignment := by
      rw [hj₀]
      exact hagrees
    obtain ⟨more, hmore, w', hw', hown⟩ : ∃ more, (∀ e' ∈ more, e'.OfChannel) ∧
        ∃ w', run (step serverSysid serverCompid) w₁ more = .ok w' ∧ ¬ OwnValue w' := by
      rcases ParamSets.handleParamExtAck_cases w.xparam.sets (acknowledge j₀.payload) serverSysid
        serverCompid with ⟨hnone, -⟩ | ⟨pre, j, post, hrunning, hj, hpre, -⟩
      · exact stale_alone hi hx₁ hqueued htarget
          (fun j hj => XParam.refersTo_eq_false_iff.mp (hnone j hj)) ha hother
      · exact stale_behind hi hx₁ hqueued hrunning (XParam.refersTo_eq_true_iff.mp hj)
          (fun j' hj' => XParam.refersTo_eq_false_iff.mp (hpre j' hj')) ha hother
    exact ⟨more, hmore, w', by rw [run_cons, h₁, ok_bind, hw'], hown⟩
  all_goals exact absurd trivial hfresh

/-- Whatever becomes of the messages from any moment of the run on, every set that
is completed as accepted is so by an acknowledgement of its value. -/
def KeepsOwnValue (serverSysid serverCompid : UInt8) (events : List Event) : Prop :=
  ∀ before, before <+: events → ∀ more, (∀ e ∈ more, e.OfChannel) →
    ∀ w, run (step serverSysid serverCompid) World.init (before ++ more) = .ok w → OwnValue w

/-- What comes from the channel is fresh. -/
theorem everyStep_fresh_of_channel {more : List Event} (h : ∀ e ∈ more, e.OfChannel) (w : World) :
    EveryStep Fresh (step serverSysid serverCompid) w more := by
  induction more generalizing w with
  | nil => trivial
  | cons e more ih =>
      obtain ⟨he, hmore⟩ := List.forall_mem_cons.mp h
      refine ⟨?_, fun w' _ => ih hmore w'⟩
      cases e with
      | trySetParamAsync => cases he
      | _ => trivial

theorem inv_run {events : List Event} {w : World}
    (hfresh : EveryStep Fresh (step serverSysid serverCompid) World.init events)
    (h : run (step serverSysid serverCompid) World.init events = .ok w) :
    Inv serverSysid serverCompid w :=
  run_invariant_of_everyStep (fun _ _ _ hi hfresh hstep => hi.step hfresh hstep) inv_init hfresh h

/-- **Sets are completed by acknowledgements of their own values, whatever becomes
of the messages, exactly if no parameter is set while another value for it is
queued or on its way.** -/
theorem ownValue_iff_fresh (serverSysid serverCompid : UInt8) (events : List Event) :
    KeepsOwnValue serverSysid serverCompid events ↔
      EveryStep Fresh (step serverSysid serverCompid) World.init events := by
  constructor
  · intro hkeeps
    -- from one moment of the run to the next
    induction events using List.reverseRecOn with
    | nil => trivial
    | append_singleton events e ih =>
        have hevents := ih fun before hbefore =>
          hkeeps before (hbefore.trans (List.prefix_append events [e]))
        refine everyStep_append_iff.mpr ⟨hevents, fun w hw => ⟨?_, fun _ _ => trivial⟩⟩
        apply Classical.byContradiction
        intro hfresh
        obtain ⟨more, hmore, w', hw', hown⟩ := stale_of_not_fresh (inv_run hevents hw) hfresh
        apply hown
        apply hkeeps (events ++ [e]) (List.prefix_refl _) more hmore
        rw [List.append_assoc, run_append, hw, ok_bind]
        exact hw'
  · rintro hfresh before ⟨after, rfl⟩ more hmore w hw
    have hbefore := (everyStep_append_iff.mp hfresh).1
    exact (inv_run (everyStep_append_iff.mpr
      ⟨hbefore, fun w' _ => everyStep_fresh_of_channel hmore w'⟩) hw).ownValue

/-- A value for the bitrate of the air unit. -/
def bitrate (value : UInt8) : ParamExtSet := XParam.airSet XParam.videoBitrate value

theorem bitrate_ne : (bitrate 8).paramValue ≠ (bitrate 4).paramValue := fun heq => by
  have hbyte := congrArg (fun v : Vector UInt8 128 => v[0]) heq
  simp [bitrate, XParam.airSet] at hbyte

def setBitrate (value : UInt8) (now : ℤ) : Event :=
  .trySetParamAsync XParam.videoBitrate 6 (bitrate value).paramValue 500 3 now

/-- The bitrate is set to 8, and the server receives this twice; after its first
answer the bitrate is set to 4, and its second answer is taken for that. -/
def setTwice : List Event :=
  [setBitrate 8 0, .timeoutPassSet [(0, milliseconds 600, milliseconds 600)], .serverReceives 0,
    .serverReceives 0, .xparamReceives 0, setBitrate 4 (milliseconds 1000), .xparamReceives 0]

theorem stale_ack_accepted :
    ∃ w, run (step OHD_SYS_ID_AIR MAV_COMP_ID_ONBOARD_COMPUTER) World.init setTwice = .ok w ∧
      ¬ OwnValue w := by
  refine ⟨_, rfl, fun hown => ?_⟩
  obtain ⟨c, ack, hc, hack, hvalue⟩ := hown 1 ⟨some (acknowledge (bitrate 8)), 1⟩
    (List.mem_of_getElem? (i := 1) rfl) rfl
  obtain rfl := Option.some.inj hack
  obtain rfl : c = ⟨bitrate 4, 3, true⟩ := (Option.some.inj hc.1).symm
  exact bitrate_ne hvalue

end XParamServer

end QOpenHD
