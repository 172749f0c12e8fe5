/-
QOpenHD/SettingsCache.lean

A `MavlinkSettingsModel` and the server whose parameters it caches.

The system (`World`): the model with its `XParam`, the parameters of the server,
and the messages between them.  The channel loses nothing and keeps the order,
in both directions.  The model fetches and sets, the server receives sets and
requests and sends the parameters one by one, and what it sends is received, in
any order (`Event`).

When nothing is outstanding any more (`Settled`), the cache should be the rows
of the server (`Coherent`).  But a set that is applied while a fetch is under
way can be undone by the fetch: the old value was sent before, and replaces the
cache after.  A call that waits does not look at the flag, and a fetch that has
called back is still waiting for the UI thread when the flag is down.  And a
call that waits updates the cache only when it returns, after later sets
perhaps.  `Orderly` is when this cannot happen.

What the calls of the model do, and which messages they send, is said once here,
as equations between states.
-/
import QOpenHD.SettingsServer

namespace QOpenHD

open Checked RetryQueue LastWriter SettingsServer

namespace SettingsCache

/-! ### The system -/

/-- A message to the server. -/
inductive ToServer
  | set (cmd : ParamExtSet)
  | request (request : ParamExtRequest)

/-- A message from the server. -/
inductive ToXParam
  | ack (ack : ParamExtAck)
  | value (response : ParamExtValue)

structure World where
  settings : MavlinkSettingsModel.World
  params : List ServerParam
  toServer : List ToServer
  /-- For every request the parameters that are still to be sent. -/
  streams : List (List ℕ)
  toXParam : List ToXParam

def World.init (sysId compId : UInt8) (params : List ServerParam) : World :=
  ⟨.init sysId compId, params, [], [], []⟩

inductive Event
  | setReady
  | tryRefetchAllParametersAsync (now : ℤ)
  | trySetParamAsync (param : SettingData) (now : ℤ)
  | tryUpdateParameter (param : SettingData) (now : ℤ)
  | tryUpdateParameterReturns (call : ℕ)
  | uiThreadReplaceParamSet
  | timeoutPassSet (vs : List (ℕ × ℤ × ℤ))
  | timeoutPassGetAll (vs : List (ℕ × ℤ × ℤ))
  | serverReceives
  /-- The next parameter for request number `k`. -/
  | serverStreams (k : ℕ)
  | xparamReceives

section

variable (isParamWhitelisted : List UInt8 → Bool)
  (verdict : List ServerParam → ParamExtSet → UInt8)

/-- What the model does, and the messages that are sent. -/
def settingsStep (w : World) (e : MavlinkSettingsModel.Event) : Exec World := do
  let settings ← MavlinkSettingsModel.World.step isParamWhitelisted w.settings e
  let sets := settings.xparam.sets.sent.drop w.settings.xparam.sets.sent.length
  let requests :=
    settings.xparam.getAlls.getAlls.sent.drop w.settings.xparam.getAlls.getAlls.sent.length
  pure { w with
    settings := settings
    toServer := w.toServer ++ (sets.map (.set ∘ Prod.snd) ++ requests.map (.request ∘ Prod.snd)) }

def serverReceives (w : World) : World :=
  match w.toServer with
  | [] => w
  | .set cmd :: rest =>
    let (params, ack) := receiveSet verdict w.params cmd
    { w with params := params, toServer := rest, toXParam := w.toXParam ++ [.ack ack] }
  | .request (.list _) :: rest =>
    { w with toServer := rest, streams := w.streams ++ [List.range w.params.length] }
  | .request (.read cmd) :: rest =>
    { w with toServer := rest, streams := w.streams ++ [[cmd.paramIndex.toUInt16.toNat]] }

def serverStreams (w : World) (k : ℕ) : World :=
  match w.streams[k]? with
  | some (i :: rest) =>
    { w with
      streams := w.streams.set k rest
      toXParam := w.toXParam ++ ((responseAt w.params i).map .value).toList }
  | _ => w

def xparamReceives (w : World) : Exec World :=
  match w.toXParam with
  | [] => .ok w
  | .ack ack :: rest =>
    settingsStep isParamWhitelisted { w with toXParam := rest }
      (.xparam (.paramExtAck ack w.settings.model.sysId w.settings.model.compId))
  | .value response :: rest =>
    settingsStep isParamWhitelisted { w with toXParam := rest }
      (.xparam (.getAll
        (.paramExtValue response w.settings.model.sysId w.settings.model.compId)))

def step (w : World) : Event → Exec World
  | .setReady => settingsStep isParamWhitelisted w .setReady
  | .tryRefetchAllParametersAsync now =>
    settingsStep isParamWhitelisted w (.tryRefetchAllParametersAsync now)
  | .trySetParamAsync param now => settingsStep isParamWhitelisted w (.trySetParamAsync param now)
  | .tryUpdateParameter param now =>
    settingsStep isParamWhitelisted w (.tryUpdateParameter param now)
  | .tryUpdateParameterReturns call =>
    settingsStep isParamWhitelisted w (.tryUpdateParameterReturns call)
  | .uiThreadReplaceParamSet => settingsStep isParamWhitelisted w .uiThreadReplaceParamSet
  | .timeoutPassSet vs => settingsStep isParamWhitelisted w (.xparam (.timeoutPassSet vs))
  | .timeoutPassGetAll vs =>
    settingsStep isParamWhitelisted w (.xparam (.getAll (.timeoutPass vs)))
  | .serverReceives => .ok (serverReceives verdict w)
  | .serverStreams k => .ok (serverStreams w k)
  | .xparamReceives => xparamReceives isParamWhitelisted w

end

/-! ### What is claimed, and when it holds -/

/-- Some fetch has succeeded. -/
def World.fetched (w : World) : Bool :=
  w.settings.xparam.getAlls.getAlls.called.any fun called => called.2.success

/-- All requests have completed, and all queued replacements have run. -/
structure Settled (w : World) : Prop where
  sets : w.settings.xparam.sets.running = []
  getAlls : w.settings.xparam.getAlls.getAlls.running = []
  blocked : w.settings.blocked = []
  replacements : w.settings.model.replacements = []

/-- What is cached, which is nothing before the first fetch, is what the server
has. -/
def Coherent (isParamWhitelisted : List UInt8 → Bool) (w : World) : Prop :=
  w.settings.model.data = if w.fetched then rows isParamWhitelisted w.params else []

/-- Nothing that the server has sent for a request, or is still to send, is
under way to the cache. -/
structure NoValues (w : World) : Prop where
  streams : ∀ stream ∈ w.streams, stream = []
  toXParam : ∀ response, .value response ∉ w.toXParam
  slots : ∀ j ∈ w.settings.xparam.getAlls.getAlls.running, j.payload.serverParamSet = []
  replacements : w.settings.model.replacements = []

/-- No fetch is under way. -/
structure NoFetch (w : World) : Prop extends NoValues w where
  getAlls : w.settings.xparam.getAlls.getAlls.running = []
  requests : ∀ request, .request request ∉ w.toServer

/-- A set may be made: it can be read by the server and again by the model, no fetch is
under way, and no call waits for a set of the same parameter. -/
structure MaySet (w : World) (param : SettingData) : Prop where
  fits : FitsCmd param
  noFetch : NoFetch w
  unblocked : ∀ blocked ∈ w.settings.blocked, blocked.2.uniqueId ≠ param.uniqueId

/-- `XParam` accepts another set. -/
def World.HasRoom (w : World) : Prop :=
  w.settings.xparam.sets.running.length < ParamSets.MAX_N_SIMULTANOEUS_COMMANDS

/-- No visit finds a request that is due. -/
def NoneDue {π : Type} (running : List (Job π)) (vs : List (ℕ × ℤ × ℤ)) : Prop :=
  ∀ v ∈ vs, ∀ j ∈ running, ¬ j.Due v.2.1

/-- **The condition**: a set is made only when it may be, and answers come
before anything is sent again. -/
def Orderly (w : World) : Event → Prop
  | .trySetParamAsync param _ =>
    w.settings.model.isCurrentlyBusy = false → w.HasRoom → MaySet w param
  | .tryUpdateParameter param _ => w.HasRoom → MaySet w param
  | .timeoutPassSet vs => NoneDue w.settings.xparam.sets.running vs
  | .timeoutPassGetAll vs => NoneDue w.settings.xparam.getAlls.getAlls.running vs
  | _ => True

/-! ### What the model does -/

section

open MavlinkSettingsModel.World

/-- Nobody is called back. -/
theorem callXParam_of_step {s : MavlinkSettingsModel.World} {e : XParam.Event} {x : XParam.World}
    (h : XParam.step s.xparam e = .ok x) (hsets : x.sets.called = s.xparam.sets.called)
    (hgetAlls : x.getAlls.getAlls.called = s.xparam.getAlls.getAlls.called) :
    s.callXParam e = .ok { s with xparam := x } := by
  rw [callXParam, h, ok_bind, hsets, hgetAlls, List.drop_length, List.drop_length]
  rfl

/-- The model and `XParam` after a get-all. -/
def fetchStarted (s : MavlinkSettingsModel.World) (now : ℤ) : MavlinkSettingsModel.World :=
  { s with
    model := { s.model with isCurrentlyBusy := true }
    getAllCbs := s.getAllCbs ++ [true]
    xparam := { s.xparam with
      getAlls := ⟨s.xparam.getAlls.getAlls.tryGetParamAllAsync
        (XParam.createCmdGetAll s.model.sysId s.model.compId) s.xparam.getAlls.nCalls now,
          s.xparam.getAlls.nCalls + 1⟩ } }

theorem tryRefetchAllParametersAsync_cases (s : MavlinkSettingsModel.World) (now : ℤ) :
    s.tryRefetchAllParametersAsync now = .ok s ∨
      s.tryRefetchAllParametersAsync now = .ok (fetchStarted s now) := by
  unfold tryRefetchAllParametersAsync
  split_ifs
  · exact .inl rfl
  · exact .inl rfl
  · exact .inr (callXParam_of_step rfl rfl rfl)

/-- The callback of a set. -/
def setCb (param : SettingData) (blocking : Bool) : MavlinkSettingsModel.SetCb :=
  if blocking then .promise else .model param

/-- The model and `XParam` after a set that is accepted. -/
def setAccepted (s : MavlinkSettingsModel.World) (param : SettingData) (blocking : Bool)
    (retransmitDelay nWanted : ℕ) (now : ℤ) : MavlinkSettingsModel.World :=
  { s with
    model := { s.model with isCurrentlyBusy := true }
    setCbs := s.setCbs ++ [setCb param blocking]
    xparam := { s.xparam with
      calls := s.xparam.calls ++ [⟨s.model.createCmdSet param, nWanted, true⟩]
      sets := s.xparam.sets.enqueue ParamSets.protocol
        ⟨s.model.createCmdSet param, s.xparam.calls.length, nWanted, milliseconds retransmitDelay,
          0, now⟩ now }
    blocked := s.blocked ++ if blocking then [(s.xparam.calls.length, param)] else [] }

/-- The model and `XParam` after a set that is refused. -/
def setRefused (s : MavlinkSettingsModel.World) (param : SettingData) (blocking : Bool)
    (nWanted : ℕ) : MavlinkSettingsModel.World :=
  { s with
    model := { s.model with isCurrentlyBusy := !blocking }
    setCbs := s.setCbs ++ [setCb param blocking]
    xparam := { s.xparam with
      calls := s.xparam.calls ++ [⟨s.model.createCmdSet param, nWanted, false⟩] } }

theorem paramSets_trySetParamAsync_eq (s : ParamSets) (cmd : ParamExtSet) (resultCb : ℕ)
    {retransmitDelay nWanted : ℕ} (hwanted : 1 ≤ nWanted) (hdelay : 10 ≤ retransmitDelay)
    (now : ℤ) :
    s.trySetParamAsync cmd resultCb retransmitDelay nWanted now =
      if s.running.length ≥ ParamSets.MAX_N_SIMULTANOEUS_COMMANDS then .ok (false, s)
      else .ok (true, s.enqueue ParamSets.protocol
        ⟨cmd, resultCb, nWanted, milliseconds retransmitDelay, 0, now⟩ now) := by
  rw [ParamSets.trySetParamAsync, require_of hwanted, require_of hdelay, ok_bind, ok_bind]
  rfl

theorem xparamStep_full {x : XParam.World}
    (hfull : ¬ x.sets.running.length < ParamSets.MAX_N_SIMULTANOEUS_COMMANDS) (cmd : ParamExtSet)
    {retransmitDelay nWanted : ℕ} (hwanted : 1 ≤ nWanted) (hdelay : 10 ≤ retransmitDelay)
    (now : ℤ) :
    XParam.step x (.trySetParamAsync cmd retransmitDelay nWanted now) =
      .ok { x with calls := x.calls ++ [⟨cmd, nWanted, false⟩] } := by
  rw [XParam.step, paramSets_trySetParamAsync_eq _ _ _ hwanted hdelay,
    if_pos (Nat.le_of_not_lt hfull)]
  rfl

theorem xparamStep_room {x : XParam.World}
    (hroom : x.sets.running.length < ParamSets.MAX_N_SIMULTANOEUS_COMMANDS) (cmd : ParamExtSet)
    {retransmitDelay nWanted : ℕ} (hwanted : 1 ≤ nWanted) (hdelay : 10 ≤ retransmitDelay)
    (now : ℤ) :
    XParam.step x (.trySetParamAsync cmd retransmitDelay nWanted now) =
      .ok { x with
        sets := x.sets.enqueue ParamSets.protocol
          ⟨cmd, x.calls.length, nWanted, milliseconds retransmitDelay, 0, now⟩ now
        calls := x.calls ++ [⟨cmd, nWanted, true⟩] } := by
  rw [XParam.step, paramSets_trySetParamAsync_eq _ _ _ hwanted hdelay,
    if_neg (Nat.not_le_of_lt hroom)]
  rfl

/-- A set that is called back. -/
theorem trySetParamAsync_cases (s : MavlinkSettingsModel.World) (param : SettingData) (now : ℤ) :
    s.trySetParamAsync param now = .ok s ∨
      s.model.isCurrentlyBusy = false ∧
        ((¬ s.xparam.sets.running.length < ParamSets.MAX_N_SIMULTANOEUS_COMMANDS ∧
            s.trySetParamAsync param now = .ok (setRefused s param false 10)) ∨
          (s.xparam.sets.running.length < ParamSets.MAX_N_SIMULTANOEUS_COMMANDS ∧
            s.trySetParamAsync param now = .ok (setAccepted s param false 300 10 now))) := by
  unfold MavlinkSettingsModel.World.trySetParamAsync
  by_cases hbusy : s.model.isCurrentlyBusy = true
  · exact .inl (if_pos hbusy)
  refine .inr ⟨eq_false_of_ne_true hbusy, ?_⟩
  rw [if_neg hbusy]
  by_cases hroom : s.xparam.sets.running.length < ParamSets.MAX_N_SIMULTANOEUS_COMMANDS
  · refine .inr ⟨hroom, ?_⟩
    rw [setAccepted, if_neg Bool.false_ne_true, List.append_nil]
    exact callXParam_of_step (xparamStep_room hroom _ (by decide) (by decide) now) rfl rfl
  · refine .inl ⟨hroom, ?_⟩
    exact callXParam_of_step (xparamStep_full hroom _ (by decide) (by decide) now) rfl rfl

/-- A set that is waited for. -/
theorem tryUpdateParameter_cases (s : MavlinkSettingsModel.World) (param : SettingData) (now : ℤ) :
    (¬ s.xparam.sets.running.length < ParamSets.MAX_N_SIMULTANOEUS_COMMANDS ∧
        s.tryUpdateParameter param now = .ok (setRefused s param true 3)) ∨
      (s.xparam.sets.running.length < ParamSets.MAX_N_SIMULTANOEUS_COMMANDS ∧
        s.tryUpdateParameter param now = .ok (setAccepted s param true 500 3 now)) := by
  unfold MavlinkSettingsModel.World.tryUpdateParameter
  by_cases hroom : s.xparam.sets.running.length < ParamSets.MAX_N_SIMULTANOEUS_COMMANDS
  · refine .inr ⟨hroom, ?_⟩
    rw [blockingSet, callXParam_of_step
      (s := { s.setBusy true with setCbs := s.setCbs ++ [.promise] })
      (xparamStep_room hroom _ (by decide) (by decide) now) rfl rfl, ok_bind]
    simp only [setBusy, List.getElem?_concat_length, Option.any_some, if_true]
    rfl
  · refine .inl ⟨hroom, ?_⟩
    rw [blockingSet, callXParam_of_step
      (s := { s.setBusy true with setCbs := s.setCbs ++ [.promise] })
      (xparamStep_full hroom _ (by decide) (by decide) now) rfl rfl, ok_bind]
    simp only [setBusy, List.getElem?_concat_length, Option.any_some, Bool.false_eq_true, if_false]
    rfl

/-- An acknowledgement of the first set under way. -/
theorem callXParam_ack {s : MavlinkSettingsModel.World} {ack : ParamExtAck} {sysid compid : UInt8}
    {j : Job ParamExtSet} {rest : List (Job ParamExtSet)}
    (hrunning : s.xparam.sets.running = j :: rest)
    (hj : XParam.RefersTo ack sysid compid j.payload) :
    s.callXParam (.paramExtAck ack sysid compid) = .ok { s with
      model := MavlinkSettingsModel.setCalled s.setCbs s.model (j.cb, ⟨some ack, j.nTransmissions⟩)
      xparam := { s.xparam with
        sets := {
          running := rest
          sent := s.xparam.sets.sent
          called := s.xparam.sets.called ++ [(j.cb, ⟨some ack, j.nTransmissions⟩)] } } } := by
  have hsplit : s.xparam.sets.running = [] ++ j :: rest := hrunning
  rw [callXParam, XParam.step_matched hsplit hj nofun, ok_bind]
  simp only [List.drop_left, List.drop_length, List.foldl_nil, List.foldl_cons, List.nil_append]
  rfl

/-- The state of `XParam` after a response. -/
def afterValue (x : XParam.World) (running : List (Job GetAll))
    (called : List (ℕ × GetAllParamResult)) : XParam.World :=
  { x with
    getAlls := ⟨⟨running, x.getAlls.getAlls.sent, x.getAlls.getAlls.called ++ called⟩,
      x.getAlls.nCalls⟩ }

/-- A response completes a get-all or not. -/
theorem callXParam_value {s s' : MavlinkSettingsModel.World} {response : ParamExtValue}
    {sysid compid : UInt8}
    (h : s.callXParam (.getAll (.paramExtValue response sysid compid)) = .ok s') :
    ∃ optFinished left, findRemoveRunningCommandGetAll response sysid compid
        s.xparam.getAlls.getAlls.running = .ok (optFinished, left) ∧
      ((optFinished = none ∧ s' = { s with xparam := afterValue s.xparam left [] }) ∨
        ∃ finished params, optFinished = some finished ∧
          validParamSet finished.payload.serverParamSet = .ok params ∧
            s' = { s with
              model := MavlinkSettingsModel.getAllCalled s.getAllCbs s.model
                (finished.cb, ⟨true, params⟩)
              xparam := afterValue s.xparam left [(finished.cb, ⟨true, params⟩)] }) := by
  obtain ⟨x, hx, h⟩ := bind_eq_ok_iff.mp h
  obtain ⟨getAlls, hgetAlls, hx⟩ := bind_eq_ok_iff.mp hx
  obtain ⟨⟨_, _⟩, hhandle, hgetAlls⟩ := bind_eq_ok_iff.mp hgetAlls
  obtain ⟨⟨optFinished, left⟩, hfound, hhandle⟩ := bind_eq_ok_iff.mp hhandle
  refine ⟨optFinished, left, hfound, ?_⟩
  rcases optFinished with - | finished
  · obtain ⟨rfl, rfl⟩ := Prod.mk.inj (Except.ok.inj hhandle)
    obtain rfl := Except.ok.inj hgetAlls
    obtain rfl := Except.ok.inj hx
    refine .inl ⟨rfl, ?_⟩
    rw [← Except.ok.inj h]
    simp [afterValue]
  · obtain ⟨params, hparams, hhandle⟩ := bind_eq_ok_iff.mp hhandle
    obtain ⟨rfl, rfl⟩ := Prod.mk.inj (Except.ok.inj hhandle)
    obtain rfl := Except.ok.inj hgetAlls
    obtain rfl := Except.ok.inj hx
    refine .inr ⟨finished, params, rfl, hparams, ?_⟩
    rw [← Except.ok.inj h]
    simp [afterValue]

/-- A pass that finds nothing due. -/
theorem visits_of_noneDue {π μ ρ : Type} (P : Protocol π μ ρ) (q : Queue π μ ρ)
    {vs : List (ℕ × ℤ × ℤ)} (h : NoneDue q.running vs) : q.visits P vs = q := by
  induction vs with
  | nil => rfl
  | cons v vs ih =>
      obtain ⟨hv, hvs⟩ := List.forall_mem_cons.mp h
      have hvisit : q.visitAt P v.1 v.2.1 v.2.2 = q := by
        unfold Queue.visitAt
        rcases hfound : q.running[v.1]? with - | j
        · rfl
        · exact if_neg (hv j (List.mem_of_getElem? hfound))
      rw [visits_cons, hvisit, ih hvs]

end

/-! ### Messages -/

section

variable {isParamWhitelisted : List UInt8 → Bool} {w w' : World}
  {e : MavlinkSettingsModel.Event} {s : MavlinkSettingsModel.World}

/-- What is sent is on its way to the server. -/
theorem settingsStep_eq
    (h : MavlinkSettingsModel.World.step isParamWhitelisted w.settings e = .ok s)
    (sets : List (ℕ × ParamExtSet)) (requests : List (ℕ × ParamExtRequest))
    (hsets : s.xparam.sets.sent = w.settings.xparam.sets.sent ++ sets)
    (hrequests : s.xparam.getAlls.getAlls.sent =
      w.settings.xparam.getAlls.getAlls.sent ++ requests) :
    settingsStep isParamWhitelisted w e = .ok { w with
      settings := s
      toServer :=
        w.toServer ++ (sets.map (.set ∘ Prod.snd) ++ requests.map (.request ∘ Prod.snd)) } := by
  rw [settingsStep, h, ok_bind, hsets, hrequests, List.drop_left, List.drop_left]
  rfl

/-- Nothing is sent. -/
theorem settingsStep_quiet
    (h : MavlinkSettingsModel.World.step isParamWhitelisted w.settings e = .ok s)
    (hsets : s.xparam.sets.sent = w.settings.xparam.sets.sent)
    (hrequests : s.xparam.getAlls.getAlls.sent = w.settings.xparam.getAlls.getAlls.sent) :
    settingsStep isParamWhitelisted w e = .ok { w with settings := s } := by
  rw [settingsStep_eq h [] [] (by rw [hsets, List.append_nil])
    (by rw [hrequests, List.append_nil]), List.map_nil, List.map_nil, List.append_nil,
    List.append_nil]

theorem eq_of_quiet (hstep : settingsStep isParamWhitelisted w e = .ok w')
    (h : MavlinkSettingsModel.World.step isParamWhitelisted w.settings e = .ok s)
    (hsets : s.xparam.sets.sent = w.settings.xparam.sets.sent)
    (hrequests : s.xparam.getAlls.getAlls.sent = w.settings.xparam.getAlls.getAlls.sent) :
    w' = { w with settings := s } :=
  Except.ok.inj (hstep.symm.trans (settingsStep_quiet h hsets hrequests))

end

end SettingsCache

end QOpenHD
