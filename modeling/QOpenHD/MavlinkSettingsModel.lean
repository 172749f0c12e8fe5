/-
QOpenHD/MavlinkSettingsModel.lean

`MavlinkSettingsModel` (`mavlinksettingsmodel.cpp`): the parameters of one
component, cached for the user interface.

The system (`World`): a model and the `XParam` that it shares with others.  The
model fetches all parameters, sets a parameter and is called back, or sets one
and waits; others call `XParam` too, messages arrive and timeouts pass
(`Event`).  A call that waits is two events.  `XParam` calls back by the number
of the call, and the world knows who made it.

`m_is_currently_busy` should be true exactly while a request of the model is
outstanding.  But a call that waits does not look at it, and a set that `XParam`
refuses leaves it true for ever.

* **`busy_iff_outstanding`**: as long as these two things do not happen
  (`Orderly`), the flag is right after every step.
* `busy_without_request`: a flag that is true with nothing outstanding.

A `QString` is kept as the bytes that `toStdString` makes of it.  Ids and strings of
the server become one by `QString.fromUtf8`, which keeps text and nothing else.

What a parameter value makes the rest of the program do, and what the user is
told, is left out.
-/
import QOpenHD.Utf8
import QOpenHD.XParamValues

namespace QOpenHD

open Checked RetryQueue

/-! ### The model -/

/-- A `QString`, as the bytes of its `toStdString`. -/
abbrev QString := List UInt8

/-- `QString::fromUtf8`, with which a `QString` is made of a C string. -/
def QString.fromUtf8 (text : List UInt8) : QString := Utf8.reread text

/-- `std::variant<int32_t,std::string>` -/
inductive SettingValue
  | int (value : Int32)
  | string (value : List UInt8)
  deriving DecidableEq

/-- `MavlinkSettingsModel::SettingData` -/
structure SettingData where
  uniqueId : QString
  value : SettingValue
  deriving DecidableEq

structure MavlinkSettingsModel where
  sysId : UInt8
  compId : UInt8
  isReady : Bool
  isCurrentlyBusy : Bool
  data : List SettingData
  /-- The calls of `ui_thread_replace_param_set` that wait for the UI thread. -/
  replacements : List (List SettingData)

namespace MavlinkSettingsModel

def new (sysId compId : UInt8) : MavlinkSettingsModel where
  sysId := sysId
  compId := compId
  isReady := false
  isCurrentlyBusy := false
  data := []
  replacements := []

/-- The first row with this id, if there is one, gets the new value. -/
def updateRow (newData : SettingData) : List SettingData → List SettingData
  | [] => []
  | row :: rows =>
    if row.uniqueId = newData.uniqueId then newData :: rows else row :: updateRow newData rows

def updateData (model : MavlinkSettingsModel) (newData : SettingData) : MavlinkSettingsModel :=
  { model with data := updateRow newData model.data }

/-- A `QtParamValue` for what the server has sent, if its type is supported.  The id and a string
become a `QString`. -/
def qtParamValue (param : XParam.ParamVariant) : Option SettingData :=
  match param.intParam, param.stringParam with
  | some value, _ => some ⟨QString.fromUtf8 param.paramId, .int value⟩
  | none, some value =>
    some ⟨QString.fromUtf8 param.paramId, .string (QString.fromUtf8 value)⟩
  | none, none => none

def removeAndReplaceParamSet (model : MavlinkSettingsModel) (paramSet : List ParamExtValue) :
    MavlinkSettingsModel :=
  let qtParamSet := (XParam.parseServerParamSet paramSet).filterMap qtParamValue
  { model with replacements := model.replacements ++ [qtParamSet] }

section

variable (isParamWhitelisted : List UInt8 → Bool)

/-- Whitelisted parameters are never added. -/
def addData (data : List SettingData) (param : SettingData) : List SettingData :=
  if isParamWhitelisted param.uniqueId then data else data ++ [param]

/-- The row of a string is the `toStdString` of its `QString`. -/
def uiThreadReplaceParamSet (model : MavlinkSettingsModel) : MavlinkSettingsModel :=
  match model.replacements with
  | qtParamSet :: rest =>
    { model with data := qtParamSet.foldl (addData isParamWhitelisted) [], replacements := rest }
  | [] => model

end

def createCmdSet (model : MavlinkSettingsModel) (param : SettingData) : ParamExtSet :=
  match param.value with
  | .int value => XParam.createCmdSetInt model.sysId model.compId param.uniqueId value
  | .string value => XParam.createCmdSetString model.sysId model.compId param.uniqueId value

/-- The callback of `try_set_param_int_async` and `try_set_param_string_async`. -/
def setParamCb (param : SettingData) (model : MavlinkSettingsModel) (result : SetParamResult) :
    MavlinkSettingsModel :=
  { (if result.isAccepted then model.updateData param else model) with isCurrentlyBusy := false }

/-- The callback of `try_refetch_all_parameters_async`. -/
def getAllCb (model : MavlinkSettingsModel) (result : GetAllParamResult) : MavlinkSettingsModel :=
  { (if result.success then model.removeAndReplaceParamSet result.paramSet else model) with
    isCurrentlyBusy := false }

/-! ### The system -/

/-- What is called back for a set. -/
inductive SetCb
  | model (param : SettingData)
  /-- The promise of a call that waits. -/
  | promise
  | other

def SetCb.isModel : SetCb → Bool
  | .model _ => true
  | .promise => false
  | .other => false

structure World where
  model : MavlinkSettingsModel
  xparam : XParam.World
  /-- The callbacks of the sets, by the numbers of the calls. -/
  setCbs : List SetCb
  /-- Whether the get-alls are the model's, by the numbers of the calls. -/
  getAllCbs : List Bool
  /-- The sets that the model waits for, with the numbers of the calls. -/
  blocked : List (ℕ × SettingData)

def World.init (sysId compId : UInt8) : World := ⟨new sysId compId, XParam.World.init, [], [], []⟩

inductive Event
  | setReady
  | tryRefetchAllParametersAsync (now : ℤ)
  /-- `try_set_param_int_async` or `try_set_param_string_async`. -/
  | trySetParamAsync (param : SettingData) (now : ℤ)
  /-- `try_update_parameter_int` or `try_update_parameter_string`, until it
  waits. -/
  | tryUpdateParameter (param : SettingData) (now : ℤ)
  /-- The rest of it, for the call of this number. -/
  | tryUpdateParameterReturns (call : ℕ)
  | uiThreadReplaceParamSet
  /-- Messages, timeouts and the calls of others. -/
  | xparam (e : XParam.Event)

def setCalled (setCbs : List SetCb) (model : MavlinkSettingsModel) (called : ℕ × SetParamResult) :
    MavlinkSettingsModel :=
  match setCbs[called.1]? with
  | some (.model param) => setParamCb param model called.2
  | _ => model

def getAllCalled (getAllCbs : List Bool) (model : MavlinkSettingsModel)
    (called : ℕ × GetAllParamResult) : MavlinkSettingsModel :=
  match getAllCbs[called.1]? with
  | some true => getAllCb model called.2
  | _ => model

namespace World

/-- What `XParam` does, and then the callbacks. -/
def callXParam (w : World) (e : XParam.Event) : Exec World := do
  let xparam ← XParam.step w.xparam e
  let sets := xparam.sets.called.drop w.xparam.sets.called.length
  let getAlls := xparam.getAlls.getAlls.called.drop w.xparam.getAlls.getAlls.called.length
  let model := getAlls.foldl (getAllCalled w.getAllCbs) (sets.foldl (setCalled w.setCbs) w.model)
  pure { w with xparam := xparam, model := model }

/-- A call of somebody else. -/
def register (w : World) : XParam.Event → World
  | .trySetParamAsync _ _ _ _ => { w with setCbs := w.setCbs ++ [.other] }
  | .getAll (.tryGetParamAllAsync _ _) => { w with getAllCbs := w.getAllCbs ++ [false] }
  | _ => w

/-- A set with 300 ms between the transmissions, and ten of them. -/
def asyncSet (model : MavlinkSettingsModel) (param : SettingData) (now : ℤ) : XParam.Event :=
  .trySetParamAsync (model.createCmdSet param) 300 10 now

/-- A set with 500 ms between the transmissions, and three of them. -/
def blockingSet (model : MavlinkSettingsModel) (param : SettingData) (now : ℤ) : XParam.Event :=
  .trySetParamAsync (model.createCmdSet param) 500 3 now

def getAll (model : MavlinkSettingsModel) (now : ℤ) : XParam.Event :=
  .getAll (.tryGetParamAllAsync (XParam.createCmdGetAll model.sysId model.compId) now)

/-- `m_is_currently_busy=busy` -/
def setBusy (w : World) (busy : Bool) : World :=
  { w with model := { w.model with isCurrentlyBusy := busy } }

def tryRefetchAllParametersAsync (w : World) (now : ℤ) : Exec World :=
  if !w.model.isReady then .ok w
  else if w.model.isCurrentlyBusy then .ok w
  else callXParam { w.setBusy true with getAllCbs := w.getAllCbs ++ [true] } (getAll w.model now)

/-- What `try_set_param_async` returns is not looked at. -/
def trySetParamAsync (w : World) (param : SettingData) (now : ℤ) : Exec World :=
  if w.model.isCurrentlyBusy then .ok w
  else callXParam { w.setBusy true with setCbs := w.setCbs ++ [.model param] }
    (asyncSet w.model param now)

/-- A set that is refused returns at once. -/
def tryUpdateParameter (w : World) (param : SettingData) (now : ℤ) : Exec World := do
  let w' ← callXParam { w.setBusy true with setCbs := w.setCbs ++ [.promise] }
    (blockingSet w.model param now)
  if w'.xparam.calls[w.xparam.calls.length]?.any Call.accepted then
    pure { w' with blocked := w.blocked ++ [(w.xparam.calls.length, param)] }
  else pure (w'.setBusy false)

/-- Nothing happens as long as the promise is not set. -/
def tryUpdateParameterReturns (w : World) (call : ℕ) : World :=
  match w.blocked.find? (·.1 = call), w.xparam.sets.called.find? (·.1 = call) with
  | some (_, param), some (_, result) =>
    let w' := { w.setBusy false with blocked := w.blocked.eraseP (·.1 = call) }
    if result.isAccepted then { w' with model := w'.model.updateData param } else w'
  | _, _ => w

def step (isParamWhitelisted : List UInt8 → Bool) (w : World) : Event → Exec World
  | .setReady => .ok { w with model := { w.model with isReady := true } }
  | .tryRefetchAllParametersAsync now => w.tryRefetchAllParametersAsync now
  | .trySetParamAsync param now => w.trySetParamAsync param now
  | .tryUpdateParameter param now => w.tryUpdateParameter param now
  | .tryUpdateParameterReturns call => .ok (w.tryUpdateParameterReturns call)
  | .uiThreadReplaceParamSet =>
    .ok { w with model := w.model.uiThreadReplaceParamSet isParamWhitelisted }
  | .xparam e => (w.register e).callXParam e

/-- The call number `t` is a set of the model that is called back. -/
def ownSet (w : World) (t : ℕ) : Bool := w.setCbs[t]?.any SetCb.isModel

/-- The call number `t` is a get-all of the model. -/
def ownGetAll (w : World) (t : ℕ) : Bool := w.getAllCbs[t]?.getD false

/-- The requests of the model that are outstanding: sets and get-alls that
`XParam` has under way, and calls that wait. -/
def nOutstanding (w : World) : ℕ :=
  (w.xparam.sets.running.map Job.cb).countP w.ownSet +
    (w.xparam.getAlls.getAlls.running.map Job.cb).countP w.ownGetAll + w.blocked.length

/-- **The condition**: `XParam` has room for a set, and no call that waits begins
while the model is busy. -/
def Orderly (w : World) : Event → Prop
  | .trySetParamAsync _ _ => w.model.isCurrentlyBusy = false →
      w.xparam.sets.running.length < ParamSets.MAX_N_SIMULTANOEUS_COMMANDS
  | .tryUpdateParameter _ _ => w.model.isCurrentlyBusy = false
  | _ => True

instance decidableOrderly : ∀ (w : World) (e : Event), Decidable (Orderly w e)
  | _, .trySetParamAsync _ _ => inferInstanceAs (Decidable (_ → _))
  | _, .tryUpdateParameter _ _ => inferInstanceAs (Decidable (_ = _))
  | _, .setReady => isTrue trivial
  | _, .tryRefetchAllParametersAsync _ => isTrue trivial
  | _, .tryUpdateParameterReturns _ => isTrue trivial
  | _, .uiThreadReplaceParamSet => isTrue trivial
  | _, .xparam _ => isTrue trivial

/-! ### What XParam does -/

/-- The event is a call. -/
def IsCall : XParam.Event → Prop
  | .trySetParamAsync _ _ _ _ => True
  | .getAll (.tryGetParamAllAsync _ _) => True
  | _ => False

/-- Messages and timeouts call back some of those who are under way. -/
theorem xparamStep_passive {x x' : XParam.World} {e : XParam.Event} (he : ¬ IsCall e)
    (h : XParam.step x e = .ok x') :
    (∃ new, CallsBack x.sets x'.sets new) ∧
      (∃ new, CallsBack x.getAlls.getAlls x'.getAlls.getAlls new) ∧
      x'.calls = x.calls ∧ x'.getAlls.nCalls = x.getAlls.nCalls := by
  rcases e with ⟨cmd, delay, nWanted, now⟩ | ⟨ack, senderSysid, senderCompid⟩ | vs | e
  · exact absurd trivial he
  -- sets only: the get-alls stay as they are
  · obtain rfl := Except.ok.inj h
    exact ⟨callsBack_answer _ _ _, ⟨[], .refl _⟩, rfl, rfl⟩
  · obtain rfl := Except.ok.inj h
    exact ⟨callsBack_visits _ _ vs, ⟨[], .refl _⟩, rfl, rfl⟩
  · obtain ⟨getAlls, hgetAlls, h⟩ := bind_eq_ok_iff.mp h
    obtain rfl := Except.ok.inj h
    -- get-alls only: who is called back, and that no call is made
    refine ⟨⟨[], .refl _⟩, ?_, rfl, ?_⟩
    all_goals rcases e with ⟨cmd, now⟩ | ⟨response, senderSysid, senderCompid⟩ | vs
    · exact absurd trivial he
    · obtain ⟨⟨_, s'⟩, hhandle, hgetAlls⟩ := bind_eq_ok_iff.mp hgetAlls
      obtain rfl := Except.ok.inj hgetAlls
      obtain ⟨l', -, ⟨-, hcalled⟩ | ⟨_, finished, _, params, -, -, -, hcalled⟩⟩ :=
        handleParamExtValue_cases hhandle
      · exact ⟨[], callsBack_of_tickets (by rw [hcalled, List.append_nil])
          (GetAlls.handleParamExtValue_tickets hhandle)⟩
      · exact ⟨_, callsBack_of_tickets hcalled (GetAlls.handleParamExtValue_tickets hhandle)⟩
    · obtain rfl := Except.ok.inj hgetAlls
      exact callsBack_visits _ _ vs
    · exact absurd trivial he
    · obtain ⟨⟨_, s'⟩, -, hgetAlls⟩ := bind_eq_ok_iff.mp hgetAlls
      obtain rfl := Except.ok.inj hgetAlls
      rfl
    · obtain rfl := Except.ok.inj hgetAlls
      rfl

/-- A call to set a parameter, accepted or refused. -/
theorem xparamStep_set {x x' : XParam.World} {cmd : ParamExtSet} {retransmitDelay nWanted : ℕ}
    {now : ℤ} (h : XParam.step x (.trySetParamAsync cmd retransmitDelay nWanted now) = .ok x') :
    ∃ accepted : Bool, (accepted = true ↔
        x.sets.running.length < ParamSets.MAX_N_SIMULTANOEUS_COMMANDS) ∧
      x'.calls = x.calls ++ [⟨cmd, nWanted, accepted⟩] ∧ x'.getAlls = x.getAlls ∧
      x'.sets.called = x.sets.called ∧
      x'.sets.running.map Job.cb =
        x.sets.running.map Job.cb ++ (if accepted then [x.calls.length] else []) := by
  obtain ⟨⟨accepted, sets⟩, hcall, h⟩ := bind_eq_ok_iff.mp h
  obtain rfl := Except.ok.inj h
  obtain ⟨-, ⟨rfl, hfull, rfl⟩ | ⟨rfl, hroom, rfl⟩⟩ := ParamSets.trySetParamAsync_cases hcall
  · exact ⟨false, by simp only [Bool.false_eq_true, false_iff]; omega, rfl, rfl, rfl, by simp⟩
  · refine ⟨true, by simpa using hroom, rfl, rfl, rfl, ?_⟩
    simp [Queue.enqueue, Job.transmitted]

/-- A call to get all parameters. -/
theorem xparamStep_getAll {x x' : XParam.World} {cmd : ParamExtRequestList} {now : ℤ}
    (h : XParam.step x (.getAll (.tryGetParamAllAsync cmd now)) = .ok x') :
    x'.calls = x.calls ∧ x'.sets = x.sets ∧ x'.getAlls.nCalls = x.getAlls.nCalls + 1 ∧
      x'.getAlls.getAlls.called = x.getAlls.getAlls.called ∧
      x'.getAlls.getAlls.running.map Job.cb =
        x.getAlls.getAlls.running.map Job.cb ++ [x.getAlls.nCalls] := by
  obtain ⟨getAlls, hgetAlls, h⟩ := bind_eq_ok_iff.mp h
  obtain rfl := Except.ok.inj h
  obtain rfl := Except.ok.inj hgetAlls
  refine ⟨rfl, rfl, rfl, rfl, ?_⟩
  simp [GetAlls.tryGetParamAllAsync, Queue.enqueue, Job.transmitted]

/-! ### The callbacks -/

/-- The flag is taken back if one of the sets called back is the model's. -/
theorem setsCalled_busy (w : World) (called : List (ℕ × SetParamResult))
    (model : MavlinkSettingsModel) :
    (called.foldl (setCalled w.setCbs) model).isCurrentlyBusy =
      (model.isCurrentlyBusy && (called.map Prod.fst).countP w.ownSet == 0) := by
  induction called generalizing model with
  | nil => simp
  | cons c called ih =>
      rw [List.foldl_cons, ih, List.map_cons, List.countP_cons, setCalled, ownSet]
      rcases w.setCbs[c.1]? with - | param | - | -
      · simp
      · simp [setParamCb, SetCb.isModel]
      · simp [SetCb.isModel]
      · simp [SetCb.isModel]

/-- The flag is taken back if one of the get-alls called back is the model's. -/
theorem getAllsCalled_busy (w : World) (called : List (ℕ × GetAllParamResult))
    (model : MavlinkSettingsModel) :
    (called.foldl (getAllCalled w.getAllCbs) model).isCurrentlyBusy =
      (model.isCurrentlyBusy && (called.map Prod.fst).countP w.ownGetAll == 0) := by
  induction called generalizing model with
  | nil => simp
  | cons c called ih =>
      rw [List.foldl_cons, ih, List.map_cons, List.countP_cons, getAllCalled, ownGetAll]
      rcases w.getAllCbs[c.1]? with - | - | -
      · simp
      · simp
      · simp [getAllCb]

theorem callXParam_eq_ok {w w' : World} {e : XParam.Event} (h : w.callXParam e = .ok w') :
    XParam.step w.xparam e = .ok w'.xparam ∧
      w' = { w with
        xparam := w'.xparam
        model := (w'.xparam.getAlls.getAlls.called.drop
          w.xparam.getAlls.getAlls.called.length).foldl (getAllCalled w.getAllCbs)
            ((w'.xparam.sets.called.drop w.xparam.sets.called.length).foldl
              (setCalled w.setCbs) w.model) } := by
  obtain ⟨xparam, hxparam, h⟩ := bind_eq_ok_iff.mp h
  obtain rfl := Except.ok.inj h
  exact ⟨hxparam, rfl⟩

/-- When nobody is called back, nothing else happens. -/
theorem callXParam_uncalled {w w' : World} {e : XParam.Event} (h : w.callXParam e = .ok w')
    (hsets : w'.xparam.sets.called = w.xparam.sets.called)
    (hgetAlls : w'.xparam.getAlls.getAlls.called = w.xparam.getAlls.getAlls.called) :
    w' = { w with xparam := w'.xparam } := by
  obtain ⟨-, hw'⟩ := callXParam_eq_ok h
  rw [hsets, hgetAlls, List.drop_length, List.drop_length] at hw'
  exact hw'

/-! ### The invariant -/

/-- There is a callback for every call. -/
structure Wired (w : World) : Prop where
  xparam : XParam.Inv w.xparam
  getAlls : GetAlls.Inv w.xparam.getAlls
  setCbs : w.setCbs.length = w.xparam.calls.length
  getAllCbs : w.getAllCbs.length = w.xparam.getAlls.nCalls

/-- What every step keeps: the flag is right. -/
structure Inv (w : World) : Prop extends Wired w where
  busy : w.nOutstanding = w.model.isCurrentlyBusy.toNat

theorem wired_init (sysId compId : UInt8) : Wired (init sysId compId) :=
  ⟨XParam.inv_init, GetAlls.inv_init, rfl, rfl⟩

theorem inv_init (sysId compId : UInt8) : Inv (init sysId compId) := ⟨wired_init sysId compId, rfl⟩

/-- Another callback does not change those that are there. -/
theorem countP_ownSet_append {w w' : World} {cb : SetCb} (hcbs : w'.setCbs = w.setCbs ++ [cb])
    {tickets : List ℕ} (h : ∀ t ∈ tickets, t < w.setCbs.length) :
    tickets.countP w'.ownSet = tickets.countP w.ownSet := by
  apply List.countP_congr
  intro t ht
  rw [ownSet, ownSet, hcbs, List.getElem?_append_left (h t ht)]

theorem countP_ownGetAll_append {w w' : World} {own : Bool}
    (hcbs : w'.getAllCbs = w.getAllCbs ++ [own]) {tickets : List ℕ}
    (h : ∀ t ∈ tickets, t < w.getAllCbs.length) :
    tickets.countP w'.ownGetAll = tickets.countP w.ownGetAll := by
  apply List.countP_congr
  intro t ht
  rw [ownGetAll, ownGetAll, hcbs, List.getElem?_append_left (h t ht)]

theorem Wired.sets_lt {w : World} (hw : Wired w) :
    ∀ t ∈ w.xparam.sets.running.map Job.cb, t < w.setCbs.length := fun t ht => by
  rw [hw.setCbs]
  exact hw.xparam.ledger.ticket_lt (List.mem_append_left _ ht)

theorem Wired.getAlls_lt {w : World} (hw : Wired w) :
    ∀ t ∈ w.xparam.getAlls.getAlls.running.map Job.cb, t < w.getAllCbs.length := fun t ht => by
  rw [hw.getAllCbs]
  exact hw.getAlls.lt t (List.mem_append_left _ ht)

/-- What `XParam` does keeps its own invariants. -/
theorem getAllsInv_step {x x' : XParam.World} {e : XParam.Event} (hx : GetAlls.Inv x.getAlls)
    (h : XParam.step x e = .ok x') : GetAlls.Inv x'.getAlls := by
  rcases e with ⟨cmd, delay, nWanted, now⟩ | ⟨ack, senderSysid, senderCompid⟩ | vs | e
  · obtain ⟨⟨_, _⟩, -, h⟩ := bind_eq_ok_iff.mp h
    obtain rfl := Except.ok.inj h
    exact hx
  · obtain rfl := Except.ok.inj h
    exact hx
  · obtain rfl := Except.ok.inj h
    exact hx
  · obtain ⟨getAlls, hgetAlls, h⟩ := bind_eq_ok_iff.mp h
    obtain rfl := Except.ok.inj h
    exact hx.step hgetAlls

theorem add_beq_zero (m n : ℕ) : (m + n == 0) = (m == 0 && n == 0) := by
  cases m <;> cases n <;> rfl

/-- Messages and timeouts: those called back leave, and the flag is taken back
if one of them is the model's. -/
theorem Wired.passive {w w' : World} {e : XParam.Event} (hw : Wired w) (he : ¬ IsCall e)
    (h : w.callXParam e = .ok w') :
    Wired w' ∧ ∃ called, w.nOutstanding = w'.nOutstanding + called ∧
      w'.model.isCurrentlyBusy = (w.model.isCurrentlyBusy && called == 0) := by
  obtain ⟨hx, hw'⟩ := callXParam_eq_ok h
  obtain ⟨⟨newSets, hsets⟩, ⟨newGetAlls, hgetAlls⟩, hcalls, hnCalls⟩ := xparamStep_passive he hx
  -- what is called back is what `XParam` has called more than before
  rw [hsets.called, hgetAlls.called, List.drop_left, List.drop_left] at hw'
  have hsetCbs : w'.setCbs = w.setCbs := by rw [hw']
  have hgetAllCbs : w'.getAllCbs = w.getAllCbs := by rw [hw']
  have hblocked : w'.blocked = w.blocked := by rw [hw']
  have hownSet : w'.ownSet = w.ownSet := funext fun t => by rw [ownSet, ownSet, hsetCbs]
  have hownGetAll : w'.ownGetAll = w.ownGetAll :=
    funext fun t => by rw [ownGetAll, ownGetAll, hgetAllCbs]
  refine ⟨⟨hw.xparam.step hx, getAllsInv_step hw.getAlls hx, ?_, ?_⟩,
    (newSets.map Prod.fst).countP w.ownSet + (newGetAlls.map Prod.fst).countP w.ownGetAll, ?_, ?_⟩
  · rw [hsetCbs, hcalls, hw.setCbs]
  · rw [hgetAllCbs, hnCalls, hw.getAllCbs]
  · have hcountSets := hsets.tickets.countP_eq w.ownSet
    have hcountGetAlls := hgetAlls.tickets.countP_eq w.ownGetAll
    rw [List.countP_append] at hcountSets hcountGetAlls
    rw [nOutstanding, nOutstanding, hownSet, hownGetAll, hblocked]
    omega
  · rw [hw']
    dsimp only
    rw [getAllsCalled_busy, setsCalled_busy, Bool.and_assoc, ← add_beq_zero]

/-- A call to set a parameter. -/
theorem Wired.setCall {w w' : World} {model : MavlinkSettingsModel} {cb : SetCb}
    {cmd : ParamExtSet} {retransmitDelay nWanted : ℕ} {now : ℤ} (hw : Wired w)
    (h : callXParam { w with model := model, setCbs := w.setCbs ++ [cb] }
      (.trySetParamAsync cmd retransmitDelay nWanted now) = .ok w') :
    Wired w' ∧ ∃ accepted : Bool,
      (accepted = true ↔
        w.xparam.sets.running.length < ParamSets.MAX_N_SIMULTANOEUS_COMMANDS) ∧
      w'.xparam.calls[w.xparam.calls.length]?.any Call.accepted = accepted ∧
      w'.model = model ∧ w'.blocked = w.blocked ∧
      w'.nOutstanding = w.nOutstanding + (accepted && cb.isModel).toNat := by
  obtain ⟨hx, -⟩ := callXParam_eq_ok h
  obtain ⟨accepted, hroom, hcalls, hgetAlls, hcalled, hrunning⟩ := xparamStep_set hx
  have hw' := callXParam_uncalled h hcalled (by rw [hgetAlls])
  have hsetCbs : w'.setCbs = w.setCbs ++ [cb] := by rw [hw']
  have hgetAllCbs : w'.getAllCbs = w.getAllCbs := by rw [hw']
  have hownGetAll : w'.ownGetAll = w.ownGetAll :=
    funext fun t => by rw [ownGetAll, ownGetAll, hgetAllCbs]
  -- the call gets the next number, and the callback stands at it
  have hlast : w'.ownSet w.xparam.calls.length = cb.isModel := by
    rw [ownSet, hsetCbs, ← hw.setCbs, List.getElem?_concat_length]
    rfl
  refine ⟨⟨hw.xparam.step hx, getAllsInv_step hw.getAlls hx, ?_, ?_⟩, accepted, hroom, ?_,
    by rw [hw'], by rw [hw'], ?_⟩
  · rw [hsetCbs, hcalls, List.length_append, List.length_append, hw.setCbs]
    rfl
  · rw [hgetAllCbs, hgetAlls, hw.getAllCbs]
  · rw [hcalls, List.getElem?_concat_length]
    rfl
  · have hblocked : w'.blocked = w.blocked := by rw [hw']
    rw [nOutstanding, nOutstanding, hrunning, hgetAlls, hownGetAll, hblocked, List.countP_append,
      countP_ownSet_append hsetCbs hw.sets_lt]
    -- only a call that is queued counts, and only if it is the model's
    cases accepted
    · simp
    · cases hmodel : cb.isModel
      · simp [hlast, hmodel]
      · simp only [↓reduceIte, List.countP_singleton, hlast, hmodel, Bool.and_self, Bool.toNat_true]
        omega

/-- A call to get all parameters. -/
theorem Wired.getAllCall {w w' : World} {model : MavlinkSettingsModel} {own : Bool}
    {cmd : ParamExtRequestList} {now : ℤ} (hw : Wired w)
    (h : callXParam { w with model := model, getAllCbs := w.getAllCbs ++ [own] }
      (.getAll (.tryGetParamAllAsync cmd now)) = .ok w') :
    Wired w' ∧ w'.model = model ∧ w'.nOutstanding = w.nOutstanding + own.toNat := by
  obtain ⟨hx, -⟩ := callXParam_eq_ok h
  obtain ⟨hcalls, hsets, hnCalls, hcalled, hrunning⟩ := xparamStep_getAll hx
  have hw' := callXParam_uncalled h (by rw [hsets]) hcalled
  have hsetCbs : w'.setCbs = w.setCbs := by rw [hw']
  have hgetAllCbs : w'.getAllCbs = w.getAllCbs ++ [own] := by rw [hw']
  have hownSet : w'.ownSet = w.ownSet := funext fun t => by rw [ownSet, ownSet, hsetCbs]
  have hlast : w'.ownGetAll w.xparam.getAlls.nCalls = own := by
    rw [ownGetAll, hgetAllCbs, ← hw.getAllCbs, List.getElem?_concat_length]
    rfl
  refine ⟨⟨hw.xparam.step hx, getAllsInv_step hw.getAlls hx, ?_, ?_⟩, by rw [hw'], ?_⟩
  · rw [hsetCbs, hcalls, hw.setCbs]
  · rw [hgetAllCbs, hnCalls, List.length_append, hw.getAllCbs]
    rfl
  · have hblocked : w'.blocked = w.blocked := by rw [hw']
    rw [nOutstanding, nOutstanding, hrunning, hsets, hownSet, hblocked, List.countP_append,
      countP_ownGetAll_append hgetAllCbs hw.getAlls_lt]
    cases own
    · simp [hlast]
    · simp only [List.countP_singleton, hlast, ↓reduceIte, Bool.toNat_true]
      omega

/-! ### One step -/

/-- The promise of a call that waits is set. -/
theorem Inv.returns {w : World} (hw : Inv w) (call : ℕ) :
    Inv (w.tryUpdateParameterReturns call) := by
  unfold tryUpdateParameterReturns
  split
  · rename_i _ param _ result hblocked hcalled
    have hmem := List.mem_of_find?_eq_some hblocked
    have hpred := List.find?_some hblocked
    -- the flag is taken back, and the caller was the only request
    have hlength := List.length_eraseP_of_mem (p := fun x => decide (x.1 = call)) hmem hpred
    have hpos := List.length_pos_of_mem hmem
    have hbefore := hw.busy
    have hle := Bool.toNat_le w.model.isCurrentlyBusy
    have hnone : ∀ model : MavlinkSettingsModel, model.isCurrentlyBusy = false →
        Inv { w with model := model, blocked := w.blocked.eraseP (·.1 = call) } := by
      intro model hmodel
      refine ⟨{ hw.toWired with }, ?_⟩
      show (w.xparam.sets.running.map Job.cb).countP w.ownSet +
        (w.xparam.getAlls.getAlls.running.map Job.cb).countP w.ownGetAll +
          (w.blocked.eraseP (·.1 = call)).length = model.isCurrentlyBusy.toNat
      rw [nOutstanding] at hbefore
      rw [hmodel, hlength, Bool.toNat_false]
      omega
    dsimp only
    split
    · exact hnone _ rfl
    · exact hnone _ rfl
  · exact hw

theorem Inv.ofModel {w : World} (hw : Inv w) {model : MavlinkSettingsModel}
    (h : model.isCurrentlyBusy = w.model.isCurrentlyBusy) : Inv { w with model := model } :=
  ⟨{ hw.toWired with }, h.symm ▸ hw.busy⟩

/-- What happens to `XParam` is a call of somebody else, or no call. -/
theorem register_cases (w : World) (e : XParam.Event) :
    (∃ cmd delay nWanted now, e = .trySetParamAsync cmd delay nWanted now ∧
        w.register e = { w with setCbs := w.setCbs ++ [.other] }) ∨
      (∃ cmd now, e = .getAll (.tryGetParamAllAsync cmd now) ∧
        w.register e = { w with getAllCbs := w.getAllCbs ++ [false] }) ∨
      ¬ IsCall e ∧ w.register e = w := by
  rcases e with ⟨cmd, delay, nWanted, now⟩ | ⟨ack, sysid, compid⟩ | vs | e
  · exact .inl ⟨cmd, delay, nWanted, now, rfl, rfl⟩
  · exact .inr (.inr ⟨id, rfl⟩)
  · exact .inr (.inr ⟨id, rfl⟩)
  rcases e with ⟨cmd, now⟩ | ⟨response, sysid, compid⟩ | vs
  · exact .inr (.inl ⟨cmd, now, rfl, rfl⟩)
  · exact .inr (.inr ⟨id, rfl⟩)
  · exact .inr (.inr ⟨id, rfl⟩)

theorem Inv.xparamEvent {w w' : World} {e : XParam.Event} (hw : Inv w)
    (h : (w.register e).callXParam e = .ok w') : Inv w' := by
  have hbefore := hw.busy
  obtain ⟨cmd, delay, nWanted, now, rfl, hregister⟩ | ⟨cmd, now, rfl, hregister⟩ |
    ⟨hcall, hregister⟩ := w.register_cases e
  all_goals rw [hregister] at h
  · obtain ⟨hwired, accepted, -, -, hmodel, -, hcount⟩ := hw.toWired.setCall h
    refine ⟨hwired, ?_⟩
    rw [hcount, hmodel, hbefore, SetCb.isModel, Bool.and_false]
    rfl
  · obtain ⟨hwired, hmodel, hcount⟩ := hw.toWired.getAllCall h
    refine ⟨hwired, ?_⟩
    rw [hcount, hmodel, hbefore]
    rfl
  · obtain ⟨hwired, called, hcount, hbusy⟩ := hw.toWired.passive hcall h
    refine ⟨hwired, ?_⟩
    have hle := Bool.toNat_le w.model.isCurrentlyBusy
    rw [hbusy]
    -- at most one of those called back is the model's
    rcases called with - | called
    · rw [BEq.rfl, Bool.and_true]
      omega
    · have hsome : (called + 1 == 0) = false := rfl
      rw [hsome, Bool.and_false, Bool.toNat_false]
      omega

variable {isParamWhitelisted : List UInt8 → Bool}

/-- There is always a callback for every call. -/
theorem Wired.step {w w' : World} {e : Event} (hw : Wired w)
    (h : World.step isParamWhitelisted w e = .ok w') : Wired w' := by
  -- the cache and the callers that wait do not matter
  have hother : ∀ (w₁ : World) (model : MavlinkSettingsModel) (blocked : List (ℕ × SettingData)),
      Wired w₁ → Wired { w₁ with model := model, blocked := blocked } :=
    fun _ _ _ hw₁ => { hw₁ with }
  cases e with
  | setReady =>
      obtain rfl := Except.ok.inj h
      exact hother _ _ _ hw
  | tryRefetchAllParametersAsync now =>
      change w.tryRefetchAllParametersAsync now = .ok w' at h
      unfold tryRefetchAllParametersAsync at h
      split_ifs at h
      · exact Except.ok.inj h ▸ hw
      · exact Except.ok.inj h ▸ hw
      · exact (hw.getAllCall h).1
  | trySetParamAsync param now =>
      change w.trySetParamAsync param now = .ok w' at h
      unfold trySetParamAsync at h
      split_ifs at h
      · exact Except.ok.inj h ▸ hw
      · exact (hw.setCall h).1
  | tryUpdateParameter param now =>
      obtain ⟨w₁, h₁, h⟩ := bind_eq_ok_iff.mp h
      obtain ⟨hw₁, -⟩ := hw.setCall h₁
      split_ifs at h
      · exact Except.ok.inj h ▸ hother _ _ _ hw₁
      · exact Except.ok.inj h ▸ hother _ _ _ hw₁
  | tryUpdateParameterReturns call =>
      obtain rfl := Except.ok.inj h
      unfold tryUpdateParameterReturns
      split
      · dsimp only
        split
        · exact hother w _ _ hw
        · exact hother w _ _ hw
      · exact hw
  | uiThreadReplaceParamSet =>
      obtain rfl := Except.ok.inj h
      exact hother _ _ _ hw
  | xparam e =>
      obtain ⟨cmd, delay, nWanted, now, rfl, hregister⟩ | ⟨cmd, now, rfl, hregister⟩ |
        ⟨hcall, hregister⟩ := w.register_cases e
      all_goals change (w.register _).callXParam _ = .ok w' at h
      all_goals rw [hregister] at h
      · exact (hw.setCall h).1
      · exact (hw.getAllCall h).1
      · exact (hw.passive hcall h).1

/-- **One step** that meets the condition keeps the invariant. -/
theorem Inv.step {w w' : World} {e : Event} (hw : Inv w) (he : w.Orderly e)
    (h : World.step isParamWhitelisted w e = .ok w') : Inv w' := by
  cases e with
  | setReady =>
      obtain rfl := Except.ok.inj h
      exact hw.ofModel rfl
  | tryRefetchAllParametersAsync now =>
      change w.tryRefetchAllParametersAsync now = .ok w' at h
      unfold tryRefetchAllParametersAsync at h
      split_ifs at h with hready hbusy
      · obtain rfl := Except.ok.inj h
        exact hw
      · obtain rfl := Except.ok.inj h
        exact hw
      · obtain ⟨hwired, hmodel, hcount⟩ := hw.toWired.getAllCall h
        refine ⟨hwired, ?_⟩
        rw [hcount, hmodel, hw.busy, eq_false_of_ne_true hbusy]
        rfl
  | trySetParamAsync param now =>
      change w.trySetParamAsync param now = .ok w' at h
      unfold trySetParamAsync at h
      split_ifs at h with hbusy
      · obtain rfl := Except.ok.inj h
        exact hw
      · obtain ⟨hwired, accepted, hroom, -, hmodel, -, hcount⟩ := hw.toWired.setCall h
        -- the condition: there is room, so the callback will take the flag back
        obtain rfl : accepted = true := hroom.mpr (he (eq_false_of_ne_true hbusy))
        refine ⟨hwired, ?_⟩
        rw [hcount, hmodel, hw.busy, eq_false_of_ne_true hbusy]
        rfl
  | tryUpdateParameter param now =>
      -- not busy, so the set is the only request
      have hbusy : w.model.isCurrentlyBusy = false := he
      obtain ⟨w₁, h₁, h⟩ := bind_eq_ok_iff.mp h
      obtain ⟨hwired, accepted, -, haccepted, hmodel, hblocked, hcount⟩ := hw.toWired.setCall h₁
      have hnone : w₁.nOutstanding = 0 := by
        rw [hcount, hw.busy, hbusy]
        simp [SetCb.isModel]
      rw [haccepted] at h
      split_ifs at h
      · obtain rfl := Except.ok.inj h
        refine ⟨{ hwired with }, ?_⟩
        show (w₁.xparam.sets.running.map Job.cb).countP w₁.ownSet +
          (w₁.xparam.getAlls.getAlls.running.map Job.cb).countP w₁.ownGetAll +
            (w.blocked ++ [(w.xparam.calls.length, param)]).length =
              w₁.model.isCurrentlyBusy.toNat
        rw [nOutstanding, hblocked] at hnone
        rw [hmodel, List.length_append, List.length_singleton]
        show _ = 1
        omega
      -- refused: the flag is taken back at once
      · obtain rfl := Except.ok.inj h
        exact ⟨{ hwired with }, hnone⟩
  | tryUpdateParameterReturns call =>
      obtain rfl := Except.ok.inj h
      exact hw.returns call
  | uiThreadReplaceParamSet =>
      obtain rfl := Except.ok.inj h
      apply hw.ofModel
      unfold MavlinkSettingsModel.uiThreadReplaceParamSet
      split <;> rfl
  | xparam e => exact hw.xparamEvent h

/-! ### Runs -/

/-- **The flag**: in every state of a run whose steps all meet the condition,
the model is busy exactly when a request of its own is outstanding. -/
theorem busy_iff_outstanding (isParamWhitelisted : List UInt8 → Bool) (sysId compId : UInt8)
    (events : List Event) {w : World}
    (hevents : EveryStep Orderly (step isParamWhitelisted) (init sysId compId) events)
    (h : run (step isParamWhitelisted) (init sysId compId) events = .ok w) :
    w.model.isCurrentlyBusy = true ↔ 0 < w.nOutstanding := by
  have hw : Inv w := run_invariant_of_everyStep (I := Inv) (P := Orderly)
    (fun _ _ _ hw he hstep => hw.step he hstep) (inv_init sysId compId) hevents h
  rw [hw.busy]
  cases w.model.isCurrentlyBusy <;> decide

/-- A parameter of the camera. -/
def brightness : SettingData := ⟨[66, 82, 73, 71, 72, 84], .int 50⟩

/-- A set that is acknowledged, and one that is not yet. -/
def brightnessEvents : List Event :=
  let ack := acknowledge ((new OHD_SYS_ID_AIR 100).createCmdSet brightness)
  [.setReady, .trySetParamAsync brightness 0, .xparam (.paramExtAck ack OHD_SYS_ID_AIR 100),
    .trySetParamAsync ⟨brightness.uniqueId, .int 70⟩ 100, .tryRefetchAllParametersAsync 200]

theorem busy_iff_outstanding_brightness :
    ∃ w, run (step fun _ => false) (init OHD_SYS_ID_AIR 100) brightnessEvents = .ok w ∧
      w.xparam.sets.called.length = 1 ∧ 0 < w.nOutstanding ∧
      (w.model.isCurrentlyBusy = true ↔ 0 < w.nOutstanding) :=
  ⟨_, rfl, rfl, of_decide_eq_true rfl, busy_iff_outstanding (fun _ => false)
    OHD_SYS_ID_AIR 100 brightnessEvents (by decide +kernel) rfl⟩

/-- A set of somebody else. -/
def otherSet (now : ℤ) : Event :=
  .xparam (.trySetParamAsync (XParam.airSet XParam.videoBitrate 8) 500 3 now)

/-- Five sets of others are under way: the set of the model is refused, and
leaves it busy. -/
theorem busy_without_request :
    ¬ ∀ (isParamWhitelisted : List UInt8 → Bool) (sysId compId : UInt8) (events : List Event)
        (w : World), run (step isParamWhitelisted) (init sysId compId) events = .ok w →
        (w.model.isCurrentlyBusy = true ↔ 0 < w.nOutstanding) := by
  intro h
  have hstuck := h (fun _ => false) OHD_SYS_ID_AIR 100 [otherSet 0, otherSet 1, otherSet 2,
    otherSet 3, otherSet 4, .trySetParamAsync brightness 5] _ rfl
  exact absurd (hstuck.mp rfl) (by decide)

end World

end MavlinkSettingsModel

end QOpenHD
