/-
QOpenHD/SettingsCacheSteps.lean

What a `MavlinkSettingsModel` does with what it receives: an acknowledgement is
for the first set under way, and updates the cache or sets the promise of a
caller; a parameter goes into its slot, and the last one queues a replacement; a
caller that returns updates the cache; and a replacement is the rows of the
server.
-/
import QOpenHD.SettingsCacheInv

namespace QOpenHD

open Checked RetryQueue LastWriter SettingsServer

namespace SettingsCache

section

variable {isParamWhitelisted : List UInt8 → Bool} {sysId compId : UInt8} {w : World} {l : Flights}

/-! ### An acknowledgement is received -/

theorem setCalled_setCb {setCbs : List MavlinkSettingsModel.SetCb} {call : ℕ} {param : SettingData}
    {blocking : Bool} (h : setCbs[call]? = some (setCb param blocking))
    (model : MavlinkSettingsModel) (result : SetParamResult) :
    MavlinkSettingsModel.setCalled setCbs model (call, result) =
      if blocking then model else MavlinkSettingsModel.setParamCb param model result := by
  cases blocking
  · simp [MavlinkSettingsModel.setCalled, h, setCb]
  · simp [MavlinkSettingsModel.setCalled, h, setCb]

/-- The result of a set that was acknowledged. -/
def resultFor (sysId compId : UInt8) (a : Flight × UInt8) (nTransmissions : ℕ) : SetParamResult :=
  ⟨some (ackFor sysId compId a), nTransmissions⟩

theorem isAccepted_resultFor (a : Flight × UInt8) (nTransmissions : ℕ) :
    (resultFor sysId compId a nTransmissions).isAccepted = true ↔ a.2 = PARAM_ACK_ACCEPTED := by
  simp [resultFor, SetParamResult.isAccepted, ackFor]

/-- The state after an acknowledgement. -/
def World.afterAck (w : World) (a : Flight × UInt8) (result : SetParamResult)
    (running : List (Job ParamExtSet)) (rest : List ToXParam) : World :=
  { w with
    toXParam := rest
    settings := { w.settings with
      model := if a.1.blocking then w.settings.model
        else MavlinkSettingsModel.setParamCb a.1.param w.settings.model result
      xparam := { w.settings.xparam with
        sets := {
          running := running
          sent := w.settings.xparam.sets.sent
          called := w.settings.xparam.sets.called ++ [(a.1.call, result)] } } } }

theorem refersTo_ackFor (a : Flight × UInt8) :
    XParam.RefersTo (ackFor sysId compId a) sysId compId (setFor sysId compId a.1.param) := by
  obtain ⟨⟨call, ⟨uniqueId, value | value⟩, blocking⟩, result⟩ := a
  · exact ⟨rfl, rfl, rfl, rfl⟩
  · exact ⟨rfl, rfl, rfl, rfl⟩

/-- An acknowledgement is for the first set under way. -/
theorem Flying.receiveAck (isParamWhitelisted : List UInt8 → Bool)
    (h : Flying sysId compId w l) {ack : ParamExtAck} {rest : List ToXParam}
    (hack : w.toXParam = .ack ack :: rest) :
    ∃ a acked nTransmissions running, l.acked = a :: acked ∧
      rest.filterMap ToXParam.asAck = acked.map (ackFor sysId compId) ∧
      running.map (fun j => (j.cb, j.payload)) =
        (acked.map Prod.fst ++ l.sent).map (fun f => (f.call, setFor sysId compId f.param)) ∧
      settingsStep isParamWhitelisted { w with toXParam := rest }
          (.xparam (.paramExtAck ack w.settings.model.sysId w.settings.model.compId)) =
        .ok (w.afterAck a (resultFor sysId compId a nTransmissions) running rest) := by
  have htoXParam := h.toXParam
  have hrunning := h.running
  rw [hack, List.filterMap_cons] at htoXParam
  rcases hacked : l.acked with - | ⟨a, acked⟩
  · rw [hacked] at htoXParam
    cases htoXParam
  rw [hacked] at htoXParam
  obtain ⟨rfl, hrest⟩ := List.cons.inj htoXParam
  rw [Flights.underway, hacked] at hrunning
  -- the oldest set of `XParam` is the one that was acknowledged first
  rcases hjobs : w.settings.xparam.sets.running with - | ⟨j, running⟩
  · rw [hjobs] at hrunning
    cases hrunning
  rw [hjobs] at hrunning
  obtain ⟨hj, hrunning⟩ := List.cons.inj hrunning
  obtain ⟨hcb, hpayload⟩ := Prod.mk.inj hj
  refine ⟨a, acked, j.nTransmissions, running, rfl, hrest, hrunning, ?_⟩
  have hsetCb : w.settings.setCbs[j.cb]? = some (setCb a.1.param a.1.blocking) := by
    rw [hcb]
    apply h.setCbs
    simp [Flights.underway, hacked]
  have hrefers : XParam.RefersTo (ackFor sysId compId a) sysId compId j.payload := by
    rw [hpayload]
    exact refersTo_ackFor a
  have hcall := callXParam_ack hjobs hrefers
  rw [setCalled_setCb hsetCb, hcb] at hcall
  rw [h.targetSystem, h.targetComponent]
  exact settingsStep_quiet (w := { w with toXParam := rest }) hcall rfl rfl

/-- What the callback does with the cache. -/
theorem setParamCb_eq (a : Flight × UInt8) (model : MavlinkSettingsModel) {result : SetParamResult}
    (hresult : result.isAccepted = true ↔ a.2 = PARAM_ACK_ACCEPTED) :
    MavlinkSettingsModel.setParamCb a.1.param model result =
      { model with isCurrentlyBusy := false, data := updateIfAccepted a model.data } := by
  unfold MavlinkSettingsModel.setParamCb updateIfAccepted
  by_cases haccepted : result.isAccepted = true
  · rw [if_pos haccepted, if_pos (hresult.mp haccepted)]
    rfl
  · rw [if_neg haccepted, if_neg fun ha => haccepted (hresult.mpr ha)]

section

variable {done acked : List (Flight × UInt8)} {a : Flight × UInt8} {sent : List Flight}
  {running : List (Job ParamExtSet)} {rest : List ToXParam}

/-- The promise of a caller is set. -/
theorem Flying.afterAck_blocking (h : Flying sysId compId w ⟨done, a :: acked, sent⟩)
    (hrest : rest.filterMap ToXParam.asAck = acked.map (ackFor sysId compId))
    (hrunning : running.map (fun j => (j.cb, j.payload)) =
      (acked.map Prod.fst ++ sent).map (fun f => (f.call, setFor sysId compId f.param)))
    (hblocking : a.1.blocking = true) (nTransmissions : ℕ) :
    Flying sysId compId (w.afterAck a (resultFor sysId compId a nTransmissions) running rest)
      ⟨done ++ [a], acked, sent⟩ := by
  have hall : (⟨done ++ [a], acked, sent⟩ : Flights).all =
      (⟨done, a :: acked, sent⟩ : Flights).all := by
    simp [Flights.all, Flights.underway]
  have hmodel : (w.afterAck a (resultFor sysId compId a nTransmissions) running
      rest).settings.model = w.settings.model := if_pos hblocking
  exact {
    targetSystem := hmodel ▸ h.targetSystem
    targetComponent := hmodel ▸ h.targetComponent
    running := hrunning
    setCbs := fun f hf => h.setCbs f (List.mem_cons_of_mem _ hf)
    blocked := hall ▸ h.blocked
    done := by
      intro b hb
      rcases List.mem_append.mp hb with hold | hnew
      · obtain ⟨hb, result, hresult, haccepted⟩ := h.done b hold
        exact ⟨hb, result, List.mem_append_left _ hresult, haccepted⟩
      · obtain rfl := List.mem_singleton.mp hnew
        exact ⟨hblocking, _, List.mem_append_right _ List.mem_cons_self,
          isAccepted_resultFor b nTransmissions⟩
    apart := hall ▸ h.apart
    nodup := hall ▸ h.nodup
    fits := h.fits
    toServer := h.toServer
    toXParam := hrest }

/-- The model is called back. -/
theorem Flying.afterAck_async (h : Flying sysId compId w ⟨done, a :: acked, sent⟩)
    (hrest : rest.filterMap ToXParam.asAck = acked.map (ackFor sysId compId))
    (hrunning : running.map (fun j => (j.cb, j.payload)) =
      (acked.map Prod.fst ++ sent).map (fun f => (f.call, setFor sysId compId f.param)))
    (hasync : a.1.blocking = false) (nTransmissions : ℕ) :
    Flying sysId compId (w.afterAck a (resultFor sysId compId a nTransmissions) running rest)
      ⟨done, acked, sent⟩ := by
  have hsublist : List.Sublist (⟨done, acked, sent⟩ : Flights).all
      (⟨done, a :: acked, sent⟩ : Flights).all :=
    (List.sublist_cons_self _ _).append_left _
  have hfilter : (⟨done, acked, sent⟩ : Flights).all.filter Flight.blocking =
      (⟨done, a :: acked, sent⟩ : Flights).all.filter Flight.blocking := by
    simp [Flights.all, Flights.underway, hasync]
  have hmodel : (w.afterAck a (resultFor sysId compId a nTransmissions) running
      rest).settings.model = MavlinkSettingsModel.setParamCb a.1.param w.settings.model
        (resultFor sysId compId a nTransmissions) :=
    if_neg (by rw [hasync]; exact Bool.false_ne_true)
  rw [setParamCb_eq a _ (isAccepted_resultFor a nTransmissions)] at hmodel
  exact {
    targetSystem := by rw [hmodel]; exact h.targetSystem
    targetComponent := by rw [hmodel]; exact h.targetComponent
    running := hrunning
    setCbs := fun f hf => h.setCbs f (List.mem_cons_of_mem _ hf)
    blocked := hfilter ▸ h.blocked
    done := by
      intro b hb
      obtain ⟨hb, result, hresult, haccepted⟩ := h.done b hb
      exact ⟨hb, result, List.mem_append_left _ hresult, haccepted⟩
    apart := h.apart.sublist hsublist
    nodup := h.nodup.sublist (hsublist.map _)
    fits := h.fits
    toServer := h.toServer
    toXParam := hrest }

end

/-- A fetch does not look at acknowledgements. -/
theorem Fetching.afterAck (h : Fetching w l) {a : Flight × UInt8} {result : SetParamResult}
    {running : List (Job ParamExtSet)} {ack : ParamExtAck} {rest : List ToXParam}
    (hack : w.toXParam = .ack ack :: rest) {l' : Flights} (hsent : l'.sent = l.sent)
    (hreplacements : (w.afterAck a result running rest).settings.model.replacements =
      w.settings.model.replacements) :
    Fetching (w.afterAck a result running rest) l' := by
  have hmem : ∀ response, .value response ∈ rest → .value response ∈ w.toXParam := by
    intro response hresponse
    rw [hack]
    exact List.mem_cons_of_mem _ hresponse
  exact {
    wellFormed := h.wellFormed
    getAllCbs := h.getAllCbs
    slots := h.slots
    values := fun response hresponse => h.values response (hmem _ hresponse)
    replacements := hreplacements ▸ h.replacements
    quiet := hsent ▸ h.quiet.imp id fun hnone => ⟨hnone.streams,
      fun response hresponse => hnone.toXParam response (hmem _ hresponse), hnone.slots,
      hreplacements.trans hnone.replacements⟩ }

/-- The cache stays as it is. -/
theorem Cached.same (h : Cached isParamWhitelisted w l) {l' : Flights}
    (hpending : l'.pending = l.pending) {w' : World} (hparams : w'.params = w.params)
    (hfetched : w'.fetched = w.fetched)
    (hmodel : w'.settings.model = w.settings.model) : Cached isParamWhitelisted w' l' := by
  refine ⟨?_, ?_, ?_⟩
  · rw [hpending, hparams]
    exact h.server
  · rw [hfetched, hmodel]
    exact h.replaced
  · rw [hfetched, hmodel, hpending, hparams]
    exact h.cache

theorem settingsStep_wired {w' : World} {e : MavlinkSettingsModel.Event} (hw : w.settings.Wired)
    (h : settingsStep isParamWhitelisted w e = .ok w') : w'.settings.Wired := by
  obtain ⟨settings, hsettings, h⟩ := bind_eq_ok_iff.mp h
  obtain rfl := Except.ok.inj h
  exact hw.step hsettings

theorem Inv.receiveAck (h : Inv isParamWhitelisted sysId compId w l) {ack : ParamExtAck}
    {rest : List ToXParam} (hack : w.toXParam = .ack ack :: rest) {w' : World}
    (hstep : settingsStep isParamWhitelisted { w with toXParam := rest }
      (.xparam (.paramExtAck ack w.settings.model.sysId w.settings.model.compId)) = .ok w') :
    ∃ l', Inv isParamWhitelisted sysId compId w' l' := by
  have hwired := settingsStep_wired (w := { w with toXParam := rest }) h.wired hstep
  obtain ⟨a, acked, n, running, hacked, hrest, hrunning, heq⟩ :=
    h.flying.receiveAck isParamWhitelisted hack
  obtain rfl := Except.ok.inj (heq.symm.trans hstep)
  obtain ⟨done, _, sent⟩ := l
  obtain rfl : _ = a :: acked := hacked
  by_cases hblocking : a.1.blocking = true
  · -- the cache is written when the caller returns
    have hmodel : (w.afterAck a (resultFor sysId compId a n) running rest).settings.model =
        w.settings.model := if_pos hblocking
    have hpending : (⟨done ++ [a], acked, sent⟩ : Flights).pending =
        (⟨done, a :: acked, sent⟩ : Flights).pending := by
      rw [Flights.pending, Flights.pending, List.append_assoc]
      rfl
    exact ⟨_, hwired, h.flying.afterAck_blocking hrest hrunning hblocking n,
      h.fetching.afterAck hack rfl (by rw [hmodel]), h.cached.same hpending rfl rfl hmodel⟩
  · have hasync := eq_false_of_ne_true hblocking
    have hmodel : (w.afterAck a (resultFor sysId compId a n) running rest).settings.model =
        MavlinkSettingsModel.setParamCb a.1.param w.settings.model (resultFor sysId compId a n) :=
      if_neg hblocking
    rw [setParamCb_eq a _ (isAccepted_resultFor a n)] at hmodel
    -- nobody waits for a set of this parameter
    have hapart : ∀ b ∈ done, b.1.param.uniqueId ≠ a.1.param.uniqueId := by
      intro b hb
      have hpairs := (List.pairwise_append.mp h.flying.apart).2.2
      exact hpairs b.1 (List.mem_map_of_mem hb) a.1 List.mem_cons_self (h.flying.done b hb).1
    exact ⟨⟨done, acked, sent⟩, hwired, h.flying.afterAck_async hrest hrunning hasync n,
      h.fetching.afterAck hack rfl (by rw [hmodel]),
      h.cached.update rfl rfl hapart rfl rfl (by rw [hmodel]) (by rw [hmodel])⟩

/-! ### A parameter is received -/

section

variable {params : List ServerParam} {response : ParamExtValue} {i : ℕ}

/-- What the server sends has the number and the count of its parameter. -/
theorem responseAt_eq_some (hparams : WellFormed params) (h : responseAt params i = some response) :
    i < params.length ∧ response.paramCount.toNat = params.length ∧
      response.paramIndex.toNat = i := by
  obtain ⟨p, hp, rfl⟩ := Option.map_eq_some_iff.mp h
  obtain ⟨hi, -⟩ := List.getElem?_eq_some_iff.mp hp
  have hlt := hparams.length_lt
  refine ⟨hi, ?_, ?_⟩
  · rw [ServerParam.response, UInt16.toNat_ofNat']
    omega
  · rw [ServerParam.response, UInt16.toNat_ofNat']
    omega

theorem current_slotsFor (hparams : WellFormed params) (h : responseAt params i = some response)
    {running : GetAll}
    (hslots : running.serverParamSet = [] ∨ Current params running.serverParamSet) :
    Current params (slotsFor response running) := by
  obtain ⟨-, hcount, -⟩ := responseAt_eq_some hparams h
  rw [slotsFor]
  split_ifs with hempty
  · refine ⟨by rw [List.length_replicate, hcount], fun k v hv => ?_⟩
    have hnone := List.eq_of_mem_replicate (List.mem_of_getElem? hv)
    cases hnone
  · exact hslots.resolve_left fun hnil => hempty (List.isEmpty_iff.mpr hnil)

/-- A response that is stored is what the server would send now. -/
theorem current_filledSlots (hparams : WellFormed params) (h : responseAt params i = some response)
    {running : GetAll}
    (hslots : running.serverParamSet = [] ∨ Current params running.serverParamSet) :
    Current params (filledSlots response running) := by
  obtain ⟨hlength, hfilled⟩ := current_slotsFor hparams h hslots
  obtain ⟨-, -, hindex⟩ := responseAt_eq_some hparams h
  rw [filledSlots, hindex]
  refine ⟨by rw [List.length_set, hlength], fun k v hv => ?_⟩
  by_cases hk : i = k
  · subst hk
    obtain ⟨hi, heq⟩ := List.getElem?_eq_some_iff.mp hv
    rw [List.getElem_set_self, Option.some.injEq] at heq
    exact heq ▸ h
  · rw [List.getElem?_set_ne hk] at hv
    exact hfilled k v hv

/-- A get-all that is completed has taken the response. -/
theorem findRemove_finished {sysid compid : UInt8} {l left : List (Job GetAll)}
    {finished : Job GetAll}
    (h : findRemoveRunningCommandGetAll response sysid compid l = .ok (some finished, left)) :
    ∃ running ∈ l, finished = withParamSet running (filledSlots response running.payload) := by
  induction l generalizing left with
  | nil => cases (Prod.mk.inj (Except.ok.inj h)).1
  | cons running rest ih =>
      rcases findRemove_cons_cases h with ⟨-, hnone, -⟩ | ⟨-, -, hfinished, -⟩ |
        ⟨_, left', -, hrest, -⟩
      · cases hnone
      · exact ⟨running, List.mem_cons_self, Option.some.inj hfinished⟩
      · obtain ⟨r, hr, hfinished⟩ := ih hrest
        exact ⟨r, List.mem_cons_of_mem _ hr, hfinished⟩

/-- Those that are left have what the server would send now. -/
theorem current_of_left {sysid compid : UInt8} (hparams : WellFormed params)
    (h : responseAt params i = some response) {l left : List (Job GetAll)}
    {optFinished : Option (Job GetAll)}
    (hfound : findRemoveRunningCommandGetAll response sysid compid l = .ok (optFinished, left))
    (hslots : ∀ j ∈ l, j.payload.serverParamSet = [] ∨ Current params j.payload.serverParamSet) :
    ∀ j ∈ left, j.payload.serverParamSet = [] ∨ Current params j.payload.serverParamSet := by
  obtain ⟨l', hl', hleft⟩ := findRemove_passed hfound
  have hanswered : ∀ j ∈ l', j.payload.serverParamSet = [] ∨
      Current params j.payload.serverParamSet := by
    intro j hj
    obtain ⟨running, hrunning, rfl | ⟨-, -, rfl⟩⟩ := answered_origin hl' j hj
    · exact hslots _ hrunning
    · exact .inr (current_filledSlots hparams h (hslots _ hrunning))
  rcases hleft with ⟨-, rfl⟩ | ⟨pre, finished, post, rfl, -, rfl, -⟩
  · exact hanswered
  · intro j hj
    apply hanswered
    rcases List.mem_append.mp hj with hpre | hpost
    · exact List.mem_append_left _ hpre
    · exact List.mem_append_right _ (List.mem_cons_of_mem _ hpost)

end

/-- The state after a response. -/
def World.afterValue (w : World) (model : MavlinkSettingsModel) (running : List (Job GetAll))
    (called : List (ℕ × GetAllParamResult)) (rest : List ToXParam) : World :=
  { w with
    settings := { w.settings with
      model := model
      xparam := SettingsCache.afterValue w.settings.xparam running called }
    toXParam := rest }

theorem settingsStep_value {w' : World} {response : ParamExtValue} {rest : List ToXParam}
    {sysid compid : UInt8}
    (h : settingsStep isParamWhitelisted { w with toXParam := rest }
      (.xparam (.getAll (.paramExtValue response sysid compid))) = .ok w') :
    ∃ optFinished left, findRemoveRunningCommandGetAll response sysid compid
        w.settings.xparam.getAlls.getAlls.running = .ok (optFinished, left) ∧
      ((optFinished = none ∧ w' = w.afterValue w.settings.model left [] rest) ∨
        ∃ finished vs, optFinished = some finished ∧
          validParamSet finished.payload.serverParamSet = .ok vs ∧
            w' = w.afterValue (MavlinkSettingsModel.getAllCalled w.settings.getAllCbs
              w.settings.model (finished.cb, ⟨true, vs⟩)) left [(finished.cb, ⟨true, vs⟩)]
                rest) := by
  obtain ⟨settings, hsettings, -⟩ := bind_eq_ok_iff.mp h
  have hcall : w.settings.callXParam (.getAll (.paramExtValue response sysid compid)) =
      .ok settings := hsettings
  obtain ⟨optFinished, left, hfound, hcases⟩ := callXParam_value hcall
  refine ⟨optFinished, left, hfound, hcases.imp ?_ ?_⟩
  · rintro ⟨hnone, rfl⟩
    exact ⟨hnone, (Except.ok.inj ((settingsStep_quiet hsettings rfl rfl).symm.trans h)).symm⟩
  · rintro ⟨finished, vs, hfinished, hvs, rfl⟩
    exact ⟨finished, vs, hfinished, hvs,
      (Except.ok.inj ((settingsStep_quiet hsettings rfl rfl).symm.trans h)).symm⟩

theorem Flying.afterValue (h : Flying sysId compId w l) {response : ParamExtValue}
    {rest : List ToXParam} (hvalue : w.toXParam = .value response :: rest)
    {model : MavlinkSettingsModel} (hsysId : model.sysId = w.settings.model.sysId)
    (hcompId : model.compId = w.settings.model.compId) (running : List (Job GetAll))
    (called : List (ℕ × GetAllParamResult)) :
    Flying sysId compId (w.afterValue model running called rest) l :=
  { h with
    targetSystem := hsysId.trans h.targetSystem
    targetComponent := hcompId.trans h.targetComponent
    toXParam := by
      have htoXParam := h.toXParam
      rw [hvalue] at htoXParam
      exact htoXParam }

/-- While values are on their way, no sets are. -/
theorem Fetching.sent_eq_nil (h : Fetching w l) {response : ParamExtValue}
    {rest : List ToXParam} (hvalue : w.toXParam = .value response :: rest) : l.sent = [] := by
  refine h.quiet.resolve_right fun hnone => hnone.toXParam response ?_
  rw [hvalue]
  exact List.mem_cons_self

theorem Fetching.afterValue (h : Fetching w l) {response : ParamExtValue} {rest : List ToXParam}
    (hvalue : w.toXParam = .value response :: rest) {model : MavlinkSettingsModel}
    (hreplacements : ∀ qtParamSet ∈ model.replacements,
      qtParamSet = w.params.filterMap ServerParam.setting)
    {running : List (Job GetAll)} (hrunning : ∀ j ∈ running,
      j.payload.serverParamSet = [] ∨ Current w.params j.payload.serverParamSet)
    (called : List (ℕ × GetAllParamResult)) :
    Fetching (w.afterValue model running called rest) l where
  wellFormed := h.wellFormed
  getAllCbs := h.getAllCbs
  slots := hrunning
  values := by
    intro response' hresponse'
    apply h.values
    rw [hvalue]
    exact List.mem_cons_of_mem _ hresponse'
  replacements := hreplacements
  quiet := .inl (h.sent_eq_nil hvalue)

/-- The callback of a get-all queues what the server would send now. -/
theorem getAllCalled_eq {settings : MavlinkSettingsModel.World} (hw : settings.Wired)
    (hown : ∀ own ∈ settings.getAllCbs, own = true) {call : ℕ}
    (hcall : call ∈ settings.xparam.getAlls.getAlls.running.map Job.cb)
    {params : List ServerParam} (hparams : WellFormed params) {slots : List (Option ParamExtValue)}
    {vs : List ParamExtValue} (hslots : Current params slots)
    (hvs : validParamSet slots = .ok vs) :
    MavlinkSettingsModel.getAllCalled settings.getAllCbs settings.model (call, ⟨true, vs⟩) =
      { settings.model with
        replacements :=
          settings.model.replacements ++ [params.filterMap ServerParam.setting]
        isCurrentlyBusy := false } := by
  have hlt := hw.getAlls_lt _ hcall
  have hcb : settings.getAllCbs[call]? = some true := by
    rw [List.getElem?_eq_getElem hlt, hown _ (List.getElem_mem hlt)]
  rw [← settings_of_full hparams hslots hvs]
  simp [MavlinkSettingsModel.getAllCalled, hcb, MavlinkSettingsModel.getAllCb,
    MavlinkSettingsModel.removeAndReplaceParamSet]

/-- **A replacement is queued**, once a fetch has succeeded. -/
theorem Cached.afterValue (h : Cached isParamWhitelisted w l) {model : MavlinkSettingsModel}
    (hdata : model.data = w.settings.model.data) (hreplacements : model.replacements ≠ [])
    (running : List (Job GetAll)) (call : ℕ) (vs : List ParamExtValue) (rest : List ToXParam) :
    Cached isParamWhitelisted (w.afterValue model running [(call, ⟨true, vs⟩)] rest) l := by
  have hfetched : (w.afterValue model running [(call, ⟨true, vs⟩)] rest).fetched = true := by
    simp [World.fetched, World.afterValue, SettingsCache.afterValue]
  refine ⟨h.server, fun _ => hfetched, h.cache.imp ?_ ?_⟩
  · rintro ⟨hempty, -⟩
    exact ⟨hdata.trans hempty, fun _ => hreplacements⟩
  · rintro ⟨-, hcache⟩
    refine ⟨hfetched, ?_⟩
    show UpTo _ _ model.data _
    rwa [hdata]

theorem Inv.receiveValue (h : Inv isParamWhitelisted sysId compId w l) {response : ParamExtValue}
    {rest : List ToXParam} (hvalue : w.toXParam = .value response :: rest) {w' : World}
    (hstep : settingsStep isParamWhitelisted { w with toXParam := rest }
      (.xparam (.getAll
        (.paramExtValue response w.settings.model.sysId w.settings.model.compId))) = .ok w') :
    Inv isParamWhitelisted sysId compId w' l := by
  have hwired := settingsStep_wired (w := { w with toXParam := rest }) h.wired hstep
  obtain ⟨i, hi⟩ := h.fetching.values response (by rw [hvalue]; exact List.mem_cons_self)
  obtain ⟨optFinished, left, hfound, hcases⟩ := settingsStep_value hstep
  have hleft := current_of_left h.fetching.wellFormed hi hfound h.fetching.slots
  rcases hcases with ⟨-, rfl⟩ | ⟨finished, vs, rfl, hvs, rfl⟩
  -- stored or known: the get-all goes on
  · refine ⟨hwired, h.flying.afterValue hvalue rfl rfl left [],
      h.fetching.afterValue hvalue h.fetching.replacements hleft [],
      h.cached.same rfl rfl ?_ rfl⟩
    simp [World.fetched, World.afterValue, afterValue]
  · -- the get-all that is completed has all the parameters
    obtain ⟨running, hrunning, rfl⟩ := findRemove_finished hfound
    have hslots := current_filledSlots h.fetching.wellFormed hi (h.fetching.slots running hrunning)
    have hcall : (withParamSet running (filledSlots response running.payload)).cb ∈
        w.settings.xparam.getAlls.getAlls.running.map Job.cb :=
      List.mem_map.mpr ⟨running, hrunning, rfl⟩
    rw [getAllCalled_eq h.wired h.fetching.getAllCbs hcall h.fetching.wellFormed hslots hvs]
      at hwired ⊢
    refine ⟨hwired, h.flying.afterValue hvalue ?_ ?_ left _,
      h.fetching.afterValue hvalue ?_ hleft _, h.cached.afterValue ?_ ?_ left _ _ _⟩
    · rfl
    · rfl
    · intro qtParamSet hqtParamSet
      rcases List.mem_append.mp hqtParamSet with hold | hnew
      · exact h.fetching.replacements _ hold
      · exact List.mem_singleton.mp hnew
    · rfl
    · exact List.append_ne_nil_of_right_ne_nil _ (List.cons_ne_nil _ _)

/-! ### A caller returns -/

/-- The state after a caller has returned. -/
def World.afterReturn (w : World) (call : ℕ) (a : Flight × UInt8) : World :=
  { w with settings := { w.settings with
      model := { w.settings.model with
        isCurrentlyBusy := false
        data := updateIfAccepted a w.settings.model.data }
      blocked := w.settings.blocked.eraseP fun blocked => blocked.1 = call } }

/-- A caller that returns has been called back. -/
theorem Flying.returns_cases (h : Flying sysId compId w l) (hw : w.settings.Wired) (call : ℕ) :
    w.settings.tryUpdateParameterReturns call = w.settings ∨
      ∃ pre a post, l.done = pre ++ a :: post ∧ a.1.call = call ∧
        w.settings.tryUpdateParameterReturns call = (w.afterReturn call a).settings := by
  unfold MavlinkSettingsModel.World.tryUpdateParameterReturns
  split
  · rename_i t param t' result hblocked hcalled
    obtain rfl : t = call := by simpa using List.find?_some hblocked
    obtain rfl : t' = t := by simpa using List.find?_some hcalled
    have hresult := List.mem_of_find?_eq_some hcalled
    have hmem := List.mem_of_find?_eq_some hblocked
    rw [h.blocked] at hmem
    obtain ⟨f, hf, heq⟩ := List.mem_map.mp hmem
    obtain ⟨rfl, rfl⟩ := Prod.mk.inj heq
    -- who has been called back is not under way
    have hdone : f ∈ l.done.map Prod.fst := by
      refine (List.mem_append.mp (List.mem_of_mem_filter hf)).resolve_right fun hunderway => ?_
      obtain ⟨-, -, hdisjoint⟩ := List.nodup_append'.mp hw.xparam.ledger.nodup
      exact hdisjoint (h.mem_running hunderway) (List.mem_map_of_mem hresult)
    obtain ⟨a, ha, rfl⟩ := List.mem_map.mp hdone
    obtain ⟨pre, post, hsplit⟩ := List.append_of_mem ha
    refine .inr ⟨pre, a, post, hsplit, rfl, ?_⟩
    obtain ⟨-, result', hresult', haccepted⟩ := h.done a ha
    obtain ⟨-, hnodup, -⟩ := List.nodup_append'.mp hw.xparam.ledger.nodup
    obtain rfl : result' = result :=
      congrArg Prod.snd (List.inj_on_of_nodup_map hnodup hresult' hresult rfl)
    dsimp only
    unfold World.afterReturn updateIfAccepted
    by_cases hacc : result'.isAccepted = true
    · rw [if_pos hacc, if_pos (haccepted.mp hacc)]
      rfl
    · rw [if_neg hacc, if_neg fun ha => hacc (haccepted.mpr ha)]
      rfl
  · exact .inl rfl

theorem Flying.afterReturn {pre post : List (Flight × UInt8)} {a : Flight × UInt8}
    {acked : List (Flight × UInt8)} {sent : List Flight}
    (h : Flying sysId compId w ⟨pre ++ a :: post, acked, sent⟩) :
    Flying sysId compId (w.afterReturn a.1.call a) ⟨pre ++ post, acked, sent⟩ := by
  have hall : (⟨pre ++ a :: post, acked, sent⟩ : Flights).all =
      pre.map Prod.fst ++ a.1 :: (post.map Prod.fst ++ (acked.map Prod.fst ++ sent)) := by
    simp [Flights.all, Flights.underway]
  have hall' : (⟨pre ++ post, acked, sent⟩ : Flights).all =
      pre.map Prod.fst ++ (post.map Prod.fst ++ (acked.map Prod.fst ++ sent)) := by
    simp [Flights.all, Flights.underway]
  have hsublist : List.Sublist (⟨pre ++ post, acked, sent⟩ : Flights).all
      (⟨pre ++ a :: post, acked, sent⟩ : Flights).all := by
    rw [hall, hall']
    exact (List.sublist_cons_self _ _).append_left _
  have hblocking : a.1.blocking = true := (h.done a (by simp)).1
  have hnodup := h.nodup
  rw [hall, List.map_append, List.map_cons, List.nodup_middle, List.nodup_cons,
    List.mem_append, not_or] at hnodup
  exact {
    targetSystem := h.targetSystem
    targetComponent := h.targetComponent
    running := h.running
    setCbs := h.setCbs
    blocked := by
      -- the call is the first of its number
      show w.settings.blocked.eraseP _ = _
      rw [h.blocked, hall, hall', List.filter_append, List.filter_append,
        List.filter_cons_of_pos hblocking, List.map_append, List.map_append, List.map_cons,
        List.eraseP_append_right, List.eraseP_cons_of_pos (by simp)]
      intro blocked hmem
      obtain ⟨f, hf, rfl⟩ := List.mem_map.mp hmem
      refine fun heq => hnodup.1.1 ?_
      rw [← of_decide_eq_true heq]
      exact List.mem_map_of_mem (List.mem_of_mem_filter hf)
    done := by
      intro b hb
      apply h.done
      rcases List.mem_append.mp hb with hpre | hpost
      · exact List.mem_append_left _ hpre
      · exact List.mem_append_right _ (List.mem_cons_of_mem _ hpost)
    apart := h.apart.sublist hsublist
    nodup := h.nodup.sublist (hsublist.map _)
    fits := h.fits
    toServer := h.toServer
    toXParam := h.toXParam }

theorem Inv.afterReturn {pre post : List (Flight × UInt8)} {a : Flight × UInt8}
    {acked : List (Flight × UInt8)} {sent : List Flight}
    (h : Inv isParamWhitelisted sysId compId w ⟨pre ++ a :: post, acked, sent⟩) :
    Inv isParamWhitelisted sysId compId (w.afterReturn a.1.call a) ⟨pre ++ post, acked, sent⟩ := by
  -- the callers before it wait for sets of other parameters
  have hapart : ∀ b ∈ pre, b.1.param.uniqueId ≠ a.1.param.uniqueId := by
    intro b hb
    have hpairs := (List.pairwise_append.mp h.flying.apart).1
    rw [List.map_append, List.map_cons] at hpairs
    exact (List.pairwise_append.mp hpairs).2.2 b.1 (List.mem_map_of_mem hb) a.1 List.mem_cons_self
      (h.flying.done b (List.mem_append_left _ hb)).1
  exact ⟨{ h.wired with }, h.flying.afterReturn,
    { h.fetching with quiet := h.fetching.quiet.imp id fun hnone => { hnone with } },
    h.cached.update (List.append_assoc _ _ _) (List.append_assoc _ _ _) hapart rfl rfl rfl rfl⟩

/-! ### The cache is replaced -/

/-- The state after a replacement. -/
def World.afterReplacement (isParamWhitelisted : List UInt8 → Bool) (w : World) : World :=
  { w with settings := { w.settings with
      model := w.settings.model.uiThreadReplaceParamSet isParamWhitelisted } }

/-- **A replacement is what the server has**, whatever is pending. -/
theorem Inv.afterReplacement (h : Inv isParamWhitelisted sysId compId w l) :
    Inv isParamWhitelisted sysId compId (w.afterReplacement isParamWhitelisted) l := by
  unfold World.afterReplacement MavlinkSettingsModel.uiThreadReplaceParamSet
  rcases hreplacements : w.settings.model.replacements with - | ⟨qtParamSet, rest⟩
  · exact h
  have hcurrent := h.fetching.replacements
  rw [hreplacements] at hcurrent
  have hfetched : w.fetched = true :=
    h.cached.replaced (by rw [hreplacements]; exact List.cons_ne_nil _ _)
  refine ⟨{ h.wired with }, { h.flying with },
    { h.fetching with
      replacements := fun q hq => hcurrent q (List.mem_cons_of_mem _ hq)
      quiet := h.fetching.quiet.imp id fun hnone => ?_ },
    { h.cached with replaced := fun _ => hfetched, cache := .inr ⟨hfetched, ?_⟩ }⟩
  · have hnil := hnone.replacements
    rw [hreplacements] at hnil
    cases hnil
  · show UpTo _ _ (qtParamSet.foldl (MavlinkSettingsModel.addData isParamWhitelisted) []) _
    rw [foldl_addData, hcurrent qtParamSet List.mem_cons_self]
    exact h.cached.server

end

end SettingsCache

end QOpenHD
