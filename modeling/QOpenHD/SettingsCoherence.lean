/-
QOpenHD/SettingsCoherence.lean

The cache of a `MavlinkSettingsModel` and the parameters of its server, over
whole runs.

* **`settled_coherent`**: as long as the server's ids and strings are text
  (`WellFormed`) and no set is made while a fetch or a call for the same parameter is
  under way (`Orderly`), the cache is the rows of the server whenever everything has
  settled.
* `settled_incoherent`: a set during a fetch that is lost.
-/
import QOpenHD.SettingsCacheSteps

namespace QOpenHD

open Checked RetryQueue LastWriter SettingsServer

namespace SettingsCache

section

variable {isParamWhitelisted : List UInt8 → Bool}
  {verdict : List ServerParam → ParamExtSet → UInt8} {sysId compId : UInt8} {w : World}
  {l : Flights}

/-! ### One step -/

/-- A set that is accepted is on its way to the server. -/
theorem eq_afterSet {w' : World} {e : MavlinkSettingsModel.Event}
    (hstep : settingsStep isParamWhitelisted w e = .ok w') {param : SettingData} {blocking : Bool}
    {retransmitDelay nWanted : ℕ} {now : ℤ}
    (h : MavlinkSettingsModel.World.step isParamWhitelisted w.settings e =
      .ok (setAccepted w.settings param blocking retransmitDelay nWanted now)) :
    w' = w.afterSet param blocking retransmitDelay nWanted now :=
  Except.ok.inj (hstep.symm.trans (settingsStep_eq h
    [(w.settings.xparam.calls.length, w.settings.model.createCmdSet param)] [] rfl
      (List.append_nil _).symm))

/-- A get-all is on its way to the server. -/
theorem eq_afterFetch {w' : World} {e : MavlinkSettingsModel.Event}
    (hstep : settingsStep isParamWhitelisted w e = .ok w') {now : ℤ}
    (h : MavlinkSettingsModel.World.step isParamWhitelisted w.settings e =
      .ok (fetchStarted w.settings now)) : w' = w.afterFetch now :=
  Except.ok.inj (hstep.symm.trans (settingsStep_eq h [] [(w.settings.xparam.getAlls.nCalls, .list
    (XParam.createCmdGetAll w.settings.model.sysId w.settings.model.compId))]
      (List.append_nil _).symm rfl))

/-- Nothing but the flag, the number of calls and their callbacks changes. -/
theorem Inv.ofQuiet (h : Inv isParamWhitelisted sysId compId w l)
    {s : MavlinkSettingsModel.World} (hwired : s.Wired)
    (hflying : Flying sysId compId { w with settings := s } l)
    (hgetAllCbs : s.getAllCbs = w.settings.getAllCbs)
    (hgetAlls : s.xparam.getAlls = w.settings.xparam.getAlls)
    (hdata : s.model.data = w.settings.model.data)
    (hreplacements : s.model.replacements = w.settings.model.replacements) :
    Inv isParamWhitelisted sysId compId { w with settings := s } l := by
  have hfetched : World.fetched { w with settings := s } = w.fetched := by
    rw [World.fetched, World.fetched, hgetAlls]
  have hfetching : Fetching { w with settings := s } l :=
    { h.fetching with
      getAllCbs := hgetAllCbs ▸ h.fetching.getAllCbs
      slots := hgetAlls ▸ h.fetching.slots
      replacements := hreplacements ▸ h.fetching.replacements
      quiet := h.fetching.quiet.imp id fun hnone =>
        { hnone with
          slots := hgetAlls ▸ hnone.slots
          replacements := hreplacements.trans hnone.replacements } }
  refine ⟨hwired, hflying, hfetching, { h.cached with replaced := ?_, cache := ?_ }⟩
  · rw [hfetched, hreplacements]
    exact h.cached.replaced
  · rw [hfetched, hreplacements, hdata]
    exact h.cached.cache

/-- A set is accepted or refused. -/
theorem Inv.setCases (h : Inv isParamWhitelisted sysId compId w l) {w' : World}
    {e : MavlinkSettingsModel.Event} (hstep : settingsStep isParamWhitelisted w e = .ok w')
    {param : SettingData} {blocking : Bool} {retransmitDelay nWanted : ℕ} {now : ℤ}
    (hmay : w.HasRoom → MaySet w param)
    (hcases : (¬ w.HasRoom ∧ MavlinkSettingsModel.World.step isParamWhitelisted w.settings e =
        .ok (setRefused w.settings param blocking nWanted)) ∨
      (w.HasRoom ∧ MavlinkSettingsModel.World.step isParamWhitelisted w.settings e =
        .ok (setAccepted w.settings param blocking retransmitDelay nWanted now))) :
    ∃ l', Inv isParamWhitelisted sysId compId w' l' := by
  have hwired := settingsStep_wired h.wired hstep
  rcases hcases with ⟨-, heq⟩ | ⟨hroom, heq⟩
  · obtain rfl := eq_of_quiet hstep heq rfl rfl
    exact ⟨l, h.ofQuiet hwired (h.flying.refused h.wired param blocking nWanted) rfl rfl rfl rfl⟩
  · obtain rfl := eq_afterSet hstep heq
    exact ⟨_, hwired, h.flying.afterSet h.wired (hmay hroom) blocking _ _ _,
      h.fetching.afterSet (hmay hroom) _ _ _ _ _, { h.cached with }⟩

/-- Nothing happens at all. -/
theorem Inv.ofSame (h : Inv isParamWhitelisted sysId compId w l) {w' : World}
    {e : MavlinkSettingsModel.Event} (hstep : settingsStep isParamWhitelisted w e = .ok w')
    (heq : MavlinkSettingsModel.World.step isParamWhitelisted w.settings e = .ok w.settings) :
    ∃ l', Inv isParamWhitelisted sysId compId w' l' := by
  obtain rfl := eq_of_quiet hstep heq rfl rfl
  exact ⟨l, h⟩

/-- **One step** that meets the condition keeps the invariant. -/
theorem Inv.step (h : Inv isParamWhitelisted sysId compId w l) {e : Event} {w' : World}
    (he : Orderly w e) (hstep : step isParamWhitelisted verdict w e = .ok w') :
    ∃ l', Inv isParamWhitelisted sysId compId w' l' := by
  cases e with
  | setReady =>
      change settingsStep isParamWhitelisted w .setReady = .ok w' at hstep
      have hwired := settingsStep_wired h.wired hstep
      obtain rfl := eq_of_quiet hstep rfl rfl rfl
      exact ⟨l, h.ofQuiet hwired { h.flying with } rfl rfl rfl rfl⟩
  | tryRefetchAllParametersAsync now =>
      change settingsStep isParamWhitelisted w (.tryRefetchAllParametersAsync now) = .ok w' at hstep
      have hwired := settingsStep_wired h.wired hstep
      -- not ready or busy, or requested
      rcases tryRefetchAllParametersAsync_cases w.settings now with heq | heq
      · exact h.ofSame hstep heq
      · obtain rfl := eq_afterFetch hstep heq
        exact ⟨l, hwired, h.flying.afterFetch now, h.fetching.afterFetch now, { h.cached with }⟩
  | trySetParamAsync param now =>
      change settingsStep isParamWhitelisted w (.trySetParamAsync param now) = .ok w' at hstep
      rcases trySetParamAsync_cases w.settings param now with heq | ⟨hbusy, hcases⟩
      · exact h.ofSame hstep heq
      · exact h.setCases hstep (he hbusy) hcases
  | tryUpdateParameter param now =>
      change settingsStep isParamWhitelisted w (.tryUpdateParameter param now) = .ok w' at hstep
      exact h.setCases hstep he (tryUpdateParameter_cases w.settings param now)
  | tryUpdateParameterReturns call =>
      change settingsStep isParamWhitelisted w (.tryUpdateParameterReturns call) = .ok w' at hstep
      rcases h.flying.returns_cases h.wired call with heq | ⟨pre, a, post, hdone, rfl, heq⟩
      · exact h.ofSame hstep (congrArg Except.ok heq)
      · obtain rfl := eq_of_quiet hstep (congrArg Except.ok heq) rfl rfl
        obtain ⟨_, acked, sent⟩ := l
        obtain rfl : _ = pre ++ a :: post := hdone
        exact ⟨_, h.afterReturn⟩
  | uiThreadReplaceParamSet =>
      change settingsStep isParamWhitelisted w .uiThreadReplaceParamSet = .ok w' at hstep
      obtain rfl := eq_of_quiet hstep rfl rfl rfl
      exact ⟨l, h.afterReplacement⟩
  | timeoutPassSet vs =>
      change settingsStep isParamWhitelisted w (.xparam (.timeoutPassSet vs)) = .ok w' at hstep
      -- nothing is due
      have hpass : w.settings.callXParam (.timeoutPassSet vs) = .ok w.settings := by
        apply callXParam_of_step _ rfl rfl
        rw [XParam.step, visits_of_noneDue ParamSets.protocol _ he]
      exact h.ofSame hstep hpass
  | timeoutPassGetAll vs =>
      change settingsStep isParamWhitelisted w (.xparam (.getAll (.timeoutPass vs))) = .ok w'
        at hstep
      have hpass : w.settings.callXParam (.getAll (.timeoutPass vs)) = .ok w.settings := by
        apply callXParam_of_step _ rfl rfl
        rw [XParam.step, GetAlls.step, visits_of_noneDue GetAlls.protocol _ he]
        rfl
      exact h.ofSame hstep hpass
  | serverReceives =>
      obtain rfl := Except.ok.inj hstep
      exact h.serverReceives
  | serverStreams k =>
      obtain rfl := Except.ok.inj hstep
      exact ⟨l, h.serverStreams k⟩
  | xparamReceives =>
      change xparamReceives isParamWhitelisted w = .ok w' at hstep
      unfold SettingsCache.xparamReceives at hstep
      split at hstep
      · obtain rfl := Except.ok.inj hstep
        exact ⟨l, h⟩
      · rename_i ack rest hack
        exact h.receiveAck hack hstep
      · rename_i response rest hvalue
        exact ⟨l, h.receiveValue hvalue hstep⟩

/-! ### Runs -/

/-- When everything has settled, nothing is pending. -/
theorem Inv.coherent (h : Inv isParamWhitelisted sysId compId w l) (hsettled : Settled w) :
    Coherent isParamWhitelisted w := by
  obtain ⟨done, acked, sent⟩ := l
  have hunderway := h.flying.running
  rw [hsettled.sets, List.map_nil, eq_comm, List.map_eq_nil_iff, Flights.underway,
    List.append_eq_nil_iff, List.map_eq_nil_iff] at hunderway
  obtain ⟨rfl, rfl⟩ := hunderway
  have hblocked := h.flying.blocked
  rw [hsettled.blocked, eq_comm, List.map_eq_nil_iff, List.filter_eq_nil_iff] at hblocked
  have hdone : done = [] := by
    refine List.eq_nil_iff_forall_not_mem.mpr fun a ha => ?_
    exact hblocked a.1 (List.mem_append_left _ (List.mem_map_of_mem ha)) (h.flying.done a ha).1
  subst hdone
  rcases h.cached.cache with ⟨hempty, hsome⟩ | ⟨hfetched, hcache⟩
  · have hunfetched : w.fetched = false := by
      apply eq_false_of_ne_true
      exact fun hfetched => hsome hfetched hsettled.replacements
    rw [Coherent, hunfetched, hempty]
    rfl
  · rw [Coherent, hfetched]
    exact hcache.eq

end

/-- **Coherence**: in every state of a run whose steps all meet the condition,
when everything has settled, the cache is the rows of the server. -/
theorem settled_coherent (isParamWhitelisted : List UInt8 → Bool)
    (verdict : List ServerParam → ParamExtSet → UInt8) (sysId compId : UInt8)
    (params : List ServerParam) (hparams : WellFormed params) (events : List Event) {w : World}
    (hevents : EveryStep Orderly (step isParamWhitelisted verdict) (World.init sysId compId params)
      events)
    (h : run (step isParamWhitelisted verdict) (World.init sysId compId params) events = .ok w)
    (hsettled : Settled w) : Coherent isParamWhitelisted w := by
  have hw : ∃ l, Inv isParamWhitelisted sysId compId w l :=
    run_invariant_of_everyStep (I := fun w => ∃ l, Inv isParamWhitelisted sysId compId w l)
      (P := Orderly) (fun _ _ _ ⟨_, hw⟩ he hstep => hw.step he hstep)
      ⟨_, inv_init isParamWhitelisted sysId compId hparams⟩ hevents h
  obtain ⟨l, hw⟩ := hw
  exact hw.coherent hsettled

/-- A parameter of the camera. -/
def brightnessParam (value : Int32) : ServerParam :=
  ⟨setParamId MavlinkSettingsModel.World.brightness.uniqueId, MAV_PARAM_EXT_TYPE_INT32,
    setParamValueInt value⟩

/-- A server that accepts every set. -/
def acceptAll (_ : List ServerParam) (_ : ParamExtSet) : UInt8 := PARAM_ACK_ACCEPTED

theorem wellFormed_brightnessParam (value : Int32) : WellFormed [brightnessParam value] where
  nodup := List.nodup_singleton _
  length_lt := (by decide : 1 < 65536)
  text := by
    intro p hp row hrow
    obtain rfl := List.mem_singleton.mp hp
    obtain rfl := Option.some.inj hrow
    have hid : (brightnessParam value).id = MavlinkSettingsModel.World.brightness.uniqueId :=
      getParamId_setParamId (by decide)
    have htext : Utf8.IsText MavlinkSettingsModel.World.brightness.uniqueId := by decide
    exact ⟨hid.symm ▸ htext, trivial⟩

/-- A fetch, and a set after it. -/
def fetchThenSet : List Event :=
  [.setReady, .tryRefetchAllParametersAsync 0, .serverReceives, .serverStreams 0, .xparamReceives,
    .uiThreadReplaceParamSet, .trySetParamAsync MavlinkSettingsModel.World.brightness 1,
    .serverReceives, .xparamReceives]

theorem settled_coherent_brightness :
    ∃ w, run (step (fun _ => false) acceptAll)
        (World.init OHD_SYS_ID_AIR 100 [brightnessParam 40]) fetchThenSet = .ok w ∧
      Coherent (fun _ => false) w := by
  refine ⟨_, rfl, settled_coherent (fun _ => false) acceptAll OHD_SYS_ID_AIR 100
    [brightnessParam 40] (wellFormed_brightnessParam 40) fetchThenSet ?_ rfl ⟨rfl, rfl, rfl, rfl⟩⟩
  refine ⟨trivial, fun _ h => Except.ok.inj h ▸ ⟨trivial, fun _ h => Except.ok.inj h ▸ ⟨trivial,
    fun _ h => Except.ok.inj h ▸ ⟨trivial, fun _ h => Except.ok.inj h ▸ ⟨trivial,
      fun _ h => Except.ok.inj h ▸ ⟨trivial, fun _ h => Except.ok.inj h ▸ ⟨fun _ _ => ?_,
        fun _ _ => ⟨trivial, fun _ _ => ⟨trivial, fun _ _ => trivial⟩⟩⟩⟩⟩⟩⟩⟩⟩
  refine ⟨⟨by decide, trivial, by decide⟩, ⟨⟨?_, nofun, nofun, rfl⟩, rfl, nofun⟩, nofun⟩
  exact fun stream hstream => List.mem_singleton.mp hstream

/-- A set during a fetch: the value that the server has sent before replaces the
one that was set. -/
theorem settled_incoherent :
    ¬ ∀ (isParamWhitelisted : List UInt8 → Bool)
        (verdict : List ServerParam → ParamExtSet → UInt8) (sysId compId : UInt8)
        (params : List ServerParam) (events : List Event) (w : World), WellFormed params →
        run (step isParamWhitelisted verdict) (World.init sysId compId params) events = .ok w →
        Settled w → Coherent isParamWhitelisted w := by
  intro h
  have hcoherent := h (fun _ => false) acceptAll OHD_SYS_ID_AIR 100 [brightnessParam 40]
    [.setReady, .tryRefetchAllParametersAsync 0, .serverReceives, .serverStreams 0,
      .tryUpdateParameter MavlinkSettingsModel.World.brightness 1, .serverReceives,
      .xparamReceives, .xparamReceives, .tryUpdateParameterReturns 0, .uiThreadReplaceParamSet] _
    (wellFormed_brightnessParam 40) rfl ⟨rfl, rfl, rfl, rfl⟩
  unfold Coherent at hcoherent
  exact absurd hcoherent (by decide)

end SettingsCache

end QOpenHD
