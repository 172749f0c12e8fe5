/-
QOpenHD/SettingsCacheInv.lean

What every step of a `MavlinkSettingsModel` and its server keeps (`Inv`).

The sets in flight (`Flights`) are listed in the order in which they were made:
those whose caller has not returned, those whose acknowledgement is on its way,
and those that are on their way themselves.

* `Flying` — they are where they should be: in `XParam`, among the messages, and
  with the callers that wait.
* `Fetching` — what a fetch has got is what it would get now.
* `Cached` — the cache is the rows of the server up to the sets that the server
  has accepted and the cache has not.

The steps of this module are those that make a set or a get-all and those of the
server.
-/
import QOpenHD.SettingsCache

namespace QOpenHD

open Checked RetryQueue LastWriter SettingsServer

namespace SettingsCache

/-! ### Sets in flight -/

/-- A set that the model has made and is not done with. -/
structure Flight where
  call : ℕ
  param : SettingData
  blocking : Bool

/-- The sets in flight, in the order in which they were made. -/
structure Flights where
  /-- The promise is set, and the caller has not yet returned. -/
  done : List (Flight × UInt8)
  /-- The acknowledgement is on its way. -/
  acked : List (Flight × UInt8)
  /-- The set is on its way. -/
  sent : List Flight

/-- The sets that the server has accepted. -/
def accepted (answered : List (Flight × UInt8)) : List SettingData :=
  (answered.filter fun a => a.2 = PARAM_ACK_ACCEPTED).map fun a => a.1.param

namespace Flights

def underway (l : Flights) : List Flight := l.acked.map Prod.fst ++ l.sent

def all (l : Flights) : List Flight := l.done.map Prod.fst ++ l.underway

/-- What the server has applied and the cache has not. -/
def pending (l : Flights) : List SettingData := accepted (l.done ++ l.acked)

end Flights

/-- How the server has acknowledged a set. -/
def ackFor (sysId compId : UInt8) (a : Flight × UInt8) : ParamExtAck :=
  { acknowledge (setFor sysId compId a.1.param) with paramResult := a.2 }

def ToXParam.asAck : ToXParam → Option ParamExtAck
  | .ack a => some a
  | .value _ => none

/-- The sets in flight are where they should be, in the order in which they were
made, and no two of one parameter if the first is waited for. -/
structure Flying (sysId compId : UInt8) (w : World) (l : Flights) : Prop where
  targetSystem : w.settings.model.sysId = sysId
  targetComponent : w.settings.model.compId = compId
  running : w.settings.xparam.sets.running.map (fun j => (j.cb, j.payload)) =
    l.underway.map fun f => (f.call, setFor sysId compId f.param)
  setCbs : ∀ f ∈ l.underway, w.settings.setCbs[f.call]? = some (setCb f.param f.blocking)
  blocked : w.settings.blocked =
    (l.all.filter Flight.blocking).map fun f => (f.call, f.param)
  done : ∀ a ∈ l.done, a.1.blocking = true ∧ ∃ result : SetParamResult,
    (a.1.call, result) ∈ w.settings.xparam.sets.called ∧
      (result.isAccepted = true ↔ a.2 = PARAM_ACK_ACCEPTED)
  apart : l.all.Pairwise fun f g => f.blocking = true → f.param.uniqueId ≠ g.param.uniqueId
  nodup : (l.all.map Flight.call).Nodup
  fits : ∀ f ∈ l.sent, FitsCmd f.param
  toServer : ∃ requests : List ParamExtRequest, w.toServer =
    l.sent.map (fun f => .set (setFor sysId compId f.param)) ++ requests.map .request
  toXParam : w.toXParam.filterMap ToXParam.asAck = l.acked.map (ackFor sysId compId)

/-- What a fetch has got, is what it would get now; the server has no sets to
expect meanwhile. -/
structure Fetching (w : World) (l : Flights) : Prop where
  wellFormed : WellFormed w.params
  getAllCbs : ∀ own ∈ w.settings.getAllCbs, own = true
  slots : ∀ j ∈ w.settings.xparam.getAlls.getAlls.running,
    j.payload.serverParamSet = [] ∨ Current w.params j.payload.serverParamSet
  values : ∀ response, .value response ∈ w.toXParam → ∃ i, responseAt w.params i = some response
  replacements : ∀ qtParamSet ∈ w.settings.model.replacements,
    qtParamSet = w.params.filterMap ServerParam.setting
  quiet : l.sent = [] ∨ NoValues w

/-- The cache is empty, or the rows of the server up to what is pending. -/
structure Cached (isParamWhitelisted : List UInt8 → Bool) (w : World) (l : Flights) : Prop where
  server : UpTo MavlinkSettingsModel.updateRow l.pending (rows isParamWhitelisted w.params)
    (rows isParamWhitelisted w.params)
  replaced : w.settings.model.replacements ≠ [] → w.fetched = true
  cache : (w.settings.model.data = [] ∧ (w.fetched = true → w.settings.model.replacements ≠ [])) ∨
    (w.fetched = true ∧ UpTo MavlinkSettingsModel.updateRow l.pending w.settings.model.data
      (rows isParamWhitelisted w.params))

/-- What every step keeps. -/
structure Inv (isParamWhitelisted : List UInt8 → Bool) (sysId compId : UInt8) (w : World)
    (l : Flights) : Prop where
  wired : w.settings.Wired
  flying : Flying sysId compId w l
  fetching : Fetching w l
  cached : Cached isParamWhitelisted w l

theorem inv_init (isParamWhitelisted : List UInt8 → Bool) (sysId compId : UInt8)
    {params : List ServerParam} (h : WellFormed params) :
    Inv isParamWhitelisted sysId compId (World.init sysId compId params) ⟨[], [], []⟩ where
  wired := MavlinkSettingsModel.World.wired_init sysId compId
  flying := ⟨rfl, rfl, rfl, nofun, rfl, nofun, .nil, .nil, nofun, ⟨[], rfl⟩, rfl⟩
  fetching := ⟨h, nofun, nofun, nofun, nofun, .inl rfl⟩
  cached := ⟨rfl, fun h => absurd rfl h, .inl ⟨rfl, nofun⟩⟩

section

variable {isParamWhitelisted : List UInt8 → Bool} {sysId compId : UInt8} {w : World} {l : Flights}

theorem createCmdSet_eq (model : MavlinkSettingsModel) (param : SettingData) :
    model.createCmdSet param = setFor model.sysId model.compId param := by
  obtain ⟨uniqueId, value | value⟩ := param
  · rfl
  · rfl

/-! ### The numbers of the calls -/

theorem Flying.mem_running (h : Flying sysId compId w l) {f : Flight} (hf : f ∈ l.underway) :
    f.call ∈ w.settings.xparam.sets.running.map Job.cb := by
  have hmem := List.mem_map_of_mem (f := fun f : Flight =>
    (f.call, setFor sysId compId f.param)) hf
  rw [← h.running] at hmem
  obtain ⟨j, hj, heq⟩ := List.mem_map.mp hmem
  exact List.mem_map.mpr ⟨j, hj, congrArg Prod.fst heq⟩

theorem Flying.mem_called (h : Flying sysId compId w l) {a : Flight × UInt8} (ha : a ∈ l.done) :
    a.1.call ∈ w.settings.xparam.sets.called.map Prod.fst := by
  obtain ⟨-, result, hresult, -⟩ := h.done a ha
  exact List.mem_map_of_mem hresult

/-- The next call has a new number. -/
theorem Flying.call_lt (h : Flying sysId compId w l) (hw : w.settings.Wired) {f : Flight}
    (hf : f ∈ l.all) : f.call < w.settings.xparam.calls.length := by
  apply hw.xparam.ledger.ticket_lt
  rcases List.mem_append.mp hf with hdone | hunderway
  · obtain ⟨a, ha, rfl⟩ := List.mem_map.mp hdone
    exact List.mem_append_right _ (h.mem_called ha)
  · exact List.mem_append_left _ (h.mem_running hunderway)

/-- Who is waited for is blocked. -/
theorem Flying.mem_blocked (h : Flying sysId compId w l) {f : Flight} (hf : f ∈ l.all)
    (hblocking : f.blocking = true) : (f.call, f.param) ∈ w.settings.blocked := by
  rw [h.blocked]
  exact List.mem_map.mpr ⟨f, List.mem_filter.mpr ⟨hf, hblocking⟩, rfl⟩

/-! ### A set is made -/

/-- The sets in flight after another set. -/
def Flights.addSent (l : Flights) (f : Flight) : Flights := { l with sent := l.sent ++ [f] }

theorem Flights.underway_addSent (l : Flights) (f : Flight) :
    (l.addSent f).underway = l.underway ++ [f] := (List.append_assoc _ _ _).symm

theorem Flights.all_addSent (l : Flights) (f : Flight) : (l.addSent f).all = l.all ++ [f] := by
  rw [all, underway_addSent, all, List.append_assoc]
  rfl

/-- The state after a set that is accepted. -/
def World.afterSet (w : World) (param : SettingData) (blocking : Bool)
    (retransmitDelay nWanted : ℕ) (now : ℤ) : World :=
  { w with
    settings := setAccepted w.settings param blocking retransmitDelay nWanted now
    toServer := w.toServer ++ [.set (w.settings.model.createCmdSet param)] }

theorem Flying.afterSet (h : Flying sysId compId w l) (hw : w.settings.Wired) {param : SettingData}
    (hmay : MaySet w param) (blocking : Bool) (retransmitDelay nWanted : ℕ) (now : ℤ) :
    Flying sysId compId (w.afterSet param blocking retransmitDelay nWanted now)
      (l.addSent ⟨w.settings.xparam.calls.length, param, blocking⟩) where
  targetSystem := h.targetSystem
  targetComponent := h.targetComponent
  running := by
    rw [Flights.underway_addSent, List.map_append, ← h.running]
    simp [World.afterSet, setAccepted, Queue.enqueue, Job.transmitted, ParamSets.protocol,
      createCmdSet_eq, h.targetSystem, h.targetComponent]
  setCbs := by
    intro f hf
    rw [Flights.underway_addSent] at hf
    rcases List.mem_append.mp hf with hold | hnew
    · have hlt := h.call_lt hw (List.mem_append_right _ hold)
      rw [← hw.setCbs] at hlt
      exact (List.getElem?_append_left hlt).trans (h.setCbs f hold)
    · obtain rfl := List.mem_singleton.mp hnew
      show (w.settings.setCbs ++ [setCb param blocking])[w.settings.xparam.calls.length]? = _
      rw [← hw.setCbs, List.getElem?_concat_length]
  blocked := by
    rw [Flights.all_addSent, List.filter_append, List.map_append, ← h.blocked]
    cases blocking <;> rfl
  done := h.done
  apart := by
    rw [Flights.all_addSent, List.pairwise_append]
    refine ⟨h.apart, List.pairwise_singleton _ _, fun f hf g hg hblocking => ?_⟩
    obtain rfl := List.mem_singleton.mp hg
    exact hmay.unblocked _ (h.mem_blocked hf hblocking)
  nodup := by
    rw [Flights.all_addSent, List.map_append, List.nodup_append]
    refine ⟨h.nodup, List.nodup_singleton _, fun c hc c' hc' => ?_⟩
    obtain ⟨f, hf, rfl⟩ := List.mem_map.mp hc
    obtain rfl := List.mem_singleton.mp hc'
    exact (h.call_lt hw hf).ne
  fits := by
    intro f hf
    rcases List.mem_append.mp hf with hold | hnew
    · exact h.fits f hold
    · obtain rfl := List.mem_singleton.mp hnew
      exact hmay.fits
  toServer := by
    -- no request is on its way
    obtain ⟨requests, htoServer⟩ := h.toServer
    obtain rfl : requests = [] := by
      apply List.eq_nil_iff_forall_not_mem.mpr
      intro request hrequest
      apply hmay.noFetch.requests request
      rw [htoServer]
      exact List.mem_append_right _ (List.mem_map_of_mem hrequest)
    refine ⟨[], ?_⟩
    show w.toServer ++ [.set (w.settings.model.createCmdSet param)] = _
    rw [htoServer, createCmdSet_eq, h.targetSystem, h.targetComponent]
    simp [Flights.addSent]
  toXParam := h.toXParam

theorem Fetching.afterSet (h : Fetching w l) {param : SettingData} (hmay : MaySet w param)
    (f : Flight) (blocking : Bool) (retransmitDelay nWanted : ℕ) (now : ℤ) :
    Fetching (w.afterSet param blocking retransmitDelay nWanted now) (l.addSent f) :=
  { h with quiet := .inr { hmay.noFetch.toNoValues with } }

/-- A set that is refused. -/
theorem Flying.refused (h : Flying sysId compId w l) (hw : w.settings.Wired) (param : SettingData)
    (blocking : Bool) (nWanted : ℕ) :
    Flying sysId compId { w with settings := setRefused w.settings param blocking nWanted } l :=
  { h with
    setCbs := by
      intro f hf
      have hlt := h.call_lt hw (List.mem_append_right _ hf)
      rw [← hw.setCbs] at hlt
      exact (List.getElem?_append_left hlt).trans (h.setCbs f hf) }

/-! ### A fetch begins -/

/-- The state after a get-all. -/
def World.afterFetch (w : World) (now : ℤ) : World :=
  { w with
    settings := fetchStarted w.settings now
    toServer := w.toServer ++ [.request (.list
      (XParam.createCmdGetAll w.settings.model.sysId w.settings.model.compId))] }

theorem Flying.afterFetch (h : Flying sysId compId w l) (now : ℤ) :
    Flying sysId compId (w.afterFetch now) l :=
  { h with
    toServer := by
      -- the request comes after all the others
      obtain ⟨requests, htoServer⟩ := h.toServer
      refine ⟨requests ++ [.list
        (XParam.createCmdGetAll w.settings.model.sysId w.settings.model.compId)], ?_⟩
      rw [List.map_append, ← List.append_assoc, ← htoServer]
      rfl }

theorem Fetching.afterFetch (h : Fetching w l) (now : ℤ) : Fetching (w.afterFetch now) l :=
  { h with
    getAllCbs := by
      intro own hown
      rcases List.mem_append.mp hown with hold | hnew
      · exact h.getAllCbs own hold
      · exact List.mem_singleton.mp hnew
    slots := by
      intro j hj
      rcases List.mem_append.mp hj with hold | hnew
      · exact h.slots j hold
      · obtain rfl := List.mem_singleton.mp hnew
        exact .inl rfl
    quiet := by
      refine h.quiet.imp id fun hnone => { hnone with slots := fun j hj => ?_ }
      rcases List.mem_append.mp hj with hold | hnew
      · exact hnone.slots j hold
      · obtain rfl := List.mem_singleton.mp hnew
        rfl }

/-! ### The server receives -/

/-- The sets in flight after the server has acknowledged the first. -/
theorem Flights.all_acked (done acked : List (Flight × UInt8)) (f : Flight) (sent : List Flight)
    (result : UInt8) :
    (⟨done, acked ++ [(f, result)], sent⟩ : Flights).underway =
        (⟨done, acked, f :: sent⟩ : Flights).underway ∧
      (⟨done, acked ++ [(f, result)], sent⟩ : Flights).all =
        (⟨done, acked, f :: sent⟩ : Flights).all := by
  simp [Flights.all, Flights.underway]

/-- A set that the server receives is the first on its way. -/
theorem Flying.receiveSet (h : Flying sysId compId w l) {cmd : ParamExtSet} {rest : List ToServer}
    (hcmd : w.toServer = .set cmd :: rest) :
    ∃ f sent, l.sent = f :: sent ∧ cmd = setFor sysId compId f.param ∧
      ∀ params result, Flying sysId compId
        { w with
          params := params
          toServer := rest
          toXParam := w.toXParam ++ [.ack (ackFor sysId compId (f, result))] }
        ⟨l.done, l.acked ++ [(f, result)], sent⟩ := by
  obtain ⟨requests, htoServer⟩ := h.toServer
  rw [hcmd] at htoServer
  -- sets come before all requests, so one is on its way
  obtain ⟨done, acked, sent⟩ := l
  rcases sent with - | ⟨f, sent⟩
  · rcases requests with - | ⟨request, requests⟩
    · cases htoServer
    · cases (List.cons.inj htoServer).1
  obtain ⟨hset, rfl⟩ := List.cons.inj htoServer
  refine ⟨f, sent, rfl, ToServer.set.inj hset, fun params result => ?_⟩
  obtain ⟨hunderway, hall⟩ := Flights.all_acked done acked f sent result
  exact {
    targetSystem := h.targetSystem
    targetComponent := h.targetComponent
    running := hunderway ▸ h.running
    setCbs := hunderway ▸ h.setCbs
    blocked := hall ▸ h.blocked
    done := h.done
    apart := hall ▸ h.apart
    nodup := hall ▸ h.nodup
    fits := fun g hg => h.fits g (List.mem_cons_of_mem f hg)
    toServer := ⟨requests, rfl⟩
    toXParam := by
      rw [List.filterMap_append, h.toXParam, List.map_append]
      rfl }

/-- A request that the server receives comes after all sets. -/
theorem Flying.receiveRequest (h : Flying sysId compId w l) {request : ParamExtRequest}
    {rest : List ToServer} (hrequest : w.toServer = .request request :: rest)
    (streams : List (List ℕ)) :
    l.sent = [] ∧ Flying sysId compId { w with toServer := rest, streams := streams } l := by
  obtain ⟨requests, htoServer⟩ := h.toServer
  rw [hrequest] at htoServer
  have hsent : l.sent = [] := by
    rcases hl : l.sent with - | ⟨f, sent⟩
    · rfl
    · rw [hl] at htoServer
      cases (List.cons.inj htoServer).1
  rw [hsent, List.map_nil, List.nil_append] at htoServer
  rcases requests with - | ⟨request', requests⟩
  · cases htoServer
  obtain ⟨-, rfl⟩ := List.cons.inj htoServer
  exact ⟨hsent, { h with toServer := ⟨requests, by rw [hsent]; rfl⟩ }⟩

theorem accepted_append (answered answered' : List (Flight × UInt8)) :
    accepted (answered ++ answered') = accepted answered ++ accepted answered' := by
  rw [accepted, List.filter_append, List.map_append]
  rfl

theorem accepted_singleton (a : Flight × UInt8) :
    accepted [a] = if a.2 = PARAM_ACK_ACCEPTED then [a.1.param] else [] := by
  by_cases ha : a.2 = PARAM_ACK_ACCEPTED
  · simp [accepted, ha]
  · simp [accepted, ha]

/-- A set that is accepted is of a parameter that is there. -/
theorem any_of_accepted {verdict : List ServerParam → ParamExtSet → UInt8}
    {params : List ServerParam} {cmd : ParamExtSet}
    (h : resultOf verdict params cmd = PARAM_ACK_ACCEPTED) : params.any (isFor cmd) = true := by
  by_contra hnone
  rw [resultOf, if_neg hnone] at h
  exact absurd h (by decide)

variable {verdict : List ServerParam → ParamExtSet → UInt8}

theorem Fetching.receiveSet (h : Fetching w l) (hsent : l.sent ≠ []) {param : SettingData}
    (hfits : FitsCmd param) (rest : List ToServer) (ack : ParamExtAck) (l' : Flights) :
    Fetching { w with
      params := (receiveSet verdict w.params (setFor sysId compId param)).1
      toServer := rest
      toXParam := w.toXParam ++ [.ack ack] } l' := by
  -- a set is on its way, so no fetch is
  have hnone : NoValues w := h.quiet.resolve_left hsent
  have hnone' : ∀ response, .value response ∉ w.toXParam ++ [.ack ack] := by
    intro response hresponse
    rcases List.mem_append.mp hresponse with hold | hnew
    · exact hnone.toXParam response hold
    · cases List.mem_singleton.mp hnew
  refine ⟨?_, h.getAllCbs, fun j hj => .inl (hnone.slots j hj), fun response hresponse => ?_, ?_,
    .inr ⟨hnone.streams, hnone', hnone.slots, hnone.replacements⟩⟩
  · show WellFormed (if _ then _ else _)
    split_ifs
    · exact h.wellFormed.applySet hfits
    · exact h.wellFormed
  · exact absurd hresponse (hnone' response)
  · show ∀ qtParamSet ∈ w.settings.model.replacements, _
    rw [hnone.replacements]
    nofun

/-- **The server writes**: a set that it accepts is pending. -/
theorem Cached.receiveSet {done acked : List (Flight × UInt8)} {f : Flight} {sent : List Flight}
    (h : Cached isParamWhitelisted w ⟨done, acked, f :: sent⟩) (hparams : WellFormed w.params)
    (hfits : FitsCmd f.param) (rest : List ToServer) (ack : ParamExtAck) :
    Cached isParamWhitelisted
      { w with
        params := (receiveSet verdict w.params (setFor sysId compId f.param)).1
        toServer := rest
        toXParam := w.toXParam ++ [.ack ack] }
      ⟨done, acked ++ [(f, resultOf verdict w.params (setFor sysId compId f.param))], sent⟩ := by
  have hpending : (⟨done, acked ++ [(f, resultOf verdict w.params (setFor sysId compId f.param))],
      sent⟩ : Flights).pending = (⟨done, acked, f :: sent⟩ : Flights).pending ++
        accepted [(f, resultOf verdict w.params (setFor sysId compId f.param))] := by
    rw [Flights.pending, ← List.append_assoc, accepted_append]
    rfl
  rw [accepted_singleton] at hpending
  by_cases haccepted : resultOf verdict w.params (setFor sysId compId f.param) = PARAM_ACK_ACCEPTED
  -- accepted: the server's rows are one write further than the cache
  · have hrows : rows isParamWhitelisted
        (SettingsServer.receiveSet verdict w.params (setFor sysId compId f.param)).1 =
          MavlinkSettingsModel.updateRow f.param (rows isParamWhitelisted w.params) :=
      (congrArg (rows isParamWhitelisted) (if_pos haccepted)).trans
        (rows_applySet isParamWhitelisted hfits hparams.nodup (any_of_accepted haccepted))
    rw [if_pos haccepted] at hpending
    refine ⟨?_, h.replaced, h.cache.imp id fun ⟨hfetched, hcache⟩ => ⟨hfetched, ?_⟩⟩
    · rw [hpending, hrows]
      exact h.server.store_storeWrites overwrites_updateRow f.param
    · rw [hpending, hrows]
      exact hcache.storeWrites f.param
  -- rejected: nothing is pending
  · have hsame : (SettingsServer.receiveSet verdict w.params (setFor sysId compId f.param)).1 =
        w.params := if_neg haccepted
    rw [if_neg haccepted, List.append_nil] at hpending
    refine ⟨?_, h.replaced, h.cache.imp id fun ⟨hfetched, hcache⟩ => ⟨hfetched, ?_⟩⟩
    · rw [hpending, hsame]
      exact h.server
    · rw [hpending, hsame]
      exact hcache

/-- The server receives something, or nothing. -/
theorem Inv.serverReceives (h : Inv isParamWhitelisted sysId compId w l) :
    ∃ l', Inv isParamWhitelisted sysId compId (serverReceives verdict w) l' := by
  unfold SettingsCache.serverReceives
  split
  · exact ⟨l, h⟩
  · rename_i cmd rest hcmd
    obtain ⟨f, sent, hsent, rfl, hflying⟩ := h.flying.receiveSet hcmd
    obtain ⟨done, acked, _⟩ := l
    obtain rfl : _ = f :: sent := hsent
    have hfits := h.flying.fits f List.mem_cons_self
    exact ⟨_, h.wired, hflying _ _, h.fetching.receiveSet (List.cons_ne_nil _ _) hfits _ _ _,
      h.cached.receiveSet h.fetching.wellFormed hfits _ _⟩
  · rename_i rest hrequest
    obtain ⟨hsent, hflying⟩ := h.flying.receiveRequest hrequest _
    exact ⟨l, h.wired, hflying, { h.fetching with quiet := .inl hsent }, { h.cached with }⟩
  · rename_i rest hrequest
    obtain ⟨hsent, hflying⟩ := h.flying.receiveRequest hrequest _
    exact ⟨l, h.wired, hflying, { h.fetching with quiet := .inl hsent }, { h.cached with }⟩

/-! ### The server streams -/

theorem Inv.serverStreams (h : Inv isParamWhitelisted sysId compId w l) (k : ℕ) :
    Inv isParamWhitelisted sysId compId (serverStreams w k) l := by
  unfold SettingsCache.serverStreams
  split
  · rename_i i rest hstream
    -- what is streamed is for a request, so no set is on its way
    have hsent : l.sent = [] := by
      refine h.fetching.quiet.resolve_right fun hnone => ?_
      cases hnone.streams _ (List.mem_of_getElem? hstream)
    refine ⟨h.wired, { h.flying with toXParam := ?_ },
      { h.fetching with values := fun response hresponse => ?_, quiet := .inl hsent },
      { h.cached with }⟩
    · rw [List.filterMap_append, h.flying.toXParam]
      rcases responseAt w.params i with - | response
      · exact List.append_nil _
      · exact List.append_nil _
    · rcases List.mem_append.mp hresponse with hold | hnew
      · exact h.fetching.values response hold
      · refine ⟨i, ?_⟩
        rcases hi : responseAt w.params i with - | response'
        · rw [hi] at hnew
          cases hnew
        · rw [hi] at hnew
          obtain rfl := ToXParam.value.inj (List.mem_singleton.mp hnew)
          rfl
  · exact h

/-! ### The cache is written -/

/-- The row of a set that is done with. -/
def updateIfAccepted (a : Flight × UInt8) (data : List SettingData) : List SettingData :=
  if a.2 = PARAM_ACK_ACCEPTED then MavlinkSettingsModel.updateRow a.1.param data else data

theorem accepted_middle (pre post : List (Flight × UInt8)) (a : Flight × UInt8) :
    accepted (pre ++ a :: post) =
      accepted pre ++
        ((if a.2 = PARAM_ACK_ACCEPTED then [a.1.param] else []) ++ accepted post) := by
  rw [List.append_cons, accepted_append, accepted_append, accepted_singleton, List.append_assoc]

theorem accepted_apart {answered : List (Flight × UInt8)} {id : List UInt8}
    (h : ∀ b ∈ answered, b.1.param.uniqueId ≠ id) :
    ∀ param ∈ accepted answered, param.uniqueId ≠ id := by
  intro param hparam
  obtain ⟨b, hb, rfl⟩ := List.mem_map.mp hparam
  exact h b (List.mem_of_mem_filter hb)

section

variable {pre post : List (Flight × UInt8)} {a : Flight × UInt8}
  (hpre : ∀ b ∈ pre, b.1.param.uniqueId ≠ a.1.param.uniqueId)

include hpre

/-- An answered set reaches the cache. -/
theorem upTo_updateIfAccepted {data store : List SettingData}
    (h : UpTo MavlinkSettingsModel.updateRow (accepted (pre ++ a :: post)) data store) :
    UpTo MavlinkSettingsModel.updateRow (accepted (pre ++ post)) (updateIfAccepted a data)
      store := by
  rw [accepted_middle] at h
  rw [accepted_append, updateIfAccepted]
  by_cases ha : a.2 = PARAM_ACK_ACCEPTED
  · rw [if_pos ha] at h ⊢
    exact h.cacheWrites overwrites_updateRow (accepted_apart hpre)
  · rw [if_neg ha] at h ⊢
    exact h

/-- The server has it already. -/
theorem upTo_store {store : List SettingData}
    (h : UpTo MavlinkSettingsModel.updateRow (accepted (pre ++ a :: post)) store store) :
    UpTo MavlinkSettingsModel.updateRow (accepted (pre ++ post)) store store := by
  rw [accepted_middle] at h
  rw [accepted_append]
  by_cases ha : a.2 = PARAM_ACK_ACCEPTED
  · rw [if_pos ha] at h
    exact h.store_cacheWrites overwrites_updateRow (accepted_apart hpre)
  · rw [if_neg ha] at h
    exact h

end

/-- **The cache is written**: a set that is accepted is no longer pending. -/
theorem Cached.update (h : Cached isParamWhitelisted w l) {l' : Flights}
    {pre post : List (Flight × UInt8)} {a : Flight × UInt8}
    (hl : l.done ++ l.acked = pre ++ a :: post) (hl' : l'.done ++ l'.acked = pre ++ post)
    (hpre : ∀ b ∈ pre, b.1.param.uniqueId ≠ a.1.param.uniqueId)
    {w' : World} (hparams : w'.params = w.params) (hfetched : w'.fetched = w.fetched)
    (hreplacements : w'.settings.model.replacements = w.settings.model.replacements)
    (hdata : w'.settings.model.data = updateIfAccepted a w.settings.model.data) :
    Cached isParamWhitelisted w' l' := by
  have hserver := h.server
  rw [Flights.pending, hl] at hserver
  refine ⟨?_, ?_, ?_⟩
  · rw [Flights.pending, hl', hparams]
    exact upTo_store hpre hserver
  · rw [hfetched, hreplacements]
    exact h.replaced
  · rw [hfetched, hreplacements, hdata, hparams]
    refine h.cache.imp (fun ⟨hempty, hsome⟩ => ⟨?_, hsome⟩) fun ⟨hsome, hcache⟩ => ⟨hsome, ?_⟩
    · rw [hempty, updateIfAccepted]
      exact ite_self _
    · rw [Flights.pending, hl] at hcache
      rw [Flights.pending, hl']
      exact upTo_updateIfAccepted hpre hcache

end

end SettingsCache

end QOpenHD
