/-
QOpenHD/XParamFetch.lean

What a get-all of `XParam` comes to.

* **`fetched`** — a get-all that is the only one for its server calls its
  callback exactly when every parameter has been received, with the first
  response for each, in whatever order and however often they come;
* **`retransmission_progress`** — a retransmission asks for missing parameters only,
  exactly if it asks for all of them or the first ten are missing: the requests
  for single parameters are for the first ten, missing or not.  If the server
  answers one that does, fewer are missing.
-/
import QOpenHD.XParamGetAll

namespace QOpenHD

open Checked RetryQueue

/-! ### The first response for each parameter -/

/-- The first response for each of `n` parameters, of those that were received. -/
def firstResponses (n : ℕ) (received : List ParamExtValue) : List (Option ParamExtValue) :=
  (List.range n).map fun i => received.find? fun response => response.paramIndex.toNat = i

section

variable {n : ℕ} {received : List ParamExtValue} {response : ParamExtValue}

theorem length_firstResponses : (firstResponses n received).length = n := by
  simp [firstResponses]

theorem getElem?_firstResponses {i : ℕ} (hi : i < n) :
    (firstResponses n received)[i]? =
      some (received.find? fun response => response.paramIndex.toNat = i) := by
  simp [firstResponses, hi]

theorem firstResponses_nil : firstResponses n [] = List.replicate n none := by
  apply List.ext_getElem
  · simp [firstResponses]
  · intro i hi hi'
    simp [firstResponses]

/-- A response for a parameter that was received before. -/
theorem firstResponses_append_of_some {param : ParamExtValue}
    (h : (firstResponses n received)[response.paramIndex.toNat]? = some (some param)) :
    firstResponses n (received ++ [response]) = firstResponses n received := by
  apply List.map_congr_left
  intro i hi
  obtain ⟨hlt, -⟩ := List.getElem?_eq_some_iff.mp h
  rw [length_firstResponses] at hlt
  rw [getElem?_firstResponses hlt] at h
  rw [List.find?_append]
  by_cases hindex : response.paramIndex.toNat = i
  · rw [← hindex, Option.some.inj h]
    rfl
  · simp [hindex]

/-- The first response for a parameter. -/
theorem firstResponses_append_of_none
    (h : (firstResponses n received)[response.paramIndex.toNat]? = some none) :
    firstResponses n (received ++ [response]) =
      (firstResponses n received).set response.paramIndex.toNat (some response) := by
  obtain ⟨hlt, -⟩ := List.getElem?_eq_some_iff.mp h
  rw [length_firstResponses] at hlt
  rw [getElem?_firstResponses hlt] at h
  apply List.ext_getElem?
  intro i
  rw [List.getElem?_set, length_firstResponses]
  by_cases hi : i < n
  · rw [getElem?_firstResponses hi, getElem?_firstResponses hi, List.find?_append]
    by_cases hindex : response.paramIndex.toNat = i
    · subst hindex
      rw [Option.some.inj h, if_pos rfl, if_pos hlt]
      simp
    · rw [if_neg hindex]
      simp [hindex]
  · have hnone : ∀ l, (firstResponses n l)[i]? = none := fun l => by
      rw [List.getElem?_eq_none_iff, length_firstResponses]
      exact Nat.not_lt.mp hi
    rw [hnone, hnone]
    split_ifs with hindex
    · exact absurd (hindex ▸ hlt) hi
    · rfl

/-- Every parameter has been received. -/
def AllReceived (n : ℕ) (received : List ParamExtValue) : Prop :=
  ∀ i < n, ∃ response ∈ received, response.paramIndex.toNat = i

theorem getMissingCount_firstResponses :
    getMissingCount (firstResponses n received) = 0 ↔ AllReceived n received := by
  rw [getMissingCount, List.countP_eq_zero]
  constructor
  · intro h i hi
    have hslot := h (received.find? fun response => response.paramIndex.toNat = i)
      (List.mem_map_of_mem (List.mem_range.mpr hi))
    simpa using hslot
  · intro h slot hslot
    obtain ⟨i, hi, rfl⟩ := List.mem_map.mp hslot
    simpa using h i (List.mem_range.mp hi)

theorem allReceived_congr {received' : List ParamExtValue}
    (h : firstResponses n received = firstResponses n received') :
    AllReceived n received ↔ AllReceived n received' := by
  rw [← getMissingCount_firstResponses, h, getMissingCount_firstResponses]

end

/-! ### One response -/

section

variable {response : ParamExtValue} {senderSysid senderCompid : UInt8}

/-- The loop passes by get-alls for other servers. -/
theorem findRemove_append_others {pre : List (Job GetAll)}
    (hpre : ∀ r ∈ pre, ¬ ForSender senderSysid senderCompid r.payload) (l : List (Job GetAll)) :
    findRemoveRunningCommandGetAll response senderSysid senderCompid (pre ++ l) =
      findRemoveRunningCommandGetAll response senderSysid senderCompid l >>= fun found =>
        pure (found.1, pre ++ found.2) := by
  induction pre with
  | nil => exact (bind_pure _).symm
  | cons r pre ih =>
      obtain ⟨hr, hpre⟩ := List.forall_mem_cons.mp hpre
      rw [List.cons_append, findRemove_cons_other hr, ih hpre, bind_assoc]
      simp only [pure_bind, List.cons_append]

/-- Get-alls for other servers stay as they are. -/
theorem findRemove_filter_others {l left : List (Job GetAll)} {optFinished : Option (Job GetAll)}
    (h : findRemoveRunningCommandGetAll response senderSysid senderCompid l =
      .ok (optFinished, left)) :
    left.filter (fun r => ¬ ForSender senderSysid senderCompid r.payload) =
        l.filter (fun r => ¬ ForSender senderSysid senderCompid r.payload) ∧
      ∀ finished, optFinished = some finished →
        ForSender senderSysid senderCompid finished.payload := by
  induction l generalizing left optFinished with
  | nil =>
      obtain ⟨rfl, rfl⟩ := Prod.mk.inj (Except.ok.inj h)
      exact ⟨rfl, nofun⟩
  | cons running rest ih =>
      rcases findRemove_cons_cases h with ⟨-, rfl, rfl⟩ | ⟨hsender, -, rfl, rfl, -⟩ |
        ⟨running', left', hrunning', hrest, rfl⟩
      · exact ⟨rfl, nofun⟩
      · refine ⟨by simp [hsender], fun finished hfinished => ?_⟩
        obtain rfl := Option.some.inj hfinished
        exact hsender
      · obtain ⟨hleft, hfinished⟩ := ih hrest
        refine ⟨?_, hfinished⟩
        rcases hrunning' with rfl | ⟨hsender, -, rfl⟩
        · rw [List.filter_cons, List.filter_cons, hleft]
        · have hsender' : ForSender senderSysid senderCompid
              (withParamSet running (filledSlots response running.payload)).payload := hsender
          simpa [hsender, hsender'] using hleft

/-- The first get-all for the server has the parameter already. -/
theorem findRemove_first_of_some {pre : List (Job GetAll)} {running : Job GetAll}
    (hpre : ∀ r ∈ pre, ¬ ForSender senderSysid senderCompid r.payload)
    (hsender : ForSender senderSysid senderCompid running.payload) (hvalid : ValidIndex response)
    {param : ParamExtValue}
    (hslot : (slotsFor response running.payload)[response.paramIndex.toNat]? = some (some param))
    (post : List (Job GetAll)) :
    findRemoveRunningCommandGetAll response senderSysid senderCompid (pre ++ running :: post) =
      .ok (none, pre ++ running :: post) := by
  rw [findRemove_append_others hpre, findRemove_cons_valid hsender hvalid, hslot]
  rfl

/-- The first get-all for the server takes the parameter. -/
theorem findRemove_first_of_fits {pre : List (Job GetAll)} {running : Job GetAll}
    (hpre : ∀ r ∈ pre, ¬ ForSender senderSysid senderCompid r.payload)
    (hsender : ForSender senderSysid senderCompid running.payload) (hvalid : ValidIndex response)
    (hfits : Fits response running.payload) (post : List (Job GetAll)) :
    findRemoveRunningCommandGetAll response senderSysid senderCompid (pre ++ running :: post) =
      if getMissingCount (filledSlots response running.payload) = 0 then
        .ok (some (withParamSet running (filledSlots response running.payload)), pre ++ post)
      else
        findRemoveRunningCommandGetAll response senderSysid senderCompid post >>= fun found =>
          pure (found.1,
            pre ++ withParamSet running (filledSlots response running.payload) :: found.2) := by
  rw [findRemove_append_others hpre, findRemove_cons_valid hsender hvalid, hfits]
  show (if getMissingCount (filledSlots response running.payload) = 0 then _ else _) >>= _ =
    if getMissingCount (filledSlots response running.payload) = 0 then _ else _
  split_ifs
  · rfl
  · rw [bind_assoc]
    simp only [pure_bind]

/-- No get-all is for the server. -/
theorem findRemove_others {l : List (Job GetAll)}
    (hl : ∀ r ∈ l, ¬ ForSender senderSysid senderCompid r.payload) :
    findRemoveRunningCommandGetAll response senderSysid senderCompid l = .ok (none, l) := by
  have hall : findRemoveRunningCommandGetAll response senderSysid senderCompid (l ++ []) =
      .ok (none, l ++ []) := findRemove_append_others hl []
  rwa [List.append_nil] at hall

theorem handleParamExtValue_of_none {s : GetAlls} {left : List (Job GetAll)}
    (h : findRemoveRunningCommandGetAll response senderSysid senderCompid s.running =
      .ok (none, left)) :
    s.handleParamExtValue response senderSysid senderCompid =
      .ok (true, { s with running := left }) := by
  rw [GetAlls.handleParamExtValue, h]
  rfl

theorem handleParamExtValue_of_some {s : GetAlls} {left : List (Job GetAll)}
    {finished : Job GetAll} {params : List ParamExtValue}
    (h : findRemoveRunningCommandGetAll response senderSysid senderCompid s.running =
      .ok (some finished, left))
    (hparams : validParamSet finished.payload.serverParamSet = .ok params) :
    s.handleParamExtValue response senderSysid senderCompid = .ok (true, { s with
      running := left
      called := s.called ++ [(finished.cb, ⟨true, params⟩)] }) := by
  rw [GetAlls.handleParamExtValue, h, ok_bind]
  simp only [hparams, ok_bind]
  rfl

end

/-! ### Completion -/

namespace GetAlls

section

variable (sysid compid : UInt8)

/-- The responses of one server. -/
def responsesOf (events : List Event) : List ParamExtValue :=
  events.filterMap fun
    | .paramExtValue response senderSysid senderCompid =>
      if senderSysid = sysid ∧ senderCompid = compid then some response else none
    | _ => none

/-- The server says that it has `n` parameters, and sends one of them; other
get-alls are for other servers, whose responses have their slots; and the get-all
with the callback `t` is not given up. -/
def Undisturbed (n : UInt16) (t : ℕ) (w : World) : Event → Prop
  | .tryGetParamAllAsync cmd _ => ¬ (cmd.targetSystem = sysid ∧ cmd.targetComponent = compid)
  | .paramExtValue response senderSysid senderCompid =>
    if senderSysid = sysid ∧ senderCompid = compid then
      response.paramCount = n ∧ response.paramIndex < n
    else InSlots response senderSysid senderCompid w.getAlls.running
  | .timeoutPass vs =>
    ∀ result, (t, result) ∈ (w.getAlls.visits protocol vs).called → (t, result) ∈ w.getAlls.called

end

/-- What has become of a get-all after these responses of its server: nothing, until
every parameter has been received, and then it is called back once, with the first
response for each. -/
structure Fetched (n : UInt16) (t : ℕ) (received : List ParamExtValue) (w : World) : Prop where
  waiting : ¬ AllReceived n.toNat received → t ∉ w.getAlls.called.map Prod.fst
  done : AllReceived n.toNat received → ∃ params,
    w.getAlls.called.filter (·.1 = t) = [(t, ⟨true, params⟩)] ∧ params.length = n.toNat ∧
      ∀ i < n.toNat, params[i]? = received.find? fun response => response.paramIndex.toNat = i

section

variable {sysid compid : UInt8} {n : UInt16} {t : ℕ}

/-- The slots of a get-all after these responses. -/
def Holds (n : UInt16) (received : List ParamExtValue) (running : GetAll) : Prop :=
  ∀ response : ParamExtValue, response.paramCount = n →
    slotsFor response running = firstResponses n.toNat received

/-- What every step keeps. -/
structure Fetching (sysid compid : UInt8) (n : UInt16) (t : ℕ) (received : List ParamExtValue)
    (w : World) : Prop where
  inv : Inv w
  only : ∀ r ∈ w.getAlls.running, ForSender sysid compid r.payload → r.cb = t
  phase :
    (¬ AllReceived n.toNat received ∧ ∃ r ∈ w.getAlls.running, r.cb = t ∧
      ForSender sysid compid r.payload ∧ Holds n received r.payload) ∨
    (AllReceived n.toNat received ∧ ∃ params,
      (t, ⟨true, params⟩) ∈ w.getAlls.called ∧ params.map some = firstResponses n.toNat received)

theorem Fetching.toFetched {received : List ParamExtValue} {w : World}
    (h : Fetching sysid compid n t received w) : Fetched n t received w := by
  rcases h.phase with ⟨hwaiting, r, hr, rfl, -⟩ | ⟨hall, params, hcalled, hparams⟩
  · exact ⟨fun _ => (ticket_unique h.inv.nodup hr).1, fun hall => absurd hall hwaiting⟩
  · refine ⟨fun hwaiting => absurd hall hwaiting, fun _ =>
      ⟨params, filter_called_eq h.inv.nodup hcalled, ?_, fun i hi => ?_⟩⟩
    · have hlength := congrArg List.length hparams
      rwa [List.length_map, length_firstResponses] at hlength
    · have hslot : (firstResponses n.toNat received)[i]? = some _ := getElem?_firstResponses hi
      rw [← hparams, List.getElem?_map] at hslot
      rcases hparam : params[i]? with - | param
      · rw [hparam] at hslot
        cases hslot
      · rw [hparam] at hslot
        exact Option.some.inj hslot

/-- The get-all is the only one for its server. -/
theorem Fetching.others {received : List ParamExtValue} {w : World}
    (h : Fetching sysid compid n t received w) {pre post : List (Job GetAll)} {r : Job GetAll}
    (hrunning : w.getAlls.running = pre ++ r :: post) (hr : r.cb = t) :
    ∀ r' ∈ pre ++ post, ¬ ForSender sysid compid r'.payload := by
  intro r' hr' hsender
  have hmem : r' ∈ w.getAlls.running := by
    rw [hrunning]
    exact List.perm_middle.symm.subset (List.mem_cons_of_mem _ hr')
  have hnodup := h.inv.nodup
  rw [Queue.tickets, hrunning] at hnodup
  have hfresh := (tickets_middle pre post r w.getAlls.sent w.getAlls.called).nodup_iff.mp hnodup
  apply (List.nodup_cons.mp hfresh).1
  rw [hr, ← h.only r' hmem hsender]
  exact List.mem_append_left _ (List.mem_map_of_mem hr')

theorem holds_of_eq {received : List ParamExtValue} {running : GetAll} (hn : 0 < n.toNat)
    (h : running.serverParamSet = firstResponses n.toNat received) : Holds n received running := by
  intro response _
  have hne : running.serverParamSet.isEmpty = false := by
    rw [h, List.isEmpty_eq_false_iff, ← List.length_pos_iff, length_firstResponses]
    exact hn
  rw [slotsFor, hne]
  exact h

/-- The step, once it is known what is done with the response. -/
theorem step_paramExtValue {w : World} {response : ParamExtValue}
    {senderSysid senderCompid : UInt8} {consumed : Bool} {s' : GetAlls}
    (h : w.getAlls.handleParamExtValue response senderSysid senderCompid = .ok (consumed, s')) :
    step w (.paramExtValue response senderSysid senderCompid) = .ok ⟨s', w.nCalls⟩ := by
  rw [step, h, ok_bind]
  rfl

section Responses

variable {received : List ParamExtValue} {w : World} {response : ParamExtValue}

/-- A response when the get-all has been called back: nobody waits for it. -/
theorem Fetching.afterwards (h : Fetching sysid compid n t received w)
    (hall : AllReceived n.toNat received) {params : List ParamExtValue}
    (hcalled : (t, ⟨true, params⟩) ∈ w.getAlls.called)
    (hparams : params.map some = firstResponses n.toNat received)
    (hlt : response.paramIndex.toNat < n.toNat) :
    ∃ w', step w (.paramExtValue response sysid compid) = .ok w' ∧
      Fetching sysid compid n t (received ++ [response]) w' := by
  have hnone : ∀ r ∈ w.getAlls.running, ¬ ForSender sysid compid r.payload := by
    intro r hr hsender
    apply (ticket_unique h.inv.nodup hr).1
    rw [h.only r hr hsender]
    exact List.mem_map_of_mem (f := Prod.fst) hcalled
  have hfound : findRemoveRunningCommandGetAll response sysid compid w.getAlls.running =
      .ok (none, w.getAlls.running) := findRemove_others hnone
  have hw := step_paramExtValue (handleParamExtValue_of_none hfound)
  have hslot : (firstResponses n.toNat received)[response.paramIndex.toNat]? = some _ :=
    getElem?_firstResponses hlt
  obtain ⟨first, hfirst, hfirst'⟩ := hall _ hlt
  have hsame : firstResponses n.toNat (received ++ [response]) =
      firstResponses n.toNat received := by
    rcases hfind : received.find? fun response' =>
        response'.paramIndex.toNat = response.paramIndex.toNat with - | param
    · rw [List.find?_eq_none] at hfind
      simpa [hfirst'] using hfind first hfirst
    · rw [hfind] at hslot
      exact firstResponses_append_of_some hslot
  refine ⟨_, hw, h.inv.step hw, h.only, .inr ⟨?_, params, hcalled, hparams.trans hsame.symm⟩⟩
  rwa [allReceived_congr hsame]

variable {pre post : List (Job GetAll)} {r : Job GetAll}

/-- A response for a parameter that has been received. -/
theorem Fetching.again (h : Fetching sysid compid n t received w)
    (hwaiting : ¬ AllReceived n.toNat received) (hrunning : w.getAlls.running = pre ++ r :: post)
    (hcb : r.cb = t) (hsender : ForSender sysid compid r.payload)
    (hholds : Holds n received r.payload) (hcount : response.paramCount = n)
    (hvalid : ValidIndex response) {param : ParamExtValue}
    (hslot : (firstResponses n.toNat received)[response.paramIndex.toNat]? = some (some param)) :
    ∃ w', step w (.paramExtValue response sysid compid) = .ok w' ∧
      Fetching sysid compid n t (received ++ [response]) w' := by
  have hpre : ∀ r' ∈ pre, ¬ ForSender sysid compid r'.payload := fun r' hr' =>
    h.others hrunning hcb r' (List.mem_append_left _ hr')
  have hsame := firstResponses_append_of_some hslot
  rw [← hholds response hcount] at hslot
  have hfound := findRemove_first_of_some hpre hsender hvalid hslot post
  rw [← hrunning] at hfound
  have hw := step_paramExtValue (handleParamExtValue_of_none hfound)
  have hr : r ∈ w.getAlls.running := by simp [hrunning]
  refine ⟨_, hw, h.inv.step hw, h.only, .inl ⟨?_, r, hr, hcb, hsender, ?_⟩⟩
  · rwa [allReceived_congr hsame]
  · rw [Holds, hsame]
    exact hholds

/-- A response for a parameter that is missing. -/
theorem Fetching.stored (h : Fetching sysid compid n t received w)
    (hrunning : w.getAlls.running = pre ++ r :: post) (hcb : r.cb = t)
    (hsender : ForSender sysid compid r.payload) (hholds : Holds n received r.payload)
    (hcount : response.paramCount = n) (hvalid : ValidIndex response)
    (hslot : (firstResponses n.toNat received)[response.paramIndex.toNat]? = some none) :
    ∃ w', step w (.paramExtValue response sysid compid) = .ok w' ∧
      Fetching sysid compid n t (received ++ [response]) w' := by
  have hothers := h.others hrunning hcb
  have hpre : ∀ r' ∈ pre, ¬ ForSender sysid compid r'.payload := fun r' hr' =>
    hothers r' (List.mem_append_left _ hr')
  have hstored : filledSlots response r.payload =
      firstResponses n.toNat (received ++ [response]) := by
    rw [filledSlots, hholds response hcount, firstResponses_append_of_none hslot]
  have hlt : response.paramIndex.toNat < n.toNat := by
    obtain ⟨hlt, -⟩ := List.getElem?_eq_some_iff.mp hslot
    rwa [length_firstResponses] at hlt
  rw [← hholds response hcount] at hslot
  have hfound := findRemove_first_of_fits hpre hsender hvalid hslot post
  rw [hstored, ← hrunning] at hfound
  by_cases hall : AllReceived n.toNat (received ++ [response])
  · -- the last one: the get-all leaves and is called back
    rw [if_pos (getMissingCount_firstResponses.mpr hall)] at hfound
    obtain ⟨params, hparams, -⟩ := validParamSet_of_full (getMissingCount_firstResponses.mpr hall)
    have hw := step_paramExtValue (handleParamExtValue_of_some hfound hparams)
    refine ⟨_, hw, h.inv.step hw, fun r' hr' hsender' => absurd hsender' (hothers r' hr'),
      .inr ⟨hall, params, ?_, (eq_map_some_of_validParamSet hparams).symm⟩⟩
    rw [← hcb]
    exact List.mem_append_right _ (List.mem_singleton_self _)
  · -- the get-all stays, with one more slot filled
    rw [if_neg fun hfull => hall (getMissingCount_firstResponses.mp hfull),
      findRemove_others fun r' hr' => hothers r' (List.mem_append_right _ hr')] at hfound
    have hw := step_paramExtValue (handleParamExtValue_of_none hfound)
    refine ⟨_, hw, h.inv.step hw, fun r' hr' hsender' => ?_, .inl ⟨hall, _,
      List.mem_append_right _ List.mem_cons_self, hcb, hsender,
      holds_of_eq (Nat.zero_lt_of_lt hlt) rfl⟩⟩
    rcases List.mem_cons.mp (List.perm_middle.subset hr') with rfl | hother
    · exact hcb
    · exact absurd hsender' (hothers r' hother)

end Responses

/-- **A response of the server.** -/
theorem Fetching.paramExtValue {received : List ParamExtValue} {w : World}
    (h : Fetching sysid compid n t received w) {response : ParamExtValue}
    (hcount : response.paramCount = n) (hindex : response.paramIndex < n) :
    ∃ w', step w (.paramExtValue response sysid compid) = .ok w' ∧
      Fetching sysid compid n t (received ++ [response]) w' := by
  have hvalid : ValidIndex response := by
    rw [ValidIndex, hcount]
    exact hindex
  have hlt : response.paramIndex.toNat < n.toNat := UInt16.lt_iff_toNat_lt.mp hindex
  have hslot : (firstResponses n.toNat received)[response.paramIndex.toNat]? = some _ :=
    getElem?_firstResponses hlt
  rcases h.phase with ⟨hwaiting, r, hr, hcb, hsender, hholds⟩ | ⟨hall, params, hcalled, hparams⟩
  · obtain ⟨pre, post, hrunning⟩ := List.append_of_mem hr
    rcases hfind : received.find? fun response' =>
        response'.paramIndex.toNat = response.paramIndex.toNat with - | param
    · rw [hfind] at hslot
      exact h.stored hrunning hcb hsender hholds hcount hvalid hslot
    · rw [hfind] at hslot
      exact h.again hwaiting hrunning hcb hsender hholds hcount hvalid hslot
  · exact h.afterwards hall hcalled hparams hlt

/-- A response of another server. -/
theorem Fetching.otherServer {received : List ParamExtValue} {w : World}
    (h : Fetching sysid compid n t received w) {response : ParamExtValue}
    {senderSysid senderCompid : UInt8} (hother : ¬ (senderSysid = sysid ∧ senderCompid = compid))
    (hslots : InSlots response senderSysid senderCompid w.getAlls.running) :
    ∃ w', step w (.paramExtValue response senderSysid senderCompid) = .ok w' ∧
      Fetching sysid compid n t received w' := by
  obtain ⟨⟨consumed, s'⟩, hhandle⟩ := (safe_handleParamExtValue_iff w.getAlls).mpr hslots
  have hw := step_paramExtValue hhandle
  obtain ⟨optFinished, hfound, hcalled⟩ := handleParamExtValue_eq_ok hhandle
  obtain ⟨hfilter, -⟩ := findRemove_filter_others hfound
  have hnotSender : ∀ {r : Job GetAll}, ForSender sysid compid r.payload →
      ¬ ForSender senderSysid senderCompid r.payload := fun hr hr' =>
    hother ⟨hr'.1.symm.trans hr.1, hr'.2.symm.trans hr.2⟩
  -- get-alls for our server are the same as before
  have hsame : ∀ r, ForSender sysid compid r.payload →
      (r ∈ s'.running ↔ r ∈ w.getAlls.running) := fun r hr => by
    have hmem := congrArg (r ∈ ·) hfilter
    simpa [hnotSender hr] using hmem
  refine ⟨_, hw, h.inv.step hw, fun r hr hsender => h.only r ((hsame r hsender).mp hr) hsender, ?_⟩
  rcases h.phase with ⟨hwaiting, r, hr, hcb, hsender, hholds⟩ | ⟨hall, params, hdone, hparams⟩
  · exact .inl ⟨hwaiting, r, (hsame r hsender).mpr hr, hcb, hsender, hholds⟩
  · refine .inr ⟨hall, params, ?_, hparams⟩
    rcases hcalled with ⟨-, hcalled⟩ | ⟨finished, params', -, -, hcalled⟩
    · exact hcalled ▸ hdone
    · exact hcalled ▸ List.mem_append_left _ hdone

/-- A timeout pass in which the get-all is not given up. -/
theorem Fetching.timeoutPass {received : List ParamExtValue} {w : World}
    (h : Fetching sysid compid n t received w) {vs : List (ℕ × ℤ × ℤ)}
    (hkept : Undisturbed sysid compid n t w (.timeoutPass vs)) :
    Fetching sysid compid n t received ⟨w.getAlls.visits protocol vs, w.nCalls⟩ := by
  have horigin := running_visits (P := protocol) (fun _ _ => rfl) w.getAlls vs
  refine ⟨h.inv.step (e := .timeoutPass vs) rfl, fun r' hr' hsender => ?_, ?_⟩
  · obtain ⟨r, hr, hcb, hpayload⟩ := horigin r' hr'
    rw [← hcb]
    exact h.only r hr (hpayload ▸ hsender)
  rcases h.phase with ⟨hwaiting, r, hr, rfl, hsender, hholds⟩ | ⟨hall, params, hdone, hparams⟩
  · obtain ⟨hfresh, hunique⟩ := ticket_unique h.inv.nodup hr
    have hticket : r.cb ∈ (w.getAlls.visits protocol vs).tickets :=
      (tickets_visits w.getAlls vs).mem_iff.mpr (List.mem_append_left _ (List.mem_map_of_mem hr))
    rcases List.mem_append.mp hticket with hrunning | hcalled
    · obtain ⟨r', hr', hcb'⟩ := List.mem_map.mp hrunning
      obtain ⟨r₀, hr₀, hcb₀, hpayload⟩ := horigin r' hr'
      obtain rfl := hunique r₀ hr₀ (hcb₀.trans hcb')
      exact .inl ⟨hwaiting, r', hr', hcb', hpayload ▸ hsender, hpayload ▸ hholds⟩
    · obtain ⟨e, he, hcb⟩ := List.mem_map.mp hcalled
      exact absurd (List.mem_map_of_mem (hkept e.2 (hcb ▸ he))) hfresh
  · exact .inr ⟨hall, params, called_subset_visits w.getAlls vs hdone, hparams⟩

/-- **One step.** -/
theorem Fetching.step {received : List ParamExtValue} {w : World} {e : Event}
    (h : Fetching sysid compid n t received w) (he : Undisturbed sysid compid n t w e) :
    ∃ w', GetAlls.step w e = .ok w' ∧
      Fetching sysid compid n t (received ++ responsesOf sysid compid [e]) w' := by
  rcases e with ⟨cmd, now⟩ | ⟨response, senderSysid, senderCompid⟩ | vs
  · refine ⟨_, rfl, ?_⟩
    rw [responsesOf, List.filterMap_cons_none rfl, List.filterMap_nil, List.append_nil]
    refine ⟨h.inv.step (e := .tryGetParamAllAsync cmd now) rfl, fun r hr hsender => ?_, ?_⟩
    · rcases List.mem_append.mp hr with hold | hlast
      · exact h.only r hold hsender
      · obtain rfl := List.mem_singleton.mp hlast
        exact absurd hsender he
    · refine h.phase.imp_left fun ⟨hwaiting, r, hr, hrest⟩ => ⟨hwaiting, r, ?_, hrest⟩
      exact List.mem_append_left _ hr
  · by_cases hserver : senderSysid = sysid ∧ senderCompid = compid
    · obtain ⟨rfl, rfl⟩ := hserver
      rw [Undisturbed, if_pos ⟨rfl, rfl⟩] at he
      simpa [responsesOf] using h.paramExtValue he.1 he.2
    · rw [Undisturbed, if_neg hserver] at he
      simpa [responsesOf, hserver] using h.otherServer hserver he
  · refine ⟨_, rfl, ?_⟩
    rw [responsesOf, List.filterMap_cons_none rfl, List.filterMap_nil, List.append_nil]
    exact h.timeoutPass he

theorem Fetching.run {received : List ParamExtValue} {w : World} {events : List Event}
    (h : Fetching sysid compid n t received w)
    (hevents : EveryStep (Undisturbed sysid compid n t) GetAlls.step w events) :
    ∃ w', Checked.run GetAlls.step w events = .ok w' ∧
      Fetching sysid compid n t (received ++ responsesOf sysid compid events) w' := by
  induction events generalizing w received with
  | nil => exact ⟨w, rfl, by simpa [responsesOf] using h⟩
  | cons e events ih =>
      obtain ⟨he, hrest⟩ := hevents
      obtain ⟨w₁, hw₁, h₁⟩ := h.step he
      obtain ⟨w', hw', h'⟩ := ih h₁ (hrest w₁ hw₁)
      refine ⟨w', by rw [run_cons, hw₁, ok_bind, hw'], ?_⟩
      rw [List.append_assoc] at h'
      have hsplit : responsesOf sysid compid (e :: events) =
          responsesOf sysid compid [e] ++ responsesOf sysid compid events :=
        List.filterMap_append (l := [e])
      rwa [hsplit]

end

/-- What every step keeps holds at the beginning. -/
theorem fetching_nil {w : World} (hi : Inv w) {running : Job GetAll}
    (hrunning : running ∈ w.getAlls.running) (hempty : running.payload.serverParamSet = [])
    {sysid compid : UInt8} (hserver : ForSender sysid compid running.payload)
    (honly : ∀ r ∈ w.getAlls.running, ForSender sysid compid r.payload → r.cb = running.cb)
    {n : UInt16} (hn : 1 ≤ n) : Fetching sysid compid n running.cb [] w := by
  refine ⟨hi, honly, .inl ⟨fun hall => ?_, running, hrunning, rfl, hserver,
    fun response hcount => ?_⟩⟩
  · obtain ⟨_, hresponse, -⟩ := hall 0 (UInt16.le_iff_toNat_le.mp hn)
    cases hresponse
  · rw [slotsFor, hempty, hcount, firstResponses_nil]
    rfl

/-- **A get-all is called back exactly when every parameter has been received**, with
the first response for each, in whatever order the responses of its server come and
however often, between those of others and timeout passes. -/
theorem fetched {history : List Event} {w : World} (hw : run step World.init history = .ok w)
    {running : Job GetAll} (hrunning : running ∈ w.getAlls.running)
    (hempty : running.payload.serverParamSet = []) {sysid compid : UInt8}
    (hserver : ForSender sysid compid running.payload)
    (honly : ∀ r ∈ w.getAlls.running, ForSender sysid compid r.payload → r.cb = running.cb)
    {n : UInt16} (hn : 1 ≤ n) {events : List Event}
    (hevents : EveryStep (Undisturbed sysid compid n running.cb) step w events) :
    ∀ before, before <+: events → ∃ w', run step w before = .ok w' ∧
      Fetched n running.cb (responsesOf sysid compid before) w' := by
  have hi := run_invariant (fun _ _ _ hi hstep => hi.step hstep) inv_init hw
  rintro before ⟨after, rfl⟩
  obtain ⟨w', hw', h'⟩ := (fetching_nil hi hrunning hempty hserver honly hn).run
    (everyStep_append_iff.mp hevents).1
  exact ⟨w', hw', h'.toFetched⟩

/-- All parameters of the air unit. -/
def fetchAir : Event := .tryGetParamAllAsync ⟨OHD_SYS_ID_AIR, MAV_COMP_ID_ONBOARD_COMPUTER⟩ 0

def fetchingAir : Job GetAll :=
  ⟨⟨⟨OHD_SYS_ID_AIR, MAV_COMP_ID_ONBOARD_COMPUTER⟩, []⟩, 0, 10, milliseconds 500, 1, 0⟩

/-- The second parameter twice, and then the first. -/
def airTwice : List Event := [airValue 2 1, airValue 2 1, airValue 2 0]

/-- The air unit has two parameters. -/
theorem fetched_air :
    ∃ w', run step ⟨⟨[fetchingAir], [(0, .list fetchingAir.payload.baseCmd)], []⟩, 1⟩ airTwice =
        .ok w' ∧
      Fetched 2 0 (responsesOf OHD_SYS_ID_AIR MAV_COMP_ID_ONBOARD_COMPUTER airTwice) w' := by
  have hvalue : ∀ w, ∀ i < 2, Undisturbed OHD_SYS_ID_AIR MAV_COMP_ID_ONBOARD_COMPUTER 2 0 w
      (airValue 2 i) := fun w i hi => by
    rw [airValue, Undisturbed, if_pos ⟨rfl, rfl⟩]
    exact ⟨rfl, hi⟩
  have hw : run step World.init [fetchAir] =
      .ok ⟨⟨[fetchingAir], [(0, .list fetchingAir.payload.baseCmd)], []⟩, 1⟩ := rfl
  refine fetched hw (List.mem_singleton_self _) rfl ⟨rfl, rfl⟩
    (fun r hr _ => congrArg Job.cb (List.mem_singleton.mp hr)) (by decide) ?_ airTwice
      (List.prefix_refl _)
  exact ⟨hvalue _ 1 (by decide), fun _ _ => ⟨hvalue _ 1 (by decide), fun _ _ =>
    ⟨hvalue _ 0 (by decide), fun _ _ => trivial⟩⟩⟩

/-! ### Progress -/

/-- The parameter number `i` is missing. -/
def Missing (running : GetAll) (i : ℕ) : Prop := running.serverParamSet[i]? = some none

instance (running : GetAll) (i : ℕ) : Decidable (Missing running i) :=
  inferInstanceAs (Decidable (_ = _))

/-- The message asks for the parameter number `i`. -/
def AsksFor (i : ℕ) : ParamExtRequest → Prop
  | .list _ => True
  | .read cmd => cmd.paramIndex.toInt = i

/-- The next messages ask for a parameter that is missing, and for single parameters
only if they are. -/
def AsksForMissing (running : GetAll) : Prop :=
  (∃ msg ∈ nextMessageRunningGetAll running, ∃ i, Missing running i ∧ AsksFor i msg) ∧
    ∀ cmd, .read cmd ∈ nextMessageRunningGetAll running →
      ∃ i, Missing running i ∧ AsksFor i (.read cmd)

/-- So much is missing that everything is asked for. -/
def MostMissing (running : GetAll) : Prop :=
  getMissingCount running.serverParamSet > 2 ∧
    getMissingCount running.serverParamSet ≥ running.serverParamSet.length / 2

instance (running : GetAll) : Decidable (MostMissing running) :=
  inferInstanceAs (Decidable (_ ∧ _))

/-- The first ten parameters are missing. -/
def FirstMissing (running : GetAll) : Prop :=
  ∀ i < min 10 running.serverParamSet.length, Missing running i

theorem exists_missing {running : GetAll} (h : 0 < getMissingCount running.serverParamSet) :
    ∃ i, Missing running i := by
  obtain ⟨slot, hslot, hnone⟩ := List.countP_pos_iff.mp h
  obtain ⟨i, hi⟩ := List.mem_iff_getElem?.mp hslot
  exact ⟨i, by rw [Missing, hi, Option.isNone_iff_eq_none.mp hnone]⟩

/-- What is sent when the number of parameters is known. -/
theorem nextMessage_eq {running : GetAll} (hsize : running.serverParamSet ≠ []) :
    nextMessageRunningGetAll running =
      if MostMissing running then [.list running.baseCmd]
      else (List.range (min 10 running.serverParamSet.length)).map fun i => .read {
        paramIndex := Int16.ofNat i
        targetSystem := running.baseCmd.targetSystem
        targetComponent := running.baseCmd.targetComponent } :=
  if_neg fun hzero => hsize (List.length_eq_zero_iff.mp hzero)

theorem toInt_ofNat_of_lt_min {i size : ℕ} (h : i < min 10 size) :
    (Int16.ofNat i).toInt = i := by
  apply Int16.toInt_ofNat_of_lt
  omega

/-- **A retransmission asks for missing parameters only, exactly if it asks for all
of them or the first ten are missing.** -/
theorem asksForMissing_iff {running : GetAll} (hsize : running.serverParamSet ≠ [])
    (hmissing : 0 < getMissingCount running.serverParamSet) :
    AsksForMissing running ↔ MostMissing running ∨ FirstMissing running := by
  rw [AsksForMissing, nextMessage_eq hsize]
  by_cases hmost : MostMissing running
  · rw [if_pos hmost]
    refine iff_of_true ⟨?_, fun cmd hcmd => ?_⟩ (.inl hmost)
    · obtain ⟨i, hi⟩ := exists_missing hmissing
      exact ⟨_, List.mem_singleton_self _, i, hi, trivial⟩
    · cases List.mem_singleton.mp hcmd
  · rw [if_neg hmost]
    constructor
    · rintro ⟨-, hreads⟩
      refine .inr fun i hi => ?_
      obtain ⟨j, hj, hasks⟩ := hreads _ (List.mem_map_of_mem (List.mem_range.mpr hi))
      rw [AsksFor, toInt_ofNat_of_lt_min hi, Int.natCast_inj] at hasks
      exact hasks ▸ hj
    · rintro (hmost' | hfirst)
      · exact absurd hmost' hmost
      have hread : ∀ i < min 10 running.serverParamSet.length, ∃ j, Missing running j ∧
          (Int16.ofNat i).toInt = j := fun i hi =>
        ⟨i, hfirst i hi, toInt_ofNat_of_lt_min hi⟩
      constructor
      · have hpos : 0 < min 10 running.serverParamSet.length := by
          have hlength := List.length_pos_iff.mpr hsize
          omega
        exact ⟨_, List.mem_map_of_mem (List.mem_range.mpr hpos), hread 0 hpos⟩
      · intro cmd hcmd
        obtain ⟨i, hi, heq⟩ := List.mem_map.mp hcmd
        obtain rfl := ParamExtRequest.read.inj heq
        exact hread i (List.mem_range.mp hi)

/-! ### A server that answers -/

/-- A server: how many parameters it has, and the id, the value and the type of
each. -/
structure Server where
  sysid : UInt8
  compid : UInt8
  paramCount : UInt16
  param : ℕ → Vector UInt8 16 × Vector UInt8 128 × UInt8

namespace Server

def response (server : Server) (i : ℕ) : ParamExtValue :=
  ⟨server.paramCount, UInt16.ofNat i, (server.param i).1, (server.param i).2.1,
    (server.param i).2.2⟩

def answer (server : Server) : ParamExtRequest → List ParamExtValue
  | .list _ => (List.range server.paramCount.toNat).map server.response
  | .read cmd =>
    if 0 ≤ cmd.paramIndex.toInt ∧ cmd.paramIndex.toInt < server.paramCount.toNat then
      [server.response cmd.paramIndex.toInt.toNat]
    else []

/-- A response of the server is received. -/
def sends (server : Server) (response : ParamExtValue) : Event :=
  .paramExtValue response server.sysid server.compid

end Server

section

variable (server : Server)

/-- The get-alls for the server have no slots yet, or one for each of its
parameters. -/
def Sized (w : World) : Prop :=
  ∀ r ∈ w.getAlls.running, ForSender server.sysid server.compid r.payload →
    r.payload.serverParamSet = [] ∨ r.payload.serverParamSet.length = server.paramCount.toNat

/-- The first get-all for the server is that with the callback `t`, and these are
its slots. -/
def Leads (t : ℕ) (slots : List (Option ParamExtValue)) (w : World) : Prop :=
  ∃ pre r post, w.getAlls.running = pre ++ r :: post ∧
    (∀ r' ∈ pre, ¬ ForSender server.sysid server.compid r'.payload) ∧
    ForSender server.sysid server.compid r.payload ∧ r.cb = t ∧ r.payload.serverParamSet = slots

/-- The get-all with the callback `t` is complete. -/
def CalledBack (t : ℕ) (w : World) : Prop :=
  ∃ params, (t, ⟨true, params⟩) ∈ w.getAlls.called

/-- Fewer than `m` parameters are missing. -/
def MissesLess (t m : ℕ) (w : World) : Prop :=
  (∃ slots, Leads server t slots w ∧ slots.length = server.paramCount.toNat ∧
    getMissingCount slots < m) ∨ CalledBack t w

variable {server}

theorem length_slotsFor {response : ParamExtValue} {running : GetAll} {size : ℕ}
    (hcount : response.paramCount.toNat = size)
    (h : running.serverParamSet = [] ∨ running.serverParamSet.length = size) :
    (slotsFor response running).length = size := by
  rw [slotsFor]
  split_ifs with hempty
  · rw [List.length_replicate, hcount]
  · rcases h with h | h
    · rw [h] at hempty
      exact absurd rfl hempty
    · exact h

theorem response_index {i : ℕ} (hi : i < server.paramCount.toNat) :
    (server.response i).paramIndex.toNat = i :=
  UInt16.toNat_ofNat_of_lt' (hi.trans (UInt16.toNat_lt _))

/-- A response of the server is handled. -/
theorem Sized.sends {w : World} (h : Sized server w) {i : ℕ} (hi : i < server.paramCount.toNat) :
    ∃ w', step w (server.sends (server.response i)) = .ok w' ∧ Sized server w' ∧
      w.getAlls.called ⊆ w'.getAlls.called ∧
      ∃ optFinished, findRemoveRunningCommandGetAll (server.response i) server.sysid server.compid
          w.getAlls.running = .ok (optFinished, w'.getAlls.running) ∧
        ∀ finished, optFinished = some finished → CalledBack finished.cb w' := by
  have hslots : InSlots (server.response i) server.sysid server.compid w.getAlls.running := by
    intro _ pre r post hrunning _ hsender
    rw [length_slotsFor rfl (h r (by simp [hrunning]) hsender), response_index hi]
    exact hi
  obtain ⟨⟨consumed, s'⟩, hhandle⟩ := (safe_handleParamExtValue_iff w.getAlls).mpr hslots
  obtain ⟨optFinished, hfound, hcalled⟩ := handleParamExtValue_eq_ok hhandle
  obtain ⟨l', hl', hpassed⟩ := findRemove_passed hfound
  refine ⟨_, step_paramExtValue hhandle, fun r' hr' hsender => ?_, ?_, optFinished, hfound, ?_⟩
  -- the slots are of the same size, also after one has been filled
  · have hin : r' ∈ l' := by
      rcases hpassed with ⟨-, rfl⟩ | ⟨pre, finished, post, rfl, -, hleft, -⟩
      · exact hr'
      · rw [hleft] at hr'
        exact List.perm_middle.symm.subset (List.mem_cons_of_mem _ hr')
    obtain ⟨r, hr, rfl | ⟨hsender', -, rfl⟩⟩ := answered_origin hl' r' hin
    · exact h r' hr hsender
    · refine .inr ?_
      show (filledSlots _ _).length = _
      rw [filledSlots, List.length_set, length_slotsFor rfl (h r hr hsender')]
      rfl
  · rcases hcalled with ⟨-, hcalled⟩ | ⟨finished, params, -, -, hcalled⟩
    · exact hcalled ▸ List.Subset.refl _
    · exact hcalled ▸ List.subset_append_left _ _
  · rintro finished rfl
    rcases hcalled with ⟨hnone, -⟩ | ⟨finished', params, hfinished, -, hcalled⟩
    · cases hnone
    · obtain rfl := Option.some.inj hfinished
      exact ⟨params, hcalled ▸ List.mem_append_right _ (List.mem_singleton_self _)⟩

/-- **A response of the server lowers the number of missing parameters**, if it is for
one of them, and never raises it. -/
theorem Leads.sends {w w' : World} {t : ℕ} {slots : List (Option ParamExtValue)}
    (h : Leads server t slots w) (hsized : Sized server w)
    (hlength : slots.length = server.paramCount.toNat) {i : ℕ} (hi : i < slots.length)
    (hw' : step w (server.sends (server.response i)) = .ok w') :
    (slots[i]? ≠ some none ∧ Leads server t slots w') ∨
      (slots[i]? = some none ∧ MissesLess server t (getMissingCount slots) w') := by
  have hcount : i < server.paramCount.toNat := hlength ▸ hi
  obtain ⟨w'', hw'', -, -, optFinished, hfound, hcalled⟩ := hsized.sends hcount
  obtain rfl := Except.ok.inj (hw''.symm.trans hw')
  obtain ⟨pre, r, post, hrunning, hpre, hsender, rfl, rfl⟩ := h
  have hvalid : ValidIndex (server.response i) := by
    rw [ValidIndex, UInt16.lt_iff_toNat_lt, response_index hcount]
    exact hcount
  have hslots : slotsFor (server.response i) r.payload = r.payload.serverParamSet := by
    apply if_neg
    intro hempty
    rw [List.isEmpty_iff.mp hempty] at hi
    exact Nat.not_lt_zero i hi
  rw [hrunning] at hfound
  rcases hslot : r.payload.serverParamSet[i]? with - | - | param
  · exact absurd hi (Nat.not_lt.mpr (List.getElem?_eq_none_iff.mp hslot))
  -- the parameter is missing: its slot is filled, and perhaps the get-all done
  · refine .inr ⟨rfl, ?_⟩
    have hfits : Fits (server.response i) r.payload := by
      rw [Fits, hslots, response_index hcount, hslot]
    have hfewer := getMissingCount_set hfits (server.response i)
    rw [hslots] at hfewer
    rw [findRemove_first_of_fits hpre hsender hvalid hfits post] at hfound
    split_ifs at hfound with hfull
    · obtain ⟨rfl, -⟩ := Prod.mk.inj (Except.ok.inj hfound)
      exact .inr (hcalled (withParamSet r (filledSlots (server.response i) r.payload)) rfl)
    · obtain ⟨⟨opt, left⟩, -, heq⟩ := bind_eq_ok_iff.mp hfound
      obtain ⟨-, hrunning'⟩ := Prod.mk.inj (Except.ok.inj heq)
      refine .inl ⟨_, ⟨pre, _, left, hrunning'.symm, hpre, hsender, rfl, rfl⟩, ?_, ?_⟩
      · show (filledSlots _ _).length = _
        rw [filledSlots, List.length_set, hslots, hlength]
      · show getMissingCount (filledSlots _ _) < _
        rw [filledSlots, hslots]
        exact Nat.lt_of_succ_le (Nat.le_of_eq hfewer)
  -- the parameter is known: nothing happens
  · refine .inl ⟨by simp, ?_⟩
    rw [findRemove_first_of_some hpre hsender hvalid
      (by rw [hslots, response_index hcount, hslot]) post] at hfound
    obtain ⟨-, hrunning'⟩ := Prod.mk.inj (Except.ok.inj hfound)
    exact ⟨pre, r, post, hrunning'.symm, hpre, hsender, rfl, rfl⟩

theorem MissesLess.sends {w w' : World} {t m : ℕ} (h : MissesLess server t m w)
    (hsized : Sized server w) {i : ℕ} (hi : i < server.paramCount.toNat)
    (hw' : step w (server.sends (server.response i)) = .ok w') : MissesLess server t m w' := by
  rcases h with ⟨slots, hleads, hlength, hless⟩ | ⟨params, hcalled⟩
  · rcases hleads.sends hsized hlength (hlength ▸ hi) hw' with ⟨-, hleads'⟩ | ⟨-, hless'⟩
    · exact .inl ⟨slots, hleads', hlength, hless⟩
    · rcases hless' with ⟨slots', hleads', hlength', hless'⟩ | hcalled
      · exact .inl ⟨slots', hleads', hlength', hless'.trans hless⟩
      · exact .inr hcalled
  · obtain ⟨w'', hw'', -, hsubset, -⟩ := hsized.sends hi
    obtain rfl := Except.ok.inj (hw''.symm.trans hw')
    exact .inr ⟨params, hsubset hcalled⟩

/-- The responses of the server for these parameters. -/
def burst (server : Server) (indices : List ℕ) : List Event :=
  indices.map fun i => server.sends (server.response i)

theorem run_burst_cons {w w₁ : World} {i : ℕ}
    (hw₁ : step w (server.sends (server.response i)) = .ok w₁) (indices : List ℕ) :
    run step w (burst server (i :: indices)) = run step w₁ (burst server indices) := by
  rw [burst, List.map_cons, run_cons, hw₁, ok_bind]
  rfl

theorem MissesLess.burst {w : World} {t m : ℕ} (h : MissesLess server t m w)
    (hsized : Sized server w) {indices : List ℕ}
    (hindices : ∀ i ∈ indices, i < server.paramCount.toNat) :
    ∃ w', run step w (burst server indices) = .ok w' ∧ MissesLess server t m w' := by
  induction indices generalizing w with
  | nil => exact ⟨w, rfl, h⟩
  | cons i indices ih =>
      obtain ⟨hi, hindices⟩ := List.forall_mem_cons.mp hindices
      obtain ⟨w₁, hw₁, hsized₁, -⟩ := hsized.sends hi
      rw [run_burst_cons hw₁]
      exact ih (h.sends hsized hi hw₁) hsized₁ hindices

/-- **Several responses**, one of which is for a parameter that is missing, leave fewer
missing. -/
theorem Leads.burst {w : World} {t : ℕ} {slots : List (Option ParamExtValue)}
    (h : Leads server t slots w) (hsized : Sized server w)
    (hlength : slots.length = server.paramCount.toNat) {indices : List ℕ}
    (hindices : ∀ i ∈ indices, i < server.paramCount.toNat)
    (hmissing : ∃ i ∈ indices, slots[i]? = some none) :
    ∃ w', run step w (burst server indices) = .ok w' ∧
      MissesLess server t (getMissingCount slots) w' := by
  induction indices generalizing w with
  | nil =>
      obtain ⟨i, hi, -⟩ := hmissing
      cases hi
  | cons i indices ih =>
      obtain ⟨hi, hindices⟩ := List.forall_mem_cons.mp hindices
      obtain ⟨w₁, hw₁, hsized₁, -⟩ := hsized.sends hi
      rw [run_burst_cons hw₁]
      rcases h.sends hsized hlength (hlength ▸ hi) hw₁ with ⟨hslot, hleads₁⟩ | ⟨-, hless⟩
      · apply ih hleads₁ hsized₁ hindices
        obtain ⟨i', hi', hslot'⟩ := hmissing
        rcases List.mem_cons.mp hi' with rfl | hi'
        · exact absurd hslot' hslot
        · exact ⟨i', hi', hslot'⟩
      · exact hless.burst hsized₁ hindices

/-- The parameters a retransmission asks for. -/
def asked (running : GetAll) : List ℕ :=
  if MostMissing running then List.range running.serverParamSet.length
  else List.range (min 10 running.serverParamSet.length)

theorem lt_of_mem_asked {running : GetAll} {i : ℕ} (h : i ∈ asked running) :
    i < running.serverParamSet.length := by
  rw [asked] at h
  split_ifs at h
  · exact List.mem_range.mp h
  · exact (List.mem_range.mp h).trans_le (Nat.min_le_right _ _)

/-- What the server answers. -/
theorem answers_eq {running : GetAll} (hsize : running.serverParamSet ≠ [])
    (hlength : running.serverParamSet.length = server.paramCount.toNat) :
    (nextMessageRunningGetAll running).flatMap server.answer =
      (asked running).map server.response := by
  rw [nextMessage_eq hsize, asked]
  split_ifs
  · rw [List.flatMap_singleton, Server.answer, hlength]
  · rw [List.flatMap_map, List.map_eq_flatMap]
    apply List.flatMap_congr
    intro i hi
    have hlt := List.mem_range.mp hi
    have hint := toInt_ofNat_of_lt_min hlt
    have hcount : i < server.paramCount.toNat := by omega
    simp only [Server.answer, hint]
    rw [if_pos (by omega), Int.toNat_natCast]

/-- Everything it asks for or the first ten: something of it is missing. -/
theorem exists_asked_missing {running : GetAll} (hsize : running.serverParamSet ≠ [])
    (hmissing : 0 < getMissingCount running.serverParamSet)
    (h : MostMissing running ∨ FirstMissing running) :
    ∃ i ∈ asked running, Missing running i := by
  by_cases hmost : MostMissing running
  · obtain ⟨i, hi⟩ := exists_missing hmissing
    obtain ⟨hlt, -⟩ := List.getElem?_eq_some_iff.mp hi
    exact ⟨i, by rw [asked, if_pos hmost]; exact List.mem_range.mpr hlt, hi⟩
  · have hpos : 0 < min 10 running.serverParamSet.length := by
      have hlength := List.length_pos_iff.mpr hsize
      omega
    refine ⟨0, ?_, h.resolve_left hmost 0 hpos⟩
    rw [asked, if_neg hmost]
    exact List.mem_range.mpr hpos

variable (server)

/-- The get-all behind `pre` is the first one for the server, and has a slot for each
of its parameters. -/
structure Serves (w : World) (pre : List (Job GetAll)) (running : Job GetAll) : Prop where
  forSender : ForSender server.sysid server.compid running.payload
  first : ∀ r ∈ pre, ¬ ForSender server.sysid server.compid r.payload
  length : running.payload.serverParamSet.length = server.paramCount.toNat
  sized : Sized server w

/-- The get-all behind `pre` is sent again, and the server answers all its messages. -/
def retransmission (pre : List (Job GetAll)) (running : Job GetAll) (now later : ℤ) : List Event :=
  .timeoutPass [(pre.length, now, later)] ::
    ((nextMessageRunningGetAll running.payload).flatMap server.answer).map server.sends

end

/-- **Retransmissions make progress** exactly if they ask for everything or the first
ten parameters are missing: then, and only then, they ask for missing parameters
only; and when the server answers, fewer are missing. -/
theorem retransmission_progress {w : World} {pre post : List (Job GetAll)} {running : Job GetAll}
    (hrunning : w.getAlls.running = pre ++ running :: post)
    (hsize : running.payload.serverParamSet ≠ [])
    (hmissing : 0 < getMissingCount running.payload.serverParamSet) :
    (AsksForMissing running.payload ↔
      MostMissing running.payload ∨ FirstMissing running.payload) ∧
    (MostMissing running.payload ∨ FirstMissing running.payload →
      ∀ server : Server, Serves server w pre running →
        ∀ now later, running.Due now → running.nTransmissions < running.nWanted →
          ∃ w', run step w (retransmission server pre running now later) = .ok w' ∧
            MissesLess server running.cb (getMissingCount running.payload.serverParamSet) w') := by
  refine ⟨asksForMissing_iff hsize hmissing, fun hcond server hserves now later hdue hmore => ?_⟩
  have hvisit : w.getAlls.visits protocol [(pre.length, now, later)] =
      ⟨pre ++ running.transmitted protocol later :: post,
        w.getAlls.sent ++ running.messages protocol, w.getAlls.called⟩ := by
    show w.getAlls.visitAt protocol pre.length now later = _
    obtain ⟨⟨l, sent, called⟩, nCalls⟩ := w
    obtain rfl : l = pre ++ running :: post := hrunning
    rw [visitAt_middle, if_pos hdue, if_pos hmore]
  have hw₁ : step w (.timeoutPass [(pre.length, now, later)]) =
      .ok ⟨⟨pre ++ running.transmitted protocol later :: post,
        w.getAlls.sent ++ running.messages protocol, w.getAlls.called⟩, w.nCalls⟩ := by
    rw [step, hvisit]
  rw [retransmission, run_cons, hw₁, ok_bind, answers_eq hsize hserves.length, List.map_map]
  have hleads : Leads server running.cb running.payload.serverParamSet
      ⟨⟨pre ++ running.transmitted protocol later :: post,
        w.getAlls.sent ++ running.messages protocol, w.getAlls.called⟩, w.nCalls⟩ :=
    ⟨pre, _, post, rfl, hserves.first, hserves.forSender, rfl, rfl⟩
  refine hleads.burst (fun r hr hsender => ?_) hserves.length
    (fun i hi => hserves.length ▸ lt_of_mem_asked hi) (exists_asked_missing hsize hmissing hcond)
  rcases List.mem_cons.mp (List.perm_middle.subset hr) with rfl | hother
  · exact .inr hserves.length
  · apply hserves.sized r _ hsender
    rw [hrunning]
    exact List.perm_middle.symm.subset (List.mem_cons_of_mem _ hother)

/-- The air unit, with this many parameters. -/
def air (paramCount : UInt16) : Server :=
  ⟨OHD_SYS_ID_AIR, MAV_COMP_ID_ONBOARD_COMPUTER, paramCount, fun _ =>
    (.replicate 16 0, .replicate 128 0, 0)⟩

/-- One of four parameters has come. -/
def oneOfFour : Job GetAll :=
  ⟨⟨⟨OHD_SYS_ID_AIR, MAV_COMP_ID_ONBOARD_COMPUTER⟩,
    [some ((air 4).response 0), none, none, none]⟩, 0, 10, milliseconds 500, 1, 0⟩

theorem retransmission_progress_oneOfFour :
    ∃ w', run step ⟨⟨[oneOfFour], [], []⟩, 1⟩
        (retransmission (air 4) [] oneOfFour (milliseconds 600) (milliseconds 600)) = .ok w' ∧
      MissesLess (air 4) 0 3 w' := by
  have hrunning : [oneOfFour] = [] ++ oneOfFour :: [] := rfl
  refine (retransmission_progress (w := ⟨⟨[oneOfFour], [], []⟩, 1⟩) hrunning (List.cons_ne_nil _ _)
    (by decide)).2 (.inl (by decide)) (air 4) ?_ _ _ (by decide) (by decide)
  refine ⟨⟨rfl, rfl⟩, nofun, rfl, fun r hr _ => ?_⟩
  obtain rfl := List.mem_singleton.mp hr
  exact .inr rfl

/-- The first ten of eleven parameters are received: the last one, which is missing, is
not asked for. -/
theorem last_not_asked_for :
    ∃ w running, run step World.init (fetchAir :: (List.range 10).map fun i =>
        airValue 11 (UInt16.ofNat i)) = .ok w ∧
      running ∈ w.getAlls.running ∧ running.payload.serverParamSet ≠ [] ∧
        0 < getMissingCount running.payload.serverParamSet ∧ ¬ AsksForMissing running.payload := by
  refine ⟨_, _, rfl, List.mem_singleton_self _, List.cons_ne_nil _ _, by decide, ?_⟩
  rw [asksForMissing_iff (List.cons_ne_nil _ _) (by decide), not_or]
  refine ⟨by decide, fun hfirst => ?_⟩
  cases hfirst 0 (by decide)

end GetAlls

end QOpenHD
