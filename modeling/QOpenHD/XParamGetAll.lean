/-
QOpenHD/XParamGetAll.lean

The get-all requests of `XParam` (`xparam.h`, `xparam.cpp`): fetching all
extended parameters of a server over a lossy link.

They are a `RetryQueue` of their own, `m_running_get_all`.  The payload of a
request is its command and `server_param_set`, a vector with a slot for each
parameter of the server; it is empty until the first response says how many
there are (`param_count`).  Every response is handed to the requests for its
server, one after another, until one of them has the parameter already or is
completed by it.

* **`paramSlots_iff`** — responses stay inside the slots, and the slots keep
  their number, exactly as long as every request a response gets to has a slot
  for it.
-/
import QOpenHD.Mavlink
import QOpenHD.RetryQueue
import Mathlib.Data.List.Forall2

namespace QOpenHD

open Checked RetryQueue

/-! ### Slots -/

section Slots

variable {α : Type}

def getMissingCount (serverParamSet : List (Option α)) : ℕ :=
  serverParamSet.countP fun param => param.isNone

/-- Filling an empty slot. -/
theorem getMissingCount_set {set : List (Option α)} {i : ℕ} (h : set[i]? = some none) (a : α) :
    getMissingCount (set.set i (some a)) + 1 = getMissingCount set := by
  induction set generalizing i with
  | nil => cases h
  | cons slot set ih =>
      rcases i with - | i
      · obtain rfl : slot = none := Option.some.inj h
        simp [getMissingCount]
      · have htail := ih (i := i) h
        simp only [getMissingCount, List.set_cons_succ, List.countP_cons] at htail ⊢
        omega

/-- The parameters of a set that has them all. -/
def validParamSet : List (Option α) → Exec (List α)
  | [] => .ok []
  | some param :: rest => do
    let params ← validParamSet rest
    pure (param :: params)
  | none :: _ => .error .assertFailed

/-- The parameters of a set are those in its slots. -/
theorem eq_map_some_of_validParamSet {set : List (Option α)} {params : List α}
    (h : validParamSet set = .ok params) : set = params.map some := by
  induction set generalizing params with
  | nil =>
      obtain rfl := Except.ok.inj h
      rfl
  | cons slot set ih =>
      rcases slot with - | param
      · cases h
      · obtain ⟨rest, hrest, h⟩ := bind_eq_ok_iff.mp h
        obtain rfl := Except.ok.inj h
        rw [ih hrest, List.map_cons]

theorem validParamSet_of_full {set : List (Option α)} (h : getMissingCount set = 0) :
    ∃ params, validParamSet set = .ok params ∧ params.length = set.length := by
  induction set with
  | nil => exact ⟨[], rfl, rfl⟩
  | cons slot set ih =>
      rcases slot with - | param
      · simp [getMissingCount] at h
      · obtain ⟨params, hparams, hlength⟩ := ih (by simpa [getMissingCount] using h)
        exact ⟨param :: params, by rw [validParamSet, hparams]; rfl, by simp [hlength]⟩

end Slots

/-! ### Requests -/

/-- What a `RunningParamCmdGetAll` asks for and has got. -/
structure GetAll where
  baseCmd : ParamExtRequestList
  serverParamSet : List (Option ParamExtValue)

/-- What is sent for a get-all. -/
inductive ParamExtRequest
  | list (cmd : ParamExtRequestList)
  | read (cmd : ParamExtRequestRead)

structure GetAllParamResult where
  success : Bool
  paramSet : List ParamExtValue

/-- `m_running_get_all`, the messages sent and the callbacks called. -/
abbrev GetAlls := Queue GetAll ParamExtRequest GetAllParamResult

/-- The messages of `send_next_message_running_get_all`. -/
def nextMessageRunningGetAll (runningCmd : GetAll) : List ParamExtRequest :=
  if runningCmd.serverParamSet.length = 0 then [.list runningCmd.baseCmd]
  else
    let nMissing := getMissingCount runningCmd.serverParamSet
    if nMissing > 2 ∧ nMissing ≥ runningCmd.serverParamSet.length / 2 then
      [.list runningCmd.baseCmd]
    else
      (List.range (min 10 runningCmd.serverParamSet.length)).map fun i =>
        .read {
          paramIndex := Int16.ofNat i
          targetSystem := runningCmd.baseCmd.targetSystem
          targetComponent := runningCmd.baseCmd.targetComponent }

namespace GetAlls

/-- Transmissions leave a get-all as it is. -/
def protocol : Protocol GetAll ParamExtRequest GetAllParamResult where
  emit := nextMessageRunningGetAll
  next runningCmd _ := runningCmd
  expired _ := { success := false, paramSet := [] }

def tryGetParamAllAsync (s : GetAlls) (cmd : ParamExtRequestList) (resultCb : ℕ) (now : ℤ) :
    GetAlls :=
  let running : Job GetAll :=
    { payload := { baseCmd := cmd, serverParamSet := [] }
      cb := resultCb
      nWanted := 10
      retransmitDelay := milliseconds 500
      nTransmissions := 0
      lastTransmission := now }
  s.enqueue protocol running now

def checkTimeoutParamGetAll (clock : ℕ → ℤ) (s : GetAlls) : Exec GetAlls := pass protocol clock s

/-- The loop of `check_timeout_param_get_all`, when it comes to an end, is a
series of visits. -/
theorem checkTimeoutParamGetAll_eq_visits {clock : ℕ → ℤ} {s s' : GetAlls}
    (h : s.checkTimeoutParamGetAll clock = .ok s') : ∃ vs, s' = s.visits protocol vs :=
  pass_eq_visits protocol h

end GetAlls

/-! ### Responses -/

/-- `server_param_set` with the response in its slot, or nothing if the slot has
one already. -/
def storeResponse (response : ParamExtValue) (serverParamSet : List (Option ParamExtValue)) :
    Exec (Option (List (Option ParamExtValue))) :=
  if serverParamSet.isEmpty then do
    -- the size is not yet known
    let resized := List.replicate response.paramCount.toNat none
    let stored ← store resized response.paramIndex.toNat (some response)
    pure (some stored)
  else do
    match ← load serverParamSet response.paramIndex.toNat with
    | some _ => pure none
    | none => do
      let stored ← store serverParamSet response.paramIndex.toNat (some response)
      pure (some stored)

/-- A running get-all with another `server_param_set`. -/
def withParamSet (running : Job GetAll) (stored : List (Option ParamExtValue)) : Job GetAll :=
  { running with payload := { running.payload with serverParamSet := stored } }

section

variable (response : ParamExtValue) (senderSysid senderCompid : UInt8)

/-- The get-all is for the server the response comes from. -/
def ForSender (running : GetAll) : Prop :=
  running.baseCmd.targetSystem = senderSysid ∧ running.baseCmd.targetComponent = senderCompid

instance (running : GetAll) : Decidable (ForSender senderSysid senderCompid running) :=
  inferInstanceAs (Decidable (_ ∧ _))

/-- `find_remove_running_command_get_all_threadsafe`: the get-all that is
completed, and those that are left. -/
def findRemoveRunningCommandGetAll :
    List (Job GetAll) → Exec (Option (Job GetAll) × List (Job GetAll))
  | [] => .ok (none, [])
  | running :: rest =>
    if ForSender senderSysid senderCompid running.payload then
      if response.paramCount ≤ 0 then .ok (none, running :: rest)
      else if response.paramIndex ≥ response.paramCount then .ok (none, running :: rest)
      else do
        match ← storeResponse response running.payload.serverParamSet with
        | none => pure (none, running :: rest)
        | some stored =>
          if getMissingCount stored = 0 then pure (some (withParamSet running stored), rest)
          else do
            let (optFinished, left) ← findRemoveRunningCommandGetAll rest
            pure (optFinished, withParamSet running stored :: left)
    else do
      let (optFinished, left) ← findRemoveRunningCommandGetAll rest
      pure (optFinished, running :: left)

def GetAlls.handleParamExtValue (s : GetAlls) : Exec (Bool × GetAlls) := do
  let (optFinished, left) ←
    findRemoveRunningCommandGetAll response senderSysid senderCompid s.running
  match optFinished with
  | some finished => do
    let params ← validParamSet finished.payload.serverParamSet
    let result : GetAllParamResult := { success := true, paramSet := params }
    pure (true, { s with running := left, called := s.called ++ [(finished.cb, result)] })
  | none => pure (true, { s with running := left })

end

/-! ### One response and one get-all -/

section

variable {response : ParamExtValue} {senderSysid senderCompid : UInt8}

/-- The slots a response finds: if there are none yet, as many as it says there
are parameters. -/
def slotsFor (response : ParamExtValue) (running : GetAll) : List (Option ParamExtValue) :=
  if running.serverParamSet.isEmpty then List.replicate response.paramCount.toNat none
  else running.serverParamSet

/-- The response is for one of the parameters it counts. -/
def ValidIndex (response : ParamExtValue) : Prop := response.paramIndex < response.paramCount

instance (response : ParamExtValue) : Decidable (ValidIndex response) :=
  inferInstanceAs (Decidable (_ < _))

/-- What storing a response does depends on the slot it is for. -/
theorem storeResponse_eq (running : GetAll) (hvalid : ValidIndex response) :
    storeResponse response running.serverParamSet =
      match (slotsFor response running)[response.paramIndex.toNat]? with
      | none => .error .outOfBounds
      | some (some _) => .ok none
      | some none =>
        .ok (some ((slotsFor response running).set response.paramIndex.toNat (some response))) := by
  unfold storeResponse slotsFor
  by_cases hempty : running.serverParamSet.isEmpty = true
  · have hlt : response.paramIndex.toNat < (List.replicate response.paramCount.toNat
        (none : Option ParamExtValue)).length := by
      rw [List.length_replicate]
      exact UInt16.lt_iff_toNat_lt.mp hvalid
    rw [if_pos hempty, if_pos hempty, List.getElem?_eq_getElem hlt, List.getElem_replicate]
    simp only [store_of_lt hlt]
    rfl
  · rw [if_neg hempty, if_neg hempty, load]
    rcases hslot : running.serverParamSet[response.paramIndex.toNat]? with - | - | param
    · rfl
    · obtain ⟨hlt, -⟩ := List.getElem?_eq_some_iff.mp hslot
      simp only [ok_bind, store_of_lt hlt]
      rfl
    · rfl

/-- The slots after the response was stored. -/
def filledSlots (response : ParamExtValue) (running : GetAll) : List (Option ParamExtValue) :=
  (slotsFor response running).set response.paramIndex.toNat (some response)

/-- The response has an empty slot. -/
def Fits (response : ParamExtValue) (running : GetAll) : Prop :=
  (slotsFor response running)[response.paramIndex.toNat]? = some none

theorem missing_filledSlots {running : GetAll} (h : Fits response running) :
    getMissingCount (filledSlots response running) = 0 ↔
      getMissingCount (slotsFor response running) = 1 := by
  have hone := getMissingCount_set h response
  rw [filledSlots]
  omega

variable (response senderSysid senderCompid)

/-- The loop goes on behind this get-all: it is for another server, or the
response fits and it still misses a parameter. -/
def GoesOn (running : GetAll) : Prop :=
  ForSender senderSysid senderCompid running →
    Fits response running ∧ getMissingCount (slotsFor response running) ≠ 1

/-- **Every get-all for its sender that a response gets to has a slot for it.** -/
def InSlots (l : List (Job GetAll)) : Prop :=
  ValidIndex response →
    ∀ pre running post, l = pre ++ running :: post →
      (∀ r ∈ pre, GoesOn response senderSysid senderCompid r.payload) →
      ForSender senderSysid senderCompid running.payload →
        response.paramIndex.toNat < (slotsFor response running.payload).length

variable {response senderSysid senderCompid}

theorem inSlots_nil : InSlots response senderSysid senderCompid [] := by
  intro _ pre running post hl
  simp at hl

theorem inSlots_cons_iff (hvalid : ValidIndex response) (running : Job GetAll)
    (rest : List (Job GetAll)) :
    InSlots response senderSysid senderCompid (running :: rest) ↔
      (ForSender senderSysid senderCompid running.payload →
        response.paramIndex.toNat < (slotsFor response running.payload).length) ∧
      (GoesOn response senderSysid senderCompid running.payload →
        InSlots response senderSysid senderCompid rest) := by
  constructor
  · intro h
    refine ⟨h hvalid [] running rest rfl nofun, fun hgo _ pre r post hl hpre => ?_⟩
    apply h hvalid (running :: pre) r post (by rw [hl]; rfl)
    exact List.forall_mem_cons.mpr ⟨hgo, hpre⟩
  · rintro ⟨hfirst, hrest⟩ - pre r post hl hpre
    rcases pre with - | ⟨r₀, pre⟩
    · obtain ⟨rfl, rfl⟩ := List.cons.inj hl
      exact hfirst
    · obtain ⟨rfl, rfl⟩ := List.cons.inj hl
      obtain ⟨hgo, hpre⟩ := List.forall_mem_cons.mp hpre
      exact hrest hgo hvalid pre r post rfl hpre

/-! ### The loop -/

theorem findRemove_cons_other {running : Job GetAll}
    (hother : ¬ ForSender senderSysid senderCompid running.payload) (rest : List (Job GetAll)) :
    findRemoveRunningCommandGetAll response senderSysid senderCompid (running :: rest) =
      findRemoveRunningCommandGetAll response senderSysid senderCompid rest >>= fun found =>
        pure (found.1, running :: found.2) := by
  rw [findRemoveRunningCommandGetAll, if_neg hother]

theorem findRemove_cons_invalid {running : Job GetAll}
    (hsender : ForSender senderSysid senderCompid running.payload) (hvalid : ¬ ValidIndex response)
    (rest : List (Job GetAll)) :
    findRemoveRunningCommandGetAll response senderSysid senderCompid (running :: rest) =
      .ok (none, running :: rest) := by
  rw [findRemoveRunningCommandGetAll, if_pos hsender, if_pos (UInt16.not_lt.mp hvalid), ite_self]

theorem findRemove_cons_valid {running : Job GetAll}
    (hsender : ForSender senderSysid senderCompid running.payload) (hvalid : ValidIndex response)
    (rest : List (Job GetAll)) :
    findRemoveRunningCommandGetAll response senderSysid senderCompid (running :: rest) =
      match (slotsFor response running.payload)[response.paramIndex.toNat]? with
      | none => .error .outOfBounds
      | some (some _) => .ok (none, running :: rest)
      | some none =>
        let stored := filledSlots response running.payload
        if getMissingCount stored = 0 then .ok (some (withParamSet running stored), rest)
        else
          findRemoveRunningCommandGetAll response senderSysid senderCompid rest >>= fun found =>
            pure (found.1, withParamSet running stored :: found.2) := by
  have hcount : ¬ response.paramCount ≤ 0 := fun hzero => by
    have hlt := UInt16.lt_of_lt_of_le hvalid hzero
    exact absurd hlt (UInt16.not_lt_zero)
  rw [findRemoveRunningCommandGetAll, if_pos hsender, if_neg hcount,
    if_neg (UInt16.not_le.mpr hvalid), storeResponse_eq running.payload hvalid]
  rcases (slotsFor response running.payload)[response.paramIndex.toNat]? with - | - | param
  · rfl
  · rfl
  · rfl

/-- **The loop stays inside the slots exactly if every get-all it gets to has
one.** -/
theorem safe_findRemove_iff (l : List (Job GetAll)) :
    Safe (findRemoveRunningCommandGetAll response senderSysid senderCompid l) ↔
      InSlots response senderSysid senderCompid l := by
  induction l with
  | nil => exact iff_of_true (safe_ok _) inSlots_nil
  | cons running rest ih =>
      -- behind a get-all that stays, only the rest of the loop can go wrong
      have hrest : ∀ running', Safe (findRemoveRunningCommandGetAll response senderSysid
          senderCompid rest >>= fun found => pure (found.1, running' :: found.2)) ↔
          InSlots response senderSysid senderCompid rest := fun running' => by
        rw [safe_bind_pure_iff, ih]
      by_cases hvalid : ValidIndex response
      · rw [inSlots_cons_iff hvalid]
        by_cases hsender : ForSender senderSysid senderCompid running.payload
        · rw [findRemove_cons_valid hsender hvalid]
          simp only [GoesOn, hsender, forall_const]
          rcases hslot : (slotsFor response running.payload)[response.paramIndex.toNat]? with
            - | slot
          · apply iff_of_false (not_safe_error _)
            intro h
            exact absurd (List.getElem?_eq_none_iff.mp hslot) (not_le.mpr h.1)
          obtain ⟨hlt, -⟩ := List.getElem?_eq_some_iff.mp hslot
          rcases slot with - | param
          · have hfits : Fits response running.payload := hslot
            simp only [hlt, hfits, true_and, ne_eq, ← missing_filledSlots hfits]
            split_ifs with hfull
            · exact iff_of_true (safe_ok _) fun hmore => absurd hfull hmore
            · rw [hrest]
              exact ⟨fun h _ => h, fun h => h hfull⟩
          · refine iff_of_true (safe_ok _) ⟨hlt, fun hgo => ?_⟩
            rw [Fits, hslot] at hgo
            cases Option.some.inj hgo.1
        · rw [findRemove_cons_other hsender, hrest]
          simp [GoesOn, hsender]
      · refine iff_of_true ?_ fun h => absurd h hvalid
        by_cases hsender : ForSender senderSysid senderCompid running.payload
        · rw [findRemove_cons_invalid hsender hvalid]
          exact safe_ok _
        · rw [findRemove_cons_other hsender, hrest]
          exact fun h => absurd h hvalid

variable (response senderSysid senderCompid)

/-- The get-all as it was, or with the response in its slot. -/
def Answered (running running' : Job GetAll) : Prop :=
  running' = running ∨
    ForSender senderSysid senderCompid running.payload ∧ ValidIndex response ∧
      running' = withParamSet running (filledSlots response running.payload)

/-- Some get-alls have taken the response, and then one of them that is complete
may have left. -/
def Passed (l : List (Job GetAll)) (optFinished : Option (Job GetAll)) (left : List (Job GetAll)) :
    Prop :=
  ∃ l', List.Forall₂ (Answered response senderSysid senderCompid) l l' ∧
    ((optFinished = none ∧ left = l') ∨
      ∃ pre finished post, l' = pre ++ finished :: post ∧ optFinished = some finished ∧
        left = pre ++ post ∧ getMissingCount finished.payload.serverParamSet = 0)

variable {response senderSysid senderCompid}

theorem answered_refl (l : List (Job GetAll)) :
    List.Forall₂ (Answered response senderSysid senderCompid) l l :=
  List.forall₂_same.mpr fun _ _ => .inl rfl

/-- A get-all in front that stays. -/
theorem Passed.cons {running running' : Job GetAll} {rest left : List (Job GetAll)}
    {optFinished : Option (Job GetAll)}
    (hrunning : Answered response senderSysid senderCompid running running')
    (h : Passed response senderSysid senderCompid rest optFinished left) :
    Passed response senderSysid senderCompid (running :: rest) optFinished (running' :: left) := by
  obtain ⟨l', hl', ⟨rfl, rfl⟩ | ⟨pre, finished, post, rfl, rfl, rfl, hfull⟩⟩ := h
  · exact ⟨running' :: _, .cons hrunning hl', .inl ⟨rfl, rfl⟩⟩
  · exact ⟨running' :: _, .cons hrunning hl',
      .inr ⟨running' :: pre, finished, post, rfl, rfl, rfl, hfull⟩⟩

/-- What the loop does at one get-all: it stops there, or removes it, or goes on
behind it. -/
theorem findRemove_cons_cases {running : Job GetAll} {rest left : List (Job GetAll)}
    {optFinished : Option (Job GetAll)}
    (h : findRemoveRunningCommandGetAll response senderSysid senderCompid (running :: rest) =
      .ok (optFinished, left)) :
    (ForSender senderSysid senderCompid running.payload ∧ optFinished = none ∧
        left = running :: rest) ∨
      (ForSender senderSysid senderCompid running.payload ∧ ValidIndex response ∧
        optFinished = some (withParamSet running (filledSlots response running.payload)) ∧
        left = rest ∧ getMissingCount (filledSlots response running.payload) = 0) ∨
      ∃ running' left', Answered response senderSysid senderCompid running running' ∧
        findRemoveRunningCommandGetAll response senderSysid senderCompid rest =
          .ok (optFinished, left') ∧ left = running' :: left' := by
  -- when the loop goes on, the rest is its own affair
  have hon : ∀ running', Answered response senderSysid senderCompid running running' →
      (findRemoveRunningCommandGetAll response senderSysid senderCompid rest >>= fun found =>
        pure (found.1, running' :: found.2)) = .ok (optFinished, left) →
      ∃ running' left', Answered response senderSysid senderCompid running running' ∧
        findRemoveRunningCommandGetAll response senderSysid senderCompid rest =
          .ok (optFinished, left') ∧ left = running' :: left' := by
    intro running' hrunning' hfound
    obtain ⟨⟨found, left'⟩, hrest, heq⟩ := bind_eq_ok_iff.mp hfound
    obtain ⟨rfl, rfl⟩ := Prod.mk.inj (Except.ok.inj heq)
    exact ⟨running', left', hrunning', hrest, rfl⟩
  by_cases hsender : ForSender senderSysid senderCompid running.payload
  · by_cases hvalid : ValidIndex response
    · rw [findRemove_cons_valid hsender hvalid] at h
      rcases hslot : (slotsFor response running.payload)[response.paramIndex.toNat]? with
        - | - | param
      · rw [hslot] at h
        cases h
      -- the slot is empty: it is filled, and the last one completes
      · rw [hslot] at h
        simp only at h
        split_ifs at h with hfull
        · obtain ⟨rfl, rfl⟩ := Prod.mk.inj (Except.ok.inj h)
          exact .inr (.inl ⟨hsender, hvalid, rfl, rfl, hfull⟩)
        · exact .inr (.inr (hon _ (.inr ⟨hsender, hvalid, rfl⟩) h))
      · rw [hslot] at h
        obtain ⟨rfl, rfl⟩ := Prod.mk.inj (Except.ok.inj h)
        exact .inl ⟨hsender, rfl, rfl⟩
    · rw [findRemove_cons_invalid hsender hvalid] at h
      obtain ⟨rfl, rfl⟩ := Prod.mk.inj (Except.ok.inj h)
      exact .inl ⟨hsender, rfl, rfl⟩
  · rw [findRemove_cons_other hsender] at h
    exact .inr (.inr (hon running (.inl rfl) h))

/-- **What the loop does.** -/
theorem findRemove_passed {l left : List (Job GetAll)} {optFinished : Option (Job GetAll)}
    (h : findRemoveRunningCommandGetAll response senderSysid senderCompid l =
      .ok (optFinished, left)) :
    Passed response senderSysid senderCompid l optFinished left := by
  induction l generalizing left optFinished with
  | nil =>
      obtain ⟨rfl, rfl⟩ := Prod.mk.inj (Except.ok.inj h)
      exact ⟨[], .nil, .inl ⟨rfl, rfl⟩⟩
  | cons running rest ih =>
      rcases findRemove_cons_cases h with ⟨-, rfl, rfl⟩ | ⟨hsender, hvalid, rfl, rfl, hfull⟩ |
        ⟨running', left', hrunning', hrest, rfl⟩
      · exact ⟨_, answered_refl _, .inl ⟨rfl, rfl⟩⟩
      · exact ⟨_, .cons (.inr ⟨hsender, hvalid, rfl⟩) (answered_refl _),
          .inr ⟨[], _, _, rfl, rfl, rfl, hfull⟩⟩
      · exact (ih hrest).cons hrunning'

theorem answered_origin {l l' : List (Job GetAll)}
    (h : List.Forall₂ (Answered response senderSysid senderCompid) l l') :
    ∀ running' ∈ l', ∃ running ∈ l,
      Answered response senderSysid senderCompid running running' := by
  induction h with
  | nil => nofun
  | @cons running running' l l' hrunning _ ih =>
      intro r' hr'
      rcases List.mem_cons.mp hr' with rfl | hr'
      · exact ⟨running, List.mem_cons_self, hrunning⟩
      · obtain ⟨r, hr, hrr'⟩ := ih r' hr'
        exact ⟨r, List.mem_cons_of_mem _ hr, hrr'⟩

theorem Answered.cb_eq {running running' : Job GetAll}
    (h : Answered response senderSysid senderCompid running running') :
    running'.cb = running.cb := by
  rcases h with rfl | ⟨-, -, rfl⟩
  · rfl
  · rfl

theorem answered_tickets {l l' : List (Job GetAll)}
    (h : List.Forall₂ (Answered response senderSysid senderCompid) l l') :
    l'.map Job.cb = l.map Job.cb := by
  induction h with
  | nil => rfl
  | cons hrunning _ ih => rw [List.map_cons, List.map_cons, ih, hrunning.cb_eq]

theorem handleParamExtValue_eq_ok {s s' : GetAlls} {consumed : Bool}
    (h : s.handleParamExtValue response senderSysid senderCompid = .ok (consumed, s')) :
    ∃ optFinished, findRemoveRunningCommandGetAll response senderSysid senderCompid s.running =
        .ok (optFinished, s'.running) ∧
      ((optFinished = none ∧ s'.called = s.called) ∨
        ∃ finished params, optFinished = some finished ∧
          validParamSet finished.payload.serverParamSet = .ok params ∧
          s'.called = s.called ++ [(finished.cb, ⟨true, params⟩)]) := by
  obtain ⟨⟨optFinished, left⟩, hfound, h⟩ := bind_eq_ok_iff.mp h
  refine ⟨optFinished, ?_⟩
  rcases optFinished with - | finished
  · obtain ⟨rfl, rfl⟩ := Prod.mk.inj (Except.ok.inj h)
    exact ⟨hfound, .inl ⟨rfl, rfl⟩⟩
  · obtain ⟨params, hparams, h⟩ := bind_eq_ok_iff.mp h
    obtain ⟨rfl, rfl⟩ := Prod.mk.inj (Except.ok.inj h)
    exact ⟨hfound, .inr ⟨finished, params, rfl, hparams, rfl⟩⟩

/-- What `handle_param_ext_value` does. -/
theorem handleParamExtValue_cases {s s' : GetAlls} {consumed : Bool}
    (h : s.handleParamExtValue response senderSysid senderCompid = .ok (consumed, s')) :
    ∃ l', List.Forall₂ (Answered response senderSysid senderCompid) s.running l' ∧
      ((s'.running = l' ∧ s'.called = s.called) ∨
        ∃ pre finished post params, l' = pre ++ finished :: post ∧
          params.length = finished.payload.serverParamSet.length ∧ s'.running = pre ++ post ∧
          s'.called = s.called ++ [(finished.cb, ⟨true, params⟩)]) := by
  obtain ⟨optFinished, hfound, hcalled⟩ := handleParamExtValue_eq_ok h
  obtain ⟨l', hl', ⟨rfl, hleft⟩ | ⟨pre, finished, post, rfl, rfl, hleft, hfull⟩⟩ :=
    findRemove_passed hfound
  · rcases hcalled with ⟨-, hcalled⟩ | ⟨finished, params, hfinished, -⟩
    · exact ⟨l', hl', .inl ⟨hleft, hcalled⟩⟩
    · cases hfinished
  · rcases hcalled with ⟨hnone, -⟩ | ⟨finished, params, hfinished, hparams, hcalled⟩
    · cases hnone
    · obtain rfl := Option.some.inj hfinished
      obtain ⟨params', hparams', hlength⟩ := validParamSet_of_full hfull
      obtain rfl := Except.ok.inj (hparams'.symm.trans hparams)
      exact ⟨_, hl', .inr ⟨pre, _, post, params', rfl, hlength, hleft, hcalled⟩⟩

/-- A get-all that leaves has all its parameters: the assertion holds. -/
theorem safe_handleParamExtValue_iff (s : GetAlls) :
    Safe (s.handleParamExtValue response senderSysid senderCompid) ↔
      InSlots response senderSysid senderCompid s.running := by
  rw [← safe_findRemove_iff, GetAlls.handleParamExtValue, safe_bind_iff]
  refine ⟨fun ⟨found, hfound, _⟩ => ⟨found, hfound⟩, fun ⟨found, hfound⟩ => ⟨found, hfound, ?_⟩⟩
  obtain ⟨optFinished, left⟩ := found
  obtain ⟨-, -, ⟨rfl, -⟩ | ⟨-, finished, -, -, rfl, -, hfull⟩⟩ := findRemove_passed hfound
  · exact safe_pure _
  · obtain ⟨params, hparams, -⟩ := validParamSet_of_full hfull
    simp only [hparams, ok_bind]
    exact safe_pure _

end

/-! ### The system -/

namespace GetAlls

/-- The get-alls and the number of calls of `try_get_param_all_async` so far. -/
structure World where
  getAlls : GetAlls
  nCalls : ℕ

def World.init : World := ⟨Queue.empty, 0⟩

inductive Event
  | tryGetParamAllAsync (cmd : ParamExtRequestList) (now : ℤ)
  | paramExtValue (response : ParamExtValue) (senderSysid senderCompid : UInt8)
  /-- The get-alls a timeout pass gets to, and the times it looks at them. -/
  | timeoutPass (vs : List (ℕ × ℤ × ℤ))

def step (w : World) : Event → Exec World
  | .tryGetParamAllAsync cmd now =>
    .ok ⟨w.getAlls.tryGetParamAllAsync cmd w.nCalls now, w.nCalls + 1⟩
  | .paramExtValue response senderSysid senderCompid => do
    let (_, getAlls) ← w.getAlls.handleParamExtValue response senderSysid senderCompid
    pure ⟨getAlls, w.nCalls⟩
  | .timeoutPass vs => .ok ⟨w.getAlls.visits protocol vs, w.nCalls⟩

/-- Every call has a ticket of its own. -/
structure Inv (w : World) : Prop where
  nodup : w.getAlls.tickets.Nodup
  lt : ∀ t ∈ w.getAlls.tickets, t < w.nCalls

theorem inv_init : Inv World.init := ⟨List.nodup_nil, nofun⟩

theorem handleParamExtValue_tickets {response : ParamExtValue} {senderSysid senderCompid : UInt8}
    {s s' : GetAlls} {consumed : Bool}
    (h : s.handleParamExtValue response senderSysid senderCompid = .ok (consumed, s')) :
    s'.tickets.Perm s.tickets := by
  obtain ⟨l', hl', hcases⟩ := handleParamExtValue_cases h
  rcases hcases with ⟨hrunning, hcalled⟩ |
    ⟨pre, finished, post, params, rfl, -, hrunning, hcalled⟩
  · rw [Queue.tickets, Queue.tickets, hrunning, hcalled, answered_tickets hl']
  · have hperm := tickets_finish pre post finished s.sent s.called ⟨true, params⟩
    rw [Queue.tickets, Queue.tickets, answered_tickets hl'] at hperm
    rwa [Queue.tickets, Queue.tickets, hrunning, hcalled]

theorem Inv.step {w w' : World} {e : Event} (hi : Inv w) (h : GetAlls.step w e = .ok w') :
    Inv w' := by
  -- but for a new call, which comes last, the tickets stay
  have hsame : ∀ {s : GetAlls}, s.tickets.Perm w.getAlls.tickets → Inv ⟨s, w.nCalls⟩ :=
    fun hperm => ⟨hperm.nodup_iff.mpr hi.nodup, fun t ht => hi.lt t (hperm.mem_iff.mp ht)⟩
  rcases e with ⟨cmd, now⟩ | ⟨response, senderSysid, senderCompid⟩ | vs
  · obtain rfl := Except.ok.inj h
    have hperm := tickets_enqueue (P := protocol) w.getAlls
      ⟨⟨cmd, []⟩, w.nCalls, 10, milliseconds 500, 0, now⟩ now
    refine ⟨hperm.nodup_iff.mpr (List.nodup_cons.mpr ⟨fun hin => ?_, hi.nodup⟩), fun t ht => ?_⟩
    · exact absurd (hi.lt _ hin) (Nat.lt_irrefl _)
    · rcases List.mem_cons.mp (hperm.mem_iff.mp ht) with rfl | hold
      · exact Nat.lt_succ_self _
      · exact (hi.lt t hold).trans (Nat.lt_succ_self _)
  · obtain ⟨⟨_, s'⟩, hhandle, hw'⟩ := bind_eq_ok_iff.mp h
    obtain rfl := Except.ok.inj hw'
    exact hsame (handleParamExtValue_tickets hhandle)
  · obtain rfl := Except.ok.inj h
    exact hsame (tickets_visits _ vs)

/-! ### The number of slots -/

/-- How many slots a get-all may have after an event: as many as before, or, if
there were none, as many as the response says that is accepted. -/
def SizeFixed (e : Event) (running : GetAll) (n : ℕ) : Prop :=
  n = running.serverParamSet.length ∨
    running.serverParamSet = [] ∧ ∃ response senderSysid senderCompid,
      e = .paramExtValue response senderSysid senderCompid ∧
        ForSender senderSysid senderCompid running ∧ ValidIndex response ∧
          n = response.paramCount.toNat

/-- Every get-all that was running keeps its number of slots, and is called back
with as many parameters. -/
def KeepsSizes (e : Event) (s s' : GetAlls) : Prop :=
  ∀ running ∈ s.running,
    (∀ running' ∈ s'.running, running'.cb = running.cb →
      SizeFixed e running.payload running'.payload.serverParamSet.length) ∧
    ∀ result, (running.cb, result) ∈ s'.called → result.success = true →
      SizeFixed e running.payload result.paramSet.length

/-- The event accesses no slot that is not there, and keeps the number of
slots. -/
def SlotSafe (w : World) (e : Event) : Prop :=
  Safe (step w e) ∧ ∀ w', step w e = .ok w' → KeepsSizes e w.getAlls w'.getAlls

/-- Every get-all a response gets to has a slot for it. -/
def HasSlots (w : World) : Event → Prop
  | .paramExtValue response senderSysid senderCompid =>
    InSlots response senderSysid senderCompid w.getAlls.running
  | _ => True

theorem sizeFixed_of_answered {response : ParamExtValue} {senderSysid senderCompid : UInt8}
    {running running' : Job GetAll}
    (h : Answered response senderSysid senderCompid running running') :
    SizeFixed (.paramExtValue response senderSysid senderCompid) running.payload
      running'.payload.serverParamSet.length := by
  rcases h with rfl | ⟨hsender, hvalid, rfl⟩
  · exact .inl rfl
  show SizeFixed _ _ (filledSlots response running.payload).length
  rw [filledSlots, List.length_set, slotsFor]
  split_ifs with hempty
  · exact .inr ⟨List.isEmpty_iff.mp hempty, response, senderSysid, senderCompid, rfl, hsender,
      hvalid, List.length_replicate⟩
  · exact .inl rfl

/-- Where the get-alls and the callbacks after an event come from. -/
theorem step_origin {w w' : World} {e : Event} (h : step w e = .ok w') :
    (∀ running' ∈ w'.getAlls.running, running'.cb = w.nCalls ∨
      ∃ running ∈ w.getAlls.running, running.cb = running'.cb ∧
        SizeFixed e running.payload running'.payload.serverParamSet.length) ∧
    ∀ c ∈ w'.getAlls.called, c ∈ w.getAlls.called ∨ c.2.success = false ∨
      ∃ running ∈ w.getAlls.running, running.cb = c.1 ∧
        SizeFixed e running.payload c.2.paramSet.length := by
  rcases e with ⟨cmd, now⟩ | ⟨response, senderSysid, senderCompid⟩ | vs
  · obtain rfl := Except.ok.inj h
    refine ⟨fun running' hrunning' => ?_, fun c hc => .inl hc⟩
    rcases List.mem_append.mp hrunning' with hold | hlast
    · exact .inr ⟨running', hold, rfl, .inl rfl⟩
    · obtain rfl := List.mem_singleton.mp hlast
      exact .inl rfl
  · obtain ⟨⟨_, s'⟩, hhandle, hw'⟩ := bind_eq_ok_iff.mp h
    obtain rfl := Except.ok.inj hw'
    obtain ⟨l', hl', hcases⟩ := handleParamExtValue_cases hhandle
    -- before one of them leaves, all are where they were
    have horigin : ∀ running' ∈ l', ∃ running ∈ w.getAlls.running, running.cb = running'.cb ∧
        SizeFixed (.paramExtValue response senderSysid senderCompid) running.payload
          running'.payload.serverParamSet.length := fun running' hrunning' => by
      obtain ⟨running, hrunning, hanswered⟩ := answered_origin hl' running' hrunning'
      exact ⟨running, hrunning, hanswered.cb_eq.symm, sizeFixed_of_answered hanswered⟩
    rcases hcases with ⟨hrunning, hcalled⟩ | ⟨pre, finished, post, params, rfl, hlength, hrunning,
      hcalled⟩
    · exact ⟨fun r hr => .inr (horigin r (hrunning ▸ hr)), fun c hc => .inl (hcalled ▸ hc)⟩
    · refine ⟨fun r hr => .inr (horigin r ?_), fun c hc => ?_⟩
      · rw [hrunning] at hr
        rcases List.mem_append.mp hr with hpre | hpost
        · simp [hpre]
        · simp [hpost]
      · rw [hcalled] at hc
        rcases List.mem_append.mp hc with hold | hlast
        · exact .inl hold
        · obtain rfl := List.mem_singleton.mp hlast
          obtain ⟨running, hmem, hcb, hsize⟩ := horigin finished (by simp)
          exact .inr (.inr ⟨running, hmem, hcb, hlength ▸ hsize⟩)
  · obtain rfl := Except.ok.inj h
    refine ⟨fun running' hrunning' => ?_, fun c hc => ?_⟩
    · obtain ⟨running, hrunning, hcb, hpayload⟩ :=
        running_visits (fun _ _ => rfl) w.getAlls vs running' hrunning'
      exact .inr ⟨running, hrunning, hcb, .inl (by rw [hpayload])⟩
    · rcases called_visits w.getAlls vs c hc with hold | ⟨n, hexpired⟩
      · exact .inl hold
      · exact .inr (.inl (by rw [hexpired]; rfl))

/-- An event that is handled keeps the number of slots. -/
theorem Inv.keepsSizes {w w' : World} {e : Event} (hi : Inv w) (h : GetAlls.step w e = .ok w') :
    KeepsSizes e w.getAlls w'.getAlls := by
  obtain ⟨hrunning, hcalled⟩ := step_origin h
  intro running hmem
  obtain ⟨hfresh, hunique⟩ := ticket_unique hi.nodup hmem
  refine ⟨fun running' hrunning' hcb => ?_, fun result hresult hsuccess => ?_⟩
  · rcases hrunning running' hrunning' with hnew | ⟨r, hr, hcb', hsize⟩
    · have hlt := hi.lt running.cb (List.mem_append_left _ (List.mem_map_of_mem hmem))
      omega
    · obtain rfl := hunique r hr (hcb'.trans hcb)
      exact hsize
  · rcases hcalled _ hresult with hold | hfailed | ⟨r, hr, hcb, hsize⟩
    · exact absurd (List.mem_map_of_mem hold) hfresh
    · rw [hsuccess] at hfailed
      cases hfailed
    · obtain rfl := hunique r hr hcb
      exact hsize

theorem safe_step_iff (w : World) (e : Event) : Safe (step w e) ↔ HasSlots w e := by
  rcases e with ⟨cmd, now⟩ | ⟨response, senderSysid, senderCompid⟩ | vs
  · exact iff_of_true (safe_ok _) trivial
  · rw [HasSlots, ← safe_handleParamExtValue_iff]
    exact safe_bind_pure_iff
  · exact iff_of_true (safe_ok _) trivial

/-- **Responses stay inside the slots, whose number stays as the first accepted
response has fixed it, exactly as long as every get-all a response gets to has a
slot for it.**  The index of a response is only compared with its own count. -/
theorem paramSlots_iff (events : List Event) :
    EveryStep SlotSafe step World.init events ↔ EveryStep HasSlots step World.init events := by
  apply everyStep_congr (fun _ _ _ hi hstep => hi.step hstep) ?_ inv_init
  intro w e hi
  rw [SlotSafe, safe_step_iff]
  exact ⟨And.left, fun h => ⟨h, fun _ hw' => hi.keepsSizes hw'⟩⟩

/-- A parameter of the air unit, as one of `paramCount`. -/
def airValue (paramCount paramIndex : UInt16) : Event :=
  .paramExtValue ⟨paramCount, paramIndex, .replicate 16 0, .replicate 128 0, 0⟩ OHD_SYS_ID_AIR
    MAV_COMP_ID_ONBOARD_COMPUTER

/-- After a response that counts 2 parameters, one that counts 10 gets at slot
number 5. -/
theorem param_out_of_bounds :
    ¬ EveryStep SlotSafe step World.init
      [.tryGetParamAllAsync ⟨OHD_SYS_ID_AIR, MAV_COMP_ID_ONBOARD_COMPUTER⟩ 0, airValue 2 0,
        airValue 10 5] := by
  rintro ⟨-, h⟩
  obtain ⟨-, h⟩ := h _ rfl
  obtain ⟨⟨hsafe, -⟩, -⟩ := h _ rfl
  exact not_safe_error .outOfBounds hsafe

end GetAlls

end QOpenHD
