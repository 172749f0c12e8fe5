/-
QOpenHD/FCMissionHandler.lean

Getting the mission from the flight controller (`fcmissionhandler.h`,
`fcmissionhandler.cpp`): the number of items is asked for, and then the items,
at most ten at a time, until none is missing.

The system (`World`, `step`) is the handler with the rows that the user sees and
the signals on their way to them.  Messages are processed on threads of the
telemetry, whose signals are queued.  The button of the user is on the thread
that the rows live in; a signal from there is handled at once, before those in
the queue.

* `Inv` — the items are a table of the items received since the list was rebuilt;
* **`store_and_rows_iff`** — in every run the items, the missing ones and the flag
  are as they should be, and when the signals have run there is a row for every
  item, exactly as long as no resync overtakes a queued resize that is not
  to zero.
-/
import QOpenHD.FCMavlinkMissionItemsModel
import QOpenHD.Latest
import QOpenHD.MavlinkTelemetry

namespace QOpenHD

open Checked Latest

/-! ### Messages -/

/-- `mavlink_mission_count_t` -/
structure MissionCount where
  count : UInt16
  missionType : UInt8

/-- `mavlink_mission_item_int_t`, as far as it is read; a `float` is its bits. -/
structure MissionItemInt where
  x : Int32
  y : Int32
  z : UInt32
  seq : UInt16
  frame : UInt8
  missionType : UInt8
  deriving DecidableEq

/-- `mavlink_mission_current_t` -/
structure MissionCurrent where
  seq : UInt16

def MAV_FRAME_GLOBAL : UInt8 := 0

def MAV_FRAME_GLOBAL_RELATIVE_ALT : UInt8 := 3

namespace MissionItemInt

/-- The place of an item. -/
def index (m : MissionItemInt) : ℕ := m.seq.toNat

/-- The frames that are accepted. -/
def frameAccepted (m : MissionItemInt) : Bool :=
  m.frame == MAV_FRAME_GLOBAL || m.frame == MAV_FRAME_GLOBAL_RELATIVE_ALT

/-- An item of the primary mission in one of these frames. -/
def accepted (m : MissionItemInt) : Bool :=
  m.missionType == MAV_MISSION_TYPE_MISSION && m.frameAccepted

end MissionItemInt

/-! ### The handler -/

/-- `MItem` -/
structure MItem (δ : Type) where
  missionIndex : ℕ
  latitude : δ
  longitude : δ
  altitudeMeter : δ
  updated : Bool

structure FCMissionHandler (δ : Type) where
  missionItems : List (MItem δ)
  missingItems : List ℕ
  hasMissionCount : Bool
  lastCountRequest : ℤ
  lastItemRequest : ℤ
  missionWaypointsCurrentTotal : ℤ
  missionWaypointsCurrent : ℤ
  missionCurrentType : String
  currentStatus : String

/-- Seconds on a clock that counts nanoseconds. -/
def seconds (n : ℕ) : ℤ := n * 1000000000

/-- `Telemetryutil::mavlink_mission_type_to_string` -/
def mavlinkMissionTypeToString (missionType : UInt8) : String :=
  if missionType = 0 then "Primary mission"
  else if missionType = 1 then "Fence"
  else if missionType = 2 then "Rally"
  else if missionType = 255 then "ALL"
  else "MT_Unknown"

namespace FCMissionHandler

open FCMavlinkMissionItemsModel

variable {δ : Type}

/-- When it is made. -/
def new (now : ℤ) : FCMissionHandler δ := ⟨[], [], false, now, now, -1, -1, "Unknown", "N/A"⟩

/-- What is missing among the items. -/
def missingOf (items : List (MItem δ)) : List ℕ :=
  (items.filter fun item => !item.updated).map MItem.missionIndex

def recalculateMissing (s : FCMissionHandler δ) : FCMissionHandler δ :=
  { s with missingItems := missingOf s.missionItems }

/-- What is sent; the time is looked at twice. -/
def optSendMessages (s : FCMissionHandler δ) (telemetry : MavlinkTelemetry) (now now' : ℤ) :
    FCMissionHandler δ × List MavlinkTelemetry.FCMessage :=
  if !s.hasMissionCount then
    if now - s.lastCountRequest > seconds 1 then
      ({ s with currentStatus := "Requesting", lastCountRequest := now' },
        [telemetry.message .requestMissionCount])
    else ({ s with currentStatus := "Requesting" }, [])
  else if s.missingItems.isEmpty then
    ({ s with currentStatus := "Done, total:" ++ toString s.missionItems.length }, [])
  else if now - s.lastItemRequest > seconds 1 then
    ({ s with
        lastItemRequest := now'
        currentStatus := "missing: " ++ toString s.missingItems.length },
      (s.missingItems.take 10).map fun missionToRequest : ℕ =>
        telemetry.message (.requestMission missionToRequest))
  else (s, [])

def resync (s : FCMissionHandler δ) : FCMissionHandler δ × List (Signal δ) :=
  ({ s with missionItems := [], missingItems := [], hasMissionCount := false }, [pInitialize 0])

variable (D : Doubles δ)

/-- An item before anything is known. -/
def emptyItem (i : ℕ) : MItem δ := ⟨i, D.zero, D.zero, D.zero, false⟩

def updateMissionCount (s : FCMissionHandler δ) (missionCount : MissionCount) :
    FCMissionHandler δ × List (Signal δ) :=
  if missionCount.missionType ≠ MAV_MISSION_TYPE_MISSION then (s, [])
  else
    let count := missionCount.count.toNat
    let s :=
      { s with
        missionWaypointsCurrentTotal := count
        missionCurrentType := mavlinkMissionTypeToString missionCount.missionType }
    if count = s.missionItems.length then
      (if count = 0 then { s with hasMissionCount := true } else s, [])
    else
      (recalculateMissing
        { s with
          missionItems := (List.range count).map (emptyItem D)
          hasMissionCount := true },
        [pInitialize count])

/-- The altitude of an item is not among what is copied. -/
def updateMission [DecidableEq δ] (s : FCMissionHandler δ) (missionItem : MissionItemInt) :
    FCMissionHandler δ × List (Signal δ) :=
  if missionItem.missionType ≠ MAV_MISSION_TYPE_MISSION then (s, [])
  else if !missionItem.frameAccepted then (s, [])
  else
    let lat := D.ofE7 missionItem.x
    let lon := D.ofE7 missionItem.y
    match s.missionItems[missionItem.index]? with
    | none => (s, [])
    | some item =>
      let updated := item.latitude ≠ lat ∨ item.longitude ≠ lon
      let item := { item with latitude := lat, longitude := lon, updated := true }
      (recalculateMissing
        { s with missionItems := s.missionItems.set missionItem.index item },
        if updated then
          [pUpdate item.missionIndex item.latitude item.longitude item.altitudeMeter]
        else [])

/-- The check that follows only logs. -/
def updateMissionCurrent (s : FCMissionHandler δ) (missionCurrent : MissionCurrent) :
    FCMissionHandler δ :=
  { s with missionWaypointsCurrent := missionCurrent.seq.toNat }

/-! ### The system -/

/-- The handler, the signals in the queue, the rows, and the accepted items that were processed
since the list was last rebuilt. -/
structure World (δ : Type) where
  handler : FCMissionHandler δ
  queue : List (Signal δ)
  rows : List (Element δ)
  received : List MissionItemInt

def World.init (now : ℤ) : World δ := ⟨new now, [], [], []⟩

inductive Event
  | missionCount (missionCount : MissionCount)
  | missionItemInt (missionItem : MissionItemInt)
  | missionCurrent (missionCurrent : MissionCurrent)
  | optSendMessages (telemetry : MavlinkTelemetry) (now now' : ℤ)
  /-- On the thread of the rows, or not. -/
  | resync (onUiThread : Bool)
  /-- A signal in the queue is handled. -/
  | deliver

def World.deliver (w : World δ) : World δ :=
  match w.queue with
  | [] => w
  | signal :: queue => { w with queue := queue, rows := handle D w.rows signal }

def step [DecidableEq δ] (w : World δ) : Event → Exec (World δ)
  | .missionCount missionCount =>
    pure
      { handler := (w.handler.updateMissionCount D missionCount).1
        queue := w.queue ++ (w.handler.updateMissionCount D missionCount).2
        rows := w.rows
        -- the list is rebuilt exactly if the rows are resized
        received :=
          if (w.handler.updateMissionCount D missionCount).2.isEmpty then w.received else [] }
  | .missionItemInt missionItem =>
    pure
      { handler := (w.handler.updateMission D missionItem).1
        queue := w.queue ++ (w.handler.updateMission D missionItem).2
        rows := w.rows
        received :=
          if missionItem.accepted then w.received ++ [missionItem] else w.received }
  | .missionCurrent missionCurrent =>
    pure { w with handler := w.handler.updateMissionCurrent missionCurrent }
  | .optSendMessages telemetry now now' =>
    pure { w with handler := (w.handler.optSendMessages telemetry now now').1 }
  | .resync onUiThread =>
    if onUiThread then
      pure ⟨w.handler.resync.1, w.queue, handleAll D w.rows w.handler.resync.2, []⟩
    else pure ⟨w.handler.resync.1, w.queue ++ w.handler.resync.2, w.rows, []⟩
  | .deliver => pure (w.deliver D)

/-- The rows when the signals have run. -/
def World.shown (w : World δ) : List (Element δ) := handleAll D w.rows w.queue

/-! ### The functions -/

variable {D}

/-- No step fails. -/
theorem step_total [DecidableEq δ] (D : Doubles δ) (w : World δ) (e : Event) :
    ∃ w', step D w e = .ok w' := by
  rcases e with missionCount | m | missionCurrent | ⟨telemetry, now, now'⟩ | onUiThread | -
  · exact ⟨_, rfl⟩
  · exact ⟨_, rfl⟩
  · exact ⟨_, rfl⟩
  · exact ⟨_, rfl⟩
  · cases onUiThread with
    | false => exact ⟨_, rfl⟩
    | true => exact ⟨_, rfl⟩
  · exact ⟨_, rfl⟩

/-- What a count does: nothing to the items, or the list is rebuilt. -/
theorem updateMissionCount_cases (D : Doubles δ) (s : FCMissionHandler δ)
    (missionCount : MissionCount) :
    (∃ s', s.updateMissionCount D missionCount = (s', []) ∧ s'.missionItems = s.missionItems ∧
        s'.missingItems = s.missingItems ∧
        (s'.hasMissionCount = false → s.hasMissionCount = false)) ∨
      ∃ s' count, s.updateMissionCount D missionCount = (s', [pInitialize count]) ∧
        s'.missionItems = (List.range count).map (emptyItem D) ∧
        s'.missingItems = missingOf s'.missionItems ∧ s'.hasMissionCount = true := by
  unfold updateMissionCount
  split
  · exact .inl ⟨s, rfl, rfl, rfl, id⟩
  simp only
  split
  · refine .inl ⟨_, rfl, ?_⟩
    split
    · exact ⟨rfl, rfl, nofun⟩
    · exact ⟨rfl, rfl, id⟩
  · exact .inr ⟨_, _, rfl, rfl, rfl, rfl⟩

/-- What an item does, if it is accepted and there is a place for it. -/
theorem updateMission_of_accepted [DecidableEq δ] {s : FCMissionHandler δ}
    {m : MissionItemInt} {item : MItem δ}
    (hacc : m.accepted = true) (hitem : s.missionItems[m.index]? = some item) :
    s.updateMission D m =
      (recalculateMissing
        { s with
          missionItems := s.missionItems.set m.index
            { item with latitude := D.ofE7 m.x, longitude := D.ofE7 m.y, updated := true } },
        if item.latitude = D.ofE7 m.x ∧ item.longitude = D.ofE7 m.y then []
        else [pUpdate item.missionIndex (D.ofE7 m.x) (D.ofE7 m.y) item.altitudeMeter]) := by
  unfold MissionItemInt.accepted at hacc
  obtain ⟨htype, hframe⟩ := Bool.and_eq_true_iff.mp hacc
  have hupdated : (item.latitude ≠ D.ofE7 m.x ∨ item.longitude ≠ D.ofE7 m.y) ↔
      ¬ (item.latitude = D.ofE7 m.x ∧ item.longitude = D.ofE7 m.y) := not_and_or.symm
  unfold updateMission
  rw [if_neg (not_not.mpr (beq_iff_eq.mp htype)), hframe, if_neg (by decide), hitem]
  simp only [hupdated, ite_not]

/-- Otherwise it does nothing. -/
theorem updateMission_of_not_accepted [DecidableEq δ] {s : FCMissionHandler δ}
    {m : MissionItemInt}
    (h : m.accepted = true → s.missionItems[m.index]? = none) :
    s.updateMission D m = (s, []) := by
  unfold updateMission
  split
  · rfl
  rename_i htype
  split
  · rfl
  rename_i hframe
  have hacc : m.accepted = true := by
    rw [MissionItemInt.accepted, Bool.and_eq_true, beq_iff_eq]
    exact ⟨not_not.mp htype, by simpa using hframe⟩
  rw [h hacc]

/-- No place is added or removed with an item. -/
theorem updateMission_frame [DecidableEq δ] (D : Doubles δ) (s : FCMissionHandler δ)
    (m : MissionItemInt) :
    lastResize (s.updateMission D m).2 = none ∧
      (s.updateMission D m).1.missionItems.length = s.missionItems.length ∧
      (s.updateMission D m).1.hasMissionCount = s.hasMissionCount := by
  rcases hitem : s.missionItems[m.index]? with - | item
  · rw [updateMission_of_not_accepted fun _ => hitem]
    exact ⟨rfl, rfl, rfl⟩
  rcases hacc : m.accepted with - | -
  · rw [updateMission_of_not_accepted (by simp [hacc])]
    exact ⟨rfl, rfl, rfl⟩
  · rw [updateMission_of_accepted hacc hitem]
    refine ⟨?_, List.length_set .., rfl⟩
    split <;> rfl

theorem optSendMessages_frame (s : FCMissionHandler δ) (telemetry : MavlinkTelemetry)
    (now now' : ℤ) :
    (s.optSendMessages telemetry now now').1.missionItems = s.missionItems ∧
      (s.optSendMessages telemetry now now').1.missingItems = s.missingItems ∧
      (s.optSendMessages telemetry now now').1.hasMissionCount = s.hasMissionCount := by
  unfold optSendMessages
  split_ifs <;> exact ⟨rfl, rfl, rfl⟩

/-- What will be shown does not depend on when the signals are handled. -/
theorem deliver_frame (D : Doubles δ) (w : World δ) :
    (w.deliver D).handler = w.handler ∧ (w.deliver D).received = w.received ∧
      (w.deliver D).shown D = w.shown D := by
  obtain ⟨handler, queue, rows, received⟩ := w
  cases queue with
  | nil => exact ⟨rfl, rfl, rfl⟩
  | cons signal queue => exact ⟨rfl, rfl, rfl⟩

/-! ### The store -/

/-- An item, as the latest one received for its place says. -/
def itemOf (D : Doubles δ) (i : ℕ) : Option MissionItemInt → MItem δ
  | none => emptyItem D i
  | some m => ⟨i, D.ofE7 m.x, D.ofE7 m.y, D.zero, true⟩

/-- What every step keeps. -/
structure Inv (D : Doubles δ) (w : World δ) : Prop where
  items : w.handler.missionItems =
    table MissionItemInt.index (itemOf D) w.handler.missionItems.length w.received
  missing : w.handler.missingItems = missingOf w.handler.missionItems
  noCount : w.handler.hasMissionCount = false → w.handler.missionItems = []

theorem inv_init (now : ℤ) : Inv D (World.init now) := ⟨rfl, rfl, fun _ => rfl⟩

theorem Inv.getElem?_eq_some_iff {w : World δ} (hi : Inv D w) {i : ℕ} {item : MItem δ} :
    w.handler.missionItems[i]? = some item ↔
      i < w.handler.missionItems.length ∧
        itemOf D i (latest MissionItemInt.index i w.received) = item := by
  rw [← getElem?_table_eq_some_iff, ← hi.items]

/-- Nothing is done to the items. -/
theorem Inv.of_frame {w w' : World δ} (hi : Inv D w)
    (hitems : w'.handler.missionItems = w.handler.missionItems)
    (hmissing : w'.handler.missingItems = w.handler.missingItems)
    (hcount : w'.handler.hasMissionCount = false → w.handler.hasMissionCount = false)
    (hreceived : w'.received = w.received) : Inv D w' where
  items := by
    rw [hitems, hreceived]
    exact hi.items
  missing := by
    rw [hmissing, hitems]
    exact hi.missing
  noCount hcount' := by
    rw [hitems]
    exact hi.noCount (hcount hcount')

/-- An item is processed. -/
theorem Inv.missionItemInt [DecidableEq δ] {w : World δ} (hi : Inv D w) (m : MissionItemInt) :
    Inv D ⟨(w.handler.updateMission D m).1, w.queue ++ (w.handler.updateMission D m).2, w.rows,
      if m.accepted then w.received ++ [m] else w.received⟩ := by
  rcases hacc : m.accepted with - | -
  · rw [updateMission_of_not_accepted (by simp [hacc])]
    exact hi.of_frame rfl rfl id rfl
  rcases hitem : w.handler.missionItems[m.index]? with - | item
  · -- there is no place for it
    rw [updateMission_of_not_accepted fun _ => hitem]
    refine ⟨?_, hi.missing, hi.noCount⟩
    show w.handler.missionItems = table _ _ w.handler.missionItems.length (w.received ++ [m])
    rw [table_append_singleton, ← hi.items,
      List.set_eq_of_length_le (List.getElem?_eq_none_iff.mp hitem)]
  · rw [updateMission_of_accepted hacc hitem]
    obtain ⟨hlt, rfl⟩ := hi.getElem?_eq_some_iff.mp hitem
    refine ⟨?_, rfl, ?_⟩
    · show w.handler.missionItems.set _ _ =
        table _ _ (w.handler.missionItems.set _ _).length (w.received ++ [m])
      rw [List.length_set, table_append_singleton, ← hi.items]
      congr 1
      rcases latest MissionItemInt.index m.index w.received with - | m' <;> rfl
    · intro hcount
      have hnil := hi.noCount hcount
      rw [hnil] at hlt
      exact absurd hlt (Nat.not_lt_zero _)

/-- A count is processed: an item that was not received is empty. -/
theorem Inv.missionCount {w : World δ} (hi : Inv D w) (missionCount : MissionCount) :
    Inv D ⟨(w.handler.updateMissionCount D missionCount).1,
      w.queue ++ (w.handler.updateMissionCount D missionCount).2, w.rows,
      if (w.handler.updateMissionCount D missionCount).2.isEmpty then w.received else []⟩ := by
  rcases updateMissionCount_cases D w.handler missionCount with
    ⟨s', heq, hitems, hmissing, hcount⟩ | ⟨s', count, heq, hitems, hmissing, hcount⟩
  · rw [heq]
    exact hi.of_frame hitems hmissing hcount rfl
  · rw [heq]
    refine ⟨?_, hmissing, ?_⟩
    · show s'.missionItems = table _ _ s'.missionItems.length []
      rw [hitems, List.length_map, List.length_range]
      rfl
    · intro hcount'
      have hfalse : s'.hasMissionCount = false := hcount'
      rw [hcount] at hfalse
      cases hfalse

/-- **Every step keeps it.** -/
theorem Inv.step [DecidableEq δ] {w w' : World δ} {e : Event} (hi : Inv D w)
    (h : FCMissionHandler.step D w e = .ok w') : Inv D w' := by
  rcases e with missionCount | m | missionCurrent | ⟨telemetry, now, now'⟩ | onUiThread | -
  · obtain rfl := Except.ok.inj h
    exact hi.missionCount missionCount
  · obtain rfl := Except.ok.inj h
    exact hi.missionItemInt m
  · obtain rfl := Except.ok.inj h
    exact hi.of_frame rfl rfl id rfl
  · obtain rfl := Except.ok.inj h
    obtain ⟨hitems, hmissing, hcount⟩ := optSendMessages_frame w.handler telemetry now now'
    exact hi.of_frame hitems hmissing hcount.symm.trans rfl
  · cases onUiThread with
    | false =>
        obtain rfl := Except.ok.inj h
        exact ⟨rfl, rfl, fun _ => rfl⟩
    | true =>
        obtain rfl := Except.ok.inj h
        exact ⟨rfl, rfl, fun _ => rfl⟩
  · obtain rfl := Except.ok.inj h
    obtain ⟨hhandler, hreceived, -⟩ := deliver_frame D w
    refine hi.of_frame ?_ ?_ ?_ hreceived
    · rw [hhandler]
    · rw [hhandler]
    · rw [hhandler]
      exact id

/-- What is asked of the items. -/
structure Store (w : World δ) : Prop where
  numbered : ∀ (i : ℕ) (item : MItem δ), w.handler.missionItems[i]? = some item →
    item.missionIndex = i
  updated : ∀ (i : ℕ) (item : MItem δ), w.handler.missionItems[i]? = some item →
    (item.updated = true ↔ ∃ m ∈ w.received, m.index = i)
  ascending : w.handler.missingItems.Pairwise (· < ·)
  missing : ∀ i, i ∈ w.handler.missingItems ↔
    ∃ item, w.handler.missionItems[i]? = some item ∧ item.updated = false
  noCount : w.handler.hasMissionCount = false →
    w.handler.missionItems = [] ∧ w.handler.missingItems = []

theorem missionIndex_itemOf (i : ℕ) (m : Option MissionItemInt) :
    (itemOf D i m).missionIndex = i := by
  rcases m with - | m <;> rfl

theorem updated_itemOf (i : ℕ) (m : Option MissionItemInt) :
    (itemOf D i m).updated = m.isSome := by
  rcases m with - | m <;> rfl

/-- What is missing in a table. -/
theorem missingOf_table (D : Doubles δ) (n : ℕ) (received : List MissionItemInt) :
    missingOf (table MissionItemInt.index (itemOf D) n received) =
      (List.range n).filter fun i => !(latest MissionItemInt.index i received).isSome := by
  unfold missingOf table
  rw [List.filter_map, List.map_map]
  have hid : (MItem.missionIndex ∘ fun k => itemOf D k (latest MissionItemInt.index k received)) =
      id := funext fun k => missionIndex_itemOf k _
  rw [hid, List.map_id]
  congr 1
  funext k
  show (!(itemOf D k _).updated) = _
  rw [updated_itemOf]

theorem Inv.missingItems_eq {w : World δ} (hi : Inv D w) :
    w.handler.missingItems = (List.range w.handler.missionItems.length).filter fun i =>
      !(latest MissionItemInt.index i w.received).isSome := by
  rw [hi.missing, ← missingOf_table D, ← hi.items]

theorem Inv.store {w : World δ} (hi : Inv D w) : Store w where
  numbered i item hitem := by
    obtain ⟨-, rfl⟩ := hi.getElem?_eq_some_iff.mp hitem
    exact missionIndex_itemOf i _
  updated i item hitem := by
    obtain ⟨-, rfl⟩ := hi.getElem?_eq_some_iff.mp hitem
    rw [updated_itemOf, isSome_latest_iff]
  ascending := by
    rw [hi.missingItems_eq]
    exact List.pairwise_lt_range.filter _
  missing i := by
    rw [hi.missingItems_eq, List.mem_filter, List.mem_range]
    constructor
    · rintro ⟨hlt, hnone⟩
      refine ⟨_, hi.getElem?_eq_some_iff.mpr ⟨hlt, rfl⟩, ?_⟩
      rw [updated_itemOf]
      simpa using hnone
    · rintro ⟨item, hitem, hupdated⟩
      obtain ⟨hlt, rfl⟩ := hi.getElem?_eq_some_iff.mp hitem
      rw [updated_itemOf] at hupdated
      exact ⟨hlt, by rw [hupdated, Bool.not_false]⟩
  noCount hcount := by
    have hnil := hi.noCount hcount
    refine ⟨hnil, ?_⟩
    rw [hi.missing, hnil]
    rfl

/-! ### The rows -/

variable (D) in
/-- When the signals have run, there is a row for every item. -/
structure RowsAgree (w : World δ) : Prop where
  length : (w.shown D).length = w.handler.missionItems.length
  numbered : Numbered (w.shown D)

theorem rowsAgree_init (now : ℤ) : RowsAgree D (World.init now) := ⟨rfl, numbered_nil⟩

/-- The condition: a signal that is handled at once does not overtake a resize to a number that
is not zero. -/
def NoOvertaking (w : World δ) : Event → Prop
  | .resync onUiThread => onUiThread = true → ∀ total ∈ lastResize w.queue, total = 0
  | _ => True

/-- More signals in the queue. -/
theorem shown_append (handler : FCMissionHandler δ) (queue signals : List (Signal δ))
    (rows : List (Element δ)) (received : List MissionItemInt) :
    World.shown D ⟨handler, queue ++ signals, rows, received⟩ =
      handleAll D (handleAll D rows queue) signals := handleAll_append rows queue signals

/-- Signals behind those in the queue. -/
theorem RowsAgree.append {w : World δ} (hrows : RowsAgree D w) {handler : FCMissionHandler δ}
    {signals : List (Signal δ)} (received : List MissionItemInt)
    (h : (lastResize signals).getD w.handler.missionItems.length = handler.missionItems.length) :
    RowsAgree D ⟨handler, w.queue ++ signals, w.rows, received⟩ := by
  constructor
  · rw [shown_append, length_handleAll, ← World.shown, hrows.length]
    exact h
  · rw [shown_append]
    exact hrows.numbered.handleAll signals

/-- The rows of a resync that was not queued. -/
theorem rowsAgree_resync_iff (D : Doubles δ) (w : World δ) :
    RowsAgree D ⟨w.handler.resync.1, w.queue, handleAll D w.rows w.handler.resync.2, []⟩ ↔
      ∀ total ∈ lastResize w.queue, total = 0 := by
  have hlength : (handleAll D [] w.queue).length = (lastResize w.queue).getD 0 :=
    length_handleAll [] w.queue
  constructor
  · rintro ⟨hzero, -⟩ total htotal
    have hzero' : (handleAll D [] w.queue).length = 0 := hzero
    rw [hlength, Option.mem_def.mp htotal] at hzero'
    exact hzero'
  · intro h
    refine ⟨?_, numbered_nil.handleAll w.queue⟩
    show (handleAll D [] w.queue).length = 0
    rw [hlength]
    rcases hlast : lastResize w.queue with - | total
    · rfl
    · exact h total hlast

/-- **A step keeps a row for every item exactly under the condition.** -/
theorem RowsAgree.step_iff [DecidableEq δ] {w w' : World δ} {e : Event}
    (hrows : RowsAgree D w) (h : FCMissionHandler.step D w e = .ok w') :
    RowsAgree D w' ↔ NoOvertaking w e := by
  rcases e with missionCount | m | missionCurrent | ⟨telemetry, now, now'⟩ | onUiThread | -
  · obtain rfl := Except.ok.inj h
    refine iff_of_true (hrows.append _ ?_) trivial
    rcases updateMissionCount_cases D w.handler missionCount with
      ⟨s', heq, hitems, -, -⟩ | ⟨s', count, heq, hitems, -, -⟩
    · rw [heq, hitems]
      rfl
    · rw [heq, hitems, List.length_map, List.length_range]
      rfl
  · obtain rfl := Except.ok.inj h
    obtain ⟨hlast, hlength, -⟩ := updateMission_frame D w.handler m
    refine iff_of_true (hrows.append _ ?_) trivial
    rw [hlast, hlength]
    rfl
  · obtain rfl := Except.ok.inj h
    exact iff_of_true ⟨hrows.length, hrows.numbered⟩ trivial
  · obtain rfl := Except.ok.inj h
    refine iff_of_true ⟨?_, hrows.numbered⟩ trivial
    exact hrows.length.trans
      (congrArg List.length (optSendMessages_frame w.handler telemetry now now').1.symm)
  · cases onUiThread with
    | false =>
        obtain rfl := Except.ok.inj h
        exact iff_of_true (hrows.append _ rfl) nofun
    | true =>
        obtain rfl := Except.ok.inj h
        rw [rowsAgree_resync_iff D]
        exact ⟨fun hlast _ => hlast, fun hP => hP rfl⟩
  · obtain rfl := Except.ok.inj h
    obtain ⟨hhandler, -, hshown⟩ := deliver_frame D w
    refine iff_of_true ⟨?_, ?_⟩ trivial
    · rw [hshown, hhandler]
      exact hrows.length
    · rw [hshown]
      exact hrows.numbered

/-! ### Runs -/

variable [DecidableEq δ]

/-- **After every step of a run the items are as they should be, and when the signals have run
there is a row for every item, exactly if no resync on the thread of the rows overtakes a resize
to a number that is not zero.** -/
theorem store_and_rows_iff (D : Doubles δ) (now : ℤ) (es : List Event) :
    EveryStep (fun w e => ∀ w', step D w e = .ok w' → Store w' ∧ RowsAgree D w') (step D)
        (World.init now) es ↔
      EveryStep NoOvertaking (step D) (World.init now) es := by
  have hinit : Inv D (World.init now) := inv_init now
  refine everyStep_leaves_iff (fun w e w' hi h => hi.step h) (fun w e hi hw => ?_) hinit
    ⟨hinit.store, rowsAgree_init now⟩ es
  constructor
  · intro hall
    obtain ⟨w', h⟩ := step_total D w e
    exact (hw.2.step_iff h).mp (hall w' h).2
  · intro hP w' h
    exact ⟨(hi.step h).store, (hw.2.step_iff h).mpr hP⟩

/-- The resize to five rows is still in the queue when the user asks for a resync: then there are
five rows and no items. -/
theorem not_store_and_rows :
    ¬ ∀ es : List Event,
      EveryStep (fun w e => ∀ w', step Doubles.rationals w e = .ok w' →
        Store w' ∧ RowsAgree Doubles.rationals w') (step Doubles.rationals) (World.init 0) es := by
  intro h
  obtain ⟨-, hrest⟩ := h [.missionCount ⟨5, MAV_MISSION_TYPE_MISSION⟩, .resync true]
  obtain ⟨hlast, -⟩ := hrest _ rfl
  exact absurd (hlast _ rfl).2.length (by decide)

end FCMissionHandler

end QOpenHD
