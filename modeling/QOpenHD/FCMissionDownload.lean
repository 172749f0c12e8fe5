/-
QOpenHD/FCMissionDownload.lean

How the handler gets the items of a mission, from a flight controller that
answers every request for one.

An item in a frame that is not accepted is received and not recorded.  It is
missing still, and asked for again in the next round.

* `Round` — the first ten missing items are asked for, and the answers processed;
  `Round.mem_missingItems_iff` — of those asked for the accepted ones are not missing
  any more;
* **`downloads_iff`** — from any state that a run reaches, every round is a step
  forward, and after a tenth of the number of items as many rounds nothing is
  missing, exactly if the frame of every missing item is accepted.
-/
import QOpenHD.FCMissionHandler
import Mathlib.Data.List.Sort

namespace QOpenHD

open Checked Latest

namespace FCMissionHandler

variable {δ : Type}

/-! ### Rounds -/

/-- A primary mission, as the flight controller has it. -/
structure Mission where
  items : List MissionItemInt
  numbered : ∀ (i : ℕ) (m : MissionItemInt), items[i]? = some m → m.index = i
  primary : ∀ m ∈ items, m.missionType = MAV_MISSION_TYPE_MISSION

/-- Which item of the primary mission is asked for. -/
def requestedItem : MavlinkTelemetry.FCMessage → Option ℕ
  | .missionRequestInt request =>
    if request.missionType = MAV_MISSION_TYPE_MISSION then some request.seq.toNat else none
  | _ => none

def requested (messages : List MavlinkTelemetry.FCMessage) : List ℕ :=
  messages.filterMap requestedItem

/-- What the flight controller answers. -/
def Mission.answers (mission : Mission) (messages : List MavlinkTelemetry.FCMessage) :
    List MissionItemInt :=
  (requested messages).filterMap (mission.items[·]?)

section Rounds

variable [DecidableEq δ]

/-- `opt_send_messages` a second after the last requests, and the answers, in any order. -/
inductive Round (D : Doubles δ) (mission : Mission) (w : World δ)
    (messages : List MavlinkTelemetry.FCMessage) (w' : World δ) : Prop
  | mk (telemetry : MavlinkTelemetry) (now now' : ℤ) (answers : List MissionItemInt)
      (elapsed : now - w.handler.lastItemRequest > seconds 1)
      (sent : (w.handler.optSendMessages telemetry now now').2 = messages)
      (answered : answers.Perm (mission.answers messages))
      (processed : run (step D) w
        (.optSendMessages telemetry now now' :: answers.map .missionItemInt) = .ok w')

/-- One round after the other. -/
inductive Rounds (D : Doubles δ) (mission : Mission) (w : World δ) : ℕ → World δ → Prop
  | zero : Rounds D mission w 0 w
  | succ {k : ℕ} {w₁ w₂ : World δ} {messages : List MavlinkTelemetry.FCMessage}
      (rounds : Rounds D mission w k w₁) (round : Round D mission w₁ messages w₂) :
      Rounds D mission w (k + 1) w₂

/-- Every round in which items are asked for removes them all from the missing ones, which get
fewer; and when each round has had its ten, nothing is missing. -/
structure Downloads (D : Doubles δ) (mission : Mission) (w : World δ) : Prop where
  progress : ∀ (k : ℕ) (w₁ w₂ : World δ) (messages : List MavlinkTelemetry.FCMessage),
    Rounds D mission w k w₁ → Round D mission w₁ messages w₂ → requested messages ≠ [] →
      (∀ i ∈ requested messages, i ∉ w₂.handler.missingItems) ∧
        w₂.handler.missingItems.length < w₁.handler.missingItems.length
  complete : ∀ w₁ : World δ, Rounds D mission w ((mission.items.length + 9) / 10) w₁ →
    w₁.handler.missingItems = []

end Rounds

/-! ### One round -/

/-- A place is 16 bits wide. -/
theorem Mission.lt (mission : Mission) {i : ℕ} (h : i < mission.items.length) : i < 2 ^ 16 := by
  have hindex := mission.numbered i _ (List.getElem?_eq_getElem h)
  rw [← hindex]
  exact (mission.items[i]).seq.toNat_lt

theorem requestedItem_requestMission (telemetry : MavlinkTelemetry) {i : ℕ} (h : i < 2 ^ 16) :
    requestedItem (telemetry.message (.requestMission i)) = some i := by
  have hseq : (UInt16.ofInt i).toNat = i := by
    rw [UInt16.ofInt, UInt16.toNat_ofNat']
    omega
  show (if MAV_MISSION_TYPE_MISSION = MAV_MISSION_TYPE_MISSION then
    some (UInt16.ofInt i).toNat else none) = some i
  rw [if_pos rfl, hseq]

/-- No item is asked for before their number is known. -/
theorem requested_of_not_hasMissionCount {s : FCMissionHandler δ}
    (h : s.hasMissionCount = false) (telemetry : MavlinkTelemetry) (now now' : ℤ) :
    requested (s.optSendMessages telemetry now now').2 = [] := by
  unfold optSendMessages
  rw [h, if_pos (by decide)]
  split <;> rfl

/-- The first ten missing items are asked for. -/
theorem optSendMessages_of_hasMissionCount {s : FCMissionHandler δ}
    (h : s.hasMissionCount = true) (telemetry : MavlinkTelemetry) {now : ℤ} (now' : ℤ)
    (hnow : now - s.lastItemRequest > seconds 1) :
    (s.optSendMessages telemetry now now').2 =
      (s.missingItems.take 10).map fun i : ℕ => telemetry.message (.requestMission i) := by
  unfold optSendMessages
  rw [h, if_neg (by decide), if_pos hnow]
  split
  · rename_i hnil
    rw [List.isEmpty_iff.mp hnil]
    rfl
  · rfl

theorem requested_optSendMessages {D : Doubles δ} {w : World δ} (hi : Inv D w)
    (hlt : ∀ i ∈ w.handler.missingItems, i < 2 ^ 16) (telemetry : MavlinkTelemetry)
    {now : ℤ} (now' : ℤ) (hnow : now - w.handler.lastItemRequest > seconds 1) :
    requested (w.handler.optSendMessages telemetry now now').2 =
      w.handler.missingItems.take 10 := by
  rcases hcount : w.handler.hasMissionCount with - | -
  · rw [requested_of_not_hasMissionCount hcount, (hi.store.noCount hcount).2]
    rfl
  · rw [optSendMessages_of_hasMissionCount hcount telemetry now' hnow, requested,
      List.filterMap_map]
    have hsome : ∀ i ∈ w.handler.missingItems.take 10,
        (requestedItem ∘ fun i : ℕ => telemetry.message (.requestMission i)) i = some i :=
      fun i hi => requestedItem_requestMission telemetry (hlt i (List.mem_of_mem_take hi))
    rw [List.filterMap_congr hsome, List.filterMap_some]

/-- The items of a round are processed. -/
theorem run_missionItemInt [DecidableEq δ] {D : Doubles δ} {answers : List MissionItemInt}
    {w w' : World δ}
    (h : run (step D) w (answers.map .missionItemInt) = .ok w') :
    w'.received = w.received ++ answers.filter MissionItemInt.accepted ∧
      w'.handler.missionItems.length = w.handler.missionItems.length := by
  induction answers generalizing w with
  | nil =>
      obtain rfl := Except.ok.inj h
      exact ⟨(List.append_nil _).symm, rfl⟩
  | cons m answers ih =>
      obtain ⟨w₁, h₁, h₂⟩ := bind_eq_ok_iff.mp h
      obtain rfl := Except.ok.inj h₁
      obtain ⟨hreceived, hlength⟩ := ih h₂
      refine ⟨?_, hlength.trans (updateMission_frame D w.handler m).2.1⟩
      rw [hreceived, List.filter_cons]
      split
      · exact List.append_assoc ..
      · rfl

theorem Inv.mem_missingItems_iff {D : Doubles δ} {w : World δ} (hi : Inv D w) {i : ℕ} :
    i ∈ w.handler.missingItems ↔
      i < w.handler.missionItems.length ∧ ∀ m ∈ w.received, m.index ≠ i := by
  rw [hi.missingItems_eq, List.mem_filter, List.mem_range, ← latest_eq_none_iff]
  simp

/-- What a round leaves. -/
structure RoundEffect (D : Doubles δ) (mission : Mission) (w : World δ)
    (messages : List MavlinkTelemetry.FCMessage) (w' : World δ) : Prop where
  inv : Inv D w'
  length : w'.handler.missionItems.length = w.handler.missionItems.length
  requested : requested messages = w.handler.missingItems.take 10
  missing : ∀ i, i ∈ w'.handler.missingItems ↔ i ∈ w.handler.missingItems ∧
    ¬ (i ∈ w.handler.missingItems.take 10 ∧ ∃ m ∈ mission.items[i]?, m.frameAccepted = true)

/-- The answers to the requests for some places, as far as they are recorded. -/
theorem mem_answers_iff {mission : Mission} {messages : List MavlinkTelemetry.FCMessage} {i : ℕ} :
    (∃ m ∈ mission.answers messages, m.accepted = true ∧ m.index = i) ↔
      i ∈ requested messages ∧ ∃ m ∈ mission.items[i]?, m.frameAccepted = true := by
  constructor
  · rintro ⟨m, hm, hacc, rfl⟩
    obtain ⟨j, hj, hget⟩ := List.mem_filterMap.mp hm
    obtain rfl := mission.numbered j m hget
    exact ⟨hj, m, hget, (Bool.and_eq_true_iff.mp hacc).2⟩
  · rintro ⟨hi, m, hget, hframe⟩
    refine ⟨m, List.mem_filterMap.mpr ⟨i, hi, hget⟩, ?_, mission.numbered i m hget⟩
    rw [MissionItemInt.accepted, Bool.and_eq_true, beq_iff_eq]
    exact ⟨mission.primary m (List.mem_of_getElem? hget), hframe⟩

/-- **Of the items asked for, those in an accepted frame are recorded.** -/
theorem Round.effect [DecidableEq δ] {D : Doubles δ} {mission : Mission} {w w' : World δ}
    {messages : List MavlinkTelemetry.FCMessage} (hr : Round D mission w messages w')
    (hi : Inv D w) (hlength : mission.items.length = w.handler.missionItems.length) :
    RoundEffect D mission w messages w' := by
  obtain ⟨telemetry, now, now', answers, hnow, hsent, hanswered, hrun⟩ := hr
  have hlt : ∀ i ∈ w.handler.missingItems, i < 2 ^ 16 := fun i hmem =>
    mission.lt (hlength ▸ (hi.mem_missingItems_iff.mp hmem).1)
  have hrequested := requested_optSendMessages hi hlt telemetry now' hnow
  rw [hsent] at hrequested
  have hi' : Inv D w' := run_invariant (fun _ _ _ hi h => Inv.step hi h) hi hrun
  obtain ⟨w₁, h₁, h₂⟩ := bind_eq_ok_iff.mp hrun
  obtain rfl := Except.ok.inj h₁
  obtain ⟨hreceived, hlength'⟩ := run_missionItemInt h₂
  obtain ⟨hitems, -, -⟩ := optSendMessages_frame w.handler telemetry now now'
  have hlength'' : w'.handler.missionItems.length = w.handler.missionItems.length :=
    hlength'.trans (congrArg List.length hitems)
  refine ⟨hi', hlength'', hrequested, fun i => ?_⟩
  have hrecorded : (∃ m ∈ answers.filter MissionItemInt.accepted, m.index = i) ↔
      i ∈ w.handler.missingItems.take 10 ∧ ∃ m ∈ mission.items[i]?, m.frameAccepted = true := by
    rw [← hrequested, ← mem_answers_iff]
    simp only [List.mem_filter, hanswered.mem_iff, and_assoc]
  rw [hi'.mem_missingItems_iff, hi.mem_missingItems_iff, hlength'', hreceived, ← hrecorded]
  simp only [List.forall_mem_append, not_exists, not_and, and_assoc]

/-! ### All items accepted -/

/-- What is behind the first `n` elements. -/
theorem mem_drop_iff_of_nodup {α : Type} {l : List α} (h : l.Nodup) (n : ℕ) {a : α} :
    a ∈ l.drop n ↔ a ∈ l ∧ a ∉ l.take n := by
  have hdisjoint := List.disjoint_take_drop h (Nat.le_refl n)
  constructor
  · exact fun ha => ⟨List.mem_of_mem_drop ha, fun htake => hdisjoint htake ha⟩
  · rintro ⟨ha, hnot⟩
    rw [← List.take_append_drop n l, List.mem_append] at ha
    exact ha.resolve_left hnot

/-- The missing items, whose frames are all accepted. -/
def AllAccepted (mission : Mission) (w : World δ) : Prop :=
  ∀ i ∈ w.handler.missingItems, ∀ m ∈ mission.items[i]?, m.frameAccepted = true

theorem RoundEffect.missing_eq_drop {D : Doubles δ} {mission : Mission} {w w' : World δ}
    {messages : List MavlinkTelemetry.FCMessage} (he : RoundEffect D mission w messages w')
    (hi : Inv D w) (hlength : mission.items.length = w.handler.missionItems.length)
    (hall : AllAccepted mission w) :
    w'.handler.missingItems = w.handler.missingItems.drop 10 := by
  have hascending := hi.store.ascending
  refine List.Pairwise.eq_of_mem_iff he.inv.store.ascending (hascending.drop) fun i => ?_
  rw [he.missing, mem_drop_iff_of_nodup hascending.nodup]
  refine and_congr_right fun hmem => not_congr (and_iff_left ?_)
  have hlt : i < mission.items.length := hlength ▸ (hi.mem_missingItems_iff.mp hmem).1
  exact ⟨_, List.getElem?_eq_getElem hlt, hall i hmem _ (List.getElem?_eq_getElem hlt)⟩

/-- What some rounds leave. -/
structure RoundsEffect (D : Doubles δ) (mission : Mission) (w : World δ) (k : ℕ)
    (w' : World δ) : Prop where
  inv : Inv D w'
  length : w'.handler.missionItems.length = w.handler.missionItems.length
  missing : AllAccepted mission w → w'.handler.missingItems = w.handler.missingItems.drop (10 * k)
  notAccepted : ∀ i ∈ w.handler.missingItems,
    (¬ ∃ m ∈ mission.items[i]?, m.frameAccepted = true) → i ∈ w'.handler.missingItems

theorem RoundsEffect.allAccepted {D : Doubles δ} {mission : Mission} {w w' : World δ} {k : ℕ}
    (he : RoundsEffect D mission w k w') (hall : AllAccepted mission w) :
    AllAccepted mission w' := by
  intro i hmem
  rw [he.missing hall] at hmem
  exact hall i (List.mem_of_mem_drop hmem)

section

variable [DecidableEq δ]

/-- **Ten fewer with every round, and those that are not accepted for ever.** -/
theorem Rounds.effect {D : Doubles δ} {mission : Mission} {w w' : World δ} {k : ℕ}
    (hr : Rounds D mission w k w') (hi : Inv D w)
    (hlength : mission.items.length = w.handler.missionItems.length) :
    RoundsEffect D mission w k w' := by
  induction hr with
  | zero => exact ⟨hi, rfl, fun _ => rfl, fun _ hmem _ => hmem⟩
  | succ rounds round ih =>
      rename_i k w₁ w₂ messages
      have hlength₁ := hlength.trans ih.length.symm
      have he := round.effect ih.inv hlength₁
      refine ⟨he.inv, he.length.trans ih.length, fun hall => ?_, fun i hmem hnot => ?_⟩
      · rw [he.missing_eq_drop ih.inv hlength₁ (ih.allAccepted hall), ih.missing hall,
          List.drop_drop]
        rfl
      · exact (he.missing i).mpr ⟨ih.notAccepted i hmem hnot, fun h => hnot h.2⟩

theorem exists_run (D : Doubles δ) (w : World δ) (es : List Event) :
    ∃ w', run (step D) w es = .ok w' := by
  have hstep : ∀ (w : World δ) (e : Event), True → True → ∃ w', step D w e = .ok w' ∧ True :=
    fun w e _ _ => (step_total D w e).imp fun _ h => ⟨h, trivial⟩
  have hrun : ∃ w', run (step D) w es = .ok w' ∧ True :=
    run_total hstep trivial fun _ _ => trivial
  exact hrun.imp fun _ h => h.1

/-- There is always a next round. -/
theorem exists_rounds (D : Doubles δ) (mission : Mission) (w : World δ) (k : ℕ) :
    ∃ w', Rounds D mission w k w' := by
  induction k with
  | zero => exact ⟨w, .zero⟩
  | succ k ih =>
      obtain ⟨w₁, h₁⟩ := ih
      let now := w₁.handler.lastItemRequest + seconds 2
      let messages := (w₁.handler.optSendMessages ⟨true, 1, 1⟩ now now).2
      obtain ⟨w₂, h₂⟩ := exists_run D w₁ (.optSendMessages ⟨true, 1, 1⟩ now now ::
        (mission.answers messages).map .missionItemInt)
      refine ⟨w₂, .succ h₁ (.mk ⟨true, 1, 1⟩ now now _ ?_ rfl (List.Perm.refl _) h₂)⟩
      show w₁.handler.lastItemRequest + seconds 2 - w₁.handler.lastItemRequest > seconds 1
      unfold seconds
      omega

/-- **From any state that a run reaches the download makes progress, and is complete after a tenth
of the number of items as many rounds, exactly if the frames of all missing items are
accepted.** -/
theorem downloads_iff (D : Doubles δ) (mission : Mission) (now : ℤ) (es : List Event)
    (w : World δ) (h : run (step D) (World.init now) es = .ok w)
    (hlength : mission.items.length = w.handler.missionItems.length) :
    Downloads D mission w ↔ AllAccepted mission w := by
  have hi : Inv D w := run_invariant (fun _ _ _ hi h => Inv.step hi h) (inv_init now) h
  constructor
  · intro hdownloads i hmem m hm
    by_contra hframe
    obtain ⟨w', hr⟩ := exists_rounds D mission w ((mission.items.length + 9) / 10)
    have hstill := (hr.effect hi hlength).notAccepted i hmem (by
      rintro ⟨m', hm', hframe'⟩
      obtain rfl := Option.some.inj (hm.symm.trans hm')
      exact hframe hframe')
    rw [hdownloads.complete w' hr] at hstill
    exact absurd hstill List.not_mem_nil
  · intro hall
    constructor
    · intro k w₁ w₂ messages hr hround hne
      have he₁ := hr.effect hi hlength
      have hlength₁ := hlength.trans he₁.length.symm
      have he₂ := hround.effect he₁.inv hlength₁
      rw [he₂.requested] at hne ⊢
      rw [he₂.missing_eq_drop he₁.inv hlength₁ (he₁.allAccepted hall)]
      constructor
      · intro i htake hdrop
        exact ((mem_drop_iff_of_nodup he₁.inv.store.ascending.nodup 10).mp hdrop).2 htake
      · have hpos : 0 < w₁.handler.missingItems.length :=
          List.length_pos_iff.mpr fun hnil => hne (by rw [hnil, List.take_nil])
        rw [List.length_drop]
        omega
    · intro w₁ hr
      have hle : w.handler.missingItems.length ≤ mission.items.length := by
        rw [hi.missingItems_eq, hlength]
        exact (List.length_filter_le _ _).trans_eq List.length_range
      rw [(hr.effect hi hlength).missing hall, List.drop_eq_nil_iff]
      omega

end

/-- A mission of `n` items. -/
def missionOf (n : ℕ) (frame : UInt8) (hn : n ≤ 2 ^ 16 := by decide) : Mission where
  items := (List.range n).map fun i =>
    ⟨470000000, 80000000, 0, UInt16.ofNat i, frame, MAV_MISSION_TYPE_MISSION⟩
  numbered i m h := by
    rw [List.getElem?_map, Option.map_eq_some_iff] at h
    obtain ⟨j, hj, rfl⟩ := h
    obtain ⟨hi, hij⟩ := List.getElem?_eq_some_iff.mp hj
    rw [List.length_range] at hi
    rw [List.getElem_range] at hij
    subst hij
    exact Nat.mod_eq_of_lt (hi.trans_le hn)
  primary m h := by
    obtain ⟨i, -, rfl⟩ := List.mem_map.mp h
    rfl

/-- The number of items, and the first ten of them, which were asked for. -/
def firstRound : List Event :=
  .missionCount ⟨25, MAV_MISSION_TYPE_MISSION⟩ ::
    .optSendMessages ⟨true, 1, 1⟩ (seconds 2) (seconds 2) ::
      ((missionOf 25 MAV_FRAME_GLOBAL_RELATIVE_ALT).items.take 10).map .missionItemInt

/-- A mission of 25 items in a frame that is accepted: it takes two more rounds. -/
theorem downloads_example :
    ∃ w, run (step Doubles.rationals) (World.init 0) firstRound = .ok w ∧
      w.handler.missingItems = (List.range 25).drop 10 ∧
      Downloads Doubles.rationals (missionOf 25 MAV_FRAME_GLOBAL_RELATIVE_ALT) w := by
  have hend : (run (step Doubles.rationals) (World.init 0) firstRound).map (fun w =>
      (w.handler.missingItems, w.handler.missionItems.length)) =
        .ok ((List.range 25).drop 10, 25) := by
    decide +kernel
  rcases hrun : run (step Doubles.rationals) (World.init 0) firstRound with e | w
  · rw [hrun] at hend
    cases hend
  · rw [hrun] at hend
    obtain ⟨hmissing, hlength⟩ := Prod.mk.inj (Except.ok.inj hend)
    refine ⟨w, rfl, hmissing, (downloads_iff Doubles.rationals
      (missionOf 25 MAV_FRAME_GLOBAL_RELATIVE_ALT) 0 firstRound w hrun hlength.symm).mpr ?_⟩
    rw [AllAccepted, hmissing]
    decide

/-- `MAV_FRAME_MISSION`, the frame of items that carry no position. -/
def MAV_FRAME_MISSION : UInt8 := 2

/-- An item without a position is missing when it was received. -/
theorem not_downloads :
    ¬ ∀ (mission : Mission) (es : List Event) (w : World ℚ),
      run (step Doubles.rationals) (World.init 0) es = .ok w →
      mission.items.length = w.handler.missionItems.length →
      Downloads Doubles.rationals mission w := by
  intro h
  have hdownloads := h (missionOf 1 MAV_FRAME_MISSION)
    [.missionCount ⟨1, MAV_MISSION_TYPE_MISSION⟩] _ rfl rfl
  have hprogress := (hdownloads.progress 0 _ _ _ .zero
    (.mk ⟨true, 1, 1⟩ (seconds 2) (seconds 2) _ (by decide) rfl (List.Perm.refl _) rfl)
    (by decide)).1 0 (by decide)
  exact hprogress (by decide)

end FCMissionHandler

end QOpenHD
