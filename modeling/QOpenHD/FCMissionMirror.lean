/-
QOpenHD/FCMissionMirror.lean

What the user sees of the mission: for every place the latest item received
for it.

An item is copied to the handler field by field, and goes on to its row if a
field changed.  Its altitude is not copied, and an item at 0° 0° changes nothing
when it is the first one for its place.

* `Shows` — the rows are a table of the items received since the list was rebuilt;
* **`mirrors_iff`** — they are after every step of a run exactly if every item that is
  accepted has altitude 0, none at 0° 0° is the first one for its place, and no
  resync overtakes a resize.
-/
import QOpenHD.FCMissionHandler

namespace QOpenHD

open Checked Latest

namespace FCMissionHandler

open FCMavlinkMissionItemsModel

variable {δ : Type} {D : Doubles δ}

/-! ### What should be shown -/

/-- A row is valid exactly if an item was received for it, and shows the latest one. -/
structure Mirrors (D : Doubles δ) (w : World δ) : Prop where
  valid : ∀ (i : ℕ) (row : Element δ), (w.shown D)[i]? = some row →
    (row.valid = true ↔ ∃ m ∈ w.received, m.index = i)
  shows : ∀ (i : ℕ) (row : Element δ) (m : MissionItemInt), (w.shown D)[i]? = some row →
    latest MissionItemInt.index i w.received = some m →
    row.latitude = D.ofE7 m.x ∧ row.longitude = D.ofE7 m.y ∧ row.altitudeMeter = D.ofFloat m.z

/-- The row of an item. -/
def rowOf (D : Doubles δ) (i : ℕ) : Option MissionItemInt → Element δ
  | none => emptyRow D i
  | some m => ⟨i, D.ofE7 m.x, D.ofE7 m.y, D.ofFloat m.z, true, false⟩

theorem missionIndex_rowOf (i : ℕ) (m : Option MissionItemInt) :
    (rowOf D i m).missionIndex = i := by
  rcases m with - | m <;> rfl

theorem valid_rowOf (i : ℕ) (m : Option MissionItemInt) : (rowOf D i m).valid = m.isSome := by
  rcases m with - | m <;> rfl

/-- The rows are a table of what was received; no altitude in it is other than 0. -/
structure Shows (D : Doubles δ) (w : World δ) : Prop where
  rows : w.shown D =
    table MissionItemInt.index (rowOf D) w.handler.missionItems.length w.received
  altitude : ∀ (i : ℕ) (m : MissionItemInt), i < w.handler.missionItems.length →
    latest MissionItemInt.index i w.received = some m → D.ofFloat m.z = D.zero

theorem shows_init (now : ℤ) : Shows D (World.init now) := ⟨rfl, fun _ _ => nofun⟩

/-- It is about the rows, the number of items and what was received. -/
theorem Shows.congr {w w' : World δ} (hs : Shows D w) (hshown : w'.shown D = w.shown D)
    (hlength : w'.handler.missionItems.length = w.handler.missionItems.length)
    (hreceived : w'.received = w.received) : Shows D w' := by
  constructor
  · rw [hshown, hlength, hreceived]
    exact hs.rows
  · rw [hlength, hreceived]
    exact hs.altitude

/-- Nothing is shown where there is nothing. -/
theorem shows_nil {w : World δ} (hshown : w.shown D = []) (hitems : w.handler.missionItems = []) :
    Shows D w := by
  constructor
  · rw [hshown, hitems]
    rfl
  · rw [hitems]
    exact fun _ _ h => absurd h (Nat.not_lt_zero _)

theorem Shows.rowsAgree {w : World δ} (hs : Shows D w) : RowsAgree D w := by
  constructor
  · rw [hs.rows, length_table]
  · rw [hs.rows]
    intro i row hrow
    obtain ⟨-, rfl⟩ := getElem?_table_eq_some_iff.mp hrow
    exact missionIndex_rowOf i _

theorem Shows.mirrors {w : World δ} (hs : Shows D w) : Mirrors D w := by
  constructor
  · intro i row hrow
    rw [hs.rows] at hrow
    obtain ⟨-, rfl⟩ := getElem?_table_eq_some_iff.mp hrow
    rw [valid_rowOf, isSome_latest_iff]
  · intro i row m hrow hm
    rw [hs.rows] at hrow
    obtain ⟨-, rfl⟩ := getElem?_table_eq_some_iff.mp hrow
    rw [hm]
    exact ⟨rfl, rfl, rfl⟩

/-- The condition. -/
def Copied (D : Doubles δ) (w : World δ) : Event → Prop
  | .missionItemInt m =>
    m.accepted = true → m.index < w.handler.missionItems.length →
      D.ofFloat m.z = D.zero ∧
        (D.ofE7 m.x = D.zero ∧ D.ofE7 m.y = D.zero → ∃ m' ∈ w.received, m'.index = m.index)
  | e => NoOvertaking w e

/-! ### One item -/

/-- The fields that are compared are those of the item received before. -/
theorem itemOf_unchanged {i : ℕ} {latest : Option MissionItemInt} {m : MissionItemInt}
    (h : (itemOf D i latest).latitude = D.ofE7 m.x ∧ (itemOf D i latest).longitude = D.ofE7 m.y) :
    (latest = none ∧ D.ofE7 m.x = D.zero ∧ D.ofE7 m.y = D.zero) ∨
      ∃ m', latest = some m' ∧ D.ofE7 m'.x = D.ofE7 m.x ∧ D.ofE7 m'.y = D.ofE7 m.y := by
  rcases latest with - | m'
  · exact .inl ⟨rfl, h.1.symm, h.2.symm⟩
  · exact .inr ⟨m', rfl, h⟩

section Step

variable [DecidableEq δ]

/-- What is shown after an item that is accepted and has a place. -/
theorem shown_missionItemInt {w : World δ} {m : MissionItemInt} (hi : Inv D w)
    (hacc : m.accepted = true) (hlt : m.index < w.handler.missionItems.length)
    (received : List MissionItemInt) :
    World.shown D ⟨(w.handler.updateMission D m).1, w.queue ++ (w.handler.updateMission D m).2,
        w.rows, received⟩ =
      if (itemOf D m.index (latest MissionItemInt.index m.index w.received)).latitude = D.ofE7 m.x ∧
          (itemOf D m.index (latest MissionItemInt.index m.index w.received)).longitude =
            D.ofE7 m.y then
        w.shown D
      else
        (w.shown D).set m.index ⟨m.index, D.ofE7 m.x, D.ofE7 m.y, D.zero, true, false⟩ := by
  have hitem := hi.getElem?_eq_some_iff.mpr ⟨hlt, rfl⟩
  rw [shown_append, updateMission_of_accepted hacc hitem]
  split
  · rfl
  · have haltitude : (itemOf D m.index (latest MissionItemInt.index m.index
        w.received)).altitudeMeter = D.zero := by
      rcases latest MissionItemInt.index m.index w.received with - | m' <;> rfl
    rw [missionIndex_itemOf, haltitude]
    exact updateData_eq_set _ _ _

/-- Under the condition it is the row of the item. -/
theorem shown_of_copied {w : World δ} {m : MissionItemInt} (hi : Inv D w) (hs : Shows D w)
    (hacc : m.accepted = true) (hlt : m.index < w.handler.missionItems.length)
    (hP : Copied D w (.missionItemInt m)) (received : List MissionItemInt) :
    World.shown D ⟨(w.handler.updateMission D m).1, w.queue ++ (w.handler.updateMission D m).2,
        w.rows, received⟩ =
      (w.shown D).set m.index (rowOf D m.index (some m)) := by
  obtain ⟨haltitude, hfirst⟩ := hP hacc hlt
  rw [shown_missionItemInt hi hacc hlt]
  split
  · rename_i hsame
    rcases itemOf_unchanged hsame with ⟨hnone, hzero⟩ | ⟨m', hm', hx, hy⟩
    · obtain ⟨m', hm', hindex⟩ := hfirst hzero
      exact absurd hindex (latest_eq_none_iff.mp hnone m' hm')
    · -- the row is there already
      have hrow : (w.shown D)[m.index]? = some (rowOf D m.index (some m)) := by
        rw [hs.rows, getElem?_table_eq_some_iff, hm']
        refine ⟨hlt, ?_⟩
        simp only [rowOf, hx, hy, hs.altitude m.index m' hlt hm', haltitude]
      obtain ⟨hlt', hget⟩ := List.getElem?_eq_some_iff.mp hrow
      rw [← hget, List.set_getElem_self]
  · rw [rowOf, haltitude]

/-- An item that is not accepted, or has no place, leaves what is shown. -/
theorem shown_of_not_accepted {w : World δ} {m : MissionItemInt}
    (h : m.accepted = true → w.handler.missionItems.length ≤ m.index)
    (received : List MissionItemInt) :
    World.shown D ⟨(w.handler.updateMission D m).1, w.queue ++ (w.handler.updateMission D m).2,
        w.rows, received⟩ = w.shown D := by
  rw [updateMission_of_not_accepted fun hacc => List.getElem?_eq_none_iff.mpr (h hacc),
    shown_append]
  rfl

/-- An item keeps what is shown under the condition. -/
theorem Shows.missionItemInt {w : World δ} {m : MissionItemInt} (hi : Inv D w) (hs : Shows D w)
    (hP : Copied D w (.missionItemInt m)) :
    Shows D ⟨(w.handler.updateMission D m).1, w.queue ++ (w.handler.updateMission D m).2, w.rows,
      if m.accepted then w.received ++ [m] else w.received⟩ := by
  obtain ⟨-, hlength, -⟩ := updateMission_frame D w.handler m
  rcases hacc : m.accepted with - | -
  · exact hs.congr (shown_of_not_accepted (by simp [hacc]) _) hlength rfl
  · show Shows D ⟨_, _, _, w.received ++ [m]⟩
    by_cases hlt : m.index < w.handler.missionItems.length
    · constructor
      · rw [shown_of_copied hi hs hacc hlt hP, hlength, table_append_singleton, ← hs.rows]
      · rw [hlength]
        intro i m' hi' hm'
        rw [latest_append_singleton] at hm'
        split at hm'
        · obtain rfl := Option.some.inj hm'
          exact (hP hacc hlt).1
        · exact hs.altitude i m' hi' hm'
    · have hle := Nat.not_lt.mp hlt
      constructor
      · rw [shown_of_not_accepted fun _ => hle, hlength, table_append_singleton,
          List.set_eq_of_length_le (by rw [length_table]; exact hle)]
        exact hs.rows
      · rw [hlength]
        intro i m' hi' hm'
        rw [latest_append_singleton, if_neg (by omega)] at hm'
        exact hs.altitude i m' hi' hm'

/-- After an item that is shown rightly the condition was met. -/
theorem Shows.copied {w : World δ} {m : MissionItemInt} (hi : Inv D w) (hs : Shows D w)
    (hmirrors : Mirrors D ⟨(w.handler.updateMission D m).1,
      w.queue ++ (w.handler.updateMission D m).2, w.rows,
      if m.accepted then w.received ++ [m] else w.received⟩) :
    Copied D w (.missionItemInt m) := by
  intro hacc hlt
  rw [hacc, if_pos rfl] at hmirrors
  obtain ⟨hvalid, hshows⟩ := hmirrors
  have hlatest : latest MissionItemInt.index m.index (w.received ++ [m]) = some m := by
    rw [latest_append_singleton, if_pos rfl]
  have hmem : ∃ m' ∈ w.received ++ [m], m'.index = m.index :=
    ⟨m, List.mem_append_right _ (List.mem_singleton_self m), rfl⟩
  rw [shown_missionItemInt hi hacc hlt] at hvalid hshows
  split at hvalid
  · rename_i hsame
    rw [if_pos hsame] at hshows
    have hrow : (w.shown D)[m.index]? =
        some (rowOf D m.index (latest MissionItemInt.index m.index w.received)) := by
      rw [hs.rows, getElem?_table_eq_some_iff]
      exact ⟨hlt, rfl⟩
    have hsome := (hvalid m.index _ hrow).mpr hmem
    obtain ⟨-, -, haltitude⟩ := hshows m.index _ m hrow hlatest
    rw [valid_rowOf] at hsome
    refine ⟨?_, fun _ => isSome_latest_iff.mp hsome⟩
    obtain ⟨m', hm'⟩ := Option.isSome_iff_exists.mp hsome
    rw [hm'] at haltitude
    exact haltitude.symm.trans (hs.altitude m.index m' hlt hm')
  · rename_i hchanged
    rw [if_neg hchanged] at hshows
    have hrow : ((w.shown D).set m.index
        ⟨m.index, D.ofE7 m.x, D.ofE7 m.y, D.zero, true, false⟩)[m.index]? =
        some ⟨m.index, D.ofE7 m.x, D.ofE7 m.y, D.zero, true, false⟩ := by
      rw [List.getElem?_set_self]
      rw [hs.rows, length_table]
      exact hlt
    obtain ⟨-, -, haltitude⟩ := hshows m.index _ m hrow hlatest
    refine ⟨haltitude.symm, fun hzero => ?_⟩
    by_contra hnone
    have hlatest' : latest MissionItemInt.index m.index w.received = none :=
      latest_eq_none_iff.mpr fun m' hm' hindex => hnone ⟨m', hm', hindex⟩
    rw [hlatest'] at hchanged
    exact hchanged ⟨hzero.1.symm, hzero.2.symm⟩

/-! ### Runs -/

/-- **A step that meets the condition** shows what it should. -/
theorem Shows.step {w w' : World δ} {e : Event} (hi : Inv D w) (hs : Shows D w)
    (hP : Copied D w e) (h : FCMissionHandler.step D w e = .ok w') : Shows D w' := by
  rcases e with missionCount | m | missionCurrent | ⟨telemetry, now, now'⟩ | onUiThread | -
  · obtain rfl := Except.ok.inj h
    rcases updateMissionCount_cases D w.handler missionCount with
      ⟨s', heq, hitems, -, -⟩ | ⟨s', count, heq, hitems, -, -⟩
    · rw [heq]
      exact hs.congr (shown_append ..) (congrArg List.length hitems) rfl
    · rw [heq]
      refine ⟨?_, fun _ _ _ => nofun⟩
      rw [shown_append, hitems, List.length_map, List.length_range]
      exact qtUiResize_eq_map count
  · obtain rfl := Except.ok.inj h
    exact hs.missionItemInt hi hP
  · obtain rfl := Except.ok.inj h
    exact hs.congr rfl rfl rfl
  · obtain rfl := Except.ok.inj h
    exact hs.congr rfl
      (congrArg List.length (optSendMessages_frame w.handler telemetry now now').1) rfl
  · cases onUiThread with
    | false =>
        obtain rfl := Except.ok.inj h
        exact shows_nil (shown_append ..) rfl
    | true =>
        obtain rfl := Except.ok.inj h
        have hrows := (rowsAgree_resync_iff D w).mpr (hP rfl)
        exact shows_nil (List.eq_nil_of_length_eq_zero hrows.length) rfl
  · obtain rfl := Except.ok.inj h
    obtain ⟨hhandler, hreceived, hshown⟩ := deliver_frame D w
    exact hs.congr hshown (by rw [hhandler]) hreceived

/-- A step after which the rows are as they should be met the condition. -/
theorem Shows.copied_of_step {w w' : World δ} {e : Event} (hi : Inv D w) (hs : Shows D w)
    (h : FCMissionHandler.step D w e = .ok w') (hrows : RowsAgree D w') (hmirrors : Mirrors D w') :
    Copied D w e := by
  have hovertaking := (hs.rowsAgree.step_iff h).mp hrows
  rcases e with missionCount | m | missionCurrent | ⟨telemetry, now, now'⟩ | onUiThread | -
  · exact hovertaking
  · obtain rfl := Except.ok.inj h
    exact hs.copied hi hmirrors
  · exact hovertaking
  · exact hovertaking
  · exact hovertaking
  · exact hovertaking

end Step

/-- **After every step of a run, when the signals have run, there is a row for every item, valid
exactly if an item was received for it, with what the latest one says, exactly if every item
accepted for a place has altitude 0, and is not at 0° 0° when it is the first one, and no resync
overtakes a resize.** -/
theorem mirrors_iff [DecidableEq δ] (D : Doubles δ) (now : ℤ) (es : List Event) :
    EveryStep (fun w e => ∀ w', step D w e = .ok w' → RowsAgree D w' ∧ Mirrors D w') (step D)
        (World.init now) es ↔
      EveryStep (Copied D) (step D) (World.init now) es := by
  refine everyStep_congr_of_keeps (I := fun w => Inv D w ∧ Shows D w) ?_ ?_
    ⟨inv_init now, shows_init now⟩ es
  · rintro w e ⟨hi, hs⟩
    constructor
    · intro hall
      obtain ⟨w', h⟩ := step_total D w e
      exact hs.copied_of_step hi h (hall w' h).1 (hall w' h).2
    · intro hP w' h
      have hs' := hs.step hi hP h
      exact ⟨hs'.rowsAgree, hs'.mirrors⟩
  · rintro w e w' ⟨hi, hs⟩ hP h
    exact ⟨hi.step h, hs.step hi hP h⟩

/-- A mission of one item, 50 metres above 47° 8°. -/
theorem not_mirrors :
    ¬ ∀ es : List Event,
      EveryStep (fun w e => ∀ w', step Doubles.rationals w e = .ok w' →
        Mirrors Doubles.rationals w') (step Doubles.rationals) (World.init 0) es := by
  intro h
  obtain ⟨-, hrest⟩ := h [.missionCount ⟨1, MAV_MISSION_TYPE_MISSION⟩,
    .missionItemInt ⟨470000000, 80000000, 0x42480000, 0, MAV_FRAME_GLOBAL,
      MAV_MISSION_TYPE_MISSION⟩]
  obtain ⟨hlast, -⟩ := hrest _ rfl
  obtain ⟨-, -, haltitude⟩ := (hlast _ rfl).shows 0 _ _ rfl rfl
  revert haltitude
  decide +kernel

end FCMissionHandler

end QOpenHD
