/-
QOpenHD/FCEfficiency.lean

How much charge is used for a kilometer (`FCMavlinkSystem::recalculate_efficiency`,
`fcmavlinksystem.cpp`).

What was consumed and what was flown are each compared with a value of an earlier
recalculation.  Both of these are replaced when a result is published.  Where one of the
two has become less, which the distance does when the vehicle is armed again, only that
one is replaced.

* `recalculateEfficiency_cases` — what a call that is due does;
* **`oneInterval_iff`** — both values are of one recalculation throughout a run, and so is all
  that is published, exactly if nothing becomes less while the other value changes.
-/
import QOpenHD.Connection
import QOpenHD.FCFlightDistance

namespace QOpenHD

open Checked

/-- The part of `FCMavlinkSystem` that has to do with it; `δ` are the doubles. -/
structure FCEfficiency (δ : Type) extends FCArming δ where
  batteryConsumedMah : Int32
  batteryConsumedMahPerKm : Int32
  efficiencyLastDistanceM : δ
  efficiencyLastChargeConsumedMAh : Int32
  /-- In nanoseconds. -/
  efficiencyLastUpdate : ℤ
  deriving DecidableEq

namespace FCEfficiency

variable {δ : Type} [DoubleArith δ]

/-- Nothing is known; the first interval begins at `now`. -/
def new (now : ℤ) : FCEfficiency δ := ⟨⟨false, 0⟩, 0, -1, 0, 0, now⟩

def setArmed (s : FCEfficiency δ) (armed : Bool) : FCEfficiency δ :=
  { s with toFCArming := s.toFCArming.setArmed armed }

/-- `Telemetryutil::calculate_efficiency_in_mah_per_km` -/
def calculateEfficiencyInMahPerKm (deltaMah deltaKm : δ) : Int32 :=
  if deltaKm ≤ 0 then 0 else DoubleArith.round (deltaMah / deltaKm)

/-- The second time is taken a little later. -/
def recalculateEfficiency (s : FCEfficiency δ) (now now' : ℤ) : Exec (FCEfficiency δ) :=
  if now - s.efficiencyLastUpdate < 2 * 1000000000 then pure s
  else
    let s := { s with efficiencyLastUpdate := now' }
    let deltaDistanceM := s.flightDistanceM - s.efficiencyLastDistanceM
    match subInt s.batteryConsumedMah s.efficiencyLastChargeConsumedMAh with
    -- not an `int`: there is nothing that C++ promises
    | none => .error .outOfRange
    | some deltaChargeMah =>
      if deltaDistanceM < 0 then pure { s with efficiencyLastDistanceM := s.flightDistanceM }
      else if deltaChargeMah < 0 then
        pure { s with efficiencyLastChargeConsumedMAh := s.batteryConsumedMah }
      else if 1 < deltaDistanceM ∧ 10 < deltaChargeMah then
        let deltaDistanceKm := deltaDistanceM / ((1000 : ℤ) : δ)
        pure
          { s with
            batteryConsumedMahPerKm :=
              calculateEfficiencyInMahPerKm (deltaChargeMah.toInt : δ) deltaDistanceKm
            efficiencyLastDistanceM := s.flightDistanceM
            efficiencyLastChargeConsumedMAh := s.batteryConsumedMah }
      else pure s

/-! ### The system -/

/-- The values, and those that were there together when something was recalculated; the first
ones are the initial ones. -/
structure World (δ : Type) where
  fc : FCEfficiency δ
  instants : List (δ × Int32)
  deriving DecidableEq

def World.init (now : ℤ) : World δ := ⟨new now, [(0, 0)]⟩

inductive Event (δ : Type)
  | setBatteryConsumedMah (charge : Int32)
  | setFlightDistanceM (distance : δ)
  | setArmed (armed : Bool)
  | recalculateEfficiency (now now' : ℤ)

/-- Two seconds have passed. -/
def Due (s : FCEfficiency δ) (now : ℤ) : Prop := ¬ now - s.efficiencyLastUpdate < 2 * 1000000000

instance (s : FCEfficiency δ) (now : ℤ) : Decidable (s.Due now) :=
  inferInstanceAs (Decidable (¬ _))

/-- The values that are there together. -/
def current (s : FCEfficiency δ) : δ × Int32 := (s.flightDistanceM, s.batteryConsumedMah)

/-- Those that they are compared with. -/
def baseline (s : FCEfficiency δ) : δ × Int32 :=
  (s.efficiencyLastDistanceM, s.efficiencyLastChargeConsumedMAh)

def step (w : World δ) : Event δ → Exec (World δ)
  | .setBatteryConsumedMah charge => pure { w with fc.batteryConsumedMah := charge }
  | .setFlightDistanceM distance => pure { w with fc.flightDistanceM := distance }
  | .setArmed armed => pure { w with fc := w.fc.setArmed armed }
  | .recalculateEfficiency now now' => do
    let fc ← w.fc.recalculateEfficiency now now'
    pure ⟨fc, if w.fc.Due now then w.instants ++ [w.fc.current] else w.instants⟩

/-- Charge for distance, between two instants. -/
def efficiency (a b : δ × Int32) : Int32 :=
  calculateEfficiencyInMahPerKm ((b.2.toInt - a.2.toInt : ℤ) : δ) ((b.1 - a.1) / ((1000 : ℤ) : δ))

/-- Both values that are compared with are of one instant, and what is published is of an
interval between two. -/
structure OneInterval (w : World δ) : Prop where
  baseline : w.fc.baseline ∈ w.instants
  published : w.fc.batteryConsumedMahPerKm = -1 ∨
    ∃ a b, [a, b].Sublist w.instants ∧ w.fc.batteryConsumedMahPerKm = efficiency a b

/-- The condition, where something is recalculated: the difference of the charges is an `int`; if
the distance has become less, the charge has not changed; and if only the charge has, the
distance has not changed.  Either other value may also have gone with the new one before. -/
def Together (w : World δ) : Event δ → Prop
  | .recalculateEfficiency now _ => w.fc.Due now → ∃ deltaChargeMah,
    subInt w.fc.batteryConsumedMah w.fc.efficiencyLastChargeConsumedMAh = some deltaChargeMah ∧
      if w.fc.flightDistanceM - w.fc.efficiencyLastDistanceM < 0 then
        w.fc.batteryConsumedMah = w.fc.efficiencyLastChargeConsumedMAh ∨
          (w.fc.flightDistanceM, w.fc.efficiencyLastChargeConsumedMAh) ∈ w.instants
      else deltaChargeMah < 0 → w.fc.flightDistanceM = w.fc.efficiencyLastDistanceM ∨
        (w.fc.efficiencyLastDistanceM, w.fc.batteryConsumedMah) ∈ w.instants
  | _ => True

theorem oneInterval_init (now : ℤ) : OneInterval (World.init now : World δ) :=
  ⟨List.mem_singleton_self _, .inl rfl⟩

variable {s : FCEfficiency δ} {w : World δ} {now now' : ℤ} {deltaChargeMah : Int32}

/-! ### One step -/

theorem recalculateEfficiency_not_due (hdue : ¬ s.Due now) :
    s.recalculateEfficiency now now' = .ok s := if_pos (Classical.not_not.mp hdue)

theorem recalculateEfficiency_overflow (hdue : s.Due now)
    (hsub : subInt s.batteryConsumedMah s.efficiencyLastChargeConsumedMAh = none) :
    s.recalculateEfficiency now now' = .error .outOfRange := by
  rw [recalculateEfficiency, if_neg hdue]
  simp only [hsub]

/-- A call that is due: what is compared with afterwards, and what is published. -/
theorem recalculateEfficiency_cases (now' : ℤ) (hdue : s.Due now)
    (hsub : subInt s.batteryConsumedMah s.efficiencyLastChargeConsumedMAh = some deltaChargeMah) :
    ∃ s', s.recalculateEfficiency now now' = .ok s' ∧
      if s.flightDistanceM - s.efficiencyLastDistanceM < 0 then
        s'.baseline = (s.flightDistanceM, s.efficiencyLastChargeConsumedMAh) ∧
          s'.batteryConsumedMahPerKm = s.batteryConsumedMahPerKm
      else if deltaChargeMah < 0 then
        s'.baseline = (s.efficiencyLastDistanceM, s.batteryConsumedMah) ∧
          s'.batteryConsumedMahPerKm = s.batteryConsumedMahPerKm
      else
        s'.baseline = s.baseline ∧ s'.batteryConsumedMahPerKm = s.batteryConsumedMahPerKm ∨
          s'.baseline = s.current ∧
            s'.batteryConsumedMahPerKm = efficiency s.baseline s.current := by
  rw [recalculateEfficiency, if_neg hdue]
  simp only [hsub]
  split_ifs with hdistance hcharge henough
  · exact ⟨_, rfl, rfl, rfl⟩
  · exact ⟨_, rfl, rfl, rfl⟩
  · refine ⟨_, rfl, .inr ⟨rfl, ?_⟩⟩
    simp only [efficiency, current, baseline, toInt_of_subInt hsub]
  · exact ⟨_, rfl, .inl ⟨rfl, rfl⟩⟩

/-! ### Runs -/

theorem step_recalculateEfficiency {fc : FCEfficiency δ} (hdue : w.fc.Due now)
    (h : w.fc.recalculateEfficiency now now' = .ok fc) :
    step w (.recalculateEfficiency now now') = .ok ⟨fc, w.instants ++ [w.fc.current]⟩ := by
  rw [step, h, ok_bind, if_pos hdue]
  rfl

/-- Where nothing is published, what is compared with has to be of this instant, or of one
before. -/
theorem OneInterval.kept_iff (h : OneInterval w) {fc : FCEfficiency δ}
    (hpublished : fc.batteryConsumedMahPerKm = w.fc.batteryConsumedMahPerKm) :
    OneInterval ⟨fc, w.instants ++ [w.fc.current]⟩ ↔
      w.fc.current = fc.baseline ∨ fc.baseline ∈ w.instants := by
  constructor
  · intro h'
    rcases List.mem_append.mp h'.baseline with hmem | hmem
    · exact .inr hmem
    · exact .inl (List.mem_singleton.mp hmem).symm
  · rintro hbaseline
    refine ⟨?_, ?_⟩
    · rcases hbaseline with heq | hmem
      · exact List.mem_append_right _ (List.mem_singleton.mpr heq.symm)
      · exact List.mem_append_left _ hmem
    · change fc.batteryConsumedMahPerKm = -1 ∨ _
      rw [hpublished]
      refine h.published.imp_right ?_
      rintro ⟨a, b, hab, hvalue⟩
      exact ⟨a, b, hab.trans (List.sublist_append_left _ _), hvalue⟩

/-- What is published ends at this instant, and began at the one that was compared with. -/
theorem OneInterval.publish (h : OneInterval w) {fc : FCEfficiency δ}
    (hbaseline : fc.baseline = w.fc.current)
    (hpublished : fc.batteryConsumedMahPerKm = efficiency w.fc.baseline w.fc.current) :
    OneInterval ⟨fc, w.instants ++ [w.fc.current]⟩ := by
  refine ⟨?_, .inr ⟨w.fc.baseline, w.fc.current, ?_, hpublished⟩⟩
  · exact List.mem_append_right _ (List.mem_singleton.mpr hbaseline)
  · exact (List.singleton_sublist.mpr h.baseline).append (List.Sublist.refl [w.fc.current])

/-- A recalculation keeps both values of one instant exactly under the condition. -/
theorem OneInterval.recalculateEfficiency_iff (h : OneInterval w) (now now' : ℤ) :
    (∃ w', step w (.recalculateEfficiency now now') = .ok w' ∧ OneInterval w') ↔
      Together w (.recalculateEfficiency now now') := by
  by_cases hdue : w.fc.Due now
  · rcases hsub : subInt w.fc.batteryConsumedMah w.fc.efficiencyLastChargeConsumedMAh with
      - | deltaChargeMah
    · have hstep : step w (.recalculateEfficiency now now') = .error .outOfRange := by
        rw [step, recalculateEfficiency_overflow hdue hsub, error_bind]
      simp [hstep, Together, hdue, hsub]
    · obtain ⟨fc, hfc, hcases⟩ := recalculateEfficiency_cases now' hdue hsub
      simp only [step_recalculateEfficiency hdue hfc, Except.ok.injEq, exists_eq_left', Together,
        hdue, forall_const, hsub, Option.some.injEq]
      split_ifs at hcases ⊢ with hdistance hcharge
      · rw [h.kept_iff hcases.2, hcases.1]
        simp [current]
      · rw [h.kept_iff hcases.2, hcases.1]
        simp [current, hcharge]
      · refine iff_of_true ?_ fun h' => absurd h' hcharge
        rcases hcases with ⟨hbaseline, hpublished⟩ | ⟨hbaseline, hpublished⟩
        · exact (h.kept_iff hpublished).mpr (.inr (hbaseline ▸ h.baseline))
        · exact h.publish hbaseline hpublished
  · have hstep : step w (.recalculateEfficiency now now') = .ok w := by
      rw [step, recalculateEfficiency_not_due hdue, ok_bind, if_neg hdue]
      rfl
    exact ⟨fun _ h' => absurd h' hdue, fun _ => ⟨w, hstep, h⟩⟩

theorem OneInterval.step_iff (h : OneInterval w) (e : Event δ) :
    (∃ w', step w e = .ok w' ∧ OneInterval w') ↔ Together w e := by
  cases e with
  | setBatteryConsumedMah charge => exact iff_of_true ⟨_, rfl, h.baseline, h.published⟩ trivial
  | setFlightDistanceM distance => exact iff_of_true ⟨_, rfl, h.baseline, h.published⟩ trivial
  | setArmed armed => exact iff_of_true ⟨_, rfl, h.baseline, h.published⟩ trivial
  | recalculateEfficiency now now' => exact h.recalculateEfficiency_iff now now'

/-- **Efficiency uses one interval** in every state of a run, exactly if nothing becomes less
while the other value changes. -/
theorem oneInterval_iff (now : ℤ) (events : List (Event δ)) :
    OneInterval (World.init now : World δ) ∧
      EveryStep (fun w e => ∃ w', step w e = .ok w' ∧ OneInterval w') step (World.init now) events ↔
    EveryStep Together step (World.init now) events := by
  rw [and_iff_right (oneInterval_init now)]
  refine everyStep_congr_of_keeps (fun w e h => h.step_iff e) (fun w e w' h htogether hstep => ?_)
    (oneInterval_init now) events
  obtain ⟨w'', hstep', h'⟩ := (h.step_iff e).mpr htogether
  obtain rfl := Except.ok.inj (hstep.symm.trans hstep')
  exact h'

/-- The vehicle is armed after something was published. -/
theorem not_oneInterval_armed :
    ¬ ∀ w, run step (World.init 0 : World ℚ)
      [.setFlightDistanceM 500, .setBatteryConsumedMah 50,
        .recalculateEfficiency 2000000000 2000000000, .setArmed true, .setBatteryConsumedMah 60,
        .recalculateEfficiency 4000000000 4000000000] = .ok w → OneInterval w := by
  intro h
  have hrun := h ⟨⟨⟨true, 0⟩, 60, 100, 0, 50, 4000000000⟩, [(0, 0), (500, 50), (0, 60)]⟩
    (by decide +kernel)
  exact absurd hrun.baseline (by decide)

end FCEfficiency

end QOpenHD
