/-
QOpenHD/FCFlightDistance.lean

The distance flown since the vehicle was armed (`FCMavlinkSystem`, the positions and
`set_armed`, `fcmavlinksystem.cpp`).

A position counts when it is more than 2 m away from the last one that did.  The sum goes
on for as long as the program runs, also while the vehicle is disarmed, and the last
position stays from one flight to the next.  What is published is set to 0 when the
vehicle is armed, and then to the whole sum.

* `World` — the values, and the steps of the current flight as they should count;
* `Inv.globalPositionInt` — where the condition is met, a position does to the values what
  it should;
* **`distance_of_everyStep`** — every run in which it is met throughout publishes the sum of the
  steps of the current flight.
-/
import QOpenHD.Checked
import Mathlib.Algebra.Notation.Defs
import Mathlib.Data.Int.Cast.Defs
import Mathlib.Data.Rat.Floor

namespace QOpenHD

open Checked

/-- What the code does with doubles.  Nothing is assumed of it. -/
class DoubleArith (δ : Type) extends Zero δ, One δ, Add δ, Sub δ, Div δ, IntCast δ, BEq δ, LT δ,
    LE δ where
  decidableLT : DecidableLT δ
  decidableLE : DecidableLE δ
  /-- `std::round`, and the conversion to an `int`. -/
  round : δ → Int32

instance DoubleArith.instDecidableLT (δ : Type) [DoubleArith δ] : DecidableLT δ :=
  DoubleArith.decidableLT

instance DoubleArith.instDecidableLE (δ : Type) [DoubleArith δ] : DecidableLE δ :=
  DoubleArith.decidableLE

/-- Fractions, for examples. -/
instance : DoubleArith ℚ where
  decidableLT := inferInstance
  decidableLE := inferInstance
  round q := Int32.ofInt (round q)

/-- What `set_armed` has to do with, of `FCMavlinkSystem`. -/
structure FCArming (δ : Type) where
  armed : Bool
  flightDistanceM : δ
  deriving DecidableEq

/-- `set_armed`: the distance of a flight begins with 0. -/
def FCArming.setArmed {δ : Type} [Zero δ] (s : FCArming δ) (armed : Bool) : FCArming δ :=
  if s.armed = armed then s
  else if armed && !s.armed then { s with flightDistanceM := 0, armed := armed }
  else { s with armed := armed }

theorem FCArming.setArmed_armed {δ : Type} [Zero δ] (s : FCArming δ) (armed : Bool) :
    (s.setArmed armed).armed = armed := by
  unfold setArmed
  split_ifs with heq
  · exact heq
  · rfl
  · rfl

/-- A flight begins. -/
theorem FCArming.setArmed_flightDistanceM {δ : Type} [Zero δ] (s : FCArming δ) (armed : Bool) :
    (s.setArmed armed).flightDistanceM =
      if armed && !s.armed then 0 else s.flightDistanceM := by
  unfold setArmed
  by_cases hstart : (armed && !s.armed) = true
  · have hne : ¬ s.armed = armed := by grind
    rw [if_neg hne, if_pos hstart, if_pos hstart]
  · rw [if_neg hstart, if_neg hstart]
    split <;> rfl

/-- The part of `FCMavlinkSystem` that has to do with it. -/
structure FCFlightDistance (δ : Type) extends FCArming δ where
  lat : δ
  lon : δ
  lastLat : δ
  lastLon : δ
  gpsHdop : δ
  totalDist : δ

namespace FCFlightDistance

variable {δ : Type} [DoubleArith δ]

def new : FCFlightDistance δ := ⟨⟨false, 0⟩, 0, 0, 0, 0, ((-1 : ℤ) : δ), 0⟩

def setArmed (s : FCFlightDistance δ) (armed : Bool) : FCFlightDistance δ :=
  { s with toFCArming := s.toFCArming.setArmed armed }

/-- `GPS_RAW_INT` -/
def gpsRawInt (s : FCFlightDistance δ) (eph : UInt16) : FCFlightDistance δ :=
  { s with gpsHdop := ((eph.toNat : ℤ) : δ) / ((100 : ℤ) : δ) }

/-- A latitude or longitude of a message, in degrees. -/
def degrees (e7 : Int32) : δ := (e7.toInt : δ) / ((10000000 : ℤ) : δ)

/-- There is a position, and it can be trusted. -/
def gpsGood (s : FCFlightDistance δ) : Bool :=
  s.lat != 0 && s.lon != 0 && decide (s.gpsHdop < ((20 : ℤ) : δ))

/-- No position has counted yet, as far as the code can tell. -/
def noLast (s : FCFlightDistance δ) : Bool := s.lastLat == 0 && s.lastLon == 0

variable (distanceBetween : δ → δ → δ → δ → δ)

/-- `added_distance_m`, where the position can be trusted. -/
def addedDistanceM (s : FCFlightDistance δ) (lat lon : δ) : δ :=
  if s.noLast then distanceBetween s.lat s.lon lat lon
  else distanceBetween s.lastLat s.lastLon lat lon

/-- `GLOBAL_POSITION_INT` -/
def globalPositionInt (s : FCFlightDistance δ) (latE7 lonE7 : Int32) : FCFlightDistance δ :=
  let lat := degrees latE7
  let lon := degrees lonE7
  let s :=
    if s.gpsGood then
      let addedDistanceM := s.addedDistanceM distanceBetween lat lon
      if ((2 : ℤ) : δ) < addedDistanceM then
        let s := { s with totalDist := s.totalDist + addedDistanceM }
        if s.armed then
          { s with flightDistanceM := s.totalDist, lastLat := lat, lastLon := lon }
        else s
      else s
    else s
  { s with lat := lat, lon := lon }

/-! ### The system -/

/-- The values; the steps that should count for the current flight; and the position that the last
of them led to. -/
structure World (δ : Type) where
  fc : FCFlightDistance δ
  steps : List δ
  accepted : Option (δ × δ)

def World.init : World δ := ⟨new, [], none⟩

/-- A step that should count is measured from the last position of the flight that did, and the
first one from the position before. -/
def World.stepTo (w : World δ) (lat lon : δ) : δ :=
  match w.accepted with
  | some (lastLat, lastLon) => distanceBetween lastLat lastLon lat lon
  | none => distanceBetween w.fc.lat w.fc.lon lat lon

inductive Event
  | globalPositionInt (latE7 lonE7 : Int32)
  | gpsRawInt (eph : UInt16)
  | setArmed (armed : Bool)

def step (w : World δ) : Event → Exec (World δ)
  | .globalPositionInt latE7 lonE7 =>
    let added := w.stepTo distanceBetween (degrees latE7) (degrees lonE7)
    let fc := w.fc.globalPositionInt distanceBetween latE7 lonE7
    if w.fc.armed && w.fc.gpsGood && decide (((2 : ℤ) : δ) < added) then
      pure ⟨fc, w.steps ++ [added], some (degrees latE7, degrees lonE7)⟩
    else pure ⟨fc, w.steps, w.accepted⟩
  | .gpsRawInt eph => pure { w with fc := w.fc.gpsRawInt eph }
  | .setArmed armed =>
    if armed && !w.fc.armed then pure ⟨w.fc.setArmed armed, [], none⟩
    else pure { w with fc := w.fc.setArmed armed }

/-- The sum of the steps is published. -/
def DistanceRight (w : World δ) : Prop := w.fc.flightDistanceM = w.steps.foldl (· + ·) 0

/-- A position of a flight leaves the sum published. -/
def PublishesRight (w : World δ) : Event → Prop
  | .globalPositionInt latE7 lonE7 => w.fc.armed = true →
    ∀ w', step distanceBetween w (.globalPositionInt latE7 lonE7) = .ok w' → DistanceRight w'
  | _ => True

/-- Before the first step of a flight nothing was added up and no last position is there.  Later
the last position can be told from none. -/
def LastRight (w : World δ) : Prop :=
  if w.accepted = none then w.fc.totalDist = 0 ∧ w.fc.noLast = true else w.fc.noLast = false

/-- The condition, where a position of a flight counts, for the code or as it should. -/
def FirstFlight (w : World δ) : Event → Prop
  | .globalPositionInt latE7 lonE7 => w.fc.armed = true → w.fc.gpsGood = true →
    (((2 : ℤ) : δ) < w.fc.addedDistanceM distanceBetween (degrees latE7) (degrees lonE7) ∨
      ((2 : ℤ) : δ) < w.stepTo distanceBetween (degrees latE7) (degrees lonE7)) → LastRight w
  | _ => True

section Decidable

variable [DecidableEq δ]

instance (w : World δ) : Decidable (DistanceRight w) := inferInstanceAs (Decidable (_ = _))

/-- On a given run it can be evaluated what is published. -/
instance (w : World δ) : (e : Event) → Decidable (PublishesRight distanceBetween w e)
  | .globalPositionInt latE7 lonE7 =>
    have : Decidable (∀ w', step distanceBetween w (.globalPositionInt latE7 lonE7) = .ok w' →
        DistanceRight w') :=
      match step distanceBetween w (.globalPositionInt latE7 lonE7) with
      | .error _ => isTrue nofun
      | .ok w₁ => decidable_of_iff (DistanceRight w₁) (by simp)
    inferInstanceAs (Decidable (_ → _))
  | .gpsRawInt _ => isTrue trivial
  | .setArmed _ => isTrue trivial

instance (w : World δ) : Decidable (LastRight w) :=
  inferInstanceAs (Decidable (if w.accepted = none then _ ∧ _ else _))

instance (w : World δ) : (e : Event) → Decidable (FirstFlight distanceBetween w e)
  | .globalPositionInt _ _ => inferInstanceAs (Decidable (_ → _ → _ → _))
  | .gpsRawInt _ => isTrue trivial
  | .setArmed _ => isTrue trivial

end Decidable

variable {distanceBetween} {w w' : World δ}

/-! ### One step -/

/-- What a run in which the condition is met keeps. -/
structure Inv (w : World δ) : Prop where
  right : DistanceRight w
  first : w.accepted = none → w.steps = []
  later : w.fc.armed = true → ∀ lat lon, w.accepted = some (lat, lon) →
    w.fc.lastLat = lat ∧ w.fc.lastLon = lon ∧ w.fc.totalDist = w.steps.foldl (· + ·) 0

theorem inv_init : Inv (World.init : World δ) := ⟨rfl, fun _ => rfl, nofun⟩

/-- A position of a flight that counts. -/
theorem globalPositionInt_counts {s : FCFlightDistance δ} (harmed : s.armed = true)
    (hgood : s.gpsGood = true) {latE7 lonE7 : Int32} {added : δ}
    (hadded : s.addedDistanceM distanceBetween (degrees latE7) (degrees lonE7) = added)
    (hfar : ((2 : ℤ) : δ) < added) :
    s.globalPositionInt distanceBetween latE7 lonE7 =
      { s with
        totalDist := s.totalDist + added
        flightDistanceM := s.totalDist + added
        lastLat := degrees latE7
        lastLon := degrees lonE7
        lat := degrees latE7
        lon := degrees lonE7 } := by
  simp only [globalPositionInt, if_pos hgood, hadded, if_pos hfar, if_pos harmed]

/-- One that does not. -/
theorem globalPositionInt_skips {s : FCFlightDistance δ} {latE7 lonE7 : Int32}
    (h : s.gpsGood = true →
      ¬ ((2 : ℤ) : δ) < s.addedDistanceM distanceBetween (degrees latE7) (degrees lonE7)) :
    s.globalPositionInt distanceBetween latE7 lonE7 =
      { s with lat := degrees latE7, lon := degrees lonE7 } := by
  by_cases hgood : s.gpsGood = true
  · simp only [globalPositionInt, if_pos hgood, if_neg (h hgood)]
  · simp only [globalPositionInt, if_neg hgood]

variable (distanceBetween) in
/-- While the vehicle is disarmed, a position adds at most to the sum. -/
theorem globalPositionInt_disarmed {s : FCFlightDistance δ} (harmed : ¬ s.armed = true)
    (latE7 lonE7 : Int32) :
    ∃ totalDist, s.globalPositionInt distanceBetween latE7 lonE7 =
      { s with totalDist := totalDist, lat := degrees latE7, lon := degrees lonE7 } := by
  by_cases h : s.gpsGood = true →
      ¬ ((2 : ℤ) : δ) < s.addedDistanceM distanceBetween (degrees latE7) (degrees lonE7)
  · exact ⟨s.totalDist, globalPositionInt_skips h⟩
  · obtain ⟨hgood, hfar⟩ := Classical.not_imp.mp h
    refine ⟨s.totalDist + s.addedDistanceM distanceBetween (degrees latE7) (degrees lonE7), ?_⟩
    simp only [globalPositionInt, if_pos hgood, if_pos (Classical.not_not.mp hfar), if_neg harmed]

/-- What a position that should not count is for the system. -/
theorem step_skips {latE7 lonE7 : Int32}
    (h : ¬ (w.fc.armed = true ∧ w.fc.gpsGood = true ∧
      ((2 : ℤ) : δ) < w.stepTo distanceBetween (degrees latE7) (degrees lonE7))) :
    step distanceBetween w (.globalPositionInt latE7 lonE7) =
      .ok ⟨w.fc.globalPositionInt distanceBetween latE7 lonE7, w.steps, w.accepted⟩ := by
  simp only [step]
  rw [if_neg (by simpa [and_assoc] using h)]
  rfl

/-- And one that should. -/
theorem step_counts {latE7 lonE7 : Int32} (harmed : w.fc.armed = true)
    (hgood : w.fc.gpsGood = true)
    (hfar : ((2 : ℤ) : δ) < w.stepTo distanceBetween (degrees latE7) (degrees lonE7)) :
    step distanceBetween w (.globalPositionInt latE7 lonE7) =
      .ok ⟨w.fc.globalPositionInt distanceBetween latE7 lonE7,
        w.steps ++ [w.stepTo distanceBetween (degrees latE7) (degrees lonE7)],
        some (degrees latE7, degrees lonE7)⟩ := by
  simp only [step]
  rw [if_pos (by simp [harmed, hgood, hfar])]
  rfl

/-! ### Runs -/

/-- Where the last position is the one it should be, or none as it should be, the code measures
from the right one. -/
theorem Inv.addedDistanceM_eq (h : Inv w) (harmed : w.fc.armed = true)
    (hlast : LastRight w) (lat lon : δ) :
    w.fc.addedDistanceM distanceBetween lat lon = w.stepTo distanceBetween lat lon ∧
      w.fc.totalDist = w.steps.foldl (· + ·) 0 := by
  rcases hacc : w.accepted with - | ⟨lastLat, lastLon⟩
  · rw [LastRight, if_pos hacc] at hlast
    rw [h.first hacc, addedDistanceM, if_pos hlast.2, World.stepTo, hacc]
    exact ⟨rfl, hlast.1⟩
  · rw [LastRight, if_neg (by simp [hacc])] at hlast
    obtain ⟨hlat, hlon, htotal⟩ := h.later harmed _ _ hacc
    rw [addedDistanceM, if_neg (by simp [hlast]), World.stepTo, hacc, hlat, hlon]
    exact ⟨rfl, htotal⟩

/-- A position that does not count leaves what is published, and what was added up. -/
theorem Inv.skip (h : Inv w) {fc : FCFlightDistance δ} {totalDist lat lon : δ}
    (htotal : w.fc.armed = true → totalDist = w.fc.totalDist)
    (hfc : fc = { w.fc with totalDist := totalDist, lat := lat, lon := lon }) :
    Inv ⟨fc, w.steps, w.accepted⟩ := by
  subst hfc
  refine ⟨h.right, h.first, fun harmed lastLat lastLon hacc => ?_⟩
  obtain ⟨hlat, hlon, hsum⟩ := h.later harmed lastLat lastLon hacc
  exact ⟨hlat, hlon, (htotal harmed).trans hsum⟩

/-- A position, where the condition is met. -/
theorem Inv.globalPositionInt (h : Inv w) {latE7 lonE7 : Int32}
    (hfirst : FirstFlight distanceBetween w (.globalPositionInt latE7 lonE7)) :
    ∃ w', step distanceBetween w (.globalPositionInt latE7 lonE7) = .ok w' ∧ Inv w' := by
  by_cases harmed : w.fc.armed = true
  · by_cases hfar : w.fc.gpsGood = true ∧
      (((2 : ℤ) : δ) < w.fc.addedDistanceM distanceBetween (degrees latE7) (degrees lonE7) ∨
        ((2 : ℤ) : δ) < w.stepTo distanceBetween (degrees latE7) (degrees lonE7))
    · obtain ⟨hgood, hfar⟩ := hfar
      obtain ⟨hadded, htotal⟩ := h.addedDistanceM_eq harmed (hfirst harmed hgood hfar)
        (degrees latE7) (degrees lonE7)
      rw [hadded, or_self] at hfar
      refine ⟨_, step_counts harmed hgood hfar, ?_⟩
      rw [globalPositionInt_counts harmed hgood hadded hfar, htotal]
      refine ⟨by simp [DistanceRight, List.foldl_append], nofun, fun _ lat lon hacc => ?_⟩
      obtain ⟨rfl, rfl⟩ := Prod.mk.inj (Option.some.inj hacc)
      exact ⟨rfl, rfl, by simp [List.foldl_append]⟩
    · refine ⟨_, step_skips fun h' => hfar ⟨h'.2.1, .inr h'.2.2⟩, ?_⟩
      exact h.skip (fun _ => rfl)
        (globalPositionInt_skips fun hgood hcode => hfar ⟨hgood, .inl hcode⟩)
  · obtain ⟨totalDist, hfc⟩ := globalPositionInt_disarmed distanceBetween harmed latE7 lonE7
    exact ⟨_, step_skips fun h' => harmed h'.1, h.skip (fun h' => absurd h' harmed) hfc⟩

theorem Inv.setArmed (h : Inv w) (armed : Bool) :
    ∃ w', step distanceBetween w (.setArmed armed) = .ok w' ∧ Inv w' := by
  have harmed := w.fc.setArmed_armed armed
  have hdistance := w.fc.setArmed_flightDistanceM armed
  by_cases hstart : (armed && !w.fc.armed) = true
  · rw [if_pos hstart] at hdistance
    exact ⟨_, if_pos hstart, hdistance, fun _ => rfl, nofun⟩
  · rw [if_neg hstart] at hdistance
    refine ⟨_, if_neg hstart, hdistance.trans h.right, h.first, fun hafter => h.later ?_⟩
    -- armed already: the flight goes on
    have hset : armed = true := harmed.symm.trans hafter
    simpa [hset] using hstart

theorem Inv.step (h : Inv w) {e : Event} (hfirst : FirstFlight distanceBetween w e) :
    ∃ w', step distanceBetween w e = .ok w' ∧ Inv w' := by
  cases e with
  | globalPositionInt latE7 lonE7 => exact h.globalPositionInt hfirst
  | gpsRawInt eph => exact ⟨_, rfl, h.right, h.first, h.later⟩
  | setArmed armed => exact h.setArmed armed

/-- **Flight distance is per flight** in every run in which no flight finds anything that was
added up before, and no position that counted is (0, 0). -/
theorem distance_of_everyStep (distanceBetween : δ → δ → δ → δ → δ) (events : List Event)
    (h : EveryStep (FirstFlight distanceBetween) (FCFlightDistance.step distanceBetween)
      World.init events) :
    Safe (run (FCFlightDistance.step distanceBetween) World.init events) ∧
      EveryStep (PublishesRight distanceBetween) (FCFlightDistance.step distanceBetween)
        World.init events := by
  refine run_safe_of_everyStep (fun w e hinv hfirst => ?_) inv_init h
  obtain ⟨w', hstep, hinv'⟩ := hinv.step hfirst
  refine ⟨?_, w', hstep, hinv'⟩
  cases e with
  | globalPositionInt latE7 lonE7 =>
      intro _ w'' h''
      obtain rfl := Except.ok.inj (hstep.symm.trans h'')
      exact hinv'.right
  | gpsRawInt | setArmed => trivial

/-- Two positions 3 m apart, in the first flight. -/
theorem distance_of_everyStep_first :
    EveryStep (PublishesRight fun _ _ _ _ => 3) (FCFlightDistance.step fun _ _ _ _ => (3 : ℚ))
      World.init
      [.gpsRawInt 100, .globalPositionInt 1 1, .setArmed true, .globalPositionInt 2 2] :=
  (distance_of_everyStep (fun _ _ _ _ => 3) _ (by decide +kernel)).2

/-- A second flight begins with the distance of the first one. -/
theorem not_publishesRight_second :
    ¬ EveryStep (PublishesRight fun _ _ _ _ => 3) (FCFlightDistance.step fun _ _ _ _ => (3 : ℚ))
      World.init
      [.gpsRawInt 100, .globalPositionInt 1 1, .setArmed true, .globalPositionInt 2 2,
        .setArmed false, .setArmed true, .globalPositionInt 3 3] := by
  decide +kernel

end FCFlightDistance

end QOpenHD
