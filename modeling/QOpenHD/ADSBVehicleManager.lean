/-
QOpenHD/ADSBVehicleManager.lean

`ADSBVehicleManager` (`adsbvehiclemanager.cpp`, `adsbvehicle.cpp`): the aircraft
on the map.

The manager keeps its vehicles twice, in the list that is displayed and in a map
from ICAO addresses.  Both hold pointers, so the model has a heap: an object is
known by its number, a pointer to an object that was deleted cannot be followed.

* `Consistent` — list and map hold the same live objects, one for each address;
* `Consistent.cleanupStaleVehicles`, `Consistent.adsbVehicleUpdate` — two of the
  three operations keep it, whatever has expired;
* **`keepsStore_iff`** — a run does exactly as long as `adsbClearModel`, which forgets
  the map, finds nothing to clear.
-/
import QOpenHD.Checked
import Mathlib.Data.List.Nodup

namespace QOpenHD

open Checked

/-! ### Vehicles -/

/-- `ADSBVehicle::VehicleInfo_t` -/
structure VehicleInfo where
  icaoAddress : UInt32
  callsign : String
  lat : Float
  lon : Float
  altitude : Float
  velocity : Float
  heading : Float
  alert : Int32
  availableFlags : UInt32
  lastContact : Int32
  verticalVel : Float
  distance : Float

structure ADSBVehicle where
  icaoAddress : UInt32
  callsign : String
  lat : Float
  lon : Float
  altitude : Float
  velocity : Float
  heading : Float
  alert : Int32
  lastContact : Int32
  verticalVel : Float
  distance : Float

namespace ADSBVehicle

def CallsignAvailable : UInt32 := (1 : UInt32) <<< 1
def LocationAvailable : UInt32 := (1 : UInt32) <<< 2
def AltitudeAvailable : UInt32 := (1 : UInt32) <<< 3
def HeadingAvailable : UInt32 := (1 : UInt32) <<< 4
def AlertAvailable : UInt32 := (1 : UInt32) <<< 5
def VelocityAvailable : UInt32 := (1 : UInt32) <<< 6
def VerticalVelAvailable : UInt32 := (1 : UInt32) <<< 7
def LastContactAvailable : UInt32 := (1 : UInt32) <<< 8
/-- The same bit as `LastContactAvailable`. -/
def DistanceAvailable : UInt32 := (1 : UInt32) <<< 8

/-- `vehicleInfo.availableFlags & flag` -/
def available (vehicleInfo : VehicleInfo) (flag : UInt32) : Bool :=
  vehicleInfo.availableFlags &&& flag != 0

def qQNaN : Float := 0.0 / 0.0

def qFuzzyCompare (p₁ p₂ : Float) : Bool :=
  (p₁ - p₂).abs * 1000000000000.0 ≤ min p₁.abs p₂.abs

/-- What a height or a heading is set for: it is a different one. -/
def differs (new old : Float) : Bool := !(new.isNaN && old.isNaN) && !qFuzzyCompare new old

/-- `ADSBVehicle::update`, without its signals. -/
def update (vehicle : ADSBVehicle) (vehicleInfo : VehicleInfo) : ADSBVehicle :=
  if vehicle.icaoAddress != vehicleInfo.icaoAddress then vehicle
  else
    { icaoAddress := vehicle.icaoAddress
      callsign :=
        if available vehicleInfo CallsignAvailable then vehicleInfo.callsign else vehicle.callsign
      lat :=
        if available vehicleInfo LocationAvailable &&
          (vehicle.lat != vehicleInfo.lat || vehicle.lon != vehicleInfo.lon) then vehicleInfo.lat
        else vehicle.lat
      lon :=
        if available vehicleInfo LocationAvailable &&
          (vehicle.lat != vehicleInfo.lat || vehicle.lon != vehicleInfo.lon) then vehicleInfo.lon
        else vehicle.lon
      altitude :=
        if available vehicleInfo AltitudeAvailable && differs vehicleInfo.altitude vehicle.altitude
        then vehicleInfo.altitude
        else vehicle.altitude
      velocity :=
        if available vehicleInfo VelocityAvailable && vehicleInfo.velocity != vehicle.velocity
        then vehicleInfo.velocity
        else vehicle.velocity
      heading :=
        if available vehicleInfo HeadingAvailable && differs vehicleInfo.heading vehicle.heading
        then vehicleInfo.heading
        else vehicle.heading
      alert := if available vehicleInfo AlertAvailable then vehicleInfo.alert else vehicle.alert
      lastContact :=
        if available vehicleInfo LastContactAvailable then vehicleInfo.lastContact
        else vehicle.lastContact
      verticalVel :=
        if available vehicleInfo VerticalVelAvailable &&
          vehicleInfo.verticalVel != vehicle.verticalVel then vehicleInfo.verticalVel
        else vehicle.verticalVel
      distance :=
        if available vehicleInfo DistanceAvailable && vehicleInfo.distance != vehicle.distance
        then vehicleInfo.distance
        else vehicle.distance }

/-- The constructor, in the memory the object was given: what it does not
initialize is what was there before. -/
def construct (memory : ADSBVehicle) (vehicleInfo : VehicleInfo) : ADSBVehicle :=
  update
    { memory with
      icaoAddress := vehicleInfo.icaoAddress
      callsign := ""
      altitude := qQNaN
      heading := qQNaN
      alert := 0 }
    vehicleInfo

/-- `ADSBVehicle::icaoAddress`, an `int`. -/
def icaoAddressInt (vehicle : ADSBVehicle) : Int32 := vehicle.icaoAddress.toInt32

/-- An update leaves the address alone. -/
@[simp] theorem icaoAddress_update (vehicle : ADSBVehicle) (vehicleInfo : VehicleInfo) :
    (vehicle.update vehicleInfo).icaoAddress = vehicle.icaoAddress := by
  unfold update
  split
  · rfl
  · rfl

@[simp] theorem icaoAddress_construct (memory : ADSBVehicle) (vehicleInfo : VehicleInfo) :
    (construct memory vehicleInfo).icaoAddress = vehicleInfo.icaoAddress := icaoAddress_update _ _

end ADSBVehicle

/-! ### The manager -/

structure ADSBVehicleManager where
  /-- The objects that were created and not deleted. -/
  heap : ℕ → Option ADSBVehicle
  /-- The number of the next object. -/
  nextObject : ℕ
  adsbVehicles : List ℕ
  adsbICAOMap : UInt32 → Option ℕ
  status : ℕ

namespace ADSBVehicleManager

def new : ADSBVehicleManager := ⟨fun _ => none, 0, [], fun _ => none, 0⟩

/-- The object behind a pointer. -/
def deref (m : ADSBVehicleManager) (p : ℕ) : Exec ADSBVehicle :=
  match m.heap p with
  | some vehicle => .ok vehicle
  | none => .error .outOfBounds

/-- One turn of the loop of `_cleanupStaleVehicles`. -/
def cleanupAt (expired : ℕ → Bool) (i : ℕ) (m : ADSBVehicleManager) :
    Exec ADSBVehicleManager := do
  let p ← load m.adsbVehicles i
  let adsbVehicle ← m.deref p
  if expired p then
    pure { m with
      adsbVehicles := m.adsbVehicles.eraseIdx i
      adsbICAOMap := Function.update m.adsbICAOMap adsbVehicle.icaoAddressInt.toUInt32 none
      heap := Function.update m.heap p none }
  else pure m

/-- The loop, from index `i - 1` down. -/
def cleanupBelow (expired : ℕ → Bool) : ℕ → ADSBVehicleManager → Exec ADSBVehicleManager
  | 0, m => .ok m
  | i + 1, m => cleanupAt expired i m >>= cleanupBelow expired i

/-- `_cleanupStaleVehicles`, where these objects have expired and the last update is
`elapsed` milliseconds ago. -/
def cleanupStaleVehicles (expired : ℕ → Bool) (elapsed : ℕ) (m : ADSBVehicleManager) :
    Exec ADSBVehicleManager := do
  let m ← cleanupBelow expired m.adsbVehicles.length m
  if elapsed > 60000 then pure { m with status := 0 }
  else if elapsed > 20000 then pure { m with status := 1 }
  else pure m

/-- `QmlObjectListModel::clearAndDeleteContents` of the list. -/
def adsbClearModel (m : ADSBVehicleManager) : Exec ADSBVehicleManager := do
  let _ ← m.adsbVehicles.mapM m.deref
  pure { m with
    adsbVehicles := []
    heap := fun p => if p ∈ m.adsbVehicles then none else m.heap p }

/-- With one more vehicle. -/
def added (m : ADSBVehicleManager) (icaoAddress : UInt32) (adsbVehicle : ADSBVehicle) :
    ADSBVehicleManager :=
  { m with
    heap := Function.update m.heap m.nextObject (some adsbVehicle)
    nextObject := m.nextObject + 1
    adsbVehicles := m.adsbVehicles ++ [m.nextObject]
    adsbICAOMap := Function.update m.adsbICAOMap icaoAddress (some m.nextObject) }

def adsbVehicleUpdate (vehicleInfo : VehicleInfo) (memory : ADSBVehicle) (m : ADSBVehicleManager) :
    Exec ADSBVehicleManager :=
  if ADSBVehicle.available vehicleInfo ADSBVehicle.LocationAvailable then
    match m.adsbICAOMap vehicleInfo.icaoAddress with
    | some p => do
      let adsbVehicle ← m.deref p
      pure { m with
        heap := Function.update m.heap p (some (adsbVehicle.update vehicleInfo))
        status := 2 }
    | none =>
      .ok { m.added vehicleInfo.icaoAddress (.construct memory vehicleInfo) with status := 2 }
  else .ok m

inductive Event
  | adsbVehicleUpdate (vehicleInfo : VehicleInfo) (memory : ADSBVehicle)
  | cleanupStaleVehicles (expired : ℕ → Bool) (elapsed : ℕ)
  | adsbClearModel

def step (m : ADSBVehicleManager) : Event → Exec ADSBVehicleManager
  | .adsbVehicleUpdate vehicleInfo memory => m.adsbVehicleUpdate vehicleInfo memory
  | .cleanupStaleVehicles expired elapsed => m.cleanupStaleVehicles expired elapsed
  | .adsbClearModel => m.adsbClearModel

/-! ### Consistency -/

/-- The list and the map hold the same live objects, each under its own address. -/
structure Consistent (m : ADSBVehicleManager) : Prop where
  nodup : m.adsbVehicles.Nodup
  listed : ∀ p ∈ m.adsbVehicles,
    ∃ vehicle, m.heap p = some vehicle ∧ m.adsbICAOMap vehicle.icaoAddress = some p
  mapped : ∀ icao p, m.adsbICAOMap icao = some p →
    p ∈ m.adsbVehicles ∧ ∃ vehicle, m.heap p = some vehicle ∧ vehicle.icaoAddress = icao

/-- The numbers of objects to come are free. -/
def Fresh (m : ADSBVehicleManager) : Prop := ∀ p, m.nextObject ≤ p → m.heap p = none

theorem consistent_new : Consistent new where
  nodup := List.nodup_nil
  listed _ hp := absurd hp List.not_mem_nil
  mapped _ _ h := nomatch h

theorem fresh_new : Fresh new := fun _ _ => rfl

/-- A vehicle with this address is listed. -/
def Lists (m : ADSBVehicleManager) (icao : UInt32) : Prop :=
  ∃ p ∈ m.adsbVehicles, ∃ vehicle, m.heap p = some vehicle ∧ vehicle.icaoAddress = icao

variable {m : ADSBVehicleManager}

theorem deref_of_heap {p : ℕ} {vehicle : ADSBVehicle} (h : m.heap p = some vehicle) :
    m.deref p = .ok vehicle := by
  rw [deref, h]

/-- One address, one vehicle. -/
theorem Consistent.unique (hc : Consistent m) {p q : ℕ} (hp : p ∈ m.adsbVehicles)
    (hq : q ∈ m.adsbVehicles) {v w : ADSBVehicle} (hv : m.heap p = some v) (hw : m.heap q = some w)
    (h : v.icaoAddress = w.icaoAddress) : p = q := by
  obtain ⟨v', hv', hmap⟩ := hc.listed p hp
  obtain ⟨w', hw', hmap'⟩ := hc.listed q hq
  obtain rfl : v = v' := Option.some.inj (hv.symm.trans hv')
  obtain rfl : w = w' := Option.some.inj (hw.symm.trans hw')
  rw [h, hmap'] at hmap
  exact (Option.some.inj hmap).symm

/-! ### Removing what has expired -/

/-- Without the object at an index of the list. -/
def without (m : ADSBVehicleManager) (i p : ℕ) (vehicle : ADSBVehicle) : ADSBVehicleManager :=
  { m with
    adsbVehicles := m.adsbVehicles.eraseIdx i
    adsbICAOMap := Function.update m.adsbICAOMap vehicle.icaoAddress none
    heap := Function.update m.heap p none }

theorem Consistent.without (hc : Consistent m) {i p : ℕ} (hi : m.adsbVehicles[i]? = some p)
    {vehicle : ADSBVehicle} (hv : m.heap p = some vehicle) :
    Consistent (m.without i p vehicle) := by
  have hmem : p ∈ m.adsbVehicles := List.mem_of_getElem? hi
  have herase : m.adsbVehicles.eraseIdx i = m.adsbVehicles.erase p := by
    obtain ⟨hlt, rfl⟩ := List.getElem?_eq_some_iff.mp hi
    exact (hc.nodup.erase_getElem i hlt).symm
  have hrest : ∀ q, q ∈ m.adsbVehicles.eraseIdx i ↔ q ≠ p ∧ q ∈ m.adsbVehicles := by
    intro q
    rw [herase, hc.nodup.mem_erase_iff]
  constructor
  · exact hc.nodup.sublist (List.eraseIdx_sublist ..)
  · intro q hq
    obtain ⟨hne, hq⟩ := (hrest q).mp hq
    obtain ⟨w, hw, hmap⟩ := hc.listed q hq
    refine ⟨w, (Function.update_of_ne hne ..).trans hw, ?_⟩
    have hicao : w.icaoAddress ≠ vehicle.icaoAddress :=
      fun h => hne (hc.unique hq hmem hw hv h)
    exact (Function.update_of_ne hicao ..).trans hmap
  · intro icao q h
    have hicao : icao ≠ vehicle.icaoAddress := by
      rintro rfl
      exact nomatch (Function.update_self ..).symm.trans h
    obtain ⟨hq, w, hw, rfl⟩ := hc.mapped icao q ((Function.update_of_ne hicao ..).symm.trans h)
    have hne : q ≠ p := by
      rintro rfl
      exact hicao (congrArg ADSBVehicle.icaoAddress (Option.some.inj (hw.symm.trans hv)))
    exact ⟨(hrest q).mpr ⟨hne, hq⟩, w, (Function.update_of_ne hne ..).trans hw, rfl⟩

theorem Fresh.without (hf : Fresh m) (i p : ℕ) (vehicle : ADSBVehicle) :
    Fresh (m.without i p vehicle) := by
  intro q hq
  by_cases h : q = p
  · subst h
    exact Function.update_self ..
  · exact (Function.update_of_ne h ..).trans (hf q hq)

/-- A turn of the loop leaves the vehicle or takes it away. -/
theorem cleanupAt_cases (hc : Consistent m) (expired : ℕ → Bool) {i p : ℕ}
    (hi : m.adsbVehicles[i]? = some p) :
    cleanupAt expired i m = .ok m ∨
      ∃ vehicle, m.heap p = some vehicle ∧ cleanupAt expired i m = .ok (m.without i p vehicle) := by
  obtain ⟨vehicle, hv, -⟩ := hc.listed p (List.mem_of_getElem? hi)
  have hload : load m.adsbVehicles i = .ok p := load_eq_ok_iff.mpr hi
  have hback : vehicle.icaoAddressInt.toUInt32 = vehicle.icaoAddress := rfl
  unfold cleanupAt
  rw [hload, ok_bind, deref_of_heap hv, ok_bind, hback]
  split
  · exact .inr ⟨vehicle, hv, rfl⟩
  · exact .inl rfl

/-- **The loop keeps the store consistent**, whatever has expired. -/
theorem Consistent.cleanupBelow (hc : Consistent m) (hf : Fresh m) (expired : ℕ → Bool) {n : ℕ}
    (hn : n ≤ m.adsbVehicles.length) :
    ∃ m', ADSBVehicleManager.cleanupBelow expired n m = .ok m' ∧ Consistent m' ∧ Fresh m' := by
  induction n generalizing m with
  | zero => exact ⟨m, rfl, hc, hf⟩
  | succ i ih =>
      have hi : m.adsbVehicles[i]? = some m.adsbVehicles[i] := List.getElem?_eq_getElem hn
      rcases cleanupAt_cases hc expired hi with h | ⟨vehicle, hv, h⟩
      · obtain ⟨m', h', hm'⟩ := ih hc hf (Nat.le_of_succ_le hn)
        exact ⟨m', by rw [ADSBVehicleManager.cleanupBelow, h, ok_bind, h'], hm'⟩
      · have hlen : i ≤ (m.without i m.adsbVehicles[i] vehicle).adsbVehicles.length := by
          show i ≤ (m.adsbVehicles.eraseIdx i).length
          rw [List.length_eraseIdx_of_lt hn]
          omega
        obtain ⟨m', h', hm'⟩ := ih (hc.without hi hv) (hf.without i _ vehicle) hlen
        exact ⟨m', by rw [ADSBVehicleManager.cleanupBelow, h, ok_bind, h'], hm'⟩

/-- The status is no matter of the store. -/
theorem Consistent.withStatus (hc : Consistent m) (status : ℕ) :
    Consistent { m with status := status } := { hc with }

theorem Consistent.cleanupStaleVehicles (hc : Consistent m) (hf : Fresh m) (expired : ℕ → Bool)
    (elapsed : ℕ) :
    ∃ m', m.cleanupStaleVehicles expired elapsed = .ok m' ∧ Consistent m' ∧ Fresh m' := by
  obtain ⟨m', h, hc', hf'⟩ := hc.cleanupBelow hf expired (Nat.le_refl _)
  unfold ADSBVehicleManager.cleanupStaleVehicles
  rw [h, ok_bind]
  split
  · exact ⟨_, rfl, hc'.withStatus 0, hf'⟩
  split
  · exact ⟨_, rfl, hc'.withStatus 1, hf'⟩
  · exact ⟨m', rfl, hc', hf'⟩

/-! ### Updates -/

/-- An update of a vehicle that is known. -/
theorem adsbVehicleUpdate_of_mapped (vehicleInfo : VehicleInfo) (memory : ADSBVehicle)
    (hloc : ADSBVehicle.available vehicleInfo ADSBVehicle.LocationAvailable = true) {p : ℕ}
    (hmap : m.adsbICAOMap vehicleInfo.icaoAddress = some p) {vehicle : ADSBVehicle}
    (hv : m.heap p = some vehicle) :
    m.adsbVehicleUpdate vehicleInfo memory =
      .ok { m with
        heap := Function.update m.heap p (some (vehicle.update vehicleInfo))
        status := 2 } := by
  rw [adsbVehicleUpdate, if_pos hloc, hmap]
  show (m.deref p >>= _) = _
  rw [deref_of_heap hv]
  rfl

theorem adsbVehicleUpdate_of_unmapped (vehicleInfo : VehicleInfo) (memory : ADSBVehicle)
    (hloc : ADSBVehicle.available vehicleInfo ADSBVehicle.LocationAvailable = true)
    (hmap : m.adsbICAOMap vehicleInfo.icaoAddress = none) :
    m.adsbVehicleUpdate vehicleInfo memory =
      .ok { m.added vehicleInfo.icaoAddress (.construct memory vehicleInfo) with status := 2 } := by
  rw [adsbVehicleUpdate, if_pos hloc, hmap]

/-- What an update with a location leaves behind. -/
theorem Consistent.updated (hc : Consistent m) {p : ℕ} {vehicle vehicle' : ADSBVehicle}
    (hv : m.heap p = some vehicle) (hicao : vehicle'.icaoAddress = vehicle.icaoAddress)
    (status : ℕ) :
    Consistent
      { m with heap := Function.update m.heap p (some vehicle'), status := status } := by
  constructor
  · exact hc.nodup
  · intro q hq
    obtain ⟨w, hw, hmap⟩ := hc.listed q hq
    by_cases h : q = p
    · subst h
      obtain rfl : w = vehicle := Option.some.inj (hw.symm.trans hv)
      refine ⟨vehicle', Function.update_self .., ?_⟩
      show m.adsbICAOMap vehicle'.icaoAddress = _
      rw [hicao, hmap]
    · exact ⟨w, (Function.update_of_ne h ..).trans hw, hmap⟩
  · intro icao q hmap
    obtain ⟨hq, w, hw, hw'⟩ := hc.mapped icao q hmap
    by_cases h : q = p
    · subst h
      obtain rfl : w = vehicle := Option.some.inj (hw.symm.trans hv)
      exact ⟨hq, vehicle', Function.update_self .., hicao.trans hw'⟩
    · exact ⟨hq, w, (Function.update_of_ne h ..).trans hw, hw'⟩

/-- A new vehicle, under an address that is not known. -/
theorem Consistent.added (hc : Consistent m) (hf : Fresh m) {icao : UInt32}
    (hicao : m.adsbICAOMap icao = none) {vehicle : ADSBVehicle} (hv : vehicle.icaoAddress = icao) :
    Consistent (m.added icao vehicle) := by
  have hfree := hf m.nextObject (Nat.le_refl _)
  have hne : ∀ {q w}, m.heap q = some w → q ≠ m.nextObject := by
    rintro q w hw rfl
    exact nomatch hfree.symm.trans hw
  have hnotin : m.nextObject ∉ m.adsbVehicles := by
    intro h
    obtain ⟨w, hw, -⟩ := hc.listed _ h
    exact hne hw rfl
  constructor
  · exact hc.nodup.append (List.nodup_singleton _) (by simpa using hnotin)
  · intro q hq
    rcases List.mem_append.mp hq with hq | hq
    · obtain ⟨w, hw, hmap⟩ := hc.listed q hq
      refine ⟨w, (Function.update_of_ne (hne hw) ..).trans hw, ?_⟩
      have hw' : w.icaoAddress ≠ icao := by
        rintro rfl
        exact nomatch hicao.symm.trans hmap
      exact (Function.update_of_ne hw' ..).trans hmap
    · obtain rfl := List.mem_singleton.mp hq
      refine ⟨vehicle, Function.update_self .., ?_⟩
      rw [hv]
      exact Function.update_self ..
  · intro icao' q hmap
    by_cases h : icao' = icao
    · subst h
      have hself : (m.added icao' vehicle).adsbICAOMap icao' = some m.nextObject :=
        Function.update_self ..
      obtain rfl := Option.some.inj (hself.symm.trans hmap)
      exact ⟨List.mem_append_right _ (List.mem_singleton_self _), vehicle,
        Function.update_self .., hv⟩
    · obtain ⟨hq, w, hw, hw'⟩ :=
        hc.mapped icao' q ((Function.update_of_ne h ..).symm.trans hmap)
      exact ⟨List.mem_append_left _ hq, w, (Function.update_of_ne (hne hw) ..).trans hw, hw'⟩

/-- **An update keeps the store consistent**, and with a location it leaves a listed
vehicle with its address. -/
theorem Consistent.adsbVehicleUpdate (hc : Consistent m) (hf : Fresh m) (vehicleInfo : VehicleInfo)
    (memory : ADSBVehicle) :
    ∃ m', m.adsbVehicleUpdate vehicleInfo memory = .ok m' ∧ Consistent m' ∧ Fresh m' ∧
      (ADSBVehicle.available vehicleInfo ADSBVehicle.LocationAvailable = true →
        Lists m' vehicleInfo.icaoAddress) := by
  by_cases hloc : ADSBVehicle.available vehicleInfo ADSBVehicle.LocationAvailable = true
  · rcases hmap : m.adsbICAOMap vehicleInfo.icaoAddress with - | p
    · have hadded := hc.added hf hmap (ADSBVehicle.icaoAddress_construct memory vehicleInfo)
      refine ⟨_, adsbVehicleUpdate_of_unmapped vehicleInfo memory hloc hmap,
        hadded.withStatus 2, ?_, fun _ => ?_⟩
      · intro q hq
        have hq' : m.nextObject < q := hq
        exact (Function.update_of_ne (Nat.ne_of_gt hq') ..).trans (hf q (Nat.le_of_lt hq'))
      · exact ⟨m.nextObject, List.mem_append_right _ (List.mem_singleton_self _), _,
          Function.update_self .., ADSBVehicle.icaoAddress_construct _ _⟩
    · obtain ⟨hp, vehicle, hv, hicao⟩ := hc.mapped _ p hmap
      refine ⟨_, adsbVehicleUpdate_of_mapped vehicleInfo memory hloc hmap hv,
        hc.updated hv (ADSBVehicle.icaoAddress_update _ _) 2, ?_, fun _ => ?_⟩
      · intro q hq
        have hne : q ≠ p := by
          rintro rfl
          exact nomatch (hf q hq).symm.trans hv
        exact (Function.update_of_ne hne ..).trans (hf q hq)
      · exact ⟨p, hp, _, Function.update_self .., (ADSBVehicle.icaoAddress_update _ _).trans hicao⟩
  · exact ⟨m, if_neg hloc, hc, hf, fun h => absurd h hloc⟩

/-! ### Clearing -/

/-- Everything that is listed can be deleted. -/
theorem Consistent.safe_mapM_deref (hc : Consistent m) {l : List ℕ}
    (hl : ∀ p ∈ l, p ∈ m.adsbVehicles) : Safe (l.mapM m.deref) := by
  refine safe_mapM fun p hp => ?_
  obtain ⟨vehicle, hv, -⟩ := hc.listed p (hl p hp)
  exact ⟨vehicle, deref_of_heap hv⟩

/-- The list is cleared; the map stays as it was. -/
theorem Consistent.adsbClearModel_eq (hc : Consistent m) :
    m.adsbClearModel =
      .ok { m with
        adsbVehicles := []
        heap := fun p => if p ∈ m.adsbVehicles then none else m.heap p } := by
  obtain ⟨vs, hvs⟩ := hc.safe_mapM_deref fun _ h => h
  rw [adsbClearModel, hvs, ok_bind]
  rfl

/-- What is cleared is consistent exactly if there was nothing. -/
theorem Consistent.cleared_iff (hc : Consistent m) {heap : ℕ → Option ADSBVehicle} :
    Consistent { m with adsbVehicles := [], heap := heap } ↔ m.adsbVehicles = [] := by
  constructor
  · intro hcleared
    rcases hl : m.adsbVehicles with - | ⟨p, l⟩
    · rfl
    · obtain ⟨vehicle, -, hmap⟩ := hc.listed p (by rw [hl]; exact List.mem_cons_self)
      exact absurd (hcleared.mapped _ p hmap).1 List.not_mem_nil
  · intro hl
    refine ⟨List.nodup_nil, fun _ h => absurd h List.not_mem_nil, fun icao p hmap => ?_⟩
    exact absurd (hl ▸ (hc.mapped icao p hmap).1) List.not_mem_nil

/-! ### Runs -/

/-- The call returns, the store is consistent behind it, and an update with a
location is listed. -/
def KeepsStore (m : ADSBVehicleManager) (e : Event) : Prop :=
  ∃ m', step m e = .ok m' ∧ Consistent m' ∧
    ∀ vehicleInfo memory, e = .adsbVehicleUpdate vehicleInfo memory →
      ADSBVehicle.available vehicleInfo ADSBVehicle.LocationAvailable = true →
        Lists m' vehicleInfo.icaoAddress

/-- `adsbClearModel` has nothing to clear. -/
def NothingToClear (m : ADSBVehicleManager) (e : Event) : Prop :=
  e = .adsbClearModel → m.adsbVehicles = []

/-- What one call does to a consistent store. -/
theorem step_cases (hc : Consistent m) (hf : Fresh m) (e : Event) :
    ∃ m', step m e = .ok m' ∧ (Consistent m' ↔ NothingToClear m e) ∧ Fresh m' ∧
      ∀ vehicleInfo memory, e = .adsbVehicleUpdate vehicleInfo memory →
        ADSBVehicle.available vehicleInfo ADSBVehicle.LocationAvailable = true →
          Lists m' vehicleInfo.icaoAddress := by
  rcases e with ⟨vehicleInfo, memory⟩ | ⟨expired, elapsed⟩ | -
  · obtain ⟨m', h, hc', hf', hlists⟩ := hc.adsbVehicleUpdate hf vehicleInfo memory
    refine ⟨m', h, iff_of_true hc' nofun, hf', ?_⟩
    rintro _ _ ⟨⟩
    exact hlists
  · obtain ⟨m', h, hc', hf'⟩ := hc.cleanupStaleVehicles hf expired elapsed
    exact ⟨m', h, iff_of_true hc' nofun, hf', nofun⟩
  · refine ⟨_, hc.adsbClearModel_eq, ?_, fun p hp => ?_, nofun⟩
    · rw [hc.cleared_iff]
      exact ⟨fun h _ => h, fun h => h rfl⟩
    · show (if p ∈ m.adsbVehicles then none else m.heap p) = none
      rw [hf p hp, ite_self]

theorem keepsStore_iff_nothingToClear (hc : Consistent m) (hf : Fresh m) (e : Event) :
    KeepsStore m e ↔ NothingToClear m e := by
  obtain ⟨m', h, hiff, -, hlists⟩ := step_cases hc hf e
  constructor
  · rintro ⟨m₁, h₁, hc₁, -⟩
    obtain rfl := Except.ok.inj (h.symm.trans h₁)
    exact hiff.mp hc₁
  · intro hn
    exact ⟨m', h, hiff.mpr hn, hlists⟩

/-- **The store stays consistent, call by call, exactly as long as `adsbClearModel` has
nothing to clear.** -/
theorem keepsStore_iff (es : List Event) :
    EveryStep KeepsStore step new es ↔ EveryStep NothingToClear step new es := by
  refine everyStep_congr_of_keeps (I := fun m => Consistent m ∧ Fresh m) ?_ ?_
    ⟨consistent_new, fresh_new⟩ es
  · rintro m e ⟨hc, hf⟩
    exact keepsStore_iff_nothingToClear hc hf e
  · rintro m e m' ⟨hc, hf⟩ hn h
    obtain ⟨m₁, h₁, hiff, hf₁, -⟩ := step_cases hc hf e
    obtain rfl := Except.ok.inj (h₁.symm.trans h)
    exact ⟨hiff.mpr hn, hf₁⟩

/-- An aircraft with its location. -/
def traffic : VehicleInfo where
  icaoAddress := 0x3c6444
  callsign := "DLH9"
  lat := 48.1
  lon := 11.5
  altitude := 900.0
  velocity := 80.0
  heading := 260.0
  alert := 0
  availableFlags := 0x1fe
  lastContact := 0
  verticalVel := 0.0
  distance := 3.0

/-- Memory that was zero. -/
def zeroed : ADSBVehicle := ⟨0, "", 0, 0, 0, 0, 0, 0, 0, 0, 0⟩

/-- An aircraft is reported, the model is cleared, and the aircraft is reported again:
its address leads to an object that was deleted. -/
theorem clearModel_dangles :
    ¬ EveryStep KeepsStore step new
        [.adsbVehicleUpdate traffic zeroed, .adsbClearModel] ∧
      run step new
          [.adsbVehicleUpdate traffic zeroed, .adsbClearModel,
            .adsbVehicleUpdate traffic zeroed] =
        .error .outOfBounds := by
  constructor
  · rintro ⟨-, hrest⟩
    obtain ⟨⟨m', h, hc, -⟩, -⟩ := hrest _ rfl
    obtain rfl := Except.ok.inj h
    exact absurd (hc.mapped 0x3c6444 0 rfl).1 List.not_mem_nil
  · rfl

end ADSBVehicleManager

end QOpenHD
