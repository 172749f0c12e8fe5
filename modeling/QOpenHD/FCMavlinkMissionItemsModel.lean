/-
QOpenHD/FCMavlinkMissionItemsModel.lean

The rows that the user sees of a mission (`fcmavlinkmissionitemsmodel.h`,
`fcmavlinkmissionitemsmodel.cpp`).

`p_initialize` and `p_update` only emit signals.  The rows are changed when a
signal is handled, which may be later (`handleAll`).

* `length_handleAll` — the number of rows is what the last resize says;
* `Numbered.handleAll` — rows are numbered from 0 on, at any time.

A `double` is a value of any type that has a zero and can be made of the numbers
in the messages (`Doubles`).
-/
import Mathlib.Data.List.Basic
import Mathlib.Data.Rat.Defs
import Mathlib.Algebra.Group.Int.Defs
import Mathlib.Algebra.Group.Nat.Defs

namespace QOpenHD

/-- What is used of `double`. -/
structure Doubles (δ : Type) where
  zero : δ
  /-- Degrees, of 10⁻⁷ degrees. -/
  ofE7 : Int32 → δ
  /-- The value of a `float` with these bits. -/
  ofFloat : UInt32 → δ

/-- The value of the `float` with these bits; infinities and NaN have none. -/
def floatValue (bits : UInt32) : ℚ :=
  let sign : ℤ := if bits.toNat / 2 ^ 31 = 1 then -1 else 1
  let exponent : ℕ := bits.toNat / 2 ^ 23 % 2 ^ 8
  let mantissa : ℕ := bits.toNat % 2 ^ 23
  if exponent = 255 then 0
  else if exponent = 0 then mkRat (sign * mantissa) (2 ^ 149)
  else mkRat (sign * (2 ^ 23 + mantissa) * 2 ^ exponent) (2 ^ 150)

/-- The numbers themselves, before they are rounded to a `double`. -/
def Doubles.rationals : Doubles ℚ := ⟨0, fun x => mkRat x.toInt (10 ^ 7), floatValue⟩

namespace FCMavlinkMissionItemsModel

/-- A row. -/
structure Element (δ : Type) where
  missionIndex : ℕ
  latitude : δ
  longitude : δ
  altitudeMeter : δ
  valid : Bool
  currentlyActive : Bool

inductive Signal (δ : Type)
  | resize (totalMissionCount : ℕ)
  | updateElement (missionIndex : ℕ) (lat lon altM : δ) (currentlyActive : Bool)

variable {δ : Type}

def pInitialize (totalMissionCount : ℕ) : Signal δ := .resize totalMissionCount

def pUpdate (missionIndex : ℕ) (lat lon altM : δ) : Signal δ :=
  .updateElement missionIndex lat lon altM false

/-! ### Slots -/

def addData (rows : List (Element δ)) (data : Element δ) : List (Element δ) := rows ++ [data]

def updateData (rows : List (Element δ)) (row : ℕ) (data : Element δ) : List (Element δ) :=
  if row ≥ rows.length then rows else rows.set row data

variable (D : Doubles δ)

/-- A row before anything is known. -/
def emptyRow (i : ℕ) : Element δ := ⟨i, D.zero, D.zero, D.zero, false, false⟩

def qtUiResize (totalMissionCount : ℕ) : List (Element δ) :=
  (List.range totalMissionCount).foldl (fun rows i => addData rows (emptyRow D i)) []

def qtUiUpdateElement (rows : List (Element δ)) (missionIndex : ℕ) (lat lon altM : δ)
    (currentlyActive : Bool) : List (Element δ) :=
  updateData rows missionIndex ⟨missionIndex, lat, lon, altM, true, currentlyActive⟩

def handle (rows : List (Element δ)) : Signal δ → List (Element δ)
  | .resize totalMissionCount => qtUiResize D totalMissionCount
  | .updateElement missionIndex lat lon altM currentlyActive =>
    qtUiUpdateElement rows missionIndex lat lon altM currentlyActive

/-- The signals have run. -/
def handleAll (rows : List (Element δ)) (signals : List (Signal δ)) : List (Element δ) :=
  signals.foldl (handle D) rows

variable {D}

theorem qtUiResize_eq_map (totalMissionCount : ℕ) :
    qtUiResize D totalMissionCount = (List.range totalMissionCount).map (emptyRow D) := by
  have hfold : ∀ (l : List ℕ) (rows : List (Element δ)),
      l.foldl (fun rows i => addData rows (emptyRow D i)) rows = rows ++ l.map (emptyRow D) := by
    intro l
    induction l with
    | nil => exact fun rows => (List.append_nil rows).symm
    | cons i l ih =>
        intro rows
        rw [List.foldl_cons, ih, addData, List.append_assoc]
        rfl
  exact hfold _ []

/-- A row that is not there is not written. -/
theorem updateData_eq_set (rows : List (Element δ)) (row : ℕ) (data : Element δ) :
    updateData rows row data = rows.set row data := by
  unfold updateData
  split
  · rename_i hrow
    rw [List.set_eq_of_length_le hrow]
  · rfl

theorem handleAll_append (rows : List (Element δ)) (signals signals' : List (Signal δ)) :
    handleAll D rows (signals ++ signals') = handleAll D (handleAll D rows signals) signals' :=
  List.foldl_append

/-! ### Numbers of rows -/

/-- The number of rows that a signal asks for. -/
def Signal.total? : Signal δ → Option ℕ
  | .resize totalMissionCount => some totalMissionCount
  | .updateElement .. => none

/-- The number of rows that the last resize asks for. -/
def lastResize (signals : List (Signal δ)) : Option ℕ := (signals.filterMap Signal.total?).getLast?

theorem lastResize_cons (signal : Signal δ) (signals : List (Signal δ)) :
    lastResize (signal :: signals) = (lastResize signals).or signal.total? := by
  unfold lastResize
  rcases hlast : (signals.filterMap Signal.total?).getLast? with - | total
  · rw [List.getLast?_eq_none_iff] at hlast
    rcases htotal : signal.total? with - | total <;> simp [htotal, hlast]
  · rcases htotal : signal.total? with - | total' <;> simp [htotal, hlast, List.getLast?_cons]

theorem length_handle (rows : List (Element δ)) (signal : Signal δ) :
    (handle D rows signal).length = signal.total?.getD rows.length := by
  rcases signal with totalMissionCount | ⟨missionIndex, lat, lon, altM, currentlyActive⟩
  · rw [handle, qtUiResize_eq_map, List.length_map, List.length_range]
    rfl
  · rw [handle, qtUiUpdateElement, updateData_eq_set, List.length_set]
    rfl

/-- **There are as many rows as the last resize asks for.** -/
theorem length_handleAll (rows : List (Element δ)) (signals : List (Signal δ)) :
    (handleAll D rows signals).length = (lastResize signals).getD rows.length := by
  induction signals generalizing rows with
  | nil => rfl
  | cons signal signals ih =>
      show (handleAll D (handle D rows signal) signals).length = _
      rw [ih, length_handle, lastResize_cons]
      rcases lastResize signals with - | total <;> rfl

/-- Row `i` is number `i`. -/
def Numbered (rows : List (Element δ)) : Prop :=
  ∀ (i : ℕ) (row : Element δ), rows[i]? = some row → row.missionIndex = i

theorem numbered_nil : Numbered ([] : List (Element δ)) := fun _ _ => nofun

theorem Numbered.handle {rows : List (Element δ)} (h : Numbered rows) (signal : Signal δ) :
    Numbered (handle D rows signal) := by
  intro i row hrow
  rcases signal with totalMissionCount | ⟨missionIndex, lat, lon, altM, currentlyActive⟩
  · rw [FCMavlinkMissionItemsModel.handle, qtUiResize_eq_map, List.getElem?_map,
      Option.map_eq_some_iff] at hrow
    obtain ⟨j, hj, rfl⟩ := hrow
    exact (List.getElem?_eq_some_iff.mp hj).2 ▸ List.getElem_range _
  · rw [FCMavlinkMissionItemsModel.handle, qtUiUpdateElement, updateData_eq_set,
      List.getElem?_set] at hrow
    split at hrow
    · rename_i hi
      split at hrow
      · obtain rfl := Option.some.inj hrow
        exact hi
      · cases hrow
    · exact h i row hrow

theorem Numbered.handleAll {rows : List (Element δ)} (h : Numbered rows)
    (signals : List (Signal δ)) : Numbered (handleAll D rows signals) := by
  induction signals generalizing rows with
  | nil => exact h
  | cons signal signals ih => exact ih (h.handle signal)

end FCMavlinkMissionItemsModel

end QOpenHD
