/-
QOpenHD/Latest.lean

A history of values with numbers for keys, and what it says last under each
key.

A table shows, for every key below its size, a cell made of the latest value.
A value that is added to the history changes the cell of its key, and no other
(`table_append_singleton`).

Nothing here depends on what the values are.
-/
import Mathlib.Data.List.Basic

namespace Latest

variable {α β : Type*} {key : α → ℕ}

/-- The latest value under a key. -/
def latest (key : α → ℕ) (k : ℕ) (l : List α) : Option α := (l.filter (key · == k)).getLast?

@[simp] theorem latest_nil (k : ℕ) : latest key k [] = none := rfl

theorem latest_append_singleton (l : List α) (x : α) (k : ℕ) :
    latest key k (l ++ [x]) = if key x = k then some x else latest key k l := by
  unfold latest
  rw [List.filter_append]
  by_cases hk : key x = k
  · simp [hk]
  · simp [hk]

theorem latest_eq_none_iff {l : List α} {k : ℕ} :
    latest key k l = none ↔ ∀ x ∈ l, key x ≠ k := by
  rw [latest, List.getLast?_eq_none_iff, List.filter_eq_nil_iff]
  simp

theorem isSome_latest_iff {l : List α} {k : ℕ} :
    (latest key k l).isSome = true ↔ ∃ x ∈ l, key x = k := by
  rw [← Option.ne_none_iff_isSome, Ne, latest_eq_none_iff]
  push Not
  rfl

/-! ### Tables -/

/-- A cell for every key below `n`, made of its latest value. -/
def table (key : α → ℕ) (cell : ℕ → Option α → β) (n : ℕ) (l : List α) : List β :=
  (List.range n).map fun k => cell k (latest key k l)

variable {cell : ℕ → Option α → β} {n : ℕ}

@[simp] theorem length_table (l : List α) : (table key cell n l).length = n := by simp [table]

theorem getElem?_table (l : List α) (k : ℕ) :
    (table key cell n l)[k]? = if k < n then some (cell k (latest key k l)) else none := by
  unfold table
  rw [List.getElem?_map]
  split
  · rename_i hk
    rw [List.getElem?_range hk, Option.map_some]
  · rename_i hk
    rw [List.getElem?_eq_none (by simpa using hk), Option.map_none]

theorem getElem?_table_eq_some_iff {l : List α} {k : ℕ} {b : β} :
    (table key cell n l)[k]? = some b ↔ k < n ∧ cell k (latest key k l) = b := by
  rw [getElem?_table]
  by_cases hk : k < n
  · rw [if_pos hk, Option.some_inj, and_iff_right hk]
  · rw [if_neg hk]
    exact iff_of_false nofun fun h => hk h.1

/-- A value that is added changes the cell of its key. -/
theorem table_append_singleton (l : List α) (x : α) :
    table key cell n (l ++ [x]) =
      (table key cell n l).set (key x) (cell (key x) (some x)) := by
  refine List.ext_getElem? fun k => ?_
  rw [getElem?_table, List.getElem?_set, latest_append_singleton, length_table, getElem?_table]
  by_cases hk : key x = k
  · subst hk
    simp
  · simp [hk]

end Latest
