/-
QOpenHD/SortedTable.lean

Tables that are kept sorted by a key.  A row is either changed where it stands
(`updateFirst`) or put at the end, and the table is sorted again (`upsert`).

`Sorted` says that keys increase, so that no two rows have the same.  A sorted
table is then a finite map (`lookup`), and its operations are those of maps:

* `lookup_sort` — sorting changes no row;
* `Sorted.upsert`, `lookup_upsert` — the table stays sorted, and the row of one key
  is changed or new.

Nothing here depends on what the rows are.
-/
import Mathlib.Data.List.Nodup
import Mathlib.Order.Lattice

namespace SortedTable

variable {α κ : Type*} [LinearOrder κ] {key : α → κ}

/-- Keys increase from row to row. -/
def Sorted (key : α → κ) (rows : List α) : Prop := rows.Pairwise fun a b => key a < key b

/-- The row with a key. -/
def lookup (key : α → κ) (k : κ) (rows : List α) : Option α := rows.find? fun a => key a = k

/-- Rows with the same key stay in their order. -/
def sort (key : α → κ) (rows : List α) : List α := rows.mergeSort fun a b => key a ≤ key b

/-- Change the first row that is looked for. -/
def updateFirst (p : α → Bool) (f : α → α) : List α → List α
  | [] => []
  | a :: rows => if p a then f a :: rows else a :: updateFirst p f rows

/-- Change the row that is looked for, or put a new one at the end. -/
def upsert (key : α → κ) (p : α → Bool) (f : α → α) (new : α) (rows : List α) : List α :=
  sort key (if rows.any p then updateFirst p f rows else rows ++ [new])

variable {k k' : κ} {rows : List α}

/-! ### Keys -/

theorem sorted_nil : Sorted key [] := List.Pairwise.nil

theorem Sorted.nodup (hs : Sorted key rows) : (rows.map key).Nodup :=
  List.pairwise_map.mpr (hs.imp fun h => ne_of_lt h)

theorem lookup_eq_none_iff : lookup key k rows = none ↔ ∀ a ∈ rows, key a ≠ k := by
  simp [lookup, List.find?_eq_none]

theorem key_of_lookup {a : α} (h : lookup key k rows = some a) : key a = k := by
  have hfound := List.find?_some (p := fun a => decide (key a = k)) h
  exact of_decide_eq_true hfound

/-- Where keys differ, a row is found exactly if it is there. -/
theorem lookup_eq_some_iff (hnodup : (rows.map key).Nodup) {a : α} :
    lookup key k rows = some a ↔ a ∈ rows ∧ key a = k := by
  constructor
  · intro h
    exact ⟨List.mem_of_find?_eq_some h, key_of_lookup h⟩
  · rintro ⟨ha, rfl⟩
    rcases hfound : lookup key (key a) rows with - | b
    · exact absurd rfl (lookup_eq_none_iff.mp hfound a ha)
    · have hb := List.mem_of_find?_eq_some hfound
      rw [List.inj_on_of_nodup_map hnodup hb ha (key_of_lookup hfound)]

/-- The order of the rows does not matter. -/
theorem lookup_perm {rows' : List α} (hperm : rows'.Perm rows) (hnodup : (rows.map key).Nodup)
    (k : κ) : lookup key k rows' = lookup key k rows := by
  have hnodup' : (rows'.map key).Nodup := (hperm.map key).nodup_iff.mpr hnodup
  apply Option.ext
  intro a
  rw [lookup_eq_some_iff hnodup, lookup_eq_some_iff hnodup', hperm.mem_iff]

/-! ### Sorting -/

theorem sort_perm (rows : List α) : (sort key rows).Perm rows := List.mergeSort_perm ..

theorem sorted_sort (hnodup : (rows.map key).Nodup) : Sorted key (sort key rows) := by
  have hle : (sort key rows).Pairwise fun a b => decide (key a ≤ key b) = true := by
    apply List.pairwise_mergeSort
    · intro a b c hab hbc
      exact decide_eq_true (le_trans (of_decide_eq_true hab) (of_decide_eq_true hbc))
    · intro a b
      simpa using le_total (key a) (key b)
  have hne : ((sort key rows).map key).Nodup := ((sort_perm rows).map key).nodup_iff.mpr hnodup
  exact hle.imp₂ (fun a b hab hne => lt_of_le_of_ne (of_decide_eq_true hab) hne)
    (List.pairwise_map.mp hne)

theorem lookup_sort (hnodup : (rows.map key).Nodup) (k : κ) :
    lookup key k (sort key rows) = lookup key k rows := lookup_perm (sort_perm rows) hnodup k

/-! ### Changing a row -/

section Update

variable {p : α → Bool} {f : α → α}

omit [LinearOrder κ] in
theorem map_key_updateFirst (hf : ∀ a, key (f a) = key a) (rows : List α) :
    (updateFirst p f rows).map key = rows.map key := by
  induction rows with
  | nil => rfl
  | cons a rows ih =>
      rw [updateFirst]
      split
      · rw [List.map_cons, List.map_cons, hf]
      · rw [List.map_cons, List.map_cons, ih]

theorem lookup_updateFirst (hp : ∀ a, p a = true ↔ key a = k) (hf : ∀ a, key (f a) = key a)
    (k' : κ) (rows : List α) :
    lookup key k' (updateFirst p f rows) =
      if k' = k then (lookup key k rows).map f else lookup key k' rows := by
  induction rows with
  | nil => simp [updateFirst, lookup]
  | cons a rows ih =>
      by_cases ha : key a = k
      · rw [updateFirst, if_pos ((hp a).mpr ha)]
        by_cases hk : k' = k
        · subst hk
          simp [lookup, hf, ha]
        · have hak : key a ≠ k' := fun h => hk (h.symm.trans ha)
          simp [lookup, hf, hak, hk]
      · rw [updateFirst, if_neg fun h => ha ((hp a).mp h)]
        by_cases hak : key a = k'
        · have hk : k' ≠ k := fun h => ha (hak.trans h)
          simp [lookup, hak, hk]
        · simpa [lookup, ha, hak] using ih

theorem any_iff_lookup (hp : ∀ a, p a = true ↔ key a = k) :
    rows.any p = true ↔ (lookup key k rows).isSome := by
  rw [List.any_eq_true, lookup, List.find?_isSome]
  simp only [hp, decide_eq_true_eq]

theorem nodup_upsert (hp : ∀ a, p a = true ↔ key a = k) (hf : ∀ a, key (f a) = key a) {new : α}
    (hnew : key new = k) (hs : Sorted key rows) :
    ((if rows.any p then updateFirst p f rows else rows ++ [new]).map key).Nodup := by
  split
  · rw [map_key_updateFirst hf]
    exact hs.nodup
  · rename_i hany
    rw [List.map_append]
    apply hs.nodup.append (List.nodup_singleton _)
    rw [List.disjoint_singleton, List.mem_map, hnew]
    rintro ⟨a, ha, hak⟩
    exact hany (List.any_eq_true.mpr ⟨a, ha, (hp a).mpr hak⟩)

/-- **The table stays sorted.** -/
theorem Sorted.upsert (hp : ∀ a, p a = true ↔ key a = k) (hf : ∀ a, key (f a) = key a) {new : α}
    (hnew : key new = k) (hs : Sorted key rows) :
    Sorted key (SortedTable.upsert key p f new rows) :=
  sorted_sort (nodup_upsert hp hf hnew hs)

/-- What the change keeps, and the new row has, all rows have. -/
theorem forall_mem_upsert {P : α → Prop} {p : α → Bool} {f : α → α} {new : α}
    (hf : ∀ a, P a → P (f a)) (hnew : P new) (hrows : ∀ a ∈ rows, P a) :
    ∀ a ∈ upsert key p f new rows, P a := by
  intro a ha
  have ha' := (sort_perm _).mem_iff.mp ha
  split_ifs at ha' with hany
  · clear hany ha
    induction rows with
    | nil => exact absurd ha' List.not_mem_nil
    | cons b rows ih =>
        obtain ⟨hb, hrows⟩ := List.forall_mem_cons.mp hrows
        unfold updateFirst at ha'
        split_ifs at ha'
        · rcases List.mem_cons.mp ha' with rfl | hmem
          · exact hf b hb
          · exact hrows a hmem
        · rcases List.mem_cons.mp ha' with rfl | hmem
          · exact hb
          · exact ih hrows hmem
  · rcases List.mem_append.mp ha' with hmem | hmem
    · exact hrows a hmem
    · exact List.mem_singleton.mp hmem ▸ hnew

/-- **One row is changed, or new.** -/
theorem lookup_upsert (hp : ∀ a, p a = true ↔ key a = k) (hf : ∀ a, key (f a) = key a) {new : α}
    (hnew : key new = k) (hs : Sorted key rows) (k' : κ) :
    lookup key k' (upsert key p f new rows) =
      if k' = k then some ((lookup key k rows).elim new f) else lookup key k' rows := by
  rw [upsert, lookup_sort (nodup_upsert hp hf hnew hs)]
  rcases hfound : lookup key k rows with - | a
  · have hany : ¬ rows.any p = true := by
      rw [any_iff_lookup hp, hfound]
      exact Bool.noConfusion
    rw [if_neg hany, lookup, List.find?_append]
    by_cases hk : k' = k
    · subst hk
      have hnone : rows.find? (fun a => decide (key a = k')) = none := hfound
      simp [hnone, hnew]
    · have hne : key new ≠ k' := fun h => hk (h.symm.trans hnew)
      simp [hne, hk, lookup]
  · have hany : rows.any p = true := by
      rw [any_iff_lookup hp, hfound]
      rfl
    rw [if_pos hany, lookup_updateFirst hp hf, hfound]
    rfl

end Update

end SortedTable
