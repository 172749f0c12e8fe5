/-
QOpenHD/LastWriter.lean

A store, and a cache of it that hears of the writes later.

A write replaces what is there under its key: of two writes of one key the last
one stays, and writes of different keys commute (`Overwrites`).  What has been
written to the store and not to the cache is pending.  The cache should be the
store up to what is pending (`UpTo`).

* `UpTo.storeWrites`, `UpTo.cacheWrites` — writing to the store, and later to
  the cache, keeps it, if nothing of the same key is pending from before.
* `UpTo.store_storeWrites`, `UpTo.store_cacheWrites` — so does the store itself,
  and can be copied to the cache at any time.
-/
import Mathlib.Data.List.Basic

namespace LastWriter

variable {α κ σ : Type*} {write : α → σ → σ} {key : α → κ}

/-- The last write of a key stays. -/
structure Overwrites (write : α → σ → σ) (key : α → κ) : Prop where
  same : ∀ {x y : α} (s : σ), key x = key y → write y (write x s) = write y s
  comm : ∀ {x y : α} (s : σ), key x ≠ key y → write y (write x s) = write x (write y s)

def writes (write : α → σ → σ) (l : List α) (s : σ) : σ := l.foldl (fun s x => write x s) s

@[simp] theorem writes_nil (s : σ) : writes write [] s = s := rfl

@[simp] theorem writes_cons (x : α) (l : List α) (s : σ) :
    writes write (x :: l) s = writes write l (write x s) := rfl

theorem writes_append (l l' : List α) (s : σ) :
    writes write (l ++ l') s = writes write l' (writes write l s) := List.foldl_append

/-- The cache is what is stored, up to what is pending. -/
def UpTo (write : α → σ → σ) (pending : List α) (cache store : σ) : Prop :=
  writes write pending cache = store

theorem UpTo.eq {cache store : σ} (h : UpTo write [] cache store) : cache = store := h

/-! ### Writes that commute -/

section

variable (h : Overwrites write key)

include h

/-- A write before others of other keys. -/
theorem writes_comm {x : α} {l : List α} (hl : ∀ y ∈ l, key y ≠ key x) (s : σ) :
    writes write l (write x s) = write x (writes write l s) := by
  induction l generalizing s with
  | nil => rfl
  | cons y l ih =>
      obtain ⟨hy, hl⟩ := List.forall_mem_cons.mp hl
      rw [writes_cons, writes_cons, h.comm s hy.symm, ih hl]

/-- A write before another one of its key. -/
theorem writes_overwritten {x : α} {l : List α} (hl : ∃ y ∈ l, key x = key y) (s : σ) :
    writes write l (write x s) = writes write l s := by
  induction l generalizing s with
  | nil =>
      obtain ⟨y, hy, -⟩ := hl
      cases hy
  | cons y l ih =>
      rw [writes_cons, writes_cons]
      by_cases hkey : key x = key y
      · rw [h.same s hkey]
      · obtain ⟨z, hz, hxz⟩ := hl
        rcases List.mem_cons.mp hz with rfl | hz
        · exact absurd hxz hkey
        · rw [h.comm s hkey, ih ⟨z, hz, hxz⟩]

/-- A write that is made again in the end. -/
theorem write_writes_write (x : α) (l : List α) (s : σ) :
    write x (writes write l (write x s)) = write x (writes write l s) := by
  have hlast : ∃ y ∈ l ++ [x], key x = key y := ⟨x, by simp, rfl⟩
  simpa only [writes_append, writes_cons, writes_nil] using writes_overwritten h hlast s

/-- A write that comes first, if none before it is of its key. -/
theorem writes_middle {x : α} {pre : List α} (hpre : ∀ y ∈ pre, key y ≠ key x) (post : List α)
    (s : σ) : writes write (pre ++ post) (write x s) = writes write (pre ++ x :: post) s := by
  rw [writes_append, writes_append, writes_cons, writes_comm h hpre]

/-! ### Pending writes -/

omit h in
/-- A write reaches the store. -/
theorem UpTo.storeWrites {pending : List α} {cache store : σ} (hup : UpTo write pending cache store)
    (x : α) : UpTo write (pending ++ [x]) cache (write x store) := by
  rw [UpTo, writes_append, hup]
  rfl

/-- A pending write reaches the cache. -/
theorem UpTo.cacheWrites {pre post : List α} {x : α} {cache store : σ}
    (hup : UpTo write (pre ++ x :: post) cache store) (hpre : ∀ y ∈ pre, key y ≠ key x) :
    UpTo write (pre ++ post) (write x cache) store := (writes_middle h hpre post cache).trans hup

/-- A write reaches the store that has all that is pending. -/
theorem UpTo.store_storeWrites {pending : List α} {store : σ} (hup : UpTo write pending store store)
    (x : α) : UpTo write (pending ++ [x]) (write x store) (write x store) := by
  rw [UpTo, writes_append, writes_cons, writes_nil, write_writes_write h, hup]

/-- A write is no longer pending: the store has the others. -/
theorem UpTo.store_cacheWrites {pre post : List α} {x : α} {store : σ}
    (hup : UpTo write (pre ++ x :: post) store store) (hpre : ∀ y ∈ pre, key y ≠ key x) :
    UpTo write (pre ++ post) store store := by
  have hwritten : writes write (pre ++ post) (write x store) = store :=
    UpTo.cacheWrites h hup hpre
  by_cases hpost : ∃ y ∈ post, key x = key y
  · -- it has been overwritten
    obtain ⟨y, hy, hkey⟩ := hpost
    rwa [writes_overwritten h ⟨y, List.mem_append_right _ hy, hkey⟩] at hwritten
  · -- it is still there, and the others leave it there
    have hothers : ∀ y ∈ pre ++ post, key y ≠ key x := by
      intro y hy
      rcases List.mem_append.mp hy with hy | hy
      · exact hpre y hy
      · exact fun hkey => hpost ⟨y, hy, hkey.symm⟩
    rw [writes_comm h hothers] at hwritten
    have hx : write x store = store := by
      rw [← hwritten, h.same _ rfl]
    rwa [← writes_comm h hothers, hx] at hwritten

end

end LastWriter
