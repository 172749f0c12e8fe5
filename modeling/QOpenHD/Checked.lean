/-
QOpenHD/Checked.lean

Programs that may go wrong.  A C++ function that indexes memory, asserts or
loops is written as a function into `Exec α`: it either returns a value or
stops with the first `Fault` it runs into.  `Safe x` says that `x` returns.

A system is a fallible step `σ → ι → Exec σ`; a run feeds it a list of
inputs, and is the monadic fold of the step.  The rules used later:

* `run_invariant` — what one successful step preserves, a successful run
  preserves; `run_invariant_of_everyStep` — also if it does so only under a
  condition that every step meets; `run_total`, `run_safe_of_everyStep` — and where
  every step succeeds, a run does;
* `run_safe_iff_everyStep` — if a step is safe exactly under a condition on
  the state before it and its input, a run is safe exactly if every one of
  its steps meets that condition (`EveryStep`);
* `run_keeps_iff_everyStep` — what a step keeps exactly under a condition, and
  nothing restores, is left at the end exactly if every step meets it;
* `everyStep_append_iff` — a condition met by every step of a run is met by every
  step of its beginning, and of its rest; `everyStep_iff_forall` — one that
  depends on the inputs alone is one on each of them; `everyStep_congr`,
  `everyStep_congr_of_keeps` — conditions that agree under an invariant agree on
  runs; `everyStep_leaves_iff` — what every state reached is asked for.

Nothing here depends on what the program is.
-/
import Mathlib.Data.List.Basic
import Mathlib.Data.List.Infix
import Mathlib.Data.Int.Notation
import Mathlib.Logic.Function.Basic

namespace Checked

universe u

/-- What stops a C++ function before it returns. -/
inductive Fault
  /-- A raw access outside the memory it is meant for. -/
  | outOfBounds
  /-- A bounds-checked access (`at`) that throws. -/
  | outOfRange
  | assertFailed
  /-- A loop still running when its bound is used up. -/
  | endlessLoop
  deriving DecidableEq, Repr

/-- A computation that returns a value or stops with a fault. -/
abbrev Exec (α : Type u) := Except Fault α

variable {α β : Type u}

/-- The computation returns. -/
def Safe (x : Exec α) : Prop := ∃ a, x = .ok a

@[simp] theorem safe_ok (a : α) : Safe (.ok a : Exec α) := ⟨a, rfl⟩

@[simp] theorem safe_pure (a : α) : Safe (pure a : Exec α) := ⟨a, rfl⟩

@[simp] theorem not_safe_error (e : Fault) : ¬ Safe (.error e : Exec α) := by
  rintro ⟨a, h⟩
  cases h

@[simp] theorem ok_bind (a : α) (f : α → Exec β) : ((.ok a : Exec α) >>= f) = f a := rfl

@[simp] theorem error_bind (e : Fault) (f : α → Exec β) :
    ((.error e : Exec α) >>= f) = .error e := rfl

theorem bind_eq_ok_iff {x : Exec α} {f : α → Exec β} {b : β} :
    (x >>= f) = .ok b ↔ ∃ a, x = .ok a ∧ f a = .ok b := by
  rcases x with e | a <;> simp

theorem safe_bind_iff {x : Exec α} {f : α → Exec β} :
    Safe (x >>= f) ↔ ∃ a, x = .ok a ∧ Safe (f a) := by
  rcases x with e | a <;> simp

/-- What only changes the value is safe. -/
theorem safe_bind_pure_iff {x : Exec α} {f : α → β} :
    Safe (x >>= fun a => pure (f a)) ↔ Safe x := by
  rcases x with e | a <;> simp

/-- A list is gone through when each of its elements is dealt with. -/
theorem safe_mapM {f : α → Exec β} {l : List α} (h : ∀ a ∈ l, Safe (f a)) : Safe (l.mapM f) := by
  induction l with
  | nil => exact safe_pure _
  | cons a l ih =>
      obtain ⟨b, hb⟩ := h a List.mem_cons_self
      obtain ⟨bs, hbs⟩ := ih fun a' ha' => h a' (List.mem_cons_of_mem a ha')
      exact ⟨b :: bs, by rw [List.mapM_cons, hb, ok_bind, hbs, ok_bind]; rfl⟩

/-! ### Assertions and memory -/

/-- `assert(p)`. -/
def require (p : Prop) [Decidable p] : Exec Unit :=
  if p then .ok () else .error .assertFailed

@[simp] theorem require_of {p : Prop} [Decidable p] (h : p) : require p = .ok () := if_pos h

theorem require_eq_ok_iff {p : Prop} [Decidable p] {u : Unit} : require p = .ok u ↔ p := by
  by_cases h : p <;> simp [require, h]

/-- `mem[i]`, where `mem` is everything from a pointer to the end of its
object. -/
def load (mem : List α) (i : ℕ) : Exec α :=
  match mem[i]? with
  | some a => .ok a
  | none => .error .outOfBounds

@[simp] theorem load_cons_zero (a : α) (mem : List α) : load (a :: mem) 0 = .ok a := rfl

@[simp] theorem load_cons_succ (a : α) (mem : List α) (i : ℕ) :
    load (a :: mem) (i + 1) = load mem i := by
  simp [load]

theorem load_eq_ok_iff {mem : List α} {i : ℕ} {a : α} : load mem i = .ok a ↔ mem[i]? = some a := by
  unfold load
  rcases mem[i]? with - | b <;> simp

theorem safe_load {mem : List α} {i : ℕ} (h : i < mem.length) : Safe (load mem i) :=
  ⟨mem.get ⟨i, h⟩, load_eq_ok_iff.mpr (List.getElem?_eq_getElem h)⟩

/-- `mem[i] = a`. -/
def store (mem : List α) (i : ℕ) (a : α) : Exec (List α) :=
  if i < mem.length then .ok (mem.set i a) else .error .outOfBounds

theorem store_of_lt {mem : List α} {i : ℕ} (h : i < mem.length) (a : α) :
    store mem i a = .ok (mem.set i a) := if_pos h

/-- The `n` bytes that `memcpy` reads from a pointer whose object goes on for
`mem`. -/
def loadSlice (mem : List α) (n : ℕ) : Exec (List α) :=
  if n ≤ mem.length then .ok (mem.take n) else .error .outOfBounds

theorem loadSlice_of_le {mem : List α} {n : ℕ} (h : n ≤ mem.length) :
    loadSlice mem n = .ok (mem.take n) := if_pos h

/-! ### Arrays -/

section Arrays

variable {n : ℕ}

/-- `v[i]`, where the index is an `int`. -/
def loadAt (v : Vector α n) (i : ℤ) : Exec α :=
  if 0 ≤ i then load v.toList i.toNat else .error .outOfBounds

/-- `v[i] = a`, where the index is an `int`. -/
def storeAt (v : Vector α n) (i : ℤ) (a : α) : Exec (Vector α n) :=
  if h : 0 ≤ i ∧ i.toNat < n then .ok (v.set i.toNat a h.2) else .error .outOfBounds

/-- The first `len` elements, where `len` is an `int`. -/
def sliceAt (v : Vector α n) (len : ℤ) : Exec (List α) :=
  if 0 ≤ len then loadSlice v.toList len.toNat else .error .outOfBounds

variable {v : Vector α n} {l : List α}

theorem safe_loadAt {i : ℤ} (h₀ : 0 ≤ i) (h : i < n) : Safe (loadAt v i) := by
  have hi : i.toNat < v.toList.length := by
    rw [Vector.length_toList]
    omega
  exact ⟨_, by rw [loadAt, if_pos h₀, load_eq_ok_iff, List.getElem?_eq_getElem hi]⟩

theorem safe_storeAt {i : ℤ} (h₀ : 0 ≤ i) (h : i < n) (a : α) : Safe (storeAt v i a) :=
  ⟨_, dif_pos ⟨h₀, by omega⟩⟩

theorem storeAt_negative {i : ℤ} (h : i < 0) (a : α) : storeAt v i a = .error .outOfBounds :=
  dif_neg fun h' => by omega

/-- Reading from the beginning of the array, which is known. -/
theorem loadAt_of_isPrefix (hl : l <+: v.toList) {i : ℤ} (h₀ : 0 ≤ i) {a : α}
    (ha : l[i.toNat]? = some a) : loadAt v i = .ok a := by
  obtain ⟨t, ht⟩ := hl
  obtain ⟨hi, -⟩ := List.getElem?_eq_some_iff.mp ha
  rw [loadAt, if_pos h₀, load_eq_ok_iff, ← ht, List.getElem?_append_left hi, ha]

/-- Writing right behind what is known. -/
theorem storeAt_append (hl : l <+: v.toList) {i : ℤ} (hi : i = l.length) (h : l.length < n)
    (a : α) : ∃ v', storeAt v i a = .ok v' ∧ l ++ [a] <+: v'.toList := by
  subst hi
  refine ⟨_, dif_pos ⟨Int.natCast_nonneg _, by simpa using h⟩, ?_⟩
  obtain ⟨t, ht⟩ := hl
  rw [Vector.toList_set, ← ht, Int.toNat_natCast, List.set_append_right _ _ (Nat.le_refl _)]
  rcases t with - | ⟨b, t⟩
  · have hlen := congrArg List.length ht
    simp only [List.append_nil, Vector.length_toList] at hlen
    omega
  · exact ⟨t, by simp⟩

end Arrays

/-! ### Runs -/

section Run

variable {σ : Type u} {ι : Type*} {step : σ → ι → Exec σ}

/-- Feed the inputs to the step one after another, up to the first fault. -/
def run (step : σ → ι → Exec σ) (s : σ) (is : List ι) : Exec σ := is.foldlM step s

@[simp] theorem run_nil (s : σ) : run step s [] = .ok s := rfl

@[simp] theorem run_cons (s : σ) (i : ι) (is : List ι) :
    run step s (i :: is) = step s i >>= fun s' => run step s' is := rfl

theorem run_append (s : σ) (is js : List ι) :
    run step s (is ++ js) = run step s is >>= fun s' => run step s' js :=
  List.foldlM_append

theorem run_flatten (s : σ) (iss : List (List ι)) :
    run step s iss.flatten = run (run step) s iss := by
  induction iss generalizing s with
  | nil => rfl
  | cons is iss ih => simp only [List.flatten_cons, run_append, run_cons, ih]

/-- **The invariant rule**: what every successful step preserves, a
successful run preserves. -/
theorem run_invariant {I : σ → Prop} (hstep : ∀ s i s', I s → step s i = .ok s' → I s')
    {s s' : σ} {is : List ι} (hs : I s) (h : run step s is = .ok s') : I s' := by
  induction is generalizing s with
  | nil =>
      obtain rfl := Except.ok.inj h
      exact hs
  | cons i is ih =>
      rw [run_cons, bind_eq_ok_iff] at h
      obtain ⟨s₁, h₁, h₂⟩ := h
      exact ih (hstep s i s₁ hs h₁) h₂

/-- A run comes to its end when every state that keeps the invariant steps on
under every input that is given, to another one. -/
theorem run_total {I : σ → Prop} {E : ι → Prop}
    (hstep : ∀ s i, I s → E i → ∃ s', step s i = .ok s' ∧ I s') {s : σ} {is : List ι} (hs : I s)
    (his : ∀ i ∈ is, E i) : ∃ s', run step s is = .ok s' ∧ I s' := by
  induction is generalizing s with
  | nil => exact ⟨s, rfl, hs⟩
  | cons i is ih =>
      obtain ⟨s₁, h₁, hs₁⟩ := hstep s i hs (his i List.mem_cons_self)
      obtain ⟨s', h', hs'⟩ := ih hs₁ fun j hj => his j (List.mem_cons_of_mem i hj)
      exact ⟨s', by rw [run_cons, h₁, ok_bind, h'], hs'⟩

/-- Every step of the run meets `P`, which speaks of the state before the
step and of its input. -/
def EveryStep (P : σ → ι → Prop) (step : σ → ι → Exec σ) : σ → List ι → Prop
  | _, [] => True
  | s, i :: is => P s i ∧ ∀ s', step s i = .ok s' → EveryStep P step s' is

variable {P : σ → ι → Prop}

/-- On a given run a condition on every step can be evaluated. -/
instance decidableEveryStep [∀ s i, Decidable (P s i)] :
    ∀ (s : σ) (is : List ι), Decidable (EveryStep P step s is)
  | _, [] => isTrue trivial
  | s, i :: is =>
    have : Decidable (∀ s', step s i = .ok s' → EveryStep P step s' is) :=
      match step s i with
      | .error _ => isTrue nofun
      | .ok s₁ =>
        match decidableEveryStep s₁ is with
        | isTrue hs₁ => isTrue fun _ hs' => Except.ok.inj hs' ▸ hs₁
        | isFalse hs₁ => isFalse fun hall => hs₁ (hall s₁ rfl)
    inferInstanceAs (Decidable (_ ∧ _))

theorem everyStep_of_forall (h : ∀ s i, P s i) (s : σ) (is : List ι) : EveryStep P step s is := by
  induction is generalizing s with
  | nil => trivial
  | cons i is ih => exact ⟨h s i, fun s' _ => ih s'⟩

/-- Where every step succeeds, a condition on the inputs alone is one on each of them. -/
theorem everyStep_iff_forall {Q : ι → Prop} (hstep : ∀ s i, Safe (step s i)) (s : σ)
    (is : List ι) : EveryStep (fun _ => Q) step s is ↔ ∀ i ∈ is, Q i := by
  induction is generalizing s with
  | nil => exact iff_of_true trivial nofun
  | cons i is ih =>
      obtain ⟨s₁, h₁⟩ := hstep s i
      rw [List.forall_mem_cons]
      refine and_congr Iff.rfl ⟨fun h => (ih s₁).mp (h s₁ h₁), fun h s' _ => (ih s').mpr h⟩

/-- Two conditions that agree wherever the invariant holds, agree on a run. -/
theorem everyStep_congr {I : σ → Prop} {Q : σ → ι → Prop}
    (hstep : ∀ s i s', I s → step s i = .ok s' → I s') (hPQ : ∀ s i, I s → (P s i ↔ Q s i)) {s : σ}
    (hs : I s) (is : List ι) : EveryStep P step s is ↔ EveryStep Q step s is := by
  induction is generalizing s with
  | nil => exact Iff.rfl
  | cons i is ih =>
      exact and_congr (hPQ s i hs)
        (forall_congr' fun s' => forall_congr' fun h => ih (hstep s i s' hs h))

/-- Two conditions that agree wherever the invariant holds, agree on a run, also
if only the steps that meet the second one keep the invariant. -/
theorem everyStep_congr_of_keeps {I : σ → Prop} {Q : σ → ι → Prop}
    (hPQ : ∀ s i, I s → (P s i ↔ Q s i))
    (hkeep : ∀ s i s', I s → Q s i → step s i = .ok s' → I s') {s : σ} (hs : I s) (is : List ι) :
    EveryStep P step s is ↔ EveryStep Q step s is := by
  induction is generalizing s with
  | nil => exact Iff.rfl
  | cons i is ih =>
      constructor
      · rintro ⟨hP, hrest⟩
        have hQ := (hPQ s i hs).mp hP
        exact ⟨hQ, fun s' h => (ih (hkeep s i s' hs hQ h)).mp (hrest s' h)⟩
      · rintro ⟨hQ, hrest⟩
        exact ⟨(hPQ s i hs).mpr hQ, fun s' h => (ih (hkeep s i s' hs hQ h)).mpr (hrest s' h)⟩

/-- **What is asked of every state that is reached**: where it holds, and the invariant does, a
step leaves it exactly under `Q`. -/
theorem everyStep_leaves_iff {I J : σ → Prop} {Q : σ → ι → Prop}
    (hI : ∀ s i s', I s → step s i = .ok s' → I s')
    (hJ : ∀ s i, I s → J s → ((∀ s', step s i = .ok s' → J s') ↔ Q s i)) {s : σ} (hs : I s)
    (hs' : J s) (is : List ι) :
    EveryStep (fun s i => ∀ s', step s i = .ok s' → J s') step s is ↔ EveryStep Q step s is := by
  refine everyStep_congr_of_keeps (I := fun s => I s ∧ J s) ?_ ?_ ⟨hs, hs'⟩ is
  · rintro s i ⟨h, h'⟩
    exact hJ s i h h'
  · rintro s i s' ⟨h, h'⟩ hQ hstep
    exact ⟨hI s i s' h hstep, (hJ s i h h').mpr hQ s' hstep⟩

/-- A condition on every step of a run, cut in two. -/
theorem everyStep_append_iff {s : σ} {is js : List ι} :
    EveryStep P step s (is ++ js) ↔
      EveryStep P step s is ∧ ∀ s', run step s is = .ok s' → EveryStep P step s' js := by
  induction is generalizing s with
  | nil => simp [EveryStep]
  | cons i is ih =>
      simp only [List.cons_append, EveryStep, ih, run_cons, bind_eq_ok_iff]
      grind

/-- **The invariant rule under a condition**: what every successful step that
meets `P` preserves, a successful run all of whose steps meet it preserves. -/
theorem run_invariant_of_everyStep {I : σ → Prop}
    (hstep : ∀ s i s', I s → P s i → step s i = .ok s' → I s') {s s' : σ} {is : List ι} (hs : I s)
    (hP : EveryStep P step s is) (h : run step s is = .ok s') : I s' := by
  induction is generalizing s with
  | nil =>
      obtain rfl := Except.ok.inj h
      exact hs
  | cons i is ih =>
      obtain ⟨hi, hrest⟩ := hP
      obtain ⟨s₁, h₁, h₂⟩ := bind_eq_ok_iff.mp h
      exact ih (hstep s i s₁ hs hi h₁) (hrest s₁ h₁) h₂

/-- A run all of whose steps meet `P` comes to its end, and all its steps meet `Q`, when every
step that meets `P` succeeds and meets `Q`. -/
theorem run_safe_of_everyStep {I : σ → Prop} {Q : σ → ι → Prop}
    (hstep : ∀ s i, I s → P s i → Q s i ∧ ∃ s', step s i = .ok s' ∧ I s') {s : σ} {is : List ι}
    (hs : I s) (hP : EveryStep P step s is) : Safe (run step s is) ∧ EveryStep Q step s is := by
  induction is generalizing s with
  | nil => exact ⟨safe_ok s, trivial⟩
  | cons i is ih =>
      obtain ⟨hi, hrest⟩ := hP
      obtain ⟨hQ, s₁, h₁, hs₁⟩ := hstep s i hs hi
      obtain ⟨hsafe, hevery⟩ := ih hs₁ (hrest s₁ h₁)
      refine ⟨?_, hQ, fun s' h => ?_⟩
      · rw [run_cons, h₁, ok_bind]
        exact hsafe
      · obtain rfl := Except.ok.inj (h₁.symm.trans h)
        exact hevery

/-- **What may break at any step**: when a step keeps `J` exactly under `P`,
and nothing restores it, a run keeps it exactly if all its steps meet `P`. -/
theorem run_keeps_iff_everyStep {I J : σ → Prop}
    (hstep : ∀ s i s', I s → step s i = .ok s' → I s' ∧ (J s' ↔ J s ∧ P s i)) {s s' : σ}
    {is : List ι} (hs : I s) (h : run step s is = .ok s') :
    J s' ↔ J s ∧ EveryStep P step s is := by
  induction is generalizing s with
  | nil =>
      obtain rfl := Except.ok.inj h
      exact ⟨fun hJ => ⟨hJ, trivial⟩, And.left⟩
  | cons i is ih =>
      obtain ⟨s₁, h₁, h₂⟩ := bind_eq_ok_iff.mp h
      obtain ⟨hs₁, hiff⟩ := hstep s i s₁ hs h₁
      have hrest : EveryStep P step s (i :: is) ↔ P s i ∧ EveryStep P step s₁ is := by
        simp [EveryStep, h₁]
      rw [ih hs₁ h₂, hiff, hrest, and_assoc]

/-- **Safety of runs is safety of steps**: when a step is safe exactly under
`P`, a run is safe exactly when all its steps meet `P`. -/
theorem run_safe_iff_everyStep (hP : ∀ s i, Safe (step s i) ↔ P s i) (s : σ) (is : List ι) :
    Safe (run step s is) ↔ EveryStep P step s is := by
  induction is generalizing s with
  | nil => simp [EveryStep]
  | cons i is ih =>
      rw [run_cons, safe_bind_iff]
      constructor
      · rintro ⟨s₁, h₁, hsafe⟩
        refine ⟨(hP s i).mp ⟨s₁, h₁⟩, fun s' hs' => ?_⟩
        rw [h₁] at hs'
        obtain rfl := Except.ok.inj hs'
        exact (ih s₁).mp hsafe
      · rintro ⟨hi, hrest⟩
        obtain ⟨s₁, h₁⟩ := (hP s i).mpr hi
        exact ⟨s₁, h₁, (ih s₁).mpr (hrest s₁ h₁)⟩

end Run

end Checked
