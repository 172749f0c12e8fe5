/-
QOpenHD/SizePrefixed.lean

Units behind a 16-bit big-endian size, one after another, and a loop that
walks over them.

`walk skip stop visit mem` reads the size at `offset + skip`, visits the bytes
behind it, moves `offset` by the size field and the unit, and goes on while
more than `offset + stop` bytes are there.  It is the shape of a loop that
trusts the sizes it reads: nothing compares them with the end of `mem`.

* `walk_safe_iff` — such a loop stays inside `mem`, and ends, exactly on the
  byte strings of the grammar `Units`;
* `walk_units` — on the encoding of a list of units it visits exactly these
  units, in order;
* `walk_invariant` — what every visit keeps, it keeps;
* `walk_log` — what it adds to a log is what its visits add for the units that
  are in `mem`.
-/
import QOpenHD.Checked

namespace SizePrefixed

open Checked

/-! ### 16-bit big-endian numbers -/

/-- The number `htons` makes of two bytes in network order. -/
def be16 (hi lo : UInt8) : ℕ := hi.toNat * 256 + lo.toNat

/-- The two bytes of a 16-bit number in network order. -/
def toBE16 (n : ℕ) : List UInt8 := [UInt8.ofNat (n / 256), UInt8.ofNat n]

theorem be16_toBE16 {n : ℕ} (h : n < 65536) : be16 (UInt8.ofNat (n / 256)) (UInt8.ofNat n) = n := by
  simp only [be16, UInt8.toNat_ofNat']
  omega

theorem be16_lt (hi lo : UInt8) : be16 hi lo < 65536 := by
  have := hi.toNat_lt
  have := lo.toNat_lt
  unfold be16
  omega

/-- Read a 16-bit number in network order at index `i`. -/
def loadBE16 (mem : List UInt8) (i : ℕ) : Exec ℕ := do
  let hi ← load mem i
  let lo ← load mem (i + 1)
  pure (be16 hi lo)

theorem loadBE16_eq_ok_iff {mem : List UInt8} {i n : ℕ} :
    loadBE16 mem i = .ok n ↔
      ∃ hi lo rest, mem.drop i = hi :: lo :: rest ∧ be16 hi lo = n := by
  simp only [loadBE16, bind_eq_ok_iff, load_eq_ok_iff]
  constructor
  · rintro ⟨hi, hhi, lo, hlo, hn⟩
    obtain ⟨h₀, rfl⟩ := List.getElem?_eq_some_iff.mp hhi
    obtain ⟨h₁, rfl⟩ := List.getElem?_eq_some_iff.mp hlo
    refine ⟨mem[i], mem[i + 1], mem.drop (i + 2), ?_, Except.ok.inj hn⟩
    rw [List.drop_eq_getElem_cons h₀, List.drop_eq_getElem_cons h₁]
  · rintro ⟨hi, lo, rest, hdrop, hn⟩
    have h₀ : mem[i]? = (mem.drop i)[0]? := by simp
    have h₁ : mem[i + 1]? = (mem.drop i)[1]? := by simp
    rw [hdrop] at h₀ h₁
    exact ⟨hi, h₀, lo, h₁, congrArg Except.ok hn⟩

/-! ### The grammar -/

/-- `Units least left mem`: `mem` is one or more units of at least
`least` bytes behind their sizes, and fewer than `left` further bytes. -/
inductive Units (least left : ℕ) : List UInt8 → Prop
  | last {hi lo : UInt8} {unit rest : List UInt8} :
      unit.length = be16 hi lo → least ≤ unit.length → rest.length < left →
        Units least left (hi :: lo :: (unit ++ rest))
  | more {hi lo : UInt8} {unit rest : List UInt8} :
      unit.length = be16 hi lo → least ≤ unit.length → left ≤ rest.length →
        Units least left rest → Units least left (hi :: lo :: (unit ++ rest))

/-- One unit behind its size. -/
def sized (unit : List UInt8) : List UInt8 := toBE16 unit.length ++ unit

theorem length_le_flatMap_sized (us : List (List UInt8)) :
    us.length ≤ (us.flatMap sized).length := by
  induction us with
  | nil => simp
  | cons u us ih =>
      simp only [List.flatMap_cons, List.length_cons, List.length_append, sized, toBE16,
        List.length_nil]
      omega

/-- Reading the first unit off the grammar. -/
theorem units_cons_iff {least left : ℕ} {hi lo : UInt8} {rest : List UInt8} :
    Units least left (hi :: lo :: rest) ↔
      least ≤ be16 hi lo ∧ be16 hi lo ≤ rest.length ∧
        (left ≤ (rest.drop (be16 hi lo)).length →
          Units least left (rest.drop (be16 hi lo))) := by
  constructor
  · intro h
    cases h with
    | @last _ _ unit rest hlen hmin hrest =>
        refine ⟨hlen ▸ hmin, by simp [← hlen], fun hmore => ?_⟩
        rw [← hlen, List.drop_left] at hmore
        omega
    | @more _ _ unit rest hlen hmin _ hrest =>
        refine ⟨hlen ▸ hmin, by simp [← hlen], fun _ => ?_⟩
        rwa [← hlen, List.drop_left]
  · rintro ⟨hmin, hle, hrest⟩
    have hlen : (rest.take (be16 hi lo)).length = be16 hi lo := by simp [hle]
    rw [← List.take_append_drop (be16 hi lo) rest]
    by_cases hmore : left ≤ (rest.drop (be16 hi lo)).length
    · exact .more hlen (by omega) hmore (hrest hmore)
    · exact .last hlen (by omega) (by omega)

/-- The units in `mem`, in order.  The first argument bounds their number. -/
def unitsIn (left : ℕ) : ℕ → List UInt8 → List (List UInt8)
  | bound + 1, hi :: lo :: rest =>
    rest.take (be16 hi lo) ::
      if left ≤ (rest.drop (be16 hi lo)).length then unitsIn left bound (rest.drop (be16 hi lo))
      else []
  | _, _ => []

theorem Units.exists_cons {least left : ℕ} {mem : List UInt8}
    (h : Units least left mem) : ∃ hi lo rest, mem = hi :: lo :: rest := by
  cases h with
  | last => exact ⟨_, _, _, rfl⟩
  | more => exact ⟨_, _, _, rfl⟩

/-! ### The loop -/

variable {σ : Type}

/-- Walk over the units of `mem`.  The first argument bounds the number of
rounds. -/
def walk (skip stop : ℕ) (visit : σ → List UInt8 → ℕ → Exec σ) (mem : List UInt8) :
    ℕ → σ → ℕ → Exec σ
  | 0, _, _ => .error .endlessLoop
  | rounds + 1, s, offset => do
      let size ← loadBE16 mem (offset + skip)
      let s ← visit s (mem.drop (offset + skip + 2)) size
      let offset := offset + 2 + size
      if mem.length > offset + stop then walk skip stop visit mem rounds s offset
      else pure s

variable {skip stop : ℕ} {visit : σ → List UInt8 → ℕ → Exec σ} {mem : List UInt8}

/-- One round of the walk, when the two size bytes are there. -/
theorem walk_succ {rounds offset : ℕ} {s : σ} {hi lo : UInt8} {rest : List UInt8}
    (hdrop : mem.drop (offset + skip) = hi :: lo :: rest) :
    walk skip stop visit mem (rounds + 1) s offset =
      visit s rest (be16 hi lo) >>= fun s' =>
        if mem.length > offset + 2 + be16 hi lo + stop then
          walk skip stop visit mem rounds s' (offset + 2 + be16 hi lo)
        else pure s' := by
  have hload : loadBE16 mem (offset + skip) = .ok (be16 hi lo) :=
    loadBE16_eq_ok_iff.mpr ⟨hi, lo, rest, hdrop, rfl⟩
  have hrest : mem.drop (offset + skip + 2) = rest := by
    rw [← List.drop_drop, hdrop]
    rfl
  simp only [walk, hload, ok_bind, hrest]

/-- **A walk is safe exactly on the grammar.**  The visit must be safe exactly
on units that are long enough and that end inside the memory. -/
theorem walk_safe_iff {least : ℕ} (hskip : skip ≤ stop)
    (hvisit : ∀ s data size, size < 65536 →
      (Safe (visit s data size) ↔ least ≤ size ∧ size ≤ data.length)) :
    ∀ (rounds : ℕ) (s : σ) (offset : ℕ), mem.length < offset + skip + rounds →
      (Safe (walk skip stop visit mem rounds s offset) ↔
        Units least (stop - skip + 1) (mem.drop (offset + skip))) := by
  intro rounds
  induction rounds with
  | zero =>
      intro s offset hlen
      have hnil : mem.drop (offset + skip) = [] := List.drop_eq_nil_of_le (by omega)
      rw [hnil]
      constructor
      · exact fun h => absurd h (not_safe_error _)
      · intro h
        obtain ⟨_, _, _, h⟩ := h.exists_cons
        cases h
  | succ rounds ih =>
      intro s offset hlen
      rcases hdrop : mem.drop (offset + skip) with - | ⟨hi, - | ⟨lo, rest⟩⟩
      iterate 2
        constructor
        · rintro ⟨s', h⟩
          simp only [walk, bind_eq_ok_iff] at h
          obtain ⟨size, hload, -⟩ := h
          obtain ⟨_, _, _, h, -⟩ := loadBE16_eq_ok_iff.mp hload
          rw [hdrop] at h
          cases h
        · intro h
          obtain ⟨_, _, _, h⟩ := h.exists_cons
          cases h
      -- both size bytes are there
      have hmem : mem.length = offset + skip + 2 + rest.length := by
        have := congrArg List.length hdrop
        simp only [List.length_drop, List.length_cons] at this
        omega
      have hnext : mem.drop (offset + 2 + be16 hi lo + skip) = rest.drop (be16 hi lo) := by
        rw [show offset + 2 + be16 hi lo + skip = offset + skip + 2 + be16 hi lo by omega,
          ← List.drop_drop, ← List.drop_drop, hdrop]
        rfl
      rw [walk_succ hdrop, units_cons_iff, safe_bind_iff]
      have hv := hvisit s rest (be16 hi lo) (be16_lt hi lo)
      constructor
      · rintro ⟨s', hs', hwalk⟩
        obtain ⟨hmin, hle⟩ := hv.mp ⟨s', hs'⟩
        refine ⟨hmin, hle, fun hmore => ?_⟩
        rw [List.length_drop] at hmore
        rw [if_pos (by omega)] at hwalk
        exact hnext ▸ (ih s' _ (by omega)).mp hwalk
      · rintro ⟨hmin, hle, hrest⟩
        obtain ⟨s', hs'⟩ := hv.mpr ⟨hmin, hle⟩
        refine ⟨s', hs', ?_⟩
        split
        · have hmore : stop - skip + 1 ≤ (rest.drop (be16 hi lo)).length := by
            rw [List.length_drop]
            omega
          exact (ih s' _ (by omega)).mpr (hnext ▸ hrest hmore)
        · exact safe_pure s'

/-- **A walk over encoded units visits the units**, each with the effect `g`
that the visit has on it, whatever follows it in the memory.  `I` is what the
visits rely on and keep. -/
theorem walk_units {g : σ → List UInt8 → σ} {I : σ → Prop} (hskip : skip ≤ stop) :
    ∀ (us : List (List UInt8)) (u : List UInt8) (rounds : ℕ) (s : σ) (offset : ℕ), I s →
      (∀ v ∈ u :: us, stop - skip ≤ v.length + 1 ∧ v.length < 65536 ∧
        ∀ s, I s → I (g s v) ∧ ∀ rest, visit s (v ++ rest) v.length = .ok (g s v)) →
      mem.drop (offset + skip) = (u :: us).flatMap sized → us.length < rounds →
      walk skip stop visit mem rounds s offset = .ok ((u :: us).foldl g s) := by
  intro us
  induction us with
  -- the last unit: behind it the loop's condition fails
  | nil =>
      intro u rounds s offset hI hus hdrop hr
      obtain ⟨hlen, hlt, hvisit⟩ := hus u (by simp)
      obtain ⟨k, rfl⟩ : ∃ k, rounds = k + 1 := ⟨rounds - 1, by simp at hr; omega⟩
      have hdrop' : mem.drop (offset + skip) =
          UInt8.ofNat (u.length / 256) :: UInt8.ofNat u.length :: (u ++ []) := by
        simpa [sized, toBE16] using hdrop
      have hmem : mem.length ≤ offset + skip + 2 + u.length := by
        have := congrArg List.length hdrop'
        simp only [List.length_drop, List.length_cons, List.append_nil] at this
        omega
      rw [walk_succ hdrop', be16_toBE16 hlt, (hvisit s hI).2, ok_bind, if_neg (by omega)]
      rfl
  | cons v us ih =>
      intro u rounds s offset hI hus hdrop hr
      obtain ⟨-, hlt, hvisit⟩ := hus u (by simp)
      obtain ⟨hlen, -, -⟩ := hus v (by simp)
      obtain ⟨k, rfl⟩ : ∃ k, rounds = k + 1 := ⟨rounds - 1, by simp at hr; omega⟩
      have hdrop' : mem.drop (offset + skip) =
          UInt8.ofNat (u.length / 256) :: UInt8.ofNat u.length ::
            (u ++ (v :: us).flatMap sized) := by
        simpa [sized, toBE16] using hdrop
      have hmem : offset + skip + 2 + u.length + 2 + v.length ≤ mem.length := by
        have := congrArg List.length hdrop'
        simp only [List.length_drop, List.length_cons, List.length_append, List.flatMap_cons,
          sized, toBE16, List.length_nil] at this
        omega
      -- the next size stands right behind the unit
      have hnext : mem.drop (offset + 2 + u.length + skip) = (v :: us).flatMap sized := by
        rw [show offset + 2 + u.length + skip = offset + skip + 2 + u.length by omega,
          ← List.drop_drop, ← List.drop_drop, hdrop']
        exact List.drop_left
      rw [walk_succ hdrop', be16_toBE16 hlt, (hvisit s hI).2, ok_bind, if_pos (by omega),
        ih v k (g s u) _ (hvisit s hI).1 (fun w hw => hus w (by simp [List.mem_cons.mp hw])) hnext
          (by simp at hr; omega)]
      rfl

/-- **The invariant rule**: what every visit keeps, the walk keeps. -/
theorem walk_invariant {I : σ → Prop}
    (hvisit : ∀ s data size s', I s → size < 65536 → visit s data size = .ok s' → I s')
    (rounds : ℕ) (s : σ) (offset : ℕ) (s' : σ) (hI : I s)
    (h : walk skip stop visit mem rounds s offset = .ok s') : I s' := by
  induction rounds generalizing s offset with
  | zero => cases h
  | succ rounds ih =>
      obtain ⟨size, hload, h⟩ := bind_eq_ok_iff.mp h
      obtain ⟨hi, lo, -, -, rfl⟩ := loadBE16_eq_ok_iff.mp hload
      obtain ⟨s₁, h₁, h⟩ := bind_eq_ok_iff.mp h
      have hI₁ := hvisit s _ _ s₁ hI (be16_lt hi lo) h₁
      dsimp only at h
      split_ifs at h
      · exact ih s₁ _ hI₁ h
      · exact Except.ok.inj h ▸ hI₁

/-- **What a walk adds to a log**: what its visits add for the units that are in
the memory, in order.  `I` is what the visits rely on and keep. -/
theorem walk_log {β : Type} {I : σ → Prop} {L : σ → List β} {A : List UInt8 → List β}
    (hskip : skip ≤ stop)
    (hvisit : ∀ s data size s', I s → size < 65536 → visit s data size = .ok s' →
      I s' ∧ size ≤ data.length ∧ L s' = L s ++ A (data.take size)) :
    ∀ (rounds : ℕ) (s : σ) (offset bound : ℕ) (s' : σ), I s →
      (mem.drop (offset + skip)).length ≤ bound →
      walk skip stop visit mem rounds s offset = .ok s' →
      I s' ∧ L s' = L s ++
        (unitsIn (stop - skip + 1) bound (mem.drop (offset + skip))).flatMap A := by
  intro rounds
  induction rounds with
  | zero => exact fun _ _ _ _ _ _ h => nomatch h
  | succ rounds ih =>
      intro s offset bound s' hI hbound h
      -- the round has read a size, so there are two bytes
      have hload := h
      simp only [walk, bind_eq_ok_iff] at hload
      obtain ⟨_, hload, -⟩ := hload
      obtain ⟨hi, lo, rest, hdrop, -⟩ := loadBE16_eq_ok_iff.mp hload
      rw [walk_succ hdrop, bind_eq_ok_iff] at h
      obtain ⟨s₁, h₁, h⟩ := h
      obtain ⟨hI₁, hle, hlog⟩ := hvisit s rest (be16 hi lo) s₁ hI (be16_lt hi lo) h₁
      have hmem := congrArg List.length hdrop
      simp only [List.length_drop, List.length_cons] at hmem
      have hnext : mem.drop (offset + 2 + be16 hi lo + skip) = rest.drop (be16 hi lo) := by
        rw [show offset + 2 + be16 hi lo + skip = offset + skip + 2 + be16 hi lo by omega,
          ← List.drop_drop, ← List.drop_drop, hdrop]
        rfl
      rw [hdrop, List.length_cons, List.length_cons] at hbound
      obtain ⟨k, rfl⟩ : ∃ k, bound = k + 1 := ⟨bound - 1, by omega⟩
      rw [hdrop, unitsIn, List.flatMap_cons, ← List.append_assoc, ← hlog]
      by_cases hmore : stop - skip + 1 ≤ (rest.drop (be16 hi lo)).length
      -- the loop goes on exactly if there is a unit for the specification
      · rw [List.length_drop] at hmore
        rw [if_pos (by omega)] at h
        rw [if_pos (by rwa [List.length_drop]), ← hnext]
        exact ih s₁ _ k s' hI₁ (by rw [hnext, List.length_drop]; omega) h
      · rw [List.length_drop] at hmore
        rw [if_neg (by omega)] at h
        obtain rfl := Except.ok.inj h
        rw [if_neg (by rwa [List.length_drop])]
        exact ⟨hI₁, by simp⟩

end SizePrefixed
