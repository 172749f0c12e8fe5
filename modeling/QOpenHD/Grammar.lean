/-
QOpenHD/Grammar.lean

Readers and the encodings that they accept.

A reader takes symbols off a cursor and returns a value, or refuses.  It
`Reads` an encoding `enc : τ → List β` if it accepts exactly what begins with
`enc t` for a syntax tree `t`, takes `enc t` off the cursor and returns
`val t`; a reader that does so never faults.  Readers are put together as their
syntax trees are:

* `Reads.bind` — one reader behind another reads a pair of trees, the type of
  the second of which may depend on the first;
* `reads_guard` — a check reads nothing, and has a tree where it passes;
* `Reads.optional` — a reader under a condition has a tree where the condition holds;
* `Reads.replicate` — a reader run `n` times reads the lists of `n` trees;
* `Reads.congr` — the trees may be exchanged for others with the same encodings and
  values;
* `Reads.unique` — where the encodings of two trees begin one text, they have the same
  value and the same end.

Nothing here depends on what is read.
-/
import QOpenHD.Checked

namespace Grammar

open Checked

/-- A position in a text of symbols `β`. -/
class Cursor (σ : Type) (β : outParam Type) where
  /-- The symbols lie between the two positions. -/
  Consumes : σ → List β → σ → Prop
  consumes_nil : ∀ {s s'}, Consumes s [] s' ↔ s' = s
  consumes_append : ∀ {s x y s'}, Consumes s (x ++ y) s' ↔ ∃ m, Consumes s x m ∧ Consumes m y s'

export Cursor (Consumes)

variable {σ β : Type} [Cursor σ β] {α γ : Type}

/-- What reads off a cursor: it returns or refuses, and leaves the cursor somewhere. -/
abbrev Reader (σ α : Type) := OptionT (StateT σ Exec) α

/-- The function that a reader is. -/
def Reader.exec (p : Reader σ α) (s : σ) : Exec (Option α × σ) := p.run.run s

@[simp] theorem exec_pure (a : α) (s : σ) : Reader.exec (pure a) s = .ok (some a, s) := rfl

@[simp] theorem exec_failure (s : σ) :
    Reader.exec (failure : Reader σ α) s = .ok (none, s) := rfl

theorem exec_bind (p : Reader σ α) (f : α → Reader σ γ) (s : σ) :
    (p >>= f).exec s = p.exec s >>= fun r =>
      match r.1 with
      | some a => (f a).exec r.2
      | none => pure (none, r.2) := by
  refine congrArg (p.exec s >>= ·) (funext fun r => ?_)
  rcases r with ⟨_ | a, s'⟩ <;> rfl

theorem exec_bind_some {p : Reader σ α} {f : α → Reader σ γ} {s s' : σ} {c : γ} :
    (p >>= f).exec s = .ok (some c, s') ↔
      ∃ a m, p.exec s = .ok (some a, m) ∧ (f a).exec m = .ok (some c, s') := by
  rw [exec_bind, bind_eq_ok_iff]
  constructor
  · rintro ⟨⟨_ | a, m⟩, hp, hf⟩
    · simp [pure, Except.pure] at hf
    · exact ⟨a, m, hp, hf⟩
  · rintro ⟨a, m, hp, hf⟩
    exact ⟨(some a, m), hp, hf⟩

/-- `p` reads what `enc` writes, and returns `val` of it. -/
structure Reads {τ : Type} (p : Reader σ α) (enc : τ → List β) (val : τ → α) : Prop where
  safe : ∀ s, Safe (p.exec s)
  iff : ∀ s a s', p.exec s = .ok (some a, s') ↔ ∃ t, Consumes s (enc t) s' ∧ val t = a

variable {τ : Type} {enc : τ → List β} {val : τ → α} {p : Reader σ α}

theorem reads_pure (a : α) : Reads (pure a : Reader σ α) (fun _ : Unit => []) fun _ => a where
  safe s := ⟨_, exec_pure a s⟩
  iff s b s' := by
    rw [exec_pure]
    constructor
    · intro h
      cases h
      exact ⟨(), Cursor.consumes_nil.mpr rfl, rfl⟩
    · rintro ⟨-, hs, rfl⟩
      rw [Cursor.consumes_nil.mp hs]

theorem reads_failure : Reads (failure : Reader σ α) (fun t : Empty => t.elim) fun t => t.elim where
  safe s := ⟨_, exec_failure s⟩
  iff s b s' := by
    rw [exec_failure]
    constructor
    · intro h
      cases h
    · rintro ⟨⟨⟩, -⟩

/-- One reader behind another. -/
theorem Reads.bind {f : α → Reader σ γ} {τ' : τ → Type} {enc' : ∀ t, τ' t → List β}
    {val' : ∀ t, τ' t → γ} (hp : Reads p enc val)
    (hf : ∀ t, Reads (f (val t)) (enc' t) (val' t)) :
    Reads (p >>= f) (fun t : Sigma τ' => enc t.1 ++ enc' t.1 t.2) fun t => val' t.1 t.2 where
  safe s := by
    obtain ⟨⟨_ | a, m⟩, hm⟩ := hp.safe s
    · exact ⟨(none, m), by rw [exec_bind, hm, ok_bind]; rfl⟩
    · obtain ⟨t, -, rfl⟩ := (hp.iff s a m).mp hm
      rw [exec_bind, hm, ok_bind]
      exact (hf t).safe m
  iff s c s' := by
    rw [exec_bind_some]
    constructor
    · rintro ⟨a, m, hm, hc⟩
      obtain ⟨t, ht, rfl⟩ := (hp.iff s a m).mp hm
      obtain ⟨u, hu, rfl⟩ := ((hf t).iff m c s').mp hc
      exact ⟨⟨t, u⟩, Cursor.consumes_append.mpr ⟨m, ht, hu⟩, rfl⟩
    · rintro ⟨⟨t, u⟩, htu, rfl⟩
      obtain ⟨m, ht, hu⟩ := Cursor.consumes_append.mp htu
      exact ⟨val t, m, (hp.iff _ _ _).mpr ⟨t, ht, rfl⟩, ((hf t).iff _ _ _).mpr ⟨u, hu, rfl⟩⟩

/-- The trees may be exchanged for others with the same encodings and values. -/
theorem Reads.congr {τ' : Type} {enc' : τ' → List β} {val' : τ' → α} (hp : Reads p enc val)
    (hto : ∀ t, ∃ t', enc' t' = enc t ∧ val' t' = val t)
    (hof : ∀ t', ∃ t, enc t = enc' t' ∧ val t = val' t') : Reads p enc' val' where
  safe := hp.safe
  iff s a s' := by
    rw [hp.iff]
    constructor
    · rintro ⟨t, ht, rfl⟩
      obtain ⟨t', henc, hval⟩ := hto t
      exact ⟨t', henc ▸ ht, hval⟩
    · rintro ⟨t', ht', rfl⟩
      obtain ⟨t, henc, hval⟩ := hof t'
      exact ⟨t, henc ▸ ht', hval⟩

/-- A value put together from the one that is read. -/
theorem Reads.map (hp : Reads p enc val) (f : α → γ) :
    Reads (p >>= fun a => pure (f a)) enc (f ∘ val) :=
  (hp.bind (f := fun a => pure (f a)) fun t => reads_pure (f (val t))).congr
    (fun t => ⟨t.1, (List.append_nil _).symm, rfl⟩)
    (fun t => ⟨⟨t, ()⟩, List.append_nil _, rfl⟩)

/-- A check reads nothing, and has a tree where it passes. -/
theorem reads_guard (c : Prop) [Decidable c] :
    Reads (guard c : Reader σ Unit) (fun _ : PLift c => []) fun _ => () := by
  by_cases hc : c
  · rw [guard, if_pos hc]
    exact (reads_pure ()).congr (fun _ => ⟨⟨hc⟩, rfl, rfl⟩) (fun _ => ⟨(), rfl, rfl⟩)
  · rw [guard, if_neg hc]
    exact reads_failure.congr (fun t => t.elim) (fun t => absurd t.down hc)

/-- A reader that runs under a condition has a tree where the condition holds. -/
theorem Reads.optional (hp : Reads p enc val) (c : Prop) [Decidable c] (a : α) :
    Reads (if c then p else pure a)
      (fun t : { t : Option τ // t.isSome = decide c } => t.1.elim [] enc)
      fun t => (t.1.map val).getD a := by
  by_cases hc : c
  · rw [if_pos hc]
    refine hp.congr (fun t => ⟨⟨some t, (decide_eq_true hc).symm⟩, rfl, rfl⟩) ?_
    rintro ⟨_ | t, ht⟩
    · rw [decide_eq_true hc] at ht
      cases ht
    · exact ⟨t, rfl, rfl⟩
  · rw [if_neg hc]
    refine (reads_pure a).congr (fun _ => ⟨⟨none, (decide_eq_false hc).symm⟩, rfl, rfl⟩) ?_
    rintro ⟨_ | t, ht⟩
    · exact ⟨(), rfl, rfl⟩
    · rw [decide_eq_false hc] at ht
      cases ht

/-- `p` run `n` times. -/
def Reader.replicate (p : Reader σ α) : ℕ → Reader σ Unit
  | 0 => pure ()
  | n + 1 => p >>= fun _ => Reader.replicate p n

theorem Reads.replicate (hp : Reads p enc val) (n : ℕ) :
    Reads (p.replicate n) (fun ts : { ts : List τ // ts.length = n } => ts.1.flatMap enc)
      fun _ => () := by
  induction n with
  | zero =>
      refine (reads_pure ()).congr (fun _ => ⟨⟨[], rfl⟩, rfl, rfl⟩) ?_
      rintro ⟨ts, hts⟩
      rw [List.length_eq_zero_iff] at hts
      subst hts
      exact ⟨(), rfl, rfl⟩
  | succ n ih =>
      refine (hp.bind fun _ => ih).congr ?_ ?_
      · rintro ⟨t, ts, hts⟩
        exact ⟨⟨t :: ts, by rw [List.length_cons, hts]⟩, rfl, rfl⟩
      · rintro ⟨_ | ⟨t, ts⟩, hts⟩
        · cases hts
        · exact ⟨⟨t, ts, Nat.succ.inj hts⟩, rfl, rfl⟩

/-- Where the encodings of two trees begin one text, they have one value and one end. -/
theorem Reads.unique (hp : Reads p enc val) {s s' s'' : σ} {t u : τ}
    (ht : Consumes s (enc t) s') (hu : Consumes s (enc u) s'') : val t = val u ∧ s' = s'' := by
  have h₁ := (hp.iff s (val t) s').mpr ⟨t, ht, rfl⟩
  have h₂ := (hp.iff s (val u) s'').mpr ⟨u, hu, rfl⟩
  rw [h₁] at h₂
  simpa using h₂

end Grammar
