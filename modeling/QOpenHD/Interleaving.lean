/-
QOpenHD/Interleaving.lean

A thread among others.

A thread is a sequence of calls, each of which may depend on what the calls
before it answered.  It works on a state that others change between any two of
its calls, and waits where a call has no outcome.

`Triple w J P p Q` says that the thread `p`, started where `P`, meets no fault
and waits for nothing that others cannot bring about, whatever they do; that
`J` holds all the time; and that `p` returns only where `Q`.  The rules:

* `Triple.done`, `Triple.call`, `Triple.bind`, `Triple.times` — one for each
  way to put a thread together; what is known between two calls has to be
  `Stable`, that is kept by the others;
* `Triple.pre`, `Triple.post`, `Triple.known`, `Triple.exists` — the rule of consequence,
  what is known besides the state, and what is known to exist;
* **`Triple.finishes`** — from every state that is reached, the thread can get
  to its end.

Nothing here depends on what the calls are.
-/
import QOpenHD.Checked
import Mathlib.Logic.Relation

namespace Interleaving

open Checked Relation

/-- A thread that calls operations `o : Op`, which answer in `Ans o`. -/
inductive Thread (Op : Type) (Ans : Op → Type) (α : Type)
  | done (a : α)
  | call (o : Op) (k : Ans o → Thread Op Ans α)

variable {Op : Type} {Ans : Op → Type} {α β : Type}

namespace Thread

protected def bind : Thread Op Ans α → (α → Thread Op Ans β) → Thread Op Ans β
  | done a, f => f a
  | call o k, f => call o fun x => (k x).bind f

instance : Monad (Thread Op Ans) where
  pure := done
  bind := Thread.bind

/-- A single call. -/
def perform (o : Op) : Thread Op Ans (Ans o) := call o done

/-- The thread, `n` times. -/
def times (p : Thread Op Ans Unit) : ℕ → Thread Op Ans Unit
  | 0 => pure ()
  | n + 1 => do
      p
      p.times n

end Thread

open Thread

/-! ### Steps -/

/-- What a call may come to, and what others may do to the state. -/
structure World (Op : Type) (Ans : Op → Type) (σ : Type) where
  calls : (o : Op) → σ → Exec (Ans o × σ) → Prop
  others : σ → σ → Prop

variable {σ : Type} {w : World Op Ans σ}

inductive Step (w : World Op Ans σ) : Thread Op Ans α × σ → Thread Op Ans α × σ → Prop
  | others {p : Thread Op Ans α} {s s' : σ} : w.others s s' → Step w (p, s) (p, s')
  | call {o : Op} {k : Ans o → Thread Op Ans α} {s : σ} {a : Ans o} {s' : σ} :
      w.calls o s (.ok (a, s')) → Step w (.call o k, s) (k a, s')

/-- The thread and its state, some steps later. -/
abbrev Reaches (w : World Op Ans σ) : Thread Op Ans α × σ → Thread Op Ans α × σ → Prop :=
  ReflTransGen (Step w)

/-- The others, some steps later. -/
abbrev Meanwhile (w : World Op Ans σ) : σ → σ → Prop := ReflTransGen w.others

/-- A call of `o` does not fault here, and what it may wait for can come about. -/
def Possible (w : World Op Ans σ) (o : Op) (s : σ) : Prop :=
  (∀ e, ¬ w.calls o s (.error e)) ∧
    ∃ s' a s'', Meanwhile w s s' ∧ w.calls o s' (.ok (a, s''))

/-- The thread has returned, or it can go on. -/
def GoesOn (w : World Op Ans σ) (s : σ) : Thread Op Ans α → Prop
  | .done _ => True
  | .call o _ => Possible w o s

theorem Meanwhile.reaches (p : Thread Op Ans α) {s s' : σ} (h : Meanwhile w s s') :
    Reaches w (p, s) (p, s') := by
  induction h with
  | refl => exact .refl
  | tail _ hstep ih => exact ih.tail (.others hstep)

theorem reaches_done {a : α} {s s' : σ} {p : Thread Op Ans α}
    (h : Reaches w (.done a, s) (p, s')) : p = .done a ∧ Meanwhile w s s' := by
  generalize hc : (p, s') = c at h
  induction h generalizing p s' with
  | refl =>
      cases hc
      exact ⟨rfl, .refl⟩
  | tail _ hstep ih =>
      subst hc
      cases hstep with
      | others hother =>
          obtain ⟨rfl, hmeanwhile⟩ := ih rfl
          exact ⟨rfl, hmeanwhile.tail hother⟩
      | call hcall => exact absurd (ih rfl).1 (by simp)

/-- Before its first call and behind it. -/
theorem reaches_call {o : Op} {k : Ans o → Thread Op Ans α} {s s' : σ} {p : Thread Op Ans α}
    (h : Reaches w (.call o k, s) (p, s')) :
    (p = .call o k ∧ Meanwhile w s s') ∨
      ∃ s₁ a s₂, Meanwhile w s s₁ ∧ w.calls o s₁ (.ok (a, s₂)) ∧ Reaches w (k a, s₂) (p, s') := by
  generalize hc : (p, s') = c at h
  induction h generalizing p s' with
  | refl =>
      cases hc
      exact .inl ⟨rfl, .refl⟩
  | tail _ hstep ih =>
      subst hc
      cases hstep with
      | others hother =>
          rcases ih rfl with ⟨rfl, hmeanwhile⟩ | ⟨s₁, a, s₂, h₁, hcall, h₂⟩
          · exact .inl ⟨rfl, hmeanwhile.tail hother⟩
          · exact .inr ⟨s₁, a, s₂, h₁, hcall, h₂.tail (.others hother)⟩
      | call hcall =>
          rcases ih rfl with ⟨heq, hmeanwhile⟩ | ⟨s₁, a, s₂, h₁, hcall₁, h₂⟩
          · cases heq
            exact .inr ⟨_, _, _, hmeanwhile, hcall, .refl⟩
          · exact .inr ⟨s₁, a, s₂, h₁, hcall₁, h₂.tail (.call hcall)⟩

/-- What the first part of a thread can do, the whole can. -/
theorem Reaches.bind {p p' : Thread Op Ans α} {s s' : σ} (h : Reaches w (p, s) (p', s'))
    (f : α → Thread Op Ans β) : Reaches w (p >>= f, s) (p' >>= f, s') := by
  refine h.lift (fun c => (c.1 >>= f, c.2)) fun _ _ hstep => ?_
  cases hstep with
  | others hother => exact .others hother
  | call hcall => exact .call hcall

/-- In its first part and in the second one. -/
theorem reaches_bind {p : Thread Op Ans α} {f : α → Thread Op Ans β} {s s' : σ}
    {q : Thread Op Ans β} (h : Reaches w (p >>= f, s) (q, s')) :
    (∃ o k, q = (.call o k : Thread Op Ans α) >>= f ∧ Reaches w (p, s) (.call o k, s')) ∨
      ∃ a s₁, Reaches w (p, s) (.done a, s₁) ∧ Reaches w (f a, s₁) (q, s') := by
  induction p generalizing s with
  | done a => exact .inr ⟨a, s, .refl, h⟩
  | call o k ih =>
      rcases reaches_call h with ⟨rfl, hmeanwhile⟩ | ⟨s₁, a, s₂, h₁, hcall, h₂⟩
      · exact .inl ⟨o, k, rfl, hmeanwhile.reaches _⟩
      · have hfirst : Reaches w (.call o k, s) (k a, s₂) := (h₁.reaches _).tail (.call hcall)
        rcases ih a h₂ with ⟨o', k', rfl, hk⟩ | ⟨b, s₃, hk, hf⟩
        · exact .inl ⟨o', k', rfl, hfirst.trans hk⟩
        · exact .inr ⟨b, s₃, hfirst.trans hk, hf⟩

/-! ### Triples -/

/-- Others keep it. -/
def Stable (w : World Op Ans σ) (P : σ → Prop) : Prop := ∀ s s', P s → w.others s s' → P s'

theorem Stable.meanwhile {P : σ → Prop} (h : Stable w P) {s s' : σ} (hs : P s)
    (hmeanwhile : Meanwhile w s s') : P s' := by
  induction hmeanwhile with
  | refl => exact hs
  | tail _ hother ih => exact h _ _ ih hother

/-- Started where `P`, the thread can always go on, `J` always holds, and it returns only
where `Q`. -/
def Triple (w : World Op Ans σ) (J P : σ → Prop) (p : Thread Op Ans α) (Q : α → σ → Prop) : Prop :=
  ∀ s p' s', P s → Reaches w (p, s) (p', s') →
    GoesOn w s' p' ∧ J s' ∧ ∀ a, p' = .done a → Q a s'

variable {J P : σ → Prop} {p : Thread Op Ans α} {Q R : α → σ → Prop}

theorem Triple.pre {P' : σ → Prop} (h : Triple w J P p Q) (hP : ∀ s, P' s → P s) :
    Triple w J P' p Q :=
  fun s p' s' hs => h s p' s' (hP s hs)

theorem Triple.post (h : Triple w J P p R) (hQ : ∀ a s, R a s → Q a s) : Triple w J P p Q := by
  intro s p' s' hs hreach
  obtain ⟨hgo, hJ, hR⟩ := h s p' s' hs hreach
  exact ⟨hgo, hJ, fun a ha => hQ a s' (hR a ha)⟩

/-- A fact that is known besides the state. -/
theorem Triple.known {φ : Prop} (h : φ → Triple w J P p Q) : Triple w J (fun s => φ ∧ P s) p Q :=
  fun s p' s' hs => h hs.1 s p' s' hs.2

/-- What is known to exist. -/
theorem Triple.exists {ι : Type} {P : ι → σ → Prop} (h : ∀ i, Triple w J (P i) p Q) :
    Triple w J (fun s => ∃ i, P i s) p Q := by
  rintro s p' s' ⟨i, hs⟩
  exact h i s p' s' hs

theorem Triple.done {a : α} (hstable : Stable w P) (hJ : ∀ s, P s → J s) (hQ : ∀ s, P s → Q a s) :
    Triple w J P (pure a) Q := by
  intro s p' s' hs hreach
  obtain ⟨rfl, hmeanwhile⟩ := reaches_done hreach
  have hs' := hstable.meanwhile hs hmeanwhile
  refine ⟨trivial, hJ s' hs', ?_⟩
  rintro _ ⟨⟩
  exact hQ s' hs'

theorem Triple.call {o : Op} {Q : Ans o → σ → Prop} (hstable : Stable w P) (hJ : ∀ s, P s → J s)
    (hgo : ∀ s, P s → Possible w o s)
    (hcall : ∀ s a s', P s → w.calls o s (.ok (a, s')) → Q a s')
    (hQ : ∀ a, Stable w (Q a)) (hQJ : ∀ a s, Q a s → J s) :
    Triple w J P (perform o) Q := by
  intro s p' s' hs hreach
  rcases reaches_call hreach with ⟨rfl, hmeanwhile⟩ | ⟨s₁, a, s₂, h₁, hok, h₂⟩
  · have hs' := hstable.meanwhile hs hmeanwhile
    exact ⟨hgo s' hs', hJ s' hs', nofun⟩
  · obtain ⟨rfl, hmeanwhile⟩ := reaches_done h₂
    have hs' := (hQ a).meanwhile (hcall s₁ a s₂ (hstable.meanwhile hs h₁) hok) hmeanwhile
    refine ⟨trivial, hQJ a s' hs', ?_⟩
    rintro _ ⟨⟩
    exact hs'

theorem Triple.bind {f : α → Thread Op Ans β} {Q : β → σ → Prop} (hp : Triple w J P p R)
    (hf : ∀ a, Triple w J (R a) (f a) Q) : Triple w J P (p >>= f) Q := by
  intro s q s' hs hreach
  rcases reaches_bind hreach with ⟨o, k, rfl, hfirst⟩ | ⟨a, s₁, hfirst, hsecond⟩
  · obtain ⟨hgo, hJ, -⟩ := hp s _ s' hs hfirst
    exact ⟨hgo, hJ, nofun⟩
  · obtain ⟨-, -, hR⟩ := hp s _ s₁ hs hfirst
    exact hf a s₁ q s' (hR a rfl) hsecond

/-- What one turn keeps, any number of turns keeps. -/
theorem Triple.times {p : Thread Op Ans Unit} (hstable : Stable w P) (hJ : ∀ s, P s → J s)
    (h : Triple w J P p fun _ => P) (n : ℕ) : Triple w J P (p.times n) fun _ => P := by
  induction n with
  | zero => exact .done hstable hJ fun _ hs => hs
  | succ n ih => exact h.bind fun _ => ih

/-- **The thread can always get to its end.** -/
theorem Triple.finishes (h : Triple w J P p Q) {s : σ} (hs : P s) {p' : Thread Op Ans α} {s' : σ}
    (hreach : Reaches w (p, s) (p', s')) : ∃ a s'', Reaches w (p', s') (.done a, s'') := by
  induction p' generalizing s' with
  | done a => exact ⟨a, s', .refl⟩
  | call o k ih =>
      obtain ⟨⟨-, s₁, a, s₂, hmeanwhile, hok⟩, -⟩ := h s _ s' hs hreach
      have hnext : Reaches w (.call o k, s') (k a, s₂) := (hmeanwhile.reaches _).tail (.call hok)
      obtain ⟨b, s'', hrest⟩ := ih a (hreach.trans hnext)
      exact ⟨b, s'', hnext.trans hrest⟩

end Interleaving
