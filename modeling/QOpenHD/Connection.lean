/-
QOpenHD/Connection.lean

Whether a telemetry connection is alive (`tcp_connection.cpp`,
`udp_connection.cpp`).

The clock counts milliseconds in 64 bits; the time of the last data is kept in 32
bits with a sign.  It is subtracted from the clock once in 32 bits, by
`threadsafe_is_alive`, where the result may overflow, and once in 64 bits, by
`receive_until_stopped`, after its sign was extended.

* `toInt_of_subInt`, `toNat_elapsedLastMessage` — what both subtractions compute;
* **`alive_and_inactive_iff`** — after any run, when each of them gives the answer that the
  times of the data call for.
-/
import QOpenHD.Checked
import Mathlib.Algebra.Group.Int.Defs
import Mathlib.Algebra.Group.Nat.Defs

namespace QOpenHD

open Checked

/-! ### Times in 32 and in 64 bits -/

/-- The clock as an `int32_t`. -/
def toInt32 (now : UInt64) : Int32 := now.toUInt32.toInt32

/-- The difference of two `int`s, if it is one. -/
def subInt (a b : Int32) : Option Int32 :=
  if -2 ^ 31 ≤ a.toInt - b.toInt ∧ a.toInt - b.toInt < 2 ^ 31 then some (a - b) else none

theorem toInt_of_subInt {a b d : Int32} (h : subInt a b = some d) :
    d.toInt = a.toInt - b.toInt := by
  unfold subInt at h
  split_ifs at h with hrange
  obtain rfl := Option.some.inj h
  rw [Int32.toInt_sub]
  exact Int.bmod_eq_of_le (by omega) (by omega)

/-- `threadsafe_is_alive` of both connections; without a result where `elapsed` overflows. -/
def isAlive (lastDataMs : Int32) (now : UInt64) : Option Bool :=
  (subInt (toInt32 now) lastDataMs).map fun elapsed => elapsed ≤ 3 * 1000

/-- `elapsed_last_message` of `receive_until_stopped`. -/
def elapsedLastMessage (lastDataMs : Int32) (now : UInt64) : UInt64 :=
  now - lastDataMs.toInt64.toUInt64

/-- A number of 32 bits with the sign that its first bit stands for. -/
def signed (n : ℕ) : ℤ :=
  if n % 2 ^ 32 < 2 ^ 31 then (n % 2 ^ 32 : ℕ) else (n % 2 ^ 32 : ℕ) - 2 ^ 32

theorem toInt_toInt32 (now : UInt64) : (toInt32 now).toInt = signed now.toNat := by
  have hbits : (toInt32 now).toBitVec.toNat = now.toNat % 2 ^ 32 := UInt64.toNat_toUInt32 now
  rw [← Int32.toInt_toBitVec, BitVec.toInt_eq_toNat_cond, hbits, signed]
  split <;> split <;> omega

/-- A difference that is one in 32 bits. -/
theorem signed_sub {n m : ℕ} (hle : m ≤ n) (h : -2 ^ 31 ≤ signed n - signed m)
    (h' : signed n - signed m < 2 ^ 31) : signed n - signed m = signed (n - m) := by
  unfold signed at h h' ⊢
  split at h <;> split at h <;> split <;> omega

/-- The sign is extended. -/
theorem toNat_toInt64 (x : Int32) : (x.toInt64.toUInt64.toNat : ℤ) = x.toInt % 2 ^ 64 := by
  have hvalue : x.toInt64.toBitVec.toInt = x.toInt := Int32.toInt_toInt64 x
  have hbits : x.toInt64.toUInt64.toNat = x.toInt64.toBitVec.toNat := rfl
  have hlt := x.toInt64.toBitVec.isLt
  rw [hbits, ← hvalue, BitVec.toInt_eq_toNat_cond]
  split <;> omega

theorem toNat_elapsedLastMessage (t now : UInt64) :
    ((elapsedLastMessage (toInt32 t) now).toNat : ℤ) =
      (now.toNat - signed t.toNat) % 2 ^ 64 := by
  have hsign := toNat_toInt64 (toInt32 t)
  have hlt := now.toNat_lt
  rw [toInt_toInt32] at hsign
  rw [elapsedLastMessage, UInt64.toNat_sub]
  omega

/-- `threadsafe_is_alive`, where the last data came at time `t`. -/
theorem isAlive_toInt32 (t now : UInt64) :
    isAlive (toInt32 t) now =
      if -2 ^ 31 ≤ signed now.toNat - signed t.toNat ∧
          signed now.toNat - signed t.toNat < 2 ^ 31 then
        some (decide (signed now.toNat - signed t.toNat ≤ 3000))
      else none := by
  unfold isAlive subInt
  rw [toInt_toInt32, toInt_toInt32]
  split
  · rename_i hrange
    have hsub : (toInt32 now - toInt32 t).toInt = signed now.toNat - signed t.toNat := by
      rw [Int32.toInt_sub, toInt_toInt32, toInt_toInt32]
      exact Int.bmod_eq_of_le hrange.1 hrange.2
    have hle : toInt32 now - toInt32 t ≤ 3 * 1000 ↔ signed now.toNat - signed t.toNat ≤ 3000 := by
      rw [Int32.le_iff_toInt_le, hsub]
      rfl
    rw [Option.map_some, decide_eq_decide.mpr hle]
  · rfl

/-- `threadsafe_is_alive`, before any data. -/
theorem isAlive_zero (now : UInt64) : isAlive 0 now = some (decide (signed now.toNat ≤ 3000)) := by
  have hzero : (0 : Int32) = toInt32 0 := rfl
  have hsigned : signed (UInt64.toNat 0) = 0 := rfl
  have hrange : -2 ^ 31 ≤ signed now.toNat - 0 ∧ signed now.toNat - 0 < 2 ^ 31 := by
    unfold signed
    split <;> omega
  rw [hzero, isAlive_toInt32, hsigned, if_pos hrange, Int.sub_zero]

/-! ### What is asked for -/

/-- Data came, and at most 3000 milliseconds ago. -/
def Recent (latest : Option UInt64) (now : UInt64) : Prop :=
  ∃ t, latest = some t ∧ now.toNat - t.toNat ≤ 3000

/-- When `threadsafe_is_alive` is right.  Before any data, the clock must look late in 32
bits.  Then the subtraction must not overflow, and a time of more than 3000
milliseconds must still be one in 32 bits. -/
def AliveRight (latest : Option UInt64) (now : UInt64) : Prop :=
  match latest with
  | none => 3000 < now.toNat % 2 ^ 32 ∧ now.toNat % 2 ^ 32 < 2 ^ 31
  | some t =>
    -2 ^ 31 ≤ signed now.toNat - signed t.toNat ∧ signed now.toNat - signed t.toNat < 2 ^ 31 ∧
      (3000 < now.toNat - t.toNat →
        3000 < (now.toNat - t.toNat) % 2 ^ 32 ∧ (now.toNat - t.toNat) % 2 ^ 32 < 2 ^ 31)

instance decidableAliveRight : ∀ latest now, Decidable (AliveRight latest now)
  | none, _ => inferInstanceAs (Decidable (_ ∧ _))
  | some _, _ => inferInstanceAs (Decidable (_ ∧ _ ∧ (_ → _)))

/-- When `receive_until_stopped` is right: the time of the last data has a small 32-bit
value or one at the end of the 64 bits, or it is time to leave and the difference
does not wrap to a small one. -/
def InactiveRight (t now : UInt64) : Prop :=
  t.toNat < 2 ^ 31 ∨ 2 ^ 64 - 2 ^ 31 ≤ t.toNat ∨
    (3000 < now.toNat - t.toNat ∧
      ¬ (2 ^ 64 ≤ now.toNat - signed t.toNat ∧ now.toNat - signed t.toNat ≤ 2 ^ 64 + 3000))

/-- A call returns, and says whether `p`. -/
def Tells (result : Option Bool) (p : Prop) : Prop := ∃ b, result = some b ∧ (b = true ↔ p)

theorem tells_decide_iff {p q : Prop} [Decidable q] : Tells (some (decide q)) p ↔ (q ↔ p) := by
  constructor
  · rintro ⟨b, hb, hp⟩
    rw [← hp, ← Option.some.inj hb, decide_eq_true_iff]
  · intro h
    exact ⟨decide q, rfl, by rw [decide_eq_true_iff, h]⟩

theorem not_tells_none {p : Prop} : ¬ Tells none p := by
  rintro ⟨b, hb, -⟩
  cases hb

theorem isAlive_none_iff (now : UInt64) :
    Tells (isAlive 0 now) (Recent none now) ↔ AliveRight none now := by
  have hrecent : ¬ Recent none now := by
    rintro ⟨t, ht, -⟩
    cases ht
  rw [isAlive_zero, tells_decide_iff, iff_false_right hrecent, AliveRight]
  unfold signed
  split <;> omega

theorem isAlive_some_iff {t now : UInt64} (hle : t ≤ now) :
    Tells (isAlive (toInt32 t) now) (Recent (some t) now) ↔ AliveRight (some t) now := by
  have hle' : t.toNat ≤ now.toNat := UInt64.le_iff_toNat_le.mp hle
  have hrecent : Recent (some t) now ↔ now.toNat - t.toNat ≤ 3000 := by
    constructor
    · rintro ⟨_, ⟨⟩, h⟩
      exact h
    · exact fun h => ⟨t, rfl, h⟩
  rw [isAlive_toInt32, AliveRight, hrecent]
  by_cases hrange : -2 ^ 31 ≤ signed now.toNat - signed t.toNat ∧
      signed now.toNat - signed t.toNat < 2 ^ 31
  · rw [if_pos hrange, tells_decide_iff, ← and_assoc, and_iff_right hrange,
      signed_sub hle' hrange.1 hrange.2]
    unfold signed
    split <;> omega
  · rw [if_neg hrange]
    exact iff_of_false not_tells_none fun h => hrange ⟨h.1, h.2.1⟩

/-- The check of `receive_until_stopped`. -/
theorem elapsed_iff {t now : UInt64} (hle : t ≤ now) :
    (elapsedLastMessage (toInt32 t) now > 3 * 1000 ↔ 3000 < now.toNat - t.toNat) ↔
      InactiveRight t now := by
  have hle' : t.toNat ≤ now.toNat := UInt64.le_iff_toNat_le.mp hle
  have hnow := now.toNat_lt
  have helapsed := toNat_elapsedLastMessage t now
  have hgt : elapsedLastMessage (toInt32 t) now > 3 * 1000 ↔
      3000 < (elapsedLastMessage (toInt32 t) now).toNat := UInt64.lt_iff_toNat_lt
  rw [hgt, InactiveRight]
  unfold signed at helapsed ⊢
  split at helapsed <;> omega

/-! ### The connections -/

/-- A connection, the time, and when data came last. -/
structure Timed (σ : Type) where
  connection : σ
  clock : UInt64
  latest : Option UInt64

/-- What a connection keeps of the time of the last data. -/
structure KeepsLatest (lastDataMs : Int32) (clock : UInt64) (latest : Option UInt64) : Prop where
  value : lastDataMs = latest.elim 0 toInt32
  past : ∀ t, latest = some t → t ≤ clock

theorem keepsLatest_init : KeepsLatest 0 0 none := ⟨rfl, nofun⟩

/-- Data arrives. -/
theorem keepsLatest_data (now : UInt64) : KeepsLatest (toInt32 now) now (some now) := by
  refine ⟨rfl, ?_⟩
  rintro _ ⟨⟩
  exact UInt64.le_refl now

/-- Time passes. -/
theorem KeepsLatest.later {lastDataMs : Int32} {clock now : UInt64} {latest : Option UInt64}
    (h : KeepsLatest lastDataMs clock latest) (hle : clock ≤ now) :
    KeepsLatest lastDataMs now latest :=
  ⟨h.value, fun t ht => UInt64.le_trans (h.past t ht) hle⟩

theorem KeepsLatest.isAlive_iff {lastDataMs : Int32} {now : UInt64} {latest : Option UInt64}
    (h : KeepsLatest lastDataMs now latest) :
    Tells (isAlive lastDataMs now) (Recent latest now) ↔ AliveRight latest now := by
  obtain ⟨rfl, hpast⟩ := h
  rcases latest with - | t
  · exact isAlive_none_iff now
  · exact isAlive_some_iff (hpast t rfl)

/-- The two members of `TCPConnection` that matter: `m_last_data_ms`, and whether the
thread is in `receive_until_stopped`. -/
structure TCPConnection where
  lastDataMs : Int32
  receiving : Bool

namespace TCPConnection

def threadsafeIsAlive (c : TCPConnection) (now : UInt64) : Option Bool := isAlive c.lastDataMs now

/-- No message for more than three seconds: the loop of `receive_until_stopped` returns. -/
def inactive (c : TCPConnection) (now : UInt64) : Bool :=
  elapsedLastMessage c.lastDataMs now > 3 * 1000

inductive Event
  /-- `loop_connect_receive` gets a socket. -/
  | connected (now : UInt64)
  /-- A turn of `receive_until_stopped` begins. -/
  | turn (now : UInt64)
  | processData (now : UInt64)
  /-- `m_keep_receiving` is found to be false. -/
  | stopped

def init : Timed TCPConnection := ⟨⟨0, false⟩, 0, none⟩

def step (w : Timed TCPConnection) : Event → Exec (Timed TCPConnection)
  | .connected now => do
    require (w.clock ≤ now)
    require (w.connection.receiving = false)
    pure ⟨⟨toInt32 now, true⟩, now, some now⟩
  | .turn now => do
    require (w.clock ≤ now)
    require (w.connection.receiving = true)
    pure ⟨⟨w.connection.lastDataMs, !w.connection.inactive now⟩, now, w.latest⟩
  | .processData now => do
    require (w.clock ≤ now)
    require (w.connection.receiving = true)
    pure ⟨⟨toInt32 now, true⟩, now, some now⟩
  | .stopped => pure ⟨⟨w.connection.lastDataMs, false⟩, w.clock, w.latest⟩

/-- What every step keeps; whoever receives has connected. -/
structure Inv (w : Timed TCPConnection) : Prop where
  keeps : KeepsLatest w.connection.lastDataMs w.clock w.latest
  connected : w.connection.receiving = true → ∃ t, w.latest = some t

theorem inv_init : Inv init := ⟨keepsLatest_init, nofun⟩

theorem Inv.step {w w' : Timed TCPConnection} {e : Event} (hi : Inv w)
    (h : TCPConnection.step w e = .ok w') : Inv w' := by
  rcases e with now | now | now | -
  · obtain ⟨_, -, h⟩ := bind_eq_ok_iff.mp h
    obtain ⟨_, -, h⟩ := bind_eq_ok_iff.mp h
    obtain rfl := Except.ok.inj h
    exact ⟨keepsLatest_data now, fun _ => ⟨now, rfl⟩⟩
  · obtain ⟨_, hclock, h⟩ := bind_eq_ok_iff.mp h
    obtain ⟨_, hreceiving, h⟩ := bind_eq_ok_iff.mp h
    obtain rfl := Except.ok.inj h
    exact ⟨hi.keeps.later (require_eq_ok_iff.mp hclock),
      fun _ => hi.connected (require_eq_ok_iff.mp hreceiving)⟩
  · obtain ⟨_, -, h⟩ := bind_eq_ok_iff.mp h
    obtain ⟨_, -, h⟩ := bind_eq_ok_iff.mp h
    obtain rfl := Except.ok.inj h
    exact ⟨keepsLatest_data now, fun _ => ⟨now, rfl⟩⟩
  · obtain rfl := Except.ok.inj h
    exact ⟨hi.keeps, nofun⟩

end TCPConnection

/-- `m_last_data_ms` of `UDPConnection`. -/
structure UDPConnection where
  lastDataMs : Int32

namespace UDPConnection

def threadsafeIsAlive (c : UDPConnection) (now : UInt64) : Option Bool := isAlive c.lastDataMs now

/-- `connect_once` receives data. -/
structure Event where
  now : UInt64

def init : Timed UDPConnection := ⟨⟨0⟩, 0, none⟩

def step (w : Timed UDPConnection) (e : Event) : Exec (Timed UDPConnection) := do
  require (w.clock ≤ e.now)
  pure ⟨⟨toInt32 e.now⟩, e.now, some e.now⟩

/-- What every step keeps. -/
def Inv (w : Timed UDPConnection) : Prop := KeepsLatest w.connection.lastDataMs w.clock w.latest

theorem inv_init : Inv init := keepsLatest_init

theorem Inv.step {w w' : Timed UDPConnection} {e : Event} (_ : Inv w)
    (h : UDPConnection.step w e = .ok w') : Inv w' := by
  obtain ⟨_, -, h⟩ := bind_eq_ok_iff.mp h
  obtain rfl := Except.ok.inj h
  exact keepsLatest_data e.now

end UDPConnection

/-- **After any run of a connection, and at any later time**: `threadsafe_is_alive` tells
whether data came in the last three seconds exactly when `AliveRight`, and
`receive_until_stopped` leaves for inactivity when it should exactly when
`InactiveRight`. -/
theorem alive_and_inactive_iff (now : UInt64) :
    (∀ es w, run TCPConnection.step TCPConnection.init es = .ok w → w.clock ≤ now →
      (Tells (w.connection.threadsafeIsAlive now) (Recent w.latest now) ↔
        AliveRight w.latest now) ∧
      (w.connection.receiving = true → ∃ t, w.latest = some t ∧
        ((w.connection.inactive now = true ↔ 3000 < now.toNat - t.toNat) ↔
          InactiveRight t now))) ∧
    ∀ es w, run UDPConnection.step UDPConnection.init es = .ok w → w.clock ≤ now →
      (Tells (w.connection.threadsafeIsAlive now) (Recent w.latest now) ↔
        AliveRight w.latest now) := by
  constructor
  · intro es w hrun hnow
    have hi : TCPConnection.Inv w :=
      run_invariant (fun _ _ _ hs h => TCPConnection.Inv.step hs h) TCPConnection.inv_init hrun
    have hkeeps := hi.keeps.later hnow
    refine ⟨hkeeps.isAlive_iff, fun hreceiving => ?_⟩
    obtain ⟨t, ht⟩ := hi.connected hreceiving
    refine ⟨t, ht, ?_⟩
    have hvalue : w.connection.lastDataMs = toInt32 t := by rw [hkeeps.value, ht, Option.elim_some]
    rw [TCPConnection.inactive, hvalue, decide_eq_true_iff]
    exact elapsed_iff (hkeeps.past t ht)
  · intro es w hrun hnow
    have hi : UDPConnection.Inv w :=
      run_invariant (fun _ _ _ hs h => UDPConnection.Inv.step hs h) UDPConnection.inv_init hrun
    exact (KeepsLatest.later hi hnow).isAlive_iff

/-- A connection that was made after a minute and got data. -/
theorem alive_example :
    Tells (TCPConnection.threadsafeIsAlive ⟨toInt32 60010, true⟩ 61000)
        (Recent (some 60010) 61000) ∧
      Tells (UDPConnection.threadsafeIsAlive ⟨toInt32 60010⟩ 64000)
        (Recent (some 60010) 64000) := by
  constructor
  · exact (((alive_and_inactive_iff 61000).1
      [.connected 60000, .turn 60000, .processData 60010] _ rfl (by decide)).1).mpr (by decide)
  · exact ((alive_and_inactive_iff 64000).2 [⟨60010⟩] _ rfl (by decide)).mpr (by decide)

/-- One second after the start a connection without any data is alive, and 2³¹
milliseconds after it a connection is left as soon as it was made. -/
theorem not_alive_and_inactive :
    (run TCPConnection.step TCPConnection.init [] = .ok TCPConnection.init ∧
      ¬ Tells (TCPConnection.init.connection.threadsafeIsAlive 1000)
        (Recent TCPConnection.init.latest 1000)) ∧
      (run UDPConnection.step UDPConnection.init [] = .ok UDPConnection.init ∧
        ¬ Tells (UDPConnection.init.connection.threadsafeIsAlive 1000)
          (Recent UDPConnection.init.latest 1000)) ∧
      ∃ w, run TCPConnection.step TCPConnection.init [.connected 2147483648] = .ok w ∧
        w.connection.receiving = true ∧ w.latest = some 2147483648 ∧
          w.connection.inactive 2147483648 = true := by
  have hnone : ¬ Recent none 1000 := by
    rintro ⟨t, ht, -⟩
    cases ht
  have htrue : isAlive 0 1000 = some true := by decide
  have hnot : ¬ Tells (isAlive 0 1000) (Recent none 1000) := by
    rintro ⟨b, hb, hiff⟩
    obtain rfl := Option.some.inj (htrue.symm.trans hb)
    exact hnone (hiff.mp rfl)
  exact ⟨⟨rfl, hnot⟩, ⟨rfl, hnot⟩, _, rfl, rfl, rfl, by decide⟩

end QOpenHD
