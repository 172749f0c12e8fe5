/-
QOpenHD/RetryQueue.lean

Requests over a lossy link, each with a callback.

A request is sent, sent again whenever its delay has elapsed, and leaves the
queue either with an answer or, after the wanted number of transmissions, with
a result that says there was none; then its callback is called.  A `Protocol`
says which messages a transmission consists of, how it changes the request, and
what the callback is told in the end.

A `Queue` is the requests under way together with two logs: the messages sent,
each beside the request it was sent for, and the callbacks called.  Callbacks
are numbers.

`Ledger` compares a queue with the calls that were made: an accepted call is
either under way and not called back, or called back once and gone, and the
messages sent for it are its first transmissions.  The rules

* `Ledger.reject`, `Ledger.enqueue` — a new call,
* `Ledger.answer` — an answer to the first request that matches,
* `Ledger.visitAt` — looking at one request after some time,

say that every operation keeps it; `Ledger.exactlyOnce` and `Ledger.rejected` are
what it says about one call.  `CallsBack` says of one operation who is called
back by it, and that nobody else leaves.  `sweep` is a loop over the whole queue that
erases while it iterates and then advances; `sweep_eq_visits` says that what it
does, it does by visits, and `handlesEvery_pass_iff` when it does what it is
for: exactly if nothing has expired.
-/
import QOpenHD.Checked
import Mathlib.Data.List.Nodup
import Mathlib.Data.List.Perm.Basic

namespace RetryQueue

open Checked

variable {π μ ρ : Type}

/-! ### Queues -/

/-- Milliseconds on a clock that counts nanoseconds. -/
def milliseconds (n : ℕ) : ℤ := n * 1000000

/-- A request under way. -/
structure Job (π : Type) where
  payload : π
  cb : ℕ
  nWanted : ℕ
  retransmitDelay : ℤ
  nTransmissions : ℕ
  lastTransmission : ℤ

/-- How requests are sent, and what becomes of those that are never answered. -/
structure Protocol (π μ ρ : Type) where
  /-- The messages of one transmission. -/
  emit : π → List μ
  /-- The request after it has been sent so many times. -/
  next : π → ℕ → π
  /-- The result after so many transmissions without an answer. -/
  expired : ℕ → ρ

structure Queue (π μ ρ : Type) where
  running : List (Job π)
  sent : List (ℕ × μ)
  called : List (ℕ × ρ)

namespace Queue

def empty : Queue π μ ρ := ⟨[], [], []⟩

/-- The messages sent for one callback. -/
def sentFor (sent : List (ℕ × μ)) (t : ℕ) : List μ :=
  (sent.filter (·.1 = t)).map Prod.snd

/-- Everybody who is under way or has been called back. -/
def tickets (q : Queue π μ ρ) : List ℕ := q.running.map Job.cb ++ q.called.map Prod.fst

end Queue

open Queue

namespace Job

/-- More than the delay has passed since the last transmission. -/
def Due (j : Job π) (now : ℤ) : Prop := now - j.lastTransmission > j.retransmitDelay

instance (j : Job π) (now : ℤ) : Decidable (j.Due now) := inferInstanceAs (Decidable (_ > _))

/-- The messages of the next transmission. -/
def messages (P : Protocol π μ ρ) (j : Job π) : List (ℕ × μ) :=
  (P.emit j.payload).map (Prod.mk j.cb)

/-- The request after another transmission. -/
def transmitted (P : Protocol π μ ρ) (j : Job π) (now : ℤ) : Job π :=
  { j with payload := P.next j.payload (j.nTransmissions + 1)
           nTransmissions := j.nTransmissions + 1
           lastTransmission := now }

end Job

variable (P : Protocol π μ ρ)

namespace Queue

/-- Append a request and send it. -/
def enqueue (q : Queue π μ ρ) (j : Job π) (now : ℤ) : Queue π μ ρ :=
  { q with running := q.running ++ [j.transmitted P now], sent := q.sent ++ j.messages P }

/-- Remove the first request that matches. -/
def takeFirst (p : π → Bool) : List (Job π) → Option (Job π × List (Job π))
  | [] => none
  | j :: rest =>
    if p j.payload then some (j, rest)
    else (takeFirst p rest).map fun found => (found.1, j :: found.2)

/-- Remove the first request that matches and call it back. -/
def answer (p : π → Bool) (result : Job π → ρ) (q : Queue π μ ρ) : Bool × Queue π μ ρ :=
  match takeFirst p q.running with
  | some (j, rest) =>
    (true, { q with running := rest, called := q.called ++ [(j.cb, result j)] })
  | none => (false, q)

/-- Look at request number `i` at time `now`: send it again if it is due, at
time `later`, or give it up. -/
def visitAt (q : Queue π μ ρ) (i : ℕ) (now later : ℤ) : Queue π μ ρ :=
  match q.running[i]? with
  | none => q
  | some j =>
    if j.Due now then
      if j.nTransmissions < j.nWanted then
        { q with running := q.running.set i (j.transmitted P later)
                 sent := q.sent ++ j.messages P }
      else
        { q with running := q.running.eraseIdx i
                 called := q.called ++ [(j.cb, P.expired j.nTransmissions)] }
    else q

/-- Several visits. -/
def visits (q : Queue π μ ρ) (vs : List (ℕ × ℤ × ℤ)) : Queue π μ ρ :=
  vs.foldl (fun q v => q.visitAt P v.1 v.2.1 v.2.2) q

end Queue

/-! ### Iterating -/

/-- The loop `for(it=begin;it!=end;++it)` over the requests, which sets `it` to
what `erase` returns: behind an erased request the next one is not looked at,
and behind an erased last request the iterator leaves the list.  Round `k`
reads the clock as `clock (2 * k)` and, after sending, as `clock (2 * k + 1)`.
The requests in front of the iterator are `done`, and those that were looked at are
`seen`. -/
def sweep (clock : ℕ → ℤ) : ℕ → List (Job π) → List (Job π) → List (ℕ × μ) → List (Job π) →
    List (Job π) → Exec (List (Job π) × List (ℕ × μ) × List (Job π) × List (Job π))
  | _, done, [], sent, expired, seen => .ok (done, sent, expired, seen)
  | k, done, j :: rest, sent, expired, seen =>
    if j.Due (clock (2 * k)) then
      if j.nTransmissions < j.nWanted then
        sweep clock (k + 1) (done ++ [j.transmitted P (clock (2 * k + 1))]) rest
          (sent ++ j.messages P) expired (seen ++ [j])
      else
        match rest with
        | [] => .error .outOfBounds
        | skipped :: rest =>
          sweep clock (k + 1) (done ++ [skipped]) rest sent (expired ++ [j]) (seen ++ [j])
    else sweep clock (k + 1) (done ++ [j]) rest sent expired (seen ++ [j])

/-- One pass over a queue: the callbacks are called when the loop is over. -/
def pass (clock : ℕ → ℤ) (q : Queue π μ ρ) : Exec (Queue π μ ρ) := do
  let (running, sent, expired, _) ← sweep P clock 0 [] q.running q.sent [] []
  pure {
    running := running
    sent := sent
    called := q.called ++ expired.map fun j => (j.cb, P.expired j.nTransmissions) }

/-! ### Ledgers -/

/-- A call that was made, and whether it was accepted.  The callback of the
call number `t` is `t`. -/
structure Call (π : Type) where
  payload : π
  nWanted : ℕ
  accepted : Bool

/-- Call number `t` was made with these arguments, and accepted. -/
def IsAccepted (calls : List (Call π)) (t : ℕ) (c : Call π) : Prop :=
  calls[t]? = some c ∧ c.accepted = true

/-- The request after `n` transmissions. -/
def Protocol.after (p : π) : ℕ → π
  | 0 => p
  | n + 1 => P.next (Protocol.after p n) (n + 1)

/-- The messages of the first `n` transmissions. -/
def Protocol.transmissions (p : π) (n : ℕ) : List μ :=
  (List.range n).flatMap fun k => P.emit (P.after p k)

/-- What has been sent for callback `t` is `n` transmissions of call `c`, at
least one and no more than wanted. -/
structure Sent (calls : List (Call π)) (sent : List (ℕ × μ)) (t : ℕ) (c : Call π) (n : ℕ) :
    Prop where
  accepted : IsAccepted calls t c
  pos : 1 ≤ n
  le : n ≤ c.nWanted
  messages : sentFor sent t = P.transmissions c.payload n

/-- A request under way is as its transmissions have left it. -/
structure Underway (calls : List (Call π)) (sent : List (ℕ × μ)) (j : Job π) (c : Call π) :
    Prop where
  sent : Sent P calls sent j.cb c j.nTransmissions
  payload : j.payload = P.after c.payload j.nTransmissions
  nWanted : j.nWanted = c.nWanted

/-- The result of a call: an answer to the request as it was then (`Answer`), or
none after all the transmissions that were wanted. -/
def Outcome (Answer : π → ℕ → ρ → Prop) (c : Call π) (n : ℕ) (r : ρ) : Prop :=
  Answer (P.after c.payload n) n r ∨ r = P.expired n ∧ n = c.nWanted

/-- **The ledger**: what the calls that were made say about a queue. -/
structure Ledger (Answer : π → ℕ → ρ → Prop) (calls : List (Call π)) (q : Queue π μ ρ) :
    Prop where
  /-- Nobody is under way or called back twice. -/
  nodup : q.tickets.Nodup
  /-- Nobody is forgotten. -/
  complete : ∀ t c, IsAccepted calls t c → t ∈ q.tickets
  running : ∀ j ∈ q.running, ∃ c, Underway P calls q.sent j c
  called : ∀ e ∈ q.called, ∃ c n, Sent P calls q.sent e.1 c n ∧ Outcome P Answer c n e.2
  /-- Nothing is sent for anybody else. -/
  quiet : ∀ t, (∀ c, ¬ IsAccepted calls t c) → sentFor q.sent t = []

section Ledger

variable {P} {Answer : π → ℕ → ρ → Prop} {calls : List (Call π)} {q : Queue π μ ρ}

theorem sentFor_append (sent more : List (ℕ × μ)) (t : ℕ) :
    sentFor (sent ++ more) t = sentFor sent t ++ sentFor more t := by
  simp [sentFor]

theorem sentFor_messages_self (j : Job π) : sentFor (j.messages P) j.cb = P.emit j.payload := by
  simp [sentFor, Job.messages, List.filter_map, Function.comp_def]

theorem sentFor_messages_ne {j : Job π} {t : ℕ} (h : j.cb ≠ t) :
    sentFor (j.messages P) t = [] := by
  simp [sentFor, Job.messages, List.filter_map, Function.comp_def, h]

theorem Protocol.transmissions_succ (p : π) (n : ℕ) :
    P.transmissions p (n + 1) = P.transmissions p n ++ P.emit (P.after p n) := by
  simp [Protocol.transmissions, List.range_succ]

/-- Accepted calls stay what they are when further calls are made. -/
theorem IsAccepted.append {t : ℕ} {c : Call π} (h : IsAccepted calls t c) (c' : Call π) :
    IsAccepted (calls ++ [c']) t c := by
  obtain ⟨ht, -⟩ := List.getElem?_eq_some_iff.mp h.1
  exact ⟨by rw [List.getElem?_append_left ht, h.1], h.2⟩

theorem isAccepted_append_iff {t : ℕ} {c c' : Call π} :
    IsAccepted (calls ++ [c']) t c ↔
      IsAccepted calls t c ∨ t = calls.length ∧ c = c' ∧ c.accepted = true := by
  constructor
  · rintro ⟨ht, hacc⟩
    rcases Nat.lt_trichotomy t calls.length with hlt | rfl | hgt
    · exact .inl ⟨by rwa [List.getElem?_append_left hlt] at ht, hacc⟩
    · simp only [List.getElem?_concat_length, Option.some.injEq] at ht
      exact .inr ⟨rfl, ht.symm, hacc⟩
    · have hle : (calls ++ [c']).length ≤ t := by
        simp only [List.length_append, List.length_singleton]
        omega
      rw [List.getElem?_eq_none hle] at ht
      cases ht
  · rintro (h | ⟨rfl, rfl, hacc⟩)
    · exact h.append c'
    · exact ⟨by simp, hacc⟩

theorem Sent.append {sent : List (ℕ × μ)} {t n : ℕ} {c : Call π} (h : Sent P calls sent t c n)
    (c' : Call π) : Sent P (calls ++ [c']) sent t c n :=
  ⟨h.accepted.append c', h.pos, h.le, h.messages⟩

theorem Underway.append {sent : List (ℕ × μ)} {j : Job π} {c : Call π}
    (h : Underway P calls sent j c) (c' : Call π) : Underway P (calls ++ [c']) sent j c :=
  ⟨h.sent.append c', h.payload, h.nWanted⟩

/-- A message for somebody else changes nothing. -/
theorem Sent.other {sent : List (ℕ × μ)} {t n : ℕ} {c : Call π} (h : Sent P calls sent t c n)
    {j : Job π} (hj : j.cb ≠ t) : Sent P calls (sent ++ j.messages P) t c n :=
  ⟨h.accepted, h.pos, h.le, by
    rw [sentFor_append, sentFor_messages_ne hj, List.append_nil, h.messages]⟩

theorem Underway.other {sent : List (ℕ × μ)} {j j' : Job π} {c : Call π}
    (h : Underway P calls sent j' c) (hj : j.cb ≠ j'.cb) :
    Underway P calls (sent ++ j.messages P) j' c :=
  ⟨h.sent.other hj, h.payload, h.nWanted⟩

theorem ledger_empty : Ledger P Answer [] (Queue.empty : Queue π μ ρ) where
  nodup := List.nodup_nil
  complete := fun t c h => by simp [IsAccepted] at h
  running := nofun
  called := nofun
  quiet := fun _ _ => rfl

/-- Only accepted calls have tickets. -/
theorem Ledger.ticket_accepted (h : Ledger P Answer calls q) {t : ℕ} (ht : t ∈ q.tickets) :
    ∃ c, IsAccepted calls t c := by
  rcases List.mem_append.mp ht with hrunning | hcalled
  · obtain ⟨j, hj, rfl⟩ := List.mem_map.mp hrunning
    obtain ⟨c, hc⟩ := h.running j hj
    exact ⟨c, hc.sent.accepted⟩
  · obtain ⟨e, he, rfl⟩ := List.mem_map.mp hcalled
    obtain ⟨c, n, hc, -⟩ := h.called e he
    exact ⟨c, hc.accepted⟩

theorem Ledger.ticket_lt (h : Ledger P Answer calls q) {t : ℕ} (ht : t ∈ q.tickets) :
    t < calls.length := by
  obtain ⟨c, hc, -⟩ := h.ticket_accepted ht
  exact (List.getElem?_eq_some_iff.mp hc).1

/-! ### Tickets -/

theorem tickets_enqueue (q : Queue π μ ρ) (j : Job π) (now : ℤ) :
    (q.enqueue P j now).tickets.Perm (j.cb :: q.tickets) := by
  simp only [tickets, Queue.enqueue, List.map_append, List.map_cons, List.map_nil,
    List.append_assoc, List.singleton_append]
  exact List.perm_middle

/-- The ticket of a request, and all the others. -/
theorem tickets_middle (pre post : List (Job π)) (j : Job π) (sent : List (ℕ × μ))
    (called : List (ℕ × ρ)) :
    (tickets ⟨pre ++ j :: post, sent, called⟩).Perm
      (j.cb :: ((pre ++ post).map Job.cb ++ called.map Prod.fst)) := by
  simp only [tickets, List.map_append, List.map_cons, List.append_assoc, List.cons_append]
  exact List.perm_middle

theorem tickets_retransmit (pre post : List (Job π)) (j : Job π) (now : ℤ)
    (sent sent' : List (ℕ × μ)) (called : List (ℕ × ρ)) :
    tickets ⟨pre ++ j.transmitted P now :: post, sent', called⟩ =
      tickets ⟨pre ++ j :: post, sent, called⟩ := by
  simp [tickets, Job.transmitted]

/-- Who is called back keeps his ticket. -/
theorem tickets_finish (pre post : List (Job π)) (j : Job π) (sent : List (ℕ × μ))
    (called : List (ℕ × ρ)) (r : ρ) :
    (tickets ⟨pre ++ post, sent, called ++ [(j.cb, r)]⟩).Perm
      (tickets ⟨pre ++ j :: post, sent, called⟩) := by
  refine List.Perm.trans ?_ (tickets_middle pre post j sent called).symm
  simp only [tickets, List.map_append, List.map_cons, List.map_nil, ← List.append_assoc]
  exact List.perm_append_singleton _ _

/-- A request under way has not been called back, and nobody else has its
ticket. -/
theorem ticket_unique (h : q.tickets.Nodup) {j : Job π} (hj : j ∈ q.running) :
    j.cb ∉ q.called.map Prod.fst ∧ ∀ j' ∈ q.running, j'.cb = j.cb → j' = j := by
  obtain ⟨hrunning, -, hdisjoint⟩ := List.nodup_append'.mp h
  exact ⟨hdisjoint (List.mem_map_of_mem hj),
    fun j' hj' heq => List.inj_on_of_nodup_map hrunning hj' hj heq⟩

/-- Who was called back was so once. -/
theorem filter_called_eq (h : q.tickets.Nodup) {t : ℕ} {r : ρ} (hr : (t, r) ∈ q.called) :
    q.called.filter (·.1 = t) = [(t, r)] := by
  obtain ⟨-, hcalled, -⟩ := List.nodup_append'.mp h
  obtain ⟨pre, post, hsplit⟩ := List.append_of_mem hr
  rw [hsplit, List.map_append, List.map_cons, List.nodup_middle, List.nodup_cons,
    ← List.map_append] at hcalled
  have hothers : ∀ e ∈ pre ++ post, e.1 ≠ t := by
    rintro e he rfl
    apply hcalled.1
    exact List.mem_map.mpr ⟨e, he, rfl⟩
  have hnone : ∀ l : List (ℕ × ρ), (∀ e ∈ l, e.1 ≠ t) → l.filter (·.1 = t) = [] := fun l hl => by
    simpa using hl
  rw [hsplit, List.filter_append, List.filter_cons,
    hnone pre fun e he => hothers e (List.mem_append_left _ he),
    hnone post fun e he => hothers e (List.mem_append_right _ he)]
  simp

/-! ### The rules -/

/-- A call is rejected. -/
theorem Ledger.reject (h : Ledger P Answer calls q) {c : Call π} (hc : c.accepted = false) :
    Ledger P Answer (calls ++ [c]) q where
  nodup := h.nodup
  complete := by
    intro t c' hc'
    rcases isAccepted_append_iff.mp hc' with hold | ⟨-, rfl, hacc⟩
    · exact h.complete t c' hold
    · rw [hc] at hacc
      cases hacc
  running := fun j hj => (h.running j hj).imp fun _ hj => hj.append c
  called := fun e he => by
    obtain ⟨c', n, hsent, hout⟩ := h.called e he
    exact ⟨c', n, hsent.append c, hout⟩
  quiet := fun t ht => h.quiet t fun c' hc' => ht c' (hc'.append c)

/-- A call is accepted and sent for the first time. -/
theorem Ledger.enqueue (h : Ledger P Answer calls q) {c : Call π} (hc : c.accepted = true)
    (hpos : 1 ≤ c.nWanted) {j : Job π} (hcb : j.cb = calls.length)
    (hpayload : j.payload = c.payload) (hwanted : j.nWanted = c.nWanted)
    (hzero : j.nTransmissions = 0) (now : ℤ) :
    Ledger P Answer (calls ++ [c]) (q.enqueue P j now) := by
  have hnew : ∀ t ∈ q.tickets, j.cb ≠ t := fun t ht heq => by
    have hlt := h.ticket_lt ht
    omega
  have htickets := tickets_enqueue (P := P) q j now
  have haccepted : IsAccepted (calls ++ [c]) j.cb c :=
    isAccepted_append_iff.mpr (.inr ⟨hcb, rfl, hc⟩)
  -- the new ticket is fresh, so whatever is about another stays
  refine ⟨?_, ?_, ?_, ?_, ?_⟩
  · exact htickets.nodup_iff.mpr (List.nodup_cons.mpr ⟨fun hin => hnew _ hin rfl, h.nodup⟩)
  · intro t c' hc'
    rw [htickets.mem_iff, List.mem_cons]
    rcases isAccepted_append_iff.mp hc' with hold | ⟨rfl, -, -⟩
    · exact .inr (h.complete t c' hold)
    · exact .inl hcb.symm
  · intro j' hj'
    rcases List.mem_append.mp hj' with hold | hlast
    · obtain ⟨c', hc'⟩ := h.running j' hold
      exact ⟨c', (hc'.append c).other
        (hnew _ (List.mem_append_left _ (List.mem_map_of_mem hold)))⟩
    -- the new request: nothing was sent for its ticket before
    · obtain rfl := List.mem_singleton.mp hlast
      have hquiet : sentFor q.sent j.cb = [] := h.quiet j.cb fun c' hc' => by
        have hlt := (List.getElem?_eq_some_iff.mp hc'.1).1
        omega
      refine ⟨c, ⟨haccepted, by simp [Job.transmitted, hzero], ?_, ?_⟩, ?_, hwanted⟩
      · simpa [Job.transmitted, hzero] using hpos
      · rw [Job.transmitted, Queue.enqueue, sentFor_append, hquiet, sentFor_messages_self, hzero,
          hpayload]
        simp [Protocol.transmissions, Protocol.after]
      · simp [Job.transmitted, hzero, hpayload, Protocol.after]
  · intro e he
    obtain ⟨c', n, hsent, hout⟩ := h.called e he
    exact ⟨c', n, (hsent.append c).other
      (hnew _ (List.mem_append_right _ (List.mem_map_of_mem he))), hout⟩
  · intro t ht
    have hne : j.cb ≠ t := fun heq => ht c (heq ▸ haccepted)
    rw [Queue.enqueue, sentFor_append, sentFor_messages_ne hne, List.append_nil]
    exact h.quiet t fun c' hc' => ht c' (hc'.append c)

/-- A request under way is sent again. -/
theorem Ledger.retransmit {pre post : List (Job π)} {j : Job π} {sent : List (ℕ × μ)}
    {called : List (ℕ × ρ)} (h : Ledger P Answer calls ⟨pre ++ j :: post, sent, called⟩)
    (hmore : j.nTransmissions < j.nWanted) (now : ℤ) :
    Ledger P Answer calls
      ⟨pre ++ j.transmitted P now :: post, sent ++ j.messages P, called⟩ := by
  have htickets :=
    tickets_retransmit (P := P) pre post j now sent (sent ++ j.messages P) called
  have hnodup := h.nodup
  have hother : ∀ t, t ∈ (pre ++ post).map Job.cb ++ called.map Prod.fst → j.cb ≠ t := by
    rintro t ht rfl
    have hperm := tickets_middle pre post j sent called
    exact (List.nodup_cons.mp (hperm.nodup_iff.mp hnodup)).1 ht
  obtain ⟨c, hc⟩ := h.running j (by simp)
  refine ⟨htickets ▸ hnodup, htickets ▸ h.complete, ?_, ?_, ?_⟩
  · intro j' hj'
    rcases List.mem_append.mp hj' with hpre | hpost
    · obtain ⟨c', hc'⟩ := h.running j' (by simp [hpre])
      exact ⟨c', hc'.other (hother _ (by simp [List.mem_map_of_mem hpre]))⟩
    -- the request itself: one message more, and one transmission more
    rcases List.mem_cons.mp hpost with rfl | hpost
    · have hle : j.nTransmissions + 1 ≤ c.nWanted := hc.nWanted ▸ hmore
      refine ⟨c, ⟨hc.sent.accepted, Nat.le_add_left 1 _, hle, ?_⟩, ?_, hc.nWanted⟩
      · simp only [Job.transmitted]
        rw [sentFor_append, sentFor_messages_self, hc.sent.messages, Protocol.transmissions_succ,
          hc.payload]
      · simp only [Job.transmitted, Protocol.after]
        rw [hc.payload]
    · obtain ⟨c', hc'⟩ := h.running j' (by simp [hpost])
      exact ⟨c', hc'.other (hother _ (by simp [List.mem_map_of_mem hpost]))⟩
  · intro e he
    obtain ⟨c', n, hsent, hout⟩ := h.called e he
    exact ⟨c', n, hsent.other (hother _ (by simp [List.mem_map_of_mem he])), hout⟩
  · intro t ht
    have hne : j.cb ≠ t := fun heq => ht c (heq ▸ hc.sent.accepted)
    simp only [sentFor_append, sentFor_messages_ne hne, List.append_nil]
    exact h.quiet t ht

/-- A request under way is called back and leaves. -/
theorem Ledger.finish {pre post : List (Job π)} {j : Job π} {sent : List (ℕ × μ)}
    {called : List (ℕ × ρ)} (h : Ledger P Answer calls ⟨pre ++ j :: post, sent, called⟩) {r : ρ}
    (hr : ∀ c, Underway P calls sent j c → Outcome P Answer c j.nTransmissions r) :
    Ledger P Answer calls ⟨pre ++ post, sent, called ++ [(j.cb, r)]⟩ := by
  have hperm := tickets_finish pre post j sent called r
  refine ⟨hperm.nodup_iff.mpr h.nodup, fun t c hc => hperm.mem_iff.mpr (h.complete t c hc), ?_, ?_,
    h.quiet⟩
  · intro j' hj'
    apply h.running j'
    rcases List.mem_append.mp hj' with hpre | hpost
    · simp [hpre]
    · simp [hpost]
  · intro e he
    rcases List.mem_append.mp he with hold | hlast
    · exact h.called e hold
    · obtain rfl := List.mem_singleton.mp hlast
      obtain ⟨c, hc⟩ := h.running j (by simp)
      exact ⟨c, j.nTransmissions, hc.sent, hr c hc⟩

theorem takeFirst_eq_some {p : π → Bool} {l rest : List (Job π)} {j : Job π}
    (h : takeFirst p l = some (j, rest)) :
    ∃ pre post, l = pre ++ j :: post ∧ rest = pre ++ post ∧ p j.payload = true ∧
      ∀ j' ∈ pre, p j'.payload = false := by
  induction l generalizing rest with
  | nil => cases h
  | cons j₀ l ih =>
      unfold takeFirst at h
      by_cases hp : p j₀.payload = true
      · rw [if_pos hp] at h
        obtain ⟨rfl, rfl⟩ := Prod.mk.inj (Option.some.inj h)
        exact ⟨[], l, rfl, rfl, hp, nofun⟩
      · rw [if_neg hp, Option.map_eq_some_iff] at h
        obtain ⟨⟨j₁, rest₁⟩, hfound, heq⟩ := h
        obtain ⟨rfl, rfl⟩ := Prod.mk.inj heq
        obtain ⟨pre, post, rfl, rfl, hj, hpre⟩ := ih hfound
        refine ⟨j₀ :: pre, post, rfl, rfl, hj, fun j' hj' => ?_⟩
        rcases List.mem_cons.mp hj' with rfl | hj'
        · simpa using hp
        · exact hpre j' hj'

theorem takeFirst_append {p : π → Bool} {pre : List (Job π)} {j : Job π}
    (hpre : ∀ j' ∈ pre, p j'.payload = false) (hj : p j.payload = true) (post : List (Job π)) :
    takeFirst p (pre ++ j :: post) = some (j, pre ++ post) := by
  induction pre with
  | nil => exact if_pos hj
  | cons j₀ pre ih =>
      obtain ⟨hj₀, hpre⟩ := List.forall_mem_cons.mp hpre
      rw [List.cons_append, takeFirst, if_neg (by simp [hj₀]), ih hpre]
      rfl

theorem takeFirst_eq_none {p : π → Bool} {l : List (Job π)}
    (h : ∀ j ∈ l, p j.payload = false) : takeFirst p l = none := by
  induction l with
  | nil => rfl
  | cons j l ih =>
      obtain ⟨hj, hl⟩ := List.forall_mem_cons.mp h
      rw [takeFirst, if_neg (by simp [hj]), ih hl]
      rfl

/-- The first request that matches, by Mathlib's name. -/
theorem find?_eq_takeFirst (p : π → Bool) (l : List (Job π)) :
    l.find? (fun j => p j.payload) = (takeFirst p l).map Prod.fst := by
  induction l with
  | nil => rfl
  | cons j l ih =>
      unfold takeFirst
      by_cases hp : p j.payload = true
      · simp [hp]
      · rw [if_neg hp, Option.map_map, List.find?_cons]
        simp only [hp, ih]
        rfl

/-- An answer calls the first request that matches back, or nobody. -/
theorem Ledger.answer (h : Ledger P Answer calls q) {p : π → Bool} {result : Job π → ρ}
    (hresult : ∀ j, p j.payload = true → Answer j.payload j.nTransmissions (result j)) :
    Ledger P Answer calls (q.answer p result).2 := by
  unfold Queue.answer
  rcases hfound : takeFirst p q.running with - | ⟨j, rest⟩
  · exact h
  · obtain ⟨pre, post, hrunning, rfl, hj, -⟩ := takeFirst_eq_some hfound
    obtain ⟨running, sent, called⟩ := q
    obtain rfl : running = pre ++ j :: post := hrunning
    exact h.finish fun c hc => .inl (hc.payload ▸ hresult j hj)

/-- What a visit does. -/
theorem visitAt_cases (q : Queue π μ ρ) (i : ℕ) (now later : ℤ) :
    q.visitAt P i now later = q ∨
      ∃ pre j post, q.running = pre ++ j :: post ∧
        ((j.nTransmissions < j.nWanted ∧ q.visitAt P i now later =
            ⟨pre ++ j.transmitted P later :: post, q.sent ++ j.messages P, q.called⟩) ∨
          (¬ j.nTransmissions < j.nWanted ∧ q.visitAt P i now later =
            ⟨pre ++ post, q.sent, q.called ++ [(j.cb, P.expired j.nTransmissions)]⟩)) := by
  unfold Queue.visitAt
  rcases hfound : q.running[i]? with - | j
  · exact .inl rfl
  obtain ⟨hi, hj⟩ := List.getElem?_eq_some_iff.mp hfound
  have hsplit : q.running = q.running.take i ++ j :: q.running.drop (i + 1) := by
    rw [← hj, List.cons_getElem_drop_succ, List.take_append_drop]
  simp only
  split_ifs with hdue hmore
  · refine .inr ⟨_, j, _, hsplit, .inl ⟨hmore, ?_⟩⟩
    rw [List.set_eq_take_append_cons_drop, if_pos hi]
  · refine .inr ⟨_, j, _, hsplit, .inr ⟨hmore, ?_⟩⟩
    rw [List.eraseIdx_eq_take_drop_succ]
  · exact .inl rfl

/-- A visit keeps the ledger. -/
theorem Ledger.visitAt (h : Ledger P Answer calls q) (i : ℕ) (now later : ℤ) :
    Ledger P Answer calls (q.visitAt P i now later) := by
  rcases visitAt_cases q i now later with hq | ⟨pre, j, post, hrunning, hq⟩
  · rwa [hq]
  obtain ⟨running, sent, called⟩ := q
  obtain rfl : running = pre ++ j :: post := hrunning
  rcases hq with ⟨hmore, hq⟩ | ⟨hmore, hq⟩
  · rw [hq]
    exact h.retransmit hmore later
  · rw [hq]
    refine h.finish fun c hc => .inr ⟨rfl, ?_⟩
    have hle := hc.sent.le
    have hwanted := hc.nWanted
    omega

theorem Ledger.visits (h : Ledger P Answer calls q) (vs : List (ℕ × ℤ × ℤ)) :
    Ledger P Answer calls (q.visits P vs) := by
  induction vs generalizing q with
  | nil => exact h
  | cons v vs ih => exact ih (h.visitAt v.1 v.2.1 v.2.2)

/-- What counts as an answer may grow. -/
theorem Ledger.mono {Answer' : π → ℕ → ρ → Prop} (h : Ledger P Answer calls q)
    (himp : ∀ p n r, Answer p n r → Answer' p n r) : Ledger P Answer' calls q where
  nodup := h.nodup
  complete := h.complete
  running := h.running
  called := fun e he => by
    obtain ⟨c, n, hsent, hout⟩ := h.called e he
    exact ⟨c, n, hsent, hout.imp (himp _ _ _) id⟩
  quiet := h.quiet

/-! ### What a ledger says -/

/-- **Exactly once**: an accepted call is under way and not called back yet, or
no longer under way and called back once. -/
theorem Ledger.exactlyOnce (h : Ledger P Answer calls q) {t : ℕ} {c : Call π}
    (hc : IsAccepted calls t c) :
    (t ∈ q.running.map Job.cb ∧ t ∉ q.called.map Prod.fst) ∨
      (t ∉ q.running.map Job.cb ∧ (q.called.map Prod.fst).count t = 1) := by
  obtain ⟨-, hcalled, hdisjoint⟩ := List.nodup_append'.mp h.nodup
  rcases List.mem_append.mp (h.complete t c hc) with ht | ht
  · exact .inl ⟨ht, hdisjoint ht⟩
  · exact .inr ⟨fun hrunning => hdisjoint hrunning ht, List.count_eq_one_of_mem hcalled ht⟩

/-- Nothing happens for a call that was rejected. -/
theorem Ledger.rejected (h : Ledger P Answer calls q) {t : ℕ} {c : Call π}
    (ht : calls[t]? = some c) (hc : c.accepted = false) :
    t ∉ q.running.map Job.cb ∧ t ∉ q.called.map Prod.fst ∧ sentFor q.sent t = [] := by
  have hnot : ∀ c', ¬ IsAccepted calls t c' := by
    rintro c' ⟨hc', hacc⟩
    obtain rfl : c = c' := Option.some.inj (ht.symm.trans hc')
    rw [hc] at hacc
    cases hacc
  have hticket : t ∉ q.tickets := fun hin => by
    obtain ⟨c', hc'⟩ := h.ticket_accepted hin
    exact hnot c' hc'
  rw [tickets, List.mem_append, not_or] at hticket
  exact ⟨hticket.1, hticket.2, h.quiet t hnot⟩

end Ledger

/-! ### What operations leave -/

section

variable {P}

theorem tickets_visitAt (q : Queue π μ ρ) (i : ℕ) (now later : ℤ) :
    (q.visitAt P i now later).tickets.Perm q.tickets := by
  rcases visitAt_cases (P := P) q i now later with hq | ⟨pre, j, post, hrunning, hq⟩
  · rw [hq]
  obtain ⟨running, sent, called⟩ := q
  obtain rfl : running = pre ++ j :: post := hrunning
  rcases hq with ⟨-, hq⟩ | ⟨-, hq⟩
  · rw [hq, tickets_retransmit pre post j later sent]
  · rw [hq]
    exact tickets_finish pre post j sent called _

theorem tickets_visits (q : Queue π μ ρ) (vs : List (ℕ × ℤ × ℤ)) :
    (q.visits P vs).tickets.Perm q.tickets := by
  induction vs generalizing q with
  | nil => exact List.Perm.refl _
  | cons v vs ih => exact (ih _).trans (tickets_visitAt q v.1 v.2.1 v.2.2)

theorem running_visitAt (hnext : ∀ p n, P.next p n = p) (q : Queue π μ ρ) (i : ℕ) (now later : ℤ) :
    ∀ j' ∈ (q.visitAt P i now later).running,
      ∃ j ∈ q.running, j.cb = j'.cb ∧ j.payload = j'.payload := by
  intro j' hj'
  rcases visitAt_cases (P := P) q i now later with
    hq | ⟨pre, j, post, hrunning, ⟨-, hq⟩ | ⟨-, hq⟩⟩
  · exact ⟨j', hq ▸ hj', rfl, rfl⟩
  · rw [hq] at hj'
    rcases List.mem_append.mp hj' with hpre | hpost
    · exact ⟨j', by simp [hrunning, hpre], rfl, rfl⟩
    rcases List.mem_cons.mp hpost with rfl | hpost
    · exact ⟨j, by simp [hrunning], rfl, (hnext _ _).symm⟩
    · exact ⟨j', by simp [hrunning, hpost], rfl, rfl⟩
  · rw [hq] at hj'
    rcases List.mem_append.mp hj' with hpre | hpost
    · exact ⟨j', by simp [hrunning, hpre], rfl, rfl⟩
    · exact ⟨j', by simp [hrunning, hpost], rfl, rfl⟩

/-- A request that transmissions do not change is the same after some visits. -/
theorem running_visits (hnext : ∀ p n, P.next p n = p) (q : Queue π μ ρ) (vs : List (ℕ × ℤ × ℤ)) :
    ∀ j' ∈ (q.visits P vs).running, ∃ j ∈ q.running, j.cb = j'.cb ∧ j.payload = j'.payload := by
  induction vs generalizing q with
  | nil => exact fun j' hj' => ⟨j', hj', rfl, rfl⟩
  | cons v vs ih =>
      intro j' hj'
      obtain ⟨j₁, hj₁, hcb₁, hpayload₁⟩ := ih _ j' hj'
      obtain ⟨j, hj, hcb, hpayload⟩ := running_visitAt hnext q v.1 v.2.1 v.2.2 j₁ hj₁
      exact ⟨j, hj, hcb.trans hcb₁, hpayload.trans hpayload₁⟩

theorem sent_visitAt (q : Queue π μ ρ) (i : ℕ) (now later : ℤ) :
    ∃ more, (q.visitAt P i now later).sent = q.sent ++ more ∧
      ∀ e ∈ more, ∃ j ∈ q.running, e.1 = j.cb ∧ e.2 ∈ P.emit j.payload := by
  rcases visitAt_cases (P := P) q i now later with
    hq | ⟨pre, j, post, hrunning, ⟨-, hq⟩ | ⟨-, hq⟩⟩
  · exact ⟨[], by rw [hq, List.append_nil], nofun⟩
  · refine ⟨j.messages P, by rw [hq], fun e he => ?_⟩
    obtain ⟨m, hm, rfl⟩ := List.mem_map.mp he
    exact ⟨j, by simp [hrunning], rfl, hm⟩
  · exact ⟨[], by rw [hq, List.append_nil], nofun⟩

/-- Visits send messages of the requests that are under way. -/
theorem sent_visits (hnext : ∀ p n, P.next p n = p) (q : Queue π μ ρ) (vs : List (ℕ × ℤ × ℤ)) :
    ∃ more, (q.visits P vs).sent = q.sent ++ more ∧
      ∀ e ∈ more, ∃ j ∈ q.running, e.1 = j.cb ∧ e.2 ∈ P.emit j.payload := by
  induction vs generalizing q with
  | nil => exact ⟨[], (List.append_nil _).symm, nofun⟩
  | cons v vs ih =>
      obtain ⟨more, hsent, hmore⟩ := sent_visitAt (P := P) q v.1 v.2.1 v.2.2
      obtain ⟨more', hsent', hmore'⟩ := ih (q.visitAt P v.1 v.2.1 v.2.2)
      refine ⟨more ++ more', ?_, fun e he => ?_⟩
      · rw [← List.append_assoc, ← hsent]
        exact hsent'
      · rcases List.mem_append.mp he with hfirst | hlater
        · exact hmore e hfirst
        · obtain ⟨j₁, hj₁, hcb₁, hemit₁⟩ := hmore' e hlater
          obtain ⟨j, hj, hcb, hpayload⟩ := running_visitAt hnext q v.1 v.2.1 v.2.2 j₁ hj₁
          exact ⟨j, hj, hcb₁.trans hcb.symm, hpayload ▸ hemit₁⟩

theorem called_visitAt (q : Queue π μ ρ) (i : ℕ) (now later : ℤ) :
    ∀ e ∈ (q.visitAt P i now later).called, e ∈ q.called ∨ ∃ n, e.2 = P.expired n := by
  intro e he
  rcases visitAt_cases (P := P) q i now later with
    hq | ⟨pre, j, post, -, ⟨-, hq⟩ | ⟨-, hq⟩⟩
  · exact .inl (hq ▸ he)
  · exact .inl (by simpa [hq] using he)
  · rw [hq] at he
    rcases List.mem_append.mp he with hold | hlast
    · exact .inl hold
    · obtain rfl := List.mem_singleton.mp hlast
      exact .inr ⟨_, rfl⟩

theorem called_subset_visitAt (q : Queue π μ ρ) (i : ℕ) (now later : ℤ) :
    q.called ⊆ (q.visitAt P i now later).called := by
  rcases visitAt_cases (P := P) q i now later with
    hq | ⟨pre, j, post, -, ⟨-, hq⟩ | ⟨-, hq⟩⟩
  · rw [hq]
    exact List.Subset.refl _
  · rw [hq]
    exact List.Subset.refl _
  · rw [hq]
    exact List.subset_append_left _ _

theorem called_subset_visits (q : Queue π μ ρ) (vs : List (ℕ × ℤ × ℤ)) :
    q.called ⊆ (q.visits P vs).called := by
  induction vs generalizing q with
  | nil => exact List.Subset.refl _
  | cons v vs ih => exact List.Subset.trans (called_subset_visitAt q v.1 v.2.1 v.2.2) (ih _)

/-- Visits call nobody back but with the result of a request that expired. -/
theorem called_visits (q : Queue π μ ρ) (vs : List (ℕ × ℤ × ℤ)) :
    ∀ e ∈ (q.visits P vs).called, e ∈ q.called ∨ ∃ n, e.2 = P.expired n := by
  induction vs generalizing q with
  | nil => exact fun e he => .inl he
  | cons v vs ih =>
      intro e he
      rcases ih _ e he with hold | hexpired
      · exact called_visitAt q v.1 v.2.1 v.2.2 e hold
      · exact .inr hexpired

end

/-! ### Calling back -/

/-- From `q` to `q'` those who are called back, with the results `new`, leave;
nobody else leaves or comes. -/
structure CallsBack (q q' : Queue π μ ρ) (new : List (ℕ × ρ)) : Prop where
  called : q'.called = q.called ++ new
  tickets : (q.running.map Job.cb).Perm (q'.running.map Job.cb ++ new.map Prod.fst)

theorem CallsBack.refl (q : Queue π μ ρ) : CallsBack q q [] :=
  ⟨(List.append_nil _).symm, by simp⟩

theorem CallsBack.trans {q₀ q₁ q₂ : Queue π μ ρ} {new₁ new₂ : List (ℕ × ρ)}
    (h₁ : CallsBack q₀ q₁ new₁) (h₂ : CallsBack q₁ q₂ new₂) : CallsBack q₀ q₂ (new₁ ++ new₂) where
  called := by rw [h₂.called, h₁.called, List.append_assoc]
  tickets := by
    refine h₁.tickets.trans ((h₂.tickets.append_right _).trans ?_)
    rw [List.map_append, List.append_assoc]
    exact List.perm_append_comm.append_left _

/-- Nobody is called back who keeps his ticket. -/
theorem callsBack_of_tickets {q q' : Queue π μ ρ} {new : List (ℕ × ρ)}
    (hcalled : q'.called = q.called ++ new) (htickets : q'.tickets.Perm q.tickets) :
    CallsBack q q' new where
  called := hcalled
  tickets := by
    rw [tickets, tickets, hcalled, List.map_append] at htickets
    have hperm : (q'.running.map Job.cb ++ (q.called.map Prod.fst ++ new.map Prod.fst)).Perm
        (q'.running.map Job.cb ++ new.map Prod.fst ++ q.called.map Prod.fst) := by
      rw [List.append_assoc]
      exact List.perm_append_comm.append_left _
    exact (List.perm_append_right_iff _).mp (htickets.symm.trans hperm)

theorem callsBack_answer (q : Queue π μ ρ) (p : π → Bool) (result : Job π → ρ) :
    ∃ new, CallsBack q (q.answer p result).2 new := by
  unfold Queue.answer
  rcases hfound : takeFirst p q.running with - | ⟨j, rest⟩
  · exact ⟨[], .refl q⟩
  · obtain ⟨pre, post, hrunning, rfl, -⟩ := takeFirst_eq_some hfound
    obtain ⟨running, sent, called⟩ := q
    obtain rfl : running = pre ++ j :: post := hrunning
    exact ⟨_, callsBack_of_tickets rfl (tickets_finish pre post j sent called (result j))⟩

theorem callsBack_visitAt (q : Queue π μ ρ) (i : ℕ) (now later : ℤ) :
    ∃ new, CallsBack q (q.visitAt P i now later) new := by
  have htickets := tickets_visitAt (P := P) q i now later
  rcases visitAt_cases (P := P) q i now later with
    hq | ⟨pre, j, post, -, ⟨-, hq⟩ | ⟨-, hq⟩⟩
  · exact ⟨[], by rw [hq]; exact .refl q⟩
  · exact ⟨[], callsBack_of_tickets (by rw [hq, List.append_nil]) htickets⟩
  · exact ⟨_, callsBack_of_tickets (by rw [hq]) htickets⟩

theorem callsBack_visits (q : Queue π μ ρ) (vs : List (ℕ × ℤ × ℤ)) :
    ∃ new, CallsBack q (q.visits P vs) new := by
  induction vs generalizing q with
  | nil => exact ⟨[], .refl q⟩
  | cons v vs ih =>
      obtain ⟨new₁, h₁⟩ := callsBack_visitAt P q v.1 v.2.1 v.2.2
      obtain ⟨new₂, h₂⟩ := ih (q.visitAt P v.1 v.2.1 v.2.2)
      exact ⟨new₁ ++ new₂, h₁.trans h₂⟩

/-! ### Lengths -/

theorem length_answer_le (q : Queue π μ ρ) (p : π → Bool) (result : Job π → ρ) :
    (q.answer p result).2.running.length ≤ q.running.length := by
  unfold Queue.answer
  rcases hfound : takeFirst p q.running with - | ⟨j, rest⟩
  · exact Nat.le_refl _
  · obtain ⟨pre, post, hrunning, rfl, -⟩ := takeFirst_eq_some hfound
    show (pre ++ post).length ≤ q.running.length
    simp [hrunning]

theorem length_visitAt_le (q : Queue π μ ρ) (i : ℕ) (now later : ℤ) :
    (q.visitAt P i now later).running.length ≤ q.running.length := by
  rcases visitAt_cases q i now later with hq | ⟨pre, j, post, hrunning, ⟨-, hq⟩ | ⟨-, hq⟩⟩
  · rw [hq]
  · simp [hq, hrunning]
  · simp [hq, hrunning]

theorem length_visits_le (q : Queue π μ ρ) (vs : List (ℕ × ℤ × ℤ)) :
    (q.visits P vs).running.length ≤ q.running.length := by
  induction vs generalizing q with
  | nil => exact Nat.le_refl _
  | cons v vs ih => exact (ih _).trans (length_visitAt_le P q v.1 v.2.1 v.2.2)

/-! ### The loop -/

theorem visitAt_middle (pre post : List (Job π)) (j : Job π) (sent : List (ℕ × μ))
    (called : List (ℕ × ρ)) (now later : ℤ) :
    (⟨pre ++ j :: post, sent, called⟩ : Queue π μ ρ).visitAt P pre.length now later =
      if j.Due now then
        if j.nTransmissions < j.nWanted then
          ⟨pre ++ j.transmitted P later :: post, sent ++ j.messages P, called⟩
        else ⟨pre ++ post, sent, called ++ [(j.cb, P.expired j.nTransmissions)]⟩
      else ⟨pre ++ j :: post, sent, called⟩ := by
  have hfound : (pre ++ j :: post)[pre.length]? = some j := by simp
  have hset : (pre ++ j :: post).set pre.length (j.transmitted P later) =
      pre ++ j.transmitted P later :: post := by
    rw [List.set_append_right _ _ (Nat.le_refl _), Nat.sub_self, List.set_cons_zero]
  have herase : (pre ++ j :: post).eraseIdx pre.length = pre ++ post := by
    rw [List.eraseIdx_append_of_length_le (Nat.le_refl _), Nat.sub_self, List.eraseIdx_cons_zero]
  simp only [Queue.visitAt, hfound, hset, herase]

theorem visits_cons (q : Queue π μ ρ) (i : ℕ) (now later : ℤ) (vs : List (ℕ × ℤ × ℤ)) :
    q.visits P ((i, now, later) :: vs) = (q.visitAt P i now later).visits P vs := rfl

/-- The callbacks that are called for expired requests. -/
def callbacks (expired : List (Job π)) : List (ℕ × ρ) :=
  expired.map fun j => (j.cb, P.expired j.nTransmissions)

/-- From the iterator on, what the loop does it does by visits. -/
theorem sweep_eq_visits (clock : ℕ → ℤ) (called : List (ℕ × ρ)) {running' : List (Job π)}
    {sent' : List (ℕ × μ)} {expired' seen' : List (Job π)} (k : ℕ) (done rest : List (Job π))
    (sent : List (ℕ × μ)) (expired seen : List (Job π))
    (h : sweep P clock k done rest sent expired seen = .ok (running', sent', expired', seen')) :
    ∃ vs, Queue.visits P ⟨done ++ rest, sent, called ++ callbacks P expired⟩ vs =
      ⟨running', sent', called ++ callbacks P expired'⟩ := by
  fun_induction sweep P clock k done rest sent expired seen with
  | case1 k done sent expired seen =>
      obtain ⟨rfl, rfl, rfl, -⟩ :
          done = running' ∧ sent = sent' ∧ expired = expired' ∧ seen = seen' := by
        simpa using h
      exact ⟨[], by simp [Queue.visits]⟩
  | case2 k done j rest sent expired seen hdue hmore ih =>
      obtain ⟨vs, hvs⟩ := ih h
      refine ⟨(done.length, clock (2 * k), clock (2 * k + 1)) :: vs, ?_⟩
      rw [visits_cons, visitAt_middle, if_pos hdue, if_pos hmore]
      simpa using hvs
  -- an iterator past the end is undefined behaviour
  | case3 => cases h
  -- erased: the loop's increment passes over the one behind it
  | case4 k done j sent expired seen hdue hmore skipped rest ih =>
      obtain ⟨vs, hvs⟩ := ih h
      refine ⟨(done.length, clock (2 * k), clock (2 * k + 1)) :: vs, ?_⟩
      rw [visits_cons, visitAt_middle, if_pos hdue, if_neg hmore]
      simpa [callbacks] using hvs
  | case5 k done j rest sent expired seen hdue ih =>
      obtain ⟨vs, hvs⟩ := ih h
      exact ⟨vs, by simpa using hvs⟩

/-- **A pass is a series of visits**, if it comes to an end. -/
theorem pass_eq_visits {clock : ℕ → ℤ} {q q' : Queue π μ ρ} (h : pass P clock q = .ok q') :
    ∃ vs, q' = q.visits P vs := by
  obtain ⟨⟨running', sent', expired', _⟩, hsweep, hq'⟩ := bind_eq_ok_iff.mp h
  obtain ⟨vs, hvs⟩ := sweep_eq_visits P clock q.called 0 [] q.running q.sent [] [] hsweep
  refine ⟨vs, ?_⟩
  rw [← Except.ok.inj hq']
  simpa [callbacks] using hvs.symm

/-! ### What a pass is for -/

namespace Job

/-- The request is due, and has been sent as often as wanted. -/
def Expired (j : Job π) (now : ℤ) : Prop := j.Due now ∧ ¬ j.nTransmissions < j.nWanted

instance (j : Job π) (now : ℤ) : Decidable (j.Expired now) := inferInstanceAs (Decidable (_ ∧ _))

/-- What is left of a request that was looked at: if it has expired, nothing. -/
def attended (P : Protocol π μ ρ) (j : Job π) (now later : ℤ) : Option (Job π) :=
  if j.Expired now then none else if j.Due now then some (j.transmitted P later) else some j

/-- What is sent for it. -/
def resent (P : Protocol π μ ρ) (j : Job π) (now : ℤ) : List (ℕ × μ) :=
  if j.Due now ∧ j.nTransmissions < j.nWanted then j.messages P else []

end Job

/-- What a pass is for: every request is looked at once, number `k` in round `k`, and left, sent
again or called back as it should be. -/
structure HandlesEvery (clock : ℕ → ℤ) (q : Queue π μ ρ) (result : Exec (Queue π μ ρ)) : Prop where
  looked : ∃ running sent expired,
    sweep P clock 0 [] q.running q.sent [] [] = .ok (running, sent, expired, q.running)
  result : result = .ok {
    running := q.running.zipIdx.filterMap fun e =>
      e.1.attended P (clock (2 * e.2)) (clock (2 * e.2 + 1))
    sent := q.sent ++ q.running.zipIdx.flatMap fun e => e.1.resent P (clock (2 * e.2))
    called := q.called ++
      callbacks P ((q.running.zipIdx.filter fun e => e.1.Expired (clock (2 * e.2))).map Prod.fst) }

/-- **The loop looks at everything only if nothing has expired**: behind a request that has
one is passed over, and never made up for. -/
theorem not_expired_of_sweep {clock : ℕ → ℤ} {k : ℕ} {done rest : List (Job π)}
    {sent : List (ℕ × μ)} {expired seen : List (Job π)} {running' : List (Job π)}
    {sent' : List (ℕ × μ)} {expired' seen' : List (Job π)}
    (h : sweep P clock k done rest sent expired seen = .ok (running', sent', expired', seen')) :
    seen'.length ≤ seen.length + rest.length ∧
      (seen'.length = seen.length + rest.length →
        ∀ e ∈ rest.zipIdx k, ¬ e.1.Expired (clock (2 * e.2))) := by
  fun_induction sweep P clock k done rest sent expired seen with
  | case1 k done sent expired seen =>
      obtain rfl : seen = seen' := (Prod.mk.inj (Prod.mk.inj (Prod.mk.inj (Except.ok.inj h)).2).2).2
      exact ⟨Nat.le_refl _, fun _ => nofun⟩
  | case2 k done j rest sent expired seen hdue hmore ih =>
      obtain ⟨hle, hall⟩ := ih h
      simp only [List.length_append, List.length_cons, List.length_nil] at hle hall ⊢
      refine ⟨by omega, fun hlength => ?_⟩
      rw [List.zipIdx_cons, List.forall_mem_cons]
      exact ⟨fun hexpired => hexpired.2 hmore, hall (by omega)⟩
  | case3 => cases h
  | case4 k done j sent expired seen hdue hmore skipped rest ih =>
      obtain ⟨hle, -⟩ := ih h
      simp only [List.length_append, List.length_cons, List.length_nil] at hle ⊢
      exact ⟨by omega, fun hlength => by omega⟩
  | case5 k done j rest sent expired seen hdue ih =>
      obtain ⟨hle, hall⟩ := ih h
      simp only [List.length_append, List.length_cons, List.length_nil] at hle hall ⊢
      refine ⟨by omega, fun hlength => ?_⟩
      rw [List.zipIdx_cons, List.forall_mem_cons]
      exact ⟨fun hexpired => hdue hexpired.1, hall (by omega)⟩

/-- What the loop does where nothing has expired. -/
theorem sweep_of_not_expired (clock : ℕ → ℤ) (k : ℕ) (done rest : List (Job π))
    (sent : List (ℕ × μ)) (expired seen : List (Job π))
    (h : ∀ e ∈ rest.zipIdx k, ¬ e.1.Expired (clock (2 * e.2))) :
    sweep P clock k done rest sent expired seen =
      .ok (done ++ (rest.zipIdx k).filterMap fun e =>
          e.1.attended P (clock (2 * e.2)) (clock (2 * e.2 + 1)),
        sent ++ (rest.zipIdx k).flatMap fun e => e.1.resent P (clock (2 * e.2)), expired,
        seen ++ rest) := by
  fun_induction sweep P clock k done rest sent expired seen with
  | case1 k done sent expired seen => simp
  | case2 k done j rest sent expired seen hdue hmore ih =>
      have hleft : j.attended P (clock (2 * k)) (clock (2 * k + 1)) =
          some (j.transmitted P (clock (2 * k + 1))) := by
        rw [Job.attended, if_neg fun h => h.2 hmore, if_pos hdue]
      have hsent : j.resent P (clock (2 * k)) = j.messages P := if_pos ⟨hdue, hmore⟩
      rw [ih fun e he => h e (List.mem_cons_of_mem _ he), List.zipIdx_cons, List.filterMap_cons,
        hleft, List.flatMap_cons, hsent, List.append_assoc, List.append_assoc, List.append_assoc]
      rfl
  | case3 k done j sent expired seen hdue hmore =>
      exact absurd ⟨hdue, hmore⟩ (h (j, k) List.mem_cons_self)
  | case4 k done j sent expired seen hdue hmore skipped rest ih =>
      exact absurd ⟨hdue, hmore⟩ (h (j, k) List.mem_cons_self)
  | case5 k done j rest sent expired seen hdue ih =>
      have hleft : j.attended P (clock (2 * k)) (clock (2 * k + 1)) = some j := by
        rw [Job.attended, if_neg fun h => hdue h.1, if_neg hdue]
      have hsent : j.resent P (clock (2 * k)) = [] := if_neg fun h => hdue h.1
      rw [ih fun e he => h e (List.mem_cons_of_mem _ he), List.zipIdx_cons, List.filterMap_cons,
        hleft, List.flatMap_cons, hsent, List.append_assoc, List.append_assoc]
      rfl

/-- **A pass does what it is for exactly if nothing has expired.** -/
theorem handlesEvery_pass_iff (clock : ℕ → ℤ) (q : Queue π μ ρ) :
    HandlesEvery P clock q (pass P clock q) ↔
      ∀ e ∈ q.running.zipIdx, ¬ e.1.Expired (clock (2 * e.2)) := by
  constructor
  · intro h
    obtain ⟨running, sent, expired, hsweep⟩ := h.looked
    exact (not_expired_of_sweep P hsweep).2 (Nat.zero_add _).symm
  · intro h
    have hsweep := sweep_of_not_expired P clock 0 [] q.running q.sent [] [] h
    refine ⟨⟨_, _, _, hsweep⟩, ?_⟩
    have hnone : q.running.zipIdx.filter (fun e => e.1.Expired (clock (2 * e.2))) = [] := by
      rw [List.filter_eq_nil_iff]
      exact fun e he => by simpa using h e he
    rw [pass, hsweep, ok_bind, hnone]
    rfl

end RetryQueue
