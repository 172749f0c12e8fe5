/-
QOpenHD/XParamBlocking.lean

Parameters that one thread sets one after another (`try_set_param_blocking`), while the
timeout thread, the network, the servers and other users of `XParam` go on.

A server applies a set that reaches it and acknowledges it with what it has applied, or
refuses it.  Messages are lost, delayed and repeated: whatever was sent once may arrive
at any time and any number of times.  Of the timeout thread there is what its passes do to
the sets they get to; that a pass can advance past the end of the queue is the subject of
`TimeoutPass.lean`, and only the steps of the thread itself are said here not to fault.

The thread waits for its callback before it goes on.  So what it sets is applied in
the order in which it is set (`InOrder`), and a set that it is told has succeeded has been
applied, if nobody else sets the same parameters (`triple_setAll`).
-/
import QOpenHD.Interleaving
import QOpenHD.XParam

namespace QOpenHD

open Checked Interleaving RetryQueue

/-- A parameter of a server. -/
structure Place where
  sysid : UInt8
  compid : UInt8
  paramId : List UInt8
  deriving DecidableEq

/-- What is set. -/
def ParamExtSet.place (cmd : ParamExtSet) : Place :=
  ⟨cmd.targetSystem, cmd.targetComponent, getParamId cmd.paramId⟩

namespace XParamBlocking

/-! ### The system -/

/-- An acknowledgement, and who has sent it. -/
structure SentAck where
  ack : ParamExtAck
  senderSysid : UInt8
  senderCompid : UInt8

/-- `XParam`, and what the servers have done so far. -/
structure Link where
  xparam : XParam.World
  applied : List ParamExtSet
  acks : List SentAck

def Link.init : Link := ⟨XParam.World.init, [], []⟩

/-- The acknowledgement of the server that has applied a set. -/
def serverAck (cmd : ParamExtSet) : SentAck :=
  ⟨acknowledge cmd, cmd.targetSystem, cmd.targetComponent⟩

inductive Op
  | trySetParamAsync (cmd : ParamExtSet) (retransmitDelay nWantedRetransmissions : ℕ)
  /-- `fut.get()`, where callback `t` sets the promise. -/
  | get (t : ℕ)

/-- The number of the callback, if the set was accepted; whether the result is. -/
abbrev Op.Ans : Op → Type
  | .trySetParamAsync .. => Option ℕ
  | .get _ => Bool

def trySetParamAsync (s : Link) (cmd : ParamExtSet) (retransmitDelay nWanted : ℕ) (now : ℤ) :
    Exec (Option ℕ × Link) := do
  let resultCb := s.xparam.calls.length
  let (accepted, sets) ←
    s.xparam.sets.trySetParamAsync cmd resultCb retransmitDelay nWanted now
  let calls := s.xparam.calls ++ [⟨cmd, nWanted, accepted⟩]
  pure (if accepted then some resultCb else none,
    { s with xparam := { s.xparam with sets := sets, calls := calls } })

def calls : (o : Op) → Link → Exec (o.Ans × Link) → Prop
  | .trySetParamAsync cmd retransmitDelay nWanted, s, r =>
    ∃ now, r = trySetParamAsync s cmd retransmitDelay nWanted now
  | .get t, s, r =>
    ∃ result, (t, result) ∈ s.xparam.sets.called ∧ r = .ok (result.isAccepted, s)

/-- What happens beside the thread; `user` says what others may set. -/
inductive Others (user : ParamExtSet → Prop) (s : Link) : Link → Prop
  | sets {cmd : ParamExtSet} {retransmitDelay nWanted : ℕ} {now : ℤ} {x : Option ℕ × Link} :
      user cmd → trySetParamAsync s cmd retransmitDelay nWanted now = .ok x → Others user s x.2
  /-- The sets the timeout thread gets to, and the times it looks at them.  These may be any:
  what becomes of a pass behind the end of the queue is left out. -/
  | timeoutPass (vs : List (ℕ × ℤ × ℤ)) :
      Others user s { s with
        xparam := { s.xparam with sets := s.xparam.sets.visits ParamSets.protocol vs } }
  | applies {t : ℕ} {cmd : ParamExtSet} : (t, cmd) ∈ s.xparam.sets.sent →
      Others user s { s with applied := s.applied ++ [cmd], acks := s.acks ++ [serverAck cmd] }
  | refuses {t : ℕ} {cmd : ParamExtSet} {ack : ParamExtAck} : (t, cmd) ∈ s.xparam.sets.sent →
      ack.paramResult ≠ PARAM_ACK_ACCEPTED →
      Others user s { s with
        acks := s.acks ++ [⟨ack, cmd.targetSystem, cmd.targetComponent⟩] }
  | ackArrives {a : SentAck} : a ∈ s.acks →
      Others user s { s with
        xparam := { s.xparam with
          sets := (s.xparam.sets.handleParamExtAck a.ack a.senderSysid a.senderCompid).2 } }

def world (user : ParamExtSet → Prop) : World Op Op.Ans Link where
  calls := calls
  others := Others user

/-! ### Threads -/

/-- `try_set_param_async`, where the callback sets a promise. -/
def enqueue (cmd : ParamExtSet) (retransmitDelay nWantedRetransmissions : ℕ) :
    Thread Op Op.Ans (Option ℕ) :=
  Thread.perform (Op.trySetParamAsync cmd retransmitDelay nWantedRetransmissions)

def get (t : ℕ) : Thread Op Op.Ans Bool := Thread.perform (Op.get t)

def trySetParamBlocking (cmd : ParamExtSet) (retransmitDelay nWantedRetransmissions : ℕ) :
    Thread Op Op.Ans Bool := do
  match ← enqueue cmd retransmitDelay nWantedRetransmissions with
  | none => pure false
  | some t => get t

/-- Several parameters, with the delay and the number of retransmissions that are the defaults, up
to the first that fails. -/
def setAll : List ParamExtSet → Thread Op Op.Ans Bool
  | [] => pure true
  | cmd :: cmds => do
    let result ← trySetParamBlocking cmd 500 3
    if !result then pure false else setAll cmds

/-! ### The order -/

/-- All that comes before `cmd` has been applied. -/
def InTurn (cmds applied : List ParamExtSet) (cmd : ParamExtSet) : Prop :=
  cmd ∈ cmds ∧ ∀ b ∈ cmds.takeWhile (· ≠ cmd), b ∈ applied

/-- **The parameters at `places` are set by `cmds` only, and in this order.** -/
def InOrder (places : List Place) (cmds applied : List ParamExtSet) : Prop :=
  ∀ pre cmd post, applied = pre ++ cmd :: post → cmd.place ∈ places →
    InTurn cmds pre cmd

variable {places : List Place} {cmds applied : List ParamExtSet} {cmd : ParamExtSet}

theorem InTurn.append (h : InTurn cmds applied cmd) (b : ParamExtSet) :
    InTurn cmds (applied ++ [b]) cmd :=
  ⟨h.1, fun b hb => List.mem_append_left _ (h.2 b hb)⟩

theorem inOrder_nil : InOrder places cmds [] := by
  intro pre cmd post h
  simp at h

theorem InOrder.append (h : InOrder places cmds applied)
    (hcmd : cmd.place ∈ places → InTurn cmds applied cmd) :
    InOrder places cmds (applied ++ [cmd]) := by
  intro pre b post heq hb
  rcases List.eq_nil_or_concat post with rfl | ⟨post, c, rfl⟩
  · obtain ⟨rfl, hlast⟩ := List.append_inj' heq rfl
    obtain rfl := List.singleton_inj.mp hlast
    exact hcmd hb
  · have hsplit : applied ++ [cmd] = (pre ++ b :: post) ++ [c] := by simpa using heq
    exact h pre b post (List.append_inj' hsplit rfl).1 hb

/-- What comes first among different parameters. -/
theorem takeWhile_ne {done rest : List ParamExtSet} (h : cmds = done ++ cmd :: rest)
    (hnodup : (cmds.map ParamExtSet.place).Nodup) : cmds.takeWhile (· ≠ cmd) = done := by
  subst h
  have hnot : cmd ∉ done := by
    intro hmem
    have hdis := (List.nodup_append.mp (List.Nodup.of_map _ hnodup)).2.2
    exact hdis cmd hmem cmd List.mem_cons_self rfl
  rw [List.takeWhile_append_of_pos]
  · simp
  · intro b hb
    exact decide_eq_true fun heq => hnot (heq ▸ hb)

/-! ### The invariant -/

/-- What is sent is what has been asked for. -/
theorem payload_of_sent {x : XParam.World} (hx : XParam.Inv x) {t : ℕ} {cmd : ParamExtSet}
    (h : (t, cmd) ∈ x.sets.sent) : ∃ c, IsAccepted x.calls t c ∧ c.payload = cmd := by
  have hsent : cmd ∈ Queue.sentFor x.sets.sent t :=
    List.mem_map.mpr ⟨(t, cmd), List.mem_filter.mpr ⟨h, by simp⟩, rfl⟩
  obtain ⟨c, hc⟩ : ∃ c, IsAccepted x.calls t c := by
    by_contra hnone
    rw [hx.ledger.quiet t (not_exists.mp hnone)] at hsent
    cases hsent
  obtain ⟨c', n, hsent'⟩ : ∃ c' n, Sent ParamSets.protocol x.calls x.sets.sent t c' n := by
    rcases List.mem_append.mp (hx.ledger.complete t c hc) with hrunning | hcalled
    · obtain ⟨j, hj, rfl⟩ := List.mem_map.mp hrunning
      obtain ⟨c', hc'⟩ := hx.ledger.running j hj
      exact ⟨c', _, hc'.sent⟩
    · obtain ⟨e, he, rfl⟩ := List.mem_map.mp hcalled
      obtain ⟨c', n, hc', -⟩ := hx.ledger.called e he
      exact ⟨c', n, hc'⟩
  rw [hsent'.messages, ParamSets.transmissions_eq] at hsent
  exact ⟨c', hsent'.accepted, (List.eq_of_mem_replicate hsent).symm⟩

/-- **What holds all the time.** -/
structure Ready (places : List Place) (cmds : List ParamExtSet) (s : Link) : Prop where
  xparam : XParam.Inv s.xparam
  ordered : InOrder places cmds s.applied
  /-- Nothing else is sent to `places`, and only when all before it has been applied. -/
  called : ∀ c ∈ s.xparam.calls, c.accepted = true → c.payload.place ∈ places →
    InTurn cmds s.applied c.payload
  /-- What is acknowledged has been applied. -/
  acknowledged : ∀ a ∈ s.acks, a.ack.paramResult = PARAM_ACK_ACCEPTED →
    ∃ cmd ∈ s.applied, a = serverAck cmd
  /-- So has what was told to be a success, if perhaps with another value. -/
  succeeded : ∀ t result c, (t, result) ∈ s.xparam.sets.called → result.isAccepted = true →
    IsAccepted s.xparam.calls t c → ∃ cmd ∈ s.applied, cmd.place = c.payload.place

theorem Ready.mem {s : Link} (h : Ready places cmds s) (hcmd : cmd ∈ s.applied)
    (hplace : cmd.place ∈ places) : cmd ∈ cmds := by
  obtain ⟨pre, post, happlied⟩ := List.mem_iff_append.mp hcmd
  exact (h.ordered pre cmd post happlied hplace).1

theorem ready_init (places : List Place) (cmds : List ParamExtSet) :
    Ready places cmds Link.init where
  xparam := XParam.inv_init
  ordered := inOrder_nil
  called := nofun
  acknowledged := nofun
  succeeded := nofun

/-- Some queue did something, and nobody was told of a success. -/
theorem Ready.of_called {s : Link} (h : Ready places cmds s) {sets : ParamSets}
    (hx : XParam.Inv { s.xparam with sets := sets })
    (hcalled : ∀ t result, (t, result) ∈ sets.called → result.isAccepted = true →
      (t, result) ∈ s.xparam.sets.called) :
    Ready places cmds { s with xparam := { s.xparam with sets := sets } } where
  xparam := hx
  ordered := h.ordered
  called := h.called
  acknowledged := h.acknowledged
  succeeded := fun t result c ht hok => h.succeeded t result c (hcalled t result ht hok) hok

/-- A set of a parameter elsewhere, or one whose turn it is. -/
theorem Ready.trySetParamAsync {s : Link} (h : Ready places cmds s) {retransmitDelay nWanted : ℕ}
    {now : ℤ} {x : Option ℕ × Link} (hcmd : cmd.place ∈ places →
      InTurn cmds s.applied cmd)
    (hok : trySetParamAsync s cmd retransmitDelay nWanted now = .ok x) :
    Ready places cmds x.2 ∧ x.2.applied = s.applied ∧
      ∀ t, x.1 = some t → IsAccepted x.2.xparam.calls t ⟨cmd, nWanted, true⟩ := by
  obtain ⟨⟨accepted, sets⟩, hcall, hok⟩ := bind_eq_ok_iff.mp hok
  obtain rfl := Except.ok.inj hok
  have hx : XParam.Inv { s.xparam with
      sets := sets, calls := s.xparam.calls ++ [⟨cmd, nWanted, accepted⟩] } := by
    refine h.xparam.step (e := .trySetParamAsync cmd retransmitDelay nWanted now) ?_
    rw [XParam.step, hcall]
    rfl
  have hcalled : sets.called = s.xparam.sets.called := by
    obtain ⟨-, ⟨-, -, rfl⟩ | ⟨-, -, rfl⟩⟩ := ParamSets.trySetParamAsync_cases hcall <;> rfl
  refine ⟨⟨hx, h.ordered, ?_, h.acknowledged, ?_⟩, rfl, ?_⟩
  · intro c hc haccepted hplace
    rcases List.mem_append.mp hc with hc | hc
    · exact h.called c hc haccepted hplace
    · obtain rfl := List.mem_singleton.mp hc
      exact hcmd hplace
  · intro t result c ht hresult hc
    dsimp only at ht hc
    rw [hcalled] at ht
    -- the call was made before
    have hticket : t ∈ s.xparam.sets.tickets :=
      List.mem_append_right _ (List.mem_map.mpr ⟨_, ht, rfl⟩)
    obtain ⟨c', hc'⟩ := h.xparam.ledger.ticket_accepted hticket
    have hsame := Option.some.inj ((hc'.append _).1.symm.trans hc.1)
    exact hsame ▸ h.succeeded t result c' ht hresult hc'
  · intro t ht
    dsimp only at ht
    cases accepted with
    | false => simp at ht
    | true =>
        obtain rfl : s.xparam.calls.length = t := by simpa using ht
        exact ⟨by simp, rfl⟩

/-- A set is applied. -/
theorem Ready.applies {s : Link} (h : Ready places cmds s) {t : ℕ}
    (ht : (t, cmd) ∈ s.xparam.sets.sent) :
    Ready places cmds { s with
      applied := s.applied ++ [cmd], acks := s.acks ++ [serverAck cmd] } := by
  obtain ⟨c, hc, rfl⟩ := payload_of_sent h.xparam ht
  refine ⟨h.xparam, ?_, ?_, ?_, ?_⟩
  · exact h.ordered.append (h.called c (List.mem_of_getElem? hc.1) hc.2)
  · exact fun c' hc' haccepted hplace => (h.called c' hc' haccepted hplace).append _
  · intro a ha haccepted
    rcases List.mem_append.mp ha with ha | ha
    · obtain ⟨cmd, hcmd, rfl⟩ := h.acknowledged a ha haccepted
      exact ⟨cmd, List.mem_append_left _ hcmd, rfl⟩
    · exact ⟨_, by simp, List.mem_singleton.mp ha⟩
  · intro t result c' ht hresult hc'
    obtain ⟨cmd, hcmd, hplace⟩ := h.succeeded t result c' ht hresult hc'
    exact ⟨cmd, List.mem_append_left _ hcmd, hplace⟩

theorem Ready.refuses {s : Link} (h : Ready places cmds s) {a : SentAck}
    (ha : a.ack.paramResult ≠ PARAM_ACK_ACCEPTED) :
    Ready places cmds { s with acks := s.acks ++ [a] } where
  xparam := h.xparam
  ordered := h.ordered
  called := h.called
  acknowledged := by
    intro b hb haccepted
    rcases List.mem_append.mp hb with hb | hb
    · exact h.acknowledged b hb haccepted
    · exact absurd (List.mem_singleton.mp hb ▸ haccepted) ha
  succeeded := h.succeeded

/-- An acknowledgement arrives. -/
theorem Ready.ackArrives {s : Link} (h : Ready places cmds s) {a : SentAck} (ha : a ∈ s.acks) :
    Ready places cmds { s with
      xparam := { s.xparam with
        sets := (s.xparam.sets.handleParamExtAck a.ack a.senderSysid a.senderCompid).2 } } := by
  have hx := h.xparam.step (e := .paramExtAck a.ack a.senderSysid a.senderCompid) rfl
  obtain ⟨-, heq⟩ | ⟨pre, j, post, hrunning, hrefers, -, heq⟩ :=
    ParamSets.handleParamExtAck_cases s.xparam.sets a.ack a.senderSysid a.senderCompid
  · rw [heq]
    exact h
  rw [heq] at hx ⊢
  refine ⟨hx, h.ordered, h.called, h.acknowledged, ?_⟩
  intro t result c ht hresult hc
  rcases List.mem_append.mp ht with ht | ht
  · exact h.succeeded t result c ht hresult hc
  · obtain ⟨rfl, rfl⟩ := Prod.mk.inj (List.mem_singleton.mp ht)
    -- it is for the parameter of the call, and its server has applied it
    obtain ⟨c', hc'⟩ := h.xparam.ledger.running j (by simp [hrunning])
    have hsame : c' = c := Option.some.inj (hc'.sent.accepted.1.symm.trans hc.1)
    have hpayload : j.payload = c.payload := by
      rw [hc'.payload, ParamSets.after_eq, hsame]
    have haccepted : a.ack.paramResult = PARAM_ACK_ACCEPTED := by
      simpa [SetParamResult.isAccepted] using hresult
    obtain ⟨cmd, hcmd, rfl⟩ := h.acknowledged a ha haccepted
    obtain ⟨hid, -, hsysid, hcompid⟩ := XParam.refersTo_eq_true_iff.mp hrefers
    refine ⟨cmd, hcmd, ?_⟩
    rw [ParamExtSet.place, ParamExtSet.place, ← hpayload, hid, hsysid, hcompid]
    rfl

/-! ### The others -/

section Others

variable {user : ParamExtSet → Prop}

/-- **Whatever happens beside the thread keeps the invariant.** -/
theorem Ready.others (huser : ∀ cmd, user cmd → cmd.place ∉ places) {s s' : Link}
    (h : Ready places cmds s) (hother : Others user s s') : Ready places cmds s' := by
  cases hother with
  | sets hcmd hok =>
      exact (h.trySetParamAsync (fun hplace => absurd hplace (huser _ hcmd)) hok).1
  | timeoutPass vs =>
      refine h.of_called (h.xparam.step (e := .timeoutPassSet vs) rfl) fun t result ht hresult => ?_
      rcases called_visits s.xparam.sets vs _ ht with hold | ⟨n, hexpired⟩
      · exact hold
      · obtain rfl : result = ParamSets.protocol.expired n := hexpired
        simp [ParamSets.protocol, SetParamResult.isAccepted] at hresult
  | applies ht => exact h.applies ht
  | refuses ht hack => exact h.refuses hack
  | ackArrives ha => exact h.ackArrives ha

/-- Nothing that has been applied or accepted is forgotten. -/
theorem applied_others {s s' : Link} (hother : Others user s s') : s.applied ⊆ s'.applied := by
  cases hother with
  | sets hcmd hok =>
      obtain ⟨_, -, hok⟩ := bind_eq_ok_iff.mp hok
      obtain rfl := Except.ok.inj hok
      exact List.Subset.refl _
  | timeoutPass vs => exact List.Subset.refl _
  | applies ht => exact List.subset_append_left _ _
  | refuses ht hack => exact List.Subset.refl _
  | ackArrives ha => exact List.Subset.refl _

theorem isAccepted_others {s s' : Link} (hother : Others user s s') {t : ℕ} {c : Call ParamExtSet}
    (hc : IsAccepted s.xparam.calls t c) : IsAccepted s'.xparam.calls t c := by
  cases hother with
  | sets hcmd hok =>
      obtain ⟨⟨accepted, sets⟩, -, hok⟩ := bind_eq_ok_iff.mp hok
      obtain rfl := Except.ok.inj hok
      exact hc.append _
  | timeoutPass vs => exact hc
  | applies ht => exact hc
  | refuses ht hack => exact hc
  | ackArrives ha => exact hc

theorem stable_ready (huser : ∀ cmd, user cmd → cmd.place ∉ places) :
    Stable (world user) (Ready places cmds) :=
  fun _ _ h hother => h.others huser hother

/-- A set that is under way can reach its server, and the acknowledgement ends the first one it
refers to. -/
theorem meanwhile_acknowledged {s : Link} {j : Job ParamExtSet} (hx : XParam.Inv s.xparam)
    (hj : j ∈ s.xparam.sets.running) :
    ∃ s', Meanwhile (world user) s s' ∧
      s'.xparam.sets.running.length < s.xparam.sets.running.length := by
  obtain ⟨c, hc⟩ := hx.ledger.running j hj
  -- it has been sent
  have hsent : (j.cb, c.payload) ∈ s.xparam.sets.sent := by
    have hmem : c.payload ∈ Queue.sentFor s.xparam.sets.sent j.cb := by
      rw [hc.sent.messages, ParamSets.transmissions_eq]
      exact List.mem_replicate.mpr ⟨Nat.ne_of_gt hc.sent.pos, rfl⟩
    obtain ⟨⟨t, m⟩, hm, rfl⟩ := List.mem_map.mp hmem
    obtain ⟨hm, ht⟩ := List.mem_filter.mp hm
    obtain rfl : t = j.cb := of_decide_eq_true ht
    exact hm
  have happlied : Meanwhile (world user) s _ := .single (Others.applies hsent)
  have harrived := happlied.tail (Others.ackArrives (a := serverAck c.payload) (by simp))
  have hrefers : ParamSets.refersTo (serverAck c.payload).ack (serverAck c.payload).senderSysid
      (serverAck c.payload).senderCompid j.payload = true := by
    rw [hc.payload, ParamSets.after_eq, XParam.refersTo_eq_true_iff]
    exact ⟨rfl, rfl, rfl, rfl⟩
  obtain ⟨hnone, -⟩ | ⟨pre, j', post, hrunning, -, -, heq⟩ :=
    ParamSets.handleParamExtAck_cases s.xparam.sets (serverAck c.payload).ack
      (serverAck c.payload).senderSysid (serverAck c.payload).senderCompid
  · exact absurd (hnone j hj) (by rw [hrefers]; decide)
  · refine ⟨_, harrived, ?_⟩
    dsimp only
    rw [heq, hrunning]
    simp

/-- **Every callback can come.** -/
theorem meanwhile_called (huser : ∀ cmd, user cmd → cmd.place ∉ places) {t : ℕ}
    {c : Call ParamExtSet} (n : ℕ) {s : Link} (hn : s.xparam.sets.running.length ≤ n)
    (hs : Ready places cmds s) (hc : IsAccepted s.xparam.calls t c) :
    ∃ s' result, Meanwhile (world user) s s' ∧ (t, result) ∈ s'.xparam.sets.called := by
  induction n generalizing s with
  | zero =>
      rcases List.mem_append.mp (hs.xparam.ledger.complete t c hc) with hrunning | hcalled
      · rw [List.length_eq_zero_iff.mp (Nat.le_zero.mp hn)] at hrunning
        cases hrunning
      · obtain ⟨⟨_, result⟩, he, rfl⟩ := List.mem_map.mp hcalled
        exact ⟨s, result, .refl, he⟩
  | succ n ih =>
      rcases List.mem_append.mp (hs.xparam.ledger.complete t c hc) with hrunning | hcalled
      · obtain ⟨j, hj, -⟩ := List.mem_map.mp hrunning
        obtain ⟨s₁, h₁, hlength⟩ := @meanwhile_acknowledged user _ _ hs.xparam hj
        have hs₁ := (stable_ready huser).meanwhile hs h₁
        have hc₁ := Stable.meanwhile (P := fun s => IsAccepted s.xparam.calls t c)
          (fun _ _ h hother => isAccepted_others hother h) hc h₁
        obtain ⟨s', result, h', hresult⟩ := ih (by omega) hs₁ hc₁
        exact ⟨s', result, h₁.trans h', hresult⟩
      · obtain ⟨⟨_, result⟩, he, rfl⟩ := List.mem_map.mp hcalled
        exact ⟨s, result, .refl, he⟩

/-! ### Setting -/

/-- What has been applied so far. -/
structure Known (places : List Place) (cmds done : List ParamExtSet) (s : Link) : Prop where
  ready : Ready places cmds s
  applied : ∀ cmd ∈ done, cmd ∈ s.applied

theorem stable_known (huser : ∀ cmd, user cmd → cmd.place ∉ places)
    (done : List ParamExtSet) : Stable (world user) (Known places cmds done) :=
  fun _ _ h hother => ⟨h.ready.others huser hother,
    fun cmd hcmd => applied_others hother (h.applied cmd hcmd)⟩

variable {done rest : List ParamExtSet} {retransmitDelay nWanted : ℕ}

theorem safe_trySetParamAsync (hdelay : 10 ≤ retransmitDelay) (hwanted : 1 ≤ nWanted) (s : Link)
    (cmd : ParamExtSet) (now : ℤ) :
    Safe (trySetParamAsync s cmd retransmitDelay nWanted now) := by
  obtain ⟨⟨accepted, sets⟩, hcall⟩ := (ParamSets.safe_trySetParamAsync_iff s.xparam.sets cmd
    s.xparam.calls.length retransmitDelay nWanted now).mpr ⟨hwanted, hdelay⟩
  rw [trySetParamAsync, hcall]
  exact safe_pure _

/-- A set has been accepted, and is waited for. -/
theorem triple_get (huser : ∀ cmd, user cmd → cmd.place ∉ places)
    (hplaces : ∀ cmd ∈ cmds, cmd.place ∈ places)
    (hnodup : (cmds.map ParamExtSet.place).Nodup) (hcmd : cmd ∈ cmds) (t : ℕ) :
    Triple (world user) (Ready places cmds)
      (fun s => Known places cmds done s ∧ IsAccepted s.xparam.calls t ⟨cmd, nWanted, true⟩) (get t)
      fun ok s => Known places cmds done s ∧ (ok = true → cmd ∈ s.applied) := by
  refine Triple.call ?_ (fun _ h => h.1.ready) ?_ ?_ ?_ fun _ _ h => h.1.ready
  · exact fun _ _ h hother => ⟨stable_known huser done _ _ h.1 hother, isAccepted_others hother h.2⟩
  · rintro s ⟨hknown, haccepted⟩
    obtain ⟨s', result, hmeanwhile, hresult⟩ :=
      meanwhile_called huser _ (Nat.le_refl _) hknown.ready haccepted
    refine ⟨?_, s', _, _, hmeanwhile, result, hresult, rfl⟩
    rintro e ⟨_, -, he⟩
    cases he
  · rintro s ok s' ⟨hknown, haccepted⟩ ⟨result, hresult, heq⟩
    obtain ⟨rfl, rfl⟩ := Prod.mk.inj (Except.ok.inj heq)
    refine ⟨hknown, fun hok => ?_⟩
    obtain ⟨b, hb, hplace⟩ := hknown.ready.succeeded t result _ hresult hok haccepted
    -- nothing else has been applied to this parameter
    have hmem := hknown.ready.mem hb (hplace ▸ hplaces cmd hcmd)
    exact List.inj_on_of_nodup_map hnodup hmem hcmd hplace ▸ hb
  · exact fun ok _ _ h hother => ⟨stable_known huser done _ _ h.1 hother,
      fun hok => applied_others hother (h.2 hok)⟩

/-- **One parameter**: it is set when those before it have been applied. -/
theorem triple_trySetParamBlocking
    (huser : ∀ cmd, user cmd → cmd.place ∉ places) (hplaces : ∀ cmd ∈ cmds, cmd.place ∈ places)
    (hnodup : (cmds.map ParamExtSet.place).Nodup) (hcmds : cmds = done ++ cmd :: rest)
    (hdelay : 10 ≤ retransmitDelay) (hwanted : 1 ≤ nWanted) :
    Triple (world user) (Ready places cmds) (Known places cmds done)
      (trySetParamBlocking cmd retransmitDelay nWanted)
      fun ok s => Known places cmds done s ∧ (ok = true → cmd ∈ s.applied) := by
  have hcmd : cmd ∈ cmds := by simp [hcmds]
  have hturn : ∀ s, Known places cmds done s → InTurn cmds s.applied cmd := by
    intro s hs
    refine ⟨hcmd, ?_⟩
    rw [takeWhile_ne hcmds hnodup]
    exact hs.applied
  let Q (answer : Option ℕ) (s : Link) : Prop := Known places cmds done s ∧
    ∀ t, answer = some t → IsAccepted s.xparam.calls t ⟨cmd, nWanted, true⟩
  have hQ : ∀ answer, Stable (world user) (Q answer) :=
    fun answer _ _ h hother => ⟨stable_known huser done _ _ h.1 hother,
      fun t ht => isAccepted_others hother (h.2 t ht)⟩
  refine Triple.bind (R := Q) ?_ fun answer => ?_
  · refine Triple.call (stable_known huser done) (fun _ h => h.ready) ?_ ?_ hQ
      fun _ _ h => h.1.ready
    · intro s hs
      have hsafe := safe_trySetParamAsync hdelay hwanted s cmd
      refine ⟨?_, ?_⟩
      · rintro e ⟨now, he⟩
        obtain ⟨x, hx⟩ := hsafe now
        cases he.trans hx
      · obtain ⟨⟨answer, s'⟩, hx⟩ := hsafe 0
        exact ⟨s, answer, s', .refl, 0, hx.symm⟩
    · rintro s answer s' hs ⟨now, hok⟩
      obtain ⟨hready, happlied, haccepted⟩ :=
        hs.ready.trySetParamAsync (fun _ => hturn s hs) hok.symm
      exact ⟨⟨hready, fun b hb => happlied ▸ hs.applied b hb⟩, haccepted⟩
  · cases answer with
    | none =>
        exact Triple.done (hQ none) (fun _ h => h.1.ready) fun _ h => ⟨h.1, nofun⟩
    | some t =>
        exact (triple_get huser hplaces hnodup hcmd t).pre fun s h => ⟨h.1, h.2 t rfl⟩

/-- **Several parameters**: they are set one after another, and if the thread is told so, all of
them have been applied. -/
theorem triple_setAll (huser : ∀ cmd, user cmd → cmd.place ∉ places)
    (hplaces : ∀ cmd ∈ cmds, cmd.place ∈ places)
    (hnodup : (cmds.map ParamExtSet.place).Nodup) (hcmds : cmds = done ++ rest) :
    Triple (world user) (Ready places cmds) (Known places cmds done) (setAll rest)
      fun ok s => Ready places cmds s ∧ (ok = true → ∀ cmd ∈ cmds, cmd ∈ s.applied) := by
  induction rest generalizing done with
  | nil =>
      rw [List.append_nil] at hcmds
      exact Triple.done (stable_known huser done) (fun _ h => h.ready)
        fun _ h => ⟨h.ready, fun _ => hcmds ▸ h.applied⟩
  | cons cmd rest ih =>
      have hfirst := triple_trySetParamBlocking huser hplaces hnodup hcmds
        (show 10 ≤ 500 by decide) (show 1 ≤ 3 by decide)
      refine hfirst.bind fun ok => ?_
      cases ok with
      | false =>
          refine Triple.done ?_ (fun _ h => h.1.ready) fun _ h => ⟨h.1.ready, nofun⟩
          exact fun _ _ h hother => ⟨stable_known huser done _ _ h.1 hother, nofun⟩
      | true =>
          have hnext : cmds = (done ++ [cmd]) ++ rest := by simp [hcmds]
          refine (ih hnext).pre fun s h => ⟨h.1.ready, fun b hb => ?_⟩
          rcases List.mem_append.mp hb with hb | hb
          · exact h.1.applied b hb
          · exact List.mem_singleton.mp hb ▸ h.2 rfl

/-- A set while no other is under way. -/
theorem trySetParamAsync_idle {s : Link} (hidle : s.xparam.sets.running = []) (cmd : ParamExtSet)
    (hdelay : 10 ≤ retransmitDelay) (hwanted : 1 ≤ nWanted) (now : ℤ) :
    ∃ s' j, trySetParamAsync s cmd retransmitDelay nWanted now =
        .ok (some s.xparam.calls.length, s') ∧
      s'.applied = s.applied ∧ s'.xparam.sets.running = [j] ∧ j.cb = s.xparam.calls.length ∧
      j.payload = cmd ∧ (s.xparam.calls.length, cmd) ∈ s'.xparam.sets.sent := by
  obtain ⟨⟨accepted, sets⟩, hcall⟩ := (ParamSets.safe_trySetParamAsync_iff s.xparam.sets cmd
    s.xparam.calls.length retransmitDelay nWanted now).mpr ⟨hwanted, hdelay⟩
  obtain ⟨-, ⟨-, hfull, -⟩ | ⟨rfl, -, rfl⟩⟩ := ParamSets.trySetParamAsync_cases hcall
  · rw [hidle] at hfull
    exact absurd hfull (by decide)
  · rw [trySetParamAsync, hcall]
    refine ⟨_, _, rfl, rfl, congrArg (· ++ [_]) hidle, rfl, rfl, ?_⟩
    simp [Queue.enqueue, Job.transmitted, Job.messages, ParamSets.protocol]

/-- **A set can succeed**: while no other is under way, it can be sent, applied and acknowledged,
and the thread told so. -/
theorem reaches_set (user : ParamExtSet → Prop) {s : Link}
    (hidle : s.xparam.sets.running = []) (cmd : ParamExtSet) (hdelay : 10 ≤ retransmitDelay)
    (hwanted : 1 ≤ nWanted) :
    ∃ s', Reaches (world user) (trySetParamBlocking cmd retransmitDelay nWanted, s)
        (.done true, s') ∧
      s'.applied = s.applied ++ [cmd] ∧ s'.xparam.sets.running = [] := by
  obtain ⟨s₁, j, hset, happlied, hrunning, hcb, hpayload, hsent⟩ :=
    trySetParamAsync_idle hidle cmd hdelay hwanted 0
  have hcall : (world user).calls (.trySetParamAsync cmd retransmitDelay nWanted) s
      (.ok (some s.xparam.calls.length, s₁)) := ⟨0, hset.symm⟩
  have hcalled : Reaches (world user) (trySetParamBlocking cmd retransmitDelay nWanted, s)
      (get s.xparam.calls.length, s₁) := .single (.call hcall)
  have happlies := hcalled.tail (.others (.applies hsent))
  have hacked := happlies.tail (.others (.ackArrives (a := serverAck cmd)
    (List.mem_append_right _ (List.mem_singleton_self _))))
  have hrefers : ParamSets.refersTo (serverAck cmd).ack (serverAck cmd).senderSysid
      (serverAck cmd).senderCompid j.payload = true := by
    rw [hpayload, XParam.refersTo_eq_true_iff]
    exact ⟨rfl, rfl, rfl, rfl⟩
  have hanswer : (s₁.xparam.sets.handleParamExtAck (serverAck cmd).ack (serverAck cmd).senderSysid
      (serverAck cmd).senderCompid).2 = ⟨[], s₁.xparam.sets.sent, s₁.xparam.sets.called ++
        [(s.xparam.calls.length, ⟨some (serverAck cmd).ack, j.nTransmissions⟩)]⟩ := by
    rw [ParamSets.handleParamExtAck, Queue.answer, hrunning, Queue.takeFirst, if_pos hrefers, ← hcb]
  rw [hanswer] at hacked
  have hdone := hacked.tail
    (.call ⟨_, List.mem_append_right _ (List.mem_singleton_self _), rfl⟩)
  exact ⟨_, hdone, congrArg (· ++ [cmd]) happlied, rfl⟩

/-- So can several sets. -/
theorem reaches_setAll (user : ParamExtSet → Prop) (cmds : List ParamExtSet) {s : Link}
    (hidle : s.xparam.sets.running = []) :
    ∃ s', Reaches (world user) (setAll cmds, s) (.done true, s') ∧
      s'.applied = s.applied ++ cmds ∧ s'.xparam.sets.running = [] := by
  induction cmds generalizing s with
  | nil => exact ⟨s, .refl, (List.append_nil _).symm, hidle⟩
  | cons cmd cmds ih =>
      obtain ⟨s₁, hfirst, happlied, hidle₁⟩ := reaches_set user hidle cmd
        (show 10 ≤ 500 by decide) (show 1 ≤ 3 by decide)
      obtain ⟨s', hrest, happlied', hidle'⟩ := ih hidle₁
      refine ⟨s', (hfirst.bind _).trans hrest, ?_, hidle'⟩
      rw [happlied', happlied, List.append_assoc, List.singleton_append]

end Others

end XParamBlocking

end QOpenHD
