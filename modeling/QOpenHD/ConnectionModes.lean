/-
QOpenHD/ConnectionModes.lean

The passes of `perform_connection_management` among the receiving threads, the user and
the clock.

Between two of its calls the heartbeat thread knows a `View`, which connections run
and where the one to the user's address goes; a triple for each call says what
becomes of the view, one for each mode what it is in the end.

* **`safe_and_exclusive`** — whoever acts when, no assertion fails, no thread is waited
  for in vain, and the connection to the user's address never runs beside another one;
* **`pass_runs`** — a pass during which the user changes nothing leaves exactly the
  connections of the mode running;
* **`message_after_pass`** — what becomes of a message in mode 2.
-/
import QOpenHD.ConnectionManagement

namespace QOpenHD

open Checked Interleaving Relation

namespace ConnectionManagement

/-- The heartbeat thread, and what happens beside it; `user` says how the settings may
change. -/
def world (user : Settings → Settings → Prop) : World Op Op.Ans Connections where
  calls := calls
  others s s' := Others s s' ∧ user s.settings s'.settings

/-- The connection to the user's address does not run beside another one. -/
def View.Exclusive (v : View) : Prop :=
  v.running (.tcp .custom) = true → ∀ l, l ≠ .tcp .custom → v.running l = false

/-- What holds all the time. -/
structure Always (s : Connections) : Prop where
  inv : s.Inv
  exclusive : s.view.Exclusive

/-- The user may leave the settings as they are, and cannot leave `F`. -/
structure Kept (user : Settings → Settings → Prop) (F : Settings → Prop) : Prop where
  refl : ∀ st, user st st
  keeps : ∀ st st', F st → user st st' → F st'

/-- What the heartbeat thread knows between two of its calls. -/
structure At (F : Settings → Prop) (v : View) (s : Connections) : Prop where
  inv : s.Inv
  view : s.view = v
  settings : F s.settings

variable {user : Settings → Settings → Prop} {F : Settings → Prop} {v : View}

theorem At.always {s : Connections} (h : At F v s) (hv : v.Exclusive) : Always s :=
  ⟨h.inv, h.view ▸ hv⟩

theorem Kept.stable (hk : Kept user F) (v : View) : Stable (world user) (At F v) := by
  rintro s s' hs ⟨hother, huser⟩
  exact ⟨hs.inv.others hother, (Connections.view_others hother).trans hs.view,
    hk.keeps _ _ hs.settings huser⟩

/-! ### Threads that come to their end -/

theorem meanwhile_tcp (hk : Kept user F) {s : Connections} {c : TCP} {conn : TCPConnection}
    (h : ReflTransGen (TCPStep s.clock) (s.tcp c) conn) :
    Meanwhile (world user) s (s.setTcp c conn) := by
  induction h with
  | refl =>
      have hsame : s.setTcp c (s.tcp c) = s := by simp [Connections.setTcp]
      rw [hsame]
  | @tail conn conn' _ hstep ih =>
      have hnext : Others (s.setTcp c conn) ((s.setTcp c conn).setTcp c conn') :=
        .tcp c conn' (by simpa [Connections.setTcp] using hstep)
      have hsame : (s.setTcp c conn).setTcp c conn' = s.setTcp c conn' := by
        simp [Connections.setTcp]
      exact ih.tail (hsame ▸ ⟨hnext, hk.refl _⟩)

theorem meanwhile_udp (hk : Kept user F) {s : Connections} {conn : UDPConnection}
    (h : ReflTransGen (UDPStep s.clock) s.udp conn) :
    Meanwhile (world user) s { s with udp := conn } := by
  induction h with
  | refl => exact .refl
  | tail _ hstep ih => exact ih.tail ⟨.udp _ hstep, hk.refl _⟩

/-- What `join` waits for comes about. -/
theorem possible_join (hk : Kept user F) {s : Connections} {l : Link}
    (hlooping : (s.receiver l).isLooping = true) (hkeep : (s.receiver l).keepReceiving = false) :
    Possible (world user) (.join l) s := by
  refine ⟨?_, ?_⟩
  · rintro e ⟨-, h⟩
    cases h
  · cases l with
    | udp =>
        obtain ⟨conn, hsteps, hended⟩ := UDPConnection.ends s.clock hlooping hkeep
        exact ⟨_, _, _, meanwhile_udp hk hsteps, hended, rfl⟩
    | tcp c =>
        obtain ⟨conn, hsteps, hended⟩ := TCPConnection.ends s.clock hlooping hkeep
        refine ⟨_, _, _, meanwhile_tcp hk hsteps, ?_, rfl⟩
        simpa [Connections.receiver, Connections.setTcp] using hended

/-! ### One call -/

theorem possible_of_ok {o : Op} {s : Connections} {x : o.Ans × Connections}
    (h : ∀ r, calls o s r ↔ r = .ok x) : Possible (world user) o s := by
  refine ⟨fun e he => ?_, s, x.1, x.2, .refl, (h _).mpr rfl⟩
  cases (h _).mp he

/-- A call that reads, and what is known of its answer. -/
theorem triple_read (hk : Kept user F) {o : Op} {known : o.Ans → Prop} (hv : v.Exclusive)
    (hgo : ∀ s, At F v s → Possible (world user) o s)
    (hcall : ∀ s a s', At F v s → calls o s (.ok (a, s')) → known a ∧ At F v s') :
    Triple (world user) Always (At F v) (act o) fun a s => known a ∧ At F v s :=
  Triple.call (hk.stable v) (fun _ hs => hs.always hv) hgo hcall
    (fun _ _ _ hs hother => ⟨hs.1, hk.stable v _ _ hs.2 hother⟩) fun _ _ hs => hs.2.always hv

/-- A call after which the view is known. -/
theorem triple_to (hk : Kept user F) {o : Op} (hv : v.Exclusive) {u : View} (hu : u.Exclusive)
    (hgo : ∀ s, At F v s → Possible (world user) o s)
    (hcall : ∀ s a s', At F v s → calls o s (.ok (a, s')) → At F u s') :
    Triple (world user) Always (At F v) (act o) fun _ s => At F u s :=
  Triple.call (hk.stable v) (fun _ hs => hs.always hv) hgo hcall (fun _ => hk.stable u)
    fun _ _ hs => hs.always hu

theorem triple_isLooping (hk : Kept user F) (hv : v.Exclusive) (l : Link) :
    Triple (world user) Always (At F v) (isLooping l) fun b s => b = v.running l ∧ At F v s := by
  refine triple_read hk hv (fun s _ => possible_of_ok fun r => Iff.rfl) ?_
  rintro s a s' hs h
  cases h
  exact ⟨hs.view ▸ rfl, hs⟩

theorem At.receiveThread_eq_none {s : Connections} (h : At F v s) {l : Link}
    (hl : v.running l = false) : (s.receiver l).receiveThread = none := by
  rw [← h.view] at hl
  exact Option.isSome_eq_false_iff.mp hl |> Option.isNone_iff_eq_none.mp

theorem At.setReceiver {s : Connections} (h : At F v s) {l : Link} {r : Receiver}
    (hstops : r.Stops) (hinner : (s.receiver l).Inner → r.Inner) :
    At F (v.set l r.isLooping) (s.setReceiver r l) where
  inv := h.inv.setReceiver hstops hinner
  view := by rw [Connections.view_setReceiver, h.view]
  settings := by
    rw [Connections.settings_setReceiver]
    exact h.settings

theorem At.isLooping_eq {s : Connections} (h : At F v s) (l : Link) :
    (s.receiver l).isLooping = v.running l := by
  rw [← h.view]
  rfl

theorem triple_startLooping (hk : Kept user F) (hv : v.Exclusive) {l : Link}
    (hafter : (v.set l true).Exclusive) (hl : v.running l = false) :
    Triple (world user) Always (At F v) (startLooping l) fun _ s => At F (v.set l true) s := by
  have hok : ∀ s, At F v s → (s.receiver l).startLooping =
      .ok { s.receiver l with keepReceiving := true, receiveThread := some .loop } := by
    intro s hs
    rw [Receiver.startLooping, require_of (hs.receiveThread_eq_none hl)]
    rfl
  refine triple_to hk hv hafter ?_ ?_
  · intro s hs
    exact possible_of_ok fun r => by rw [calls, hok s hs]; rfl
  · intro s a s' hs h
    rw [calls, hok s hs] at h
    cases h
    refine hs.setReceiver (r := ⟨true, some .loop, _⟩) ?_ ?_
    · rintro (hnone | hended)
      · cases hnone
      · cases hended
    · rintro ⟨phase, hphase, -⟩
      rw [hs.receiveThread_eq_none hl] at hphase
      cases hphase

/-- The thread is told to stop, and stops. -/
theorem triple_stopLooping (hk : Kept user F) (hv : v.Exclusive) {l : Link}
    (hafter : (v.set l false).Exclusive) (hl : v.running l = true) :
    Triple (world user) Always (At F v) (stopLooping l) fun _ s => At F (v.set l false) s := by
  have hok : ∀ s, At F v s → (s.receiver l).stopReceiving =
      .ok { s.receiver l with keepReceiving := false } := by
    intro s hs
    have hsome : (s.receiver l).receiveThread ≠ none := by
      rw [← Option.isSome_iff_ne_none]
      exact (hs.isLooping_eq l).trans hl
    rw [Receiver.stopReceiving, require_of hsome]
    rfl
  have hstable : Stable (world user) fun s => At F v s ∧ (s.receiver l).keepReceiving = false :=
    fun s s' hs hother => ⟨hk.stable v s s' hs.1 hother,
      (Connections.keepReceiving_others hother.1 l).trans hs.2⟩
  refine Triple.bind (R := fun _ s => At F v s ∧ (s.receiver l).keepReceiving = false) ?_
    fun _ => ?_
  · refine Triple.call (hk.stable v) (fun _ hs => hs.always hv)
      (fun s hs => possible_of_ok fun r => by rw [calls, hok s hs]; rfl) ?_ (fun _ => hstable)
      fun _ _ hs => hs.1.always hv
    intro s a s' hs h
    change calls (.stopReceiving l) s (.ok (a, s')) at h
    rw [calls, hok s hs] at h
    cases h
    have hafter := hs.setReceiver (l := l)
      (r := { s.receiver l with keepReceiving := false }) (fun _ => rfl) id
    rw [View.set_running v] at hafter
    · exact ⟨hafter, by rw [Connections.receiver_setReceiver_self]⟩
    · exact (hs.isLooping_eq l).symm
  · refine Triple.call hstable (fun _ hs => hs.1.always hv)
      (fun s hs => possible_join hk ((hs.1.isLooping_eq l).trans hl) hs.2) ?_
      (fun _ => hk.stable _) fun _ _ hs => hs.always hafter
    rintro s a s' ⟨hs, hkeep⟩ ⟨hended, h⟩
    cases h
    refine hs.setReceiver (r := ⟨_, none, _⟩) (fun _ => hkeep) ?_
    rintro ⟨phase, hphase, hinner⟩
    rw [hended] at hphase
    cases hphase
    cases hinner

theorem View.Exclusive.stop (hv : v.Exclusive) (l : Link) : (v.set l false).Exclusive := by
  intro hcustom l' hl'
  by_cases h : l' = l
  · rw [h, View.running_set_self]
  · by_cases hc : Link.tcp .custom = l
    · rw [hc, View.running_set_self] at hcustom
      cases hcustom
    · rw [View.running_set_of_ne v hc] at hcustom
      rw [View.running_set_of_ne v h]
      exact hv hcustom l' hl'

theorem triple_stopLoopingIf (hk : Kept user F) (hv : v.Exclusive) (l : Link) :
    Triple (world user) Always (At F v) (stopLoopingIf l) fun _ s => At F (v.set l false) s := by
  refine (triple_isLooping hk hv l).bind fun looping => Triple.known fun hl => ?_
  cases looping with
  | true => exact triple_stopLooping hk hv (hv.stop l) hl.symm
  | false =>
      rw [View.set_running v hl.symm]
      exact Triple.done (hk.stable v) (fun _ hs => hs.always hv) fun _ hs => hs

theorem triple_startLoopingIfNot (hk : Kept user F) (hv : v.Exclusive) {l : Link}
    (hafter : (v.set l true).Exclusive) :
    Triple (world user) Always (At F v) (startLoopingIfNot l) fun _ s =>
      At F (v.set l true) s := by
  refine (triple_isLooping hk hv l).bind fun looping => Triple.known fun hl => ?_
  cases looping with
  | true =>
      rw [View.set_running v hl.symm]
      exact Triple.done (hk.stable v) (fun _ hs => hs.always hv) fun _ hs => hs
  | false => exact triple_startLooping hk hv hafter hl.symm

/-- There is an answer. -/
theorem Connections.exists_alive (s : Connections) (l : Link) : ∃ alive, s.Alive l alive := by
  cases halive : isAlive (s.receiver l).lastDataMs s.clock with
  | none => exact ⟨true, fun b hb => by cases halive.symm.trans hb⟩
  | some alive => exact ⟨alive, fun b hb => Option.some.inj (halive.symm.trans hb)⟩

theorem triple_threadsafeIsAlive (hk : Kept user F) (hv : v.Exclusive) (l : Link) :
    Triple (world user) Always (At F v) (threadsafeIsAlive l) fun _ s => At F v s := by
  refine triple_to hk hv hv ?_ ?_
  · intro s _
    refine ⟨?_, s, ?_⟩
    · rintro e ⟨alive, -, h⟩
      cases h
    · obtain ⟨alive, halive⟩ := s.exists_alive l
      exact ⟨alive, s, .refl, alive, halive, rfl⟩
  · rintro s a s' hs ⟨alive, -, h⟩
    cases h
    exact hs

theorem triple_setStatus (hk : Kept user F) (hv : v.Exclusive) (text : List UInt8) :
    Triple (world user) Always (At F v) (act (.setStatus text)) fun _ s => At F v s := by
  refine triple_to hk hv hv (fun s _ => possible_of_ok fun r => Iff.rfl) ?_
  intro s a s' hs h
  cases h
  exact ⟨⟨hs.inv.udp, hs.inv.tcp⟩, hs.view, hs.settings⟩

/-- What the user has set, as it is read. -/
theorem triple_connectionMode (hk : Kept user F) (hv : v.Exclusive) :
    Triple (world user) Always (At F v) (act .connectionMode) fun mode s =>
      (∃ st, F st ∧ mode = st.connectionMode.val) ∧ At F v s := by
  refine triple_read hk hv (fun s _ => possible_of_ok fun r => Iff.rfl) ?_
  intro s a s' hs h
  cases h
  exact ⟨⟨s.settings, hs.settings, rfl⟩, hs⟩

theorem triple_manualTcpIp (hk : Kept user F) (hv : v.Exclusive) :
    Triple (world user) Always (At F v) (act .manualTcpIp) fun ip s =>
      (∃ st, F st ∧ ip = st.manualTcpIp) ∧ At F v s := by
  refine triple_read hk hv (fun s _ => possible_of_ok fun r => Iff.rfl) ?_
  intro s a s' hs h
  cases h
  exact ⟨⟨s.settings, hs.settings, rfl⟩, hs⟩

theorem triple_customRemote (hk : Kept user F) (hv : v.Exclusive) :
    Triple (world user) Always (At F v) (act .customRemote) fun remote s =>
      remote = v.remote ∧ At F v s := by
  refine triple_read hk hv (fun s _ => possible_of_ok fun r => Iff.rfl) ?_
  intro s a s' hs h
  cases h
  exact ⟨hs.view ▸ rfl, hs⟩

theorem triple_setRemote (hk : Kept user F) (hv : v.Exclusive)
    (hl : v.running (.tcp .custom) = false) (remote : TCPRemote) :
    Triple (world user) Always (At F v) (act (.setRemote remote)) fun _ s =>
      At F { v with remote := remote } s := by
  have hok : ∀ s, At F v s → (s.tcp .custom).setRemote remote =
      .ok { s.tcp .custom with remote := remote } := by
    intro s hs
    have hnone : (s.tcp .custom).receiver.receiveThread = none := hs.receiveThread_eq_none hl
    rw [TCPConnection.setRemote, require_of hnone]
    rfl
  refine triple_to hk hv (u := { v with remote := remote }) hv ?_ ?_
  · intro s hs
    exact possible_of_ok fun r => by rw [calls, hok s hs]; rfl
  · intro s a s' hs h
    rw [calls, hok s hs] at h
    cases h
    refine ⟨hs.inv.setTcp ⟨(hs.inv.tcp .custom).stops, fun hfd => ?_⟩, ?_, hs.settings⟩
    · obtain ⟨-, phase, hphase, -⟩ := (hs.inv.tcp .custom).socket hfd
      have hnone : (s.tcp .custom).receiver.receiveThread = none := hs.receiveThread_eq_none hl
      cases hnone.symm.trans hphase
    · rw [← hs.view]
      refine congrArg₂ View.mk (funext fun l => ?_) ?_
      · cases l with
        | udp => rfl
        | tcp c =>
            by_cases h : c = .custom
            · subst h
              simp [Connections.view, Connections.receiver, Connections.setTcp]
            · simp [Connections.view, Connections.receiver, Connections.setTcp, h]
      · simp [Connections.setTcp]

/-! ### A pass -/

/-- Exactly these connections run. -/
def View.Runs (v : View) (ls : List Link) : Prop := ∀ l, v.running l = decide (l ∈ ls)

/-- What a mode asks for. -/
def View.Wanted (v : View) (localhostOnly : Bool) (mode : ℤ) (ip : List UInt8) : Prop :=
  if mode = 2 then v.Runs [.tcp .custom] ∧ v.remote = ⟨ip, ohdMavlinkTcpServerPort⟩
  else if mode = 0 ∧ localhostOnly = false then
    v.Runs [.udp] ∨ v.Runs [.udp, .tcp .wifiHs, .tcp .ethHs]
  else v.Runs [.udp]

theorem View.exclusive_of_not_running (h : v.running (.tcp .custom) = false) : v.Exclusive := by
  intro hcustom
  rw [h] at hcustom
  cases hcustom

/-- The heartbeat thread has decided for a view with `P`. -/
def Decided (F : Settings → Prop) (P : View → Prop) (s : Connections) : Prop :=
  ∃ v : View, v.Exclusive ∧ P v ∧ At F v s

theorem Decided.always {P : View → Prop} {s : Connections} (h : Decided F P s) : Always s := by
  obtain ⟨v, hv, -, hs⟩ := h
  exact hs.always hv

theorem Kept.stable_decided (hk : Kept user F) (P : View → Prop) :
    Stable (world user) (Decided F P) := by
  rintro s s' ⟨v, hv, hP, hs⟩ hother
  exact ⟨v, hv, hP, hk.stable v s s' hs hother⟩

/-- What is left to do at the end of a pass. -/
theorem triple_setStatus_decided (hk : Kept user F) (hv : v.Exclusive) {P : View → Prop} (hP : P v)
    (text : List UInt8) :
    Triple (world user) Always (At F v) (act (.setStatus text)) fun _ s => Decided F P s :=
  (triple_setStatus hk hv text).post fun _ _ hs => ⟨v, hv, hP, hs⟩

theorem triple_autoLocalhost (hk : Kept user F) (hv : v.Exclusive) :
    Triple (world user) Always (At F v) autoLocalhost fun _ s =>
      Decided F (·.Runs [.udp]) s := by
  let v₁ := v.set (.tcp .custom) false
  let v₂ := v₁.set (.tcp .ethHs) false
  let v₃ := v₂.set (.tcp .wifiHs) false
  let v₄ := v₃.set .udp true
  have h₁ : v₁.Exclusive := hv.stop _
  have h₂ : v₂.Exclusive := h₁.stop _
  have h₃ : v₃.Exclusive := h₂.stop _
  have h₄ : v₄.Exclusive := View.exclusive_of_not_running rfl
  have hruns : v₄.Runs [.udp] := by rintro (- | (- | - | -)) <;> rfl
  refine (triple_stopLoopingIf hk hv _).bind fun _ => (triple_stopLoopingIf hk h₁ _).bind fun _ =>
    (triple_stopLoopingIf hk h₂ _).bind fun _ => (triple_startLoopingIfNot hk h₃ h₄).bind fun _ =>
    (triple_threadsafeIsAlive hk h₄ _).bind fun alive => ?_
  cases alive with
  | true => exact triple_setStatus_decided hk h₄ hruns _
  | false => exact triple_setStatus_decided hk h₄ hruns _

theorem triple_auto (hk : Kept user F) (hv : v.Exclusive) :
    Triple (world user) Always (At F v) auto fun _ s =>
      Decided F (fun v => v.Runs [.udp] ∨ v.Runs [.udp, .tcp .wifiHs, .tcp .ethHs]) s := by
  let v₁ := v.set (.tcp .custom) false
  let v₂ := v₁.set .udp true
  have h₁ : v₁.Exclusive := hv.stop _
  have h₂ : v₂.Exclusive := View.exclusive_of_not_running rfl
  refine (triple_stopLoopingIf hk hv _).bind fun _ =>
    (triple_startLoopingIfNot hk h₁ h₂).bind fun _ =>
    (triple_threadsafeIsAlive hk h₂ _).bind fun alive => ?_
  cases alive with
  | true =>
      let v₃ := v₂.set (.tcp .wifiHs) false
      let v₄ := v₃.set (.tcp .ethHs) false
      have h₃ : v₃.Exclusive := h₂.stop _
      have h₄ : v₄.Exclusive := h₃.stop _
      have hruns : v₄.Runs [.udp] := by rintro (- | (- | - | -)) <;> rfl
      exact (triple_setStatus hk h₂ _).bind fun _ => (triple_stopLoopingIf hk h₂ _).bind fun _ =>
        (triple_stopLoopingIf hk h₃ _).post fun _ _ hs => ⟨v₄, h₄, .inl hruns, hs⟩
  | false =>
      let v₃ := v₂.set (.tcp .wifiHs) true
      let v₄ := v₃.set (.tcp .ethHs) true
      have h₃ : v₃.Exclusive := View.exclusive_of_not_running rfl
      have h₄ : v₄.Exclusive := View.exclusive_of_not_running rfl
      have hruns : v₄.Runs [.udp, .tcp .wifiHs, .tcp .ethHs] := by
        rintro (- | (- | - | -)) <;> rfl
      refine (triple_startLoopingIfNot hk h₂ h₃).bind fun _ =>
        (triple_startLoopingIfNot hk h₃ h₄).bind fun _ =>
        (triple_threadsafeIsAlive hk h₄ _).bind fun wifiAlive => ?_
      cases wifiAlive with
      | true => exact triple_setStatus_decided hk h₄ (.inr hruns) _
      | false =>
          refine (triple_threadsafeIsAlive hk h₄ _).bind fun ethAlive => ?_
          cases ethAlive with
          | true => exact triple_setStatus_decided hk h₄ (.inr hruns) _
          | false => exact triple_setStatus_decided hk h₄ (.inr hruns) _

theorem triple_explicitUdp (hk : Kept user F) (hv : v.Exclusive) :
    Triple (world user) Always (At F v) explicitUdp fun _ s => Decided F (·.Runs [.udp]) s := by
  let v₁ := v.set (.tcp .wifiHs) false
  let v₂ := v₁.set (.tcp .ethHs) false
  let v₃ := v₂.set (.tcp .custom) false
  let v₄ := v₃.set .udp true
  have h₁ : v₁.Exclusive := hv.stop _
  have h₂ : v₂.Exclusive := h₁.stop _
  have h₃ : v₃.Exclusive := h₂.stop _
  have h₄ : v₄.Exclusive := View.exclusive_of_not_running rfl
  have hruns : v₄.Runs [.udp] := by rintro (- | (- | - | -)) <;> rfl
  refine (triple_stopLoopingIf hk hv _).bind fun _ => (triple_stopLoopingIf hk h₁ _).bind fun _ =>
    (triple_stopLoopingIf hk h₂ _).bind fun _ => (triple_startLoopingIfNot hk h₃ h₄).bind fun _ =>
    (triple_threadsafeIsAlive hk h₄ _).bind fun alive => ?_
  cases alive with
  | true => exact triple_setStatus_decided hk h₄ hruns _
  | false => exact triple_setStatus_decided hk h₄ hruns _

/-- Where the connection to the user's address may go on, or not. -/
def View.to (v : View) (ip : List UInt8) (running : Bool) : View :=
  { v.set (.tcp .custom) running with remote := ⟨ip, ohdMavlinkTcpServerPort⟩ }

/-- The remote is the one that is wanted, and changes only where the connection is stopped. -/
theorem triple_updateRemote (hk : Kept user F) (hv : v.Exclusive) (ip : List UInt8) :
    Triple (world user) Always (At F v) (updateRemote ip) fun _ s =>
      ∃ running, At F (v.to ip running) s := by
  refine (triple_customRemote hk hv).bind fun remote => Triple.known fun hremote => ?_
  subst hremote
  by_cases hne : v.remote.ip ≠ ip ∨ v.remote.port ≠ ohdMavlinkTcpServerPort
  · rw [if_pos hne]
    exact (triple_stopLoopingIf hk hv _).bind fun _ =>
      (triple_setRemote hk (hv.stop _) (View.running_set_self ..) _).post fun _ s hs => ⟨false, hs⟩
  · rw [if_neg hne]
    refine Triple.done (hk.stable v) (fun _ hs => hs.always hv) fun s hs => ?_
    have hremote : v.remote = ⟨ip, ohdMavlinkTcpServerPort⟩ := by
      obtain ⟨hip, hport⟩ := not_or.mp hne
      rw [← not_not.mp hip, ← not_not.mp hport]
    have hto : v.to ip (v.running (.tcp .custom)) = v := by
      rw [View.to, View.set_running v rfl, ← hremote]
    exact ⟨v.running (.tcp .custom), hto.symm ▸ hs⟩

theorem triple_explicitTcp (hk : Kept user F) (hv : v.Exclusive) :
    Triple (world user) Always (At F v) explicitTcp fun _ s => ∃ st, F st ∧
      Decided F (fun v => v.Runs [.tcp .custom] ∧
        v.remote = ⟨st.manualTcpIp, ohdMavlinkTcpServerPort⟩) s := by
  let v₁ := v.set (.tcp .wifiHs) false
  let v₂ := v₁.set (.tcp .ethHs) false
  let v₃ := v₂.set .udp false
  have h₁ : v₁.Exclusive := hv.stop _
  have h₂ : v₂.Exclusive := h₁.stop _
  have h₃ : v₃.Exclusive := h₂.stop _
  refine (triple_stopLoopingIf hk hv _).bind fun _ => (triple_stopLoopingIf hk h₁ _).bind fun _ =>
    (triple_stopLoopingIf hk h₂ _).bind fun _ =>
    (triple_manualTcpIp hk h₃).bind fun ip => Triple.known fun hip => ?_
  obtain ⟨st, hst, rfl⟩ := hip
  refine (triple_updateRemote hk h₃ st.manualTcpIp).bind fun _ => Triple.exists fun running => ?_
  let v₄ := v₃.to st.manualTcpIp running
  let v₅ := v₄.set (.tcp .custom) true
  have hothers : ∀ l, l ≠ .tcp .custom → v₅.running l = false := by
    rintro (- | (- | - | -)) hl
    · rfl
    · rfl
    · rfl
    · exact absurd rfl hl
  have h₄ : v₄.Exclusive := by
    rintro - (- | (- | - | -)) hl
    · rfl
    · rfl
    · rfl
    · exact absurd rfl hl
  have h₅ : v₅.Exclusive := fun _ => hothers
  have hruns : v₅.Runs [.tcp .custom] := by rintro (- | (- | - | -)) <;> rfl
  refine (triple_startLoopingIfNot hk h₄ h₅).bind fun _ =>
    (triple_threadsafeIsAlive hk h₅ _).bind fun alive => ?_
  exact (triple_setStatus_decided hk h₅ ⟨hruns, rfl⟩ _).post fun _ _ hs => ⟨st, hst, hs⟩

/-- **A pass decides for what the mode asks for.** -/
theorem triple_performConnectionManagement (hk : Kept user F) (hv : v.Exclusive)
    (localhostOnly : Bool) :
    Triple (world user) Always (At F v) (performConnectionManagement localhostOnly) fun _ s =>
      ∃ st st', F st ∧ F st' ∧
        Decided F (·.Wanted localhostOnly st.connectionMode.val st'.manualTcpIp) s := by
  refine (triple_connectionMode hk hv).bind fun mode => Triple.known fun hmode => ?_
  obtain ⟨st, hst, rfl⟩ := hmode
  have hcases : st.connectionMode.val = 0 ∨ st.connectionMode.val = 1 ∨
      st.connectionMode.val = 2 := by
    have := st.connectionMode.property
    omega
  rcases hcases with hmode | hmode | hmode
  · rw [hmode, if_pos rfl]
    cases localhostOnly with
    | true =>
        refine (triple_autoLocalhost hk hv).post ?_
        rintro - s ⟨v', hv', hruns, hs⟩
        exact ⟨st, st, hst, hst, v', hv', by simpa [View.Wanted, hmode] using hruns, hs⟩
    | false =>
        refine (triple_auto hk hv).post ?_
        rintro - s ⟨v', hv', hruns, hs⟩
        exact ⟨st, st, hst, hst, v', hv', by simpa [View.Wanted, hmode] using hruns, hs⟩
  · rw [hmode, if_neg (by decide), if_pos rfl]
    refine (triple_explicitUdp hk hv).post ?_
    rintro - s ⟨v', hv', hruns, hs⟩
    exact ⟨st, st, hst, hst, v', hv', by simpa [View.Wanted, hmode] using hruns, hs⟩
  · rw [hmode, if_neg (by decide), if_neg (by decide), if_pos rfl]
    refine (triple_explicitTcp hk hv).post ?_
    rintro - s ⟨st', hst', v', hv', hruns, hs⟩
    exact ⟨st, st', hst, hst', v', hv', by simpa [View.Wanted, hmode] using hruns, hs⟩

/-! ### Whole runs -/

/-- Nothing that the user does is excluded. -/
def anyUser : Settings → Settings → Prop := fun _ _ => True

theorem kept_anyUser : Kept anyUser fun _ => True := ⟨fun _ => trivial, fun _ _ _ _ => trivial⟩

/-- From `start` to `terminate`. -/
theorem triple_lifetime (localhostOnly : Bool) (n : ℕ) (settings : Settings) (clock : UInt64) :
    Triple (world anyUser) Always (At (fun _ => True) (Connections.init settings clock).view)
      (lifetime localhostOnly n) fun _ s => Decided (fun _ => True) (·.Runs []) s := by
  have hk := kept_anyUser
  let v₀ := (Connections.init settings clock).view
  have hcustom : v₀.running (.tcp .custom) = false := rfl
  have h₀ : v₀.Exclusive := View.exclusive_of_not_running hcustom
  have hudp : (v₀.set .udp true).Exclusive := View.exclusive_of_not_running hcustom
  have hpass : Triple (world anyUser) Always (Decided (fun _ => True) fun _ => True)
      (performConnectionManagement localhostOnly) fun _ =>
        Decided (fun _ => True) fun _ => True := by
    refine Triple.exists fun v => Triple.known fun hv => Triple.known fun _ => ?_
    refine (triple_performConnectionManagement hk hv localhostOnly).post ?_
    rintro - s ⟨-, -, -, -, v', hv', -, hs⟩
    exact ⟨v', hv', trivial, hs⟩
  refine (triple_startLooping hk h₀ hudp rfl).bind fun _ => ?_
  refine Triple.bind (R := fun _ => Decided (fun _ => True) fun _ => True) ?_ fun _ => ?_
  · exact (Triple.times (hk.stable_decided _) (fun _ hs => hs.always) hpass n).pre
      fun s hs => ⟨_, hudp, trivial, hs⟩
  · refine Triple.exists fun v => Triple.known fun hv => Triple.known fun _ => ?_
    have h₁ := hv.stop .udp
    have h₂ := h₁.stop (.tcp .wifiHs)
    have h₃ := h₂.stop (.tcp .ethHs)
    refine (triple_stopLoopingIf hk hv _).bind fun _ => (triple_stopLoopingIf hk h₁ _).bind fun _ =>
      (triple_stopLoopingIf hk h₂ _).bind fun _ => (triple_stopLoopingIf hk h₃ _).post ?_
    intro _ s hs
    refine ⟨_, h₃.stop _, ?_, hs⟩
    rintro (- | (- | - | -)) <;> rfl

theorem at_init (settings : Settings) (clock : UInt64) :
    At (fun _ => True) (Connections.init settings clock).view (.init settings clock) :=
  ⟨Connections.inv_init settings clock, rfl, trivial⟩

/-- What is reached keeps what always holds. -/
theorem always_of_reaches {localhostOnly : Bool} {n : ℕ} {settings : Settings} {clock : UInt64}
    {p : Manager Unit} {s : Connections}
    (h : Reaches (world anyUser) (lifetime localhostOnly n, .init settings clock) (p, s)) :
    Always s :=
  (triple_lifetime localhostOnly n settings clock _ p s (at_init settings clock) h).2.1

theorem kept_eq (st : Settings) : Kept Eq (· = st) :=
  ⟨fun _ => rfl, fun _ _ hst heq => heq ▸ hst⟩

/-- A pass can come to its end, wherever it is. -/
theorem Always.pass_finishes {s : Connections} (hs : Always s) {localhostOnly : Bool}
    {q : Manager Unit} {t : Connections}
    (h : Reaches (world Eq) (performConnectionManagement localhostOnly, s) (q, t)) :
    ∃ s', Reaches (world Eq) (q, t) (.done (), s') := by
  have htriple := triple_performConnectionManagement (kept_eq s.settings) hs.exclusive localhostOnly
  obtain ⟨_, s', hend⟩ := htriple.finishes ⟨hs.inv, rfl, rfl⟩ h
  exact ⟨s', hend⟩

/-- What is known where a pass has come to its end. -/
theorem Always.of_pass {s s' : Connections} (hs : Always s) {localhostOnly : Bool}
    (h : Reaches (world Eq) (performConnectionManagement localhostOnly, s) (.done (), s')) :
    s'.Inv ∧ s'.settings = s.settings ∧
      s'.view.Wanted localhostOnly s.settings.connectionMode.val s.settings.manualTcpIp := by
  have htriple := triple_performConnectionManagement (kept_eq s.settings) hs.exclusive localhostOnly
  obtain ⟨-, -, hpost⟩ := htriple s _ s' ⟨hs.inv, rfl, rfl⟩ h
  obtain ⟨st, st', rfl, rfl, v, -, hwanted, hat⟩ := hpost () rfl
  exact ⟨hat.inv, hat.settings, hat.view ▸ hwanted⟩

/-- **Whoever acts when**: no assertion of the heartbeat thread fails and it waits for no
thread in vain, the connection to the user's address never runs beside another one,
and the application can be terminated. -/
theorem safe_and_exclusive (localhostOnly : Bool) (n : ℕ) (settings : Settings) (clock : UInt64)
    {p : Manager Unit} {s : Connections}
    (h : Reaches (world anyUser) (lifetime localhostOnly n, .init settings clock) (p, s)) :
    GoesOn (world anyUser) s p ∧ s.view.Exclusive ∧
      ∃ s', Reaches (world anyUser) (p, s) (.done (), s') := by
  have htriple := triple_lifetime localhostOnly n settings clock
  obtain ⟨hgo, halways, -⟩ := htriple _ p s (at_init settings clock) h
  obtain ⟨_, s', hend⟩ := htriple.finishes (at_init settings clock) h
  exact ⟨hgo, halways.exclusive, s', hend⟩

/-- The settings with which the application is started for the first time. -/
def defaultSettings : Settings := ⟨checkedMode 0, ascii "192.168.178.36"⟩

/-- A first start: the user chooses TCP before the first pass. -/
def started : Connections :=
  { (Connections.init defaultSettings 60000).setReceiver ⟨true, some .loop, 0⟩ .udp with
    settings := { defaultSettings with connectionMode := checkedMode 2 } }

theorem reaches_started : ∃ rest : Unit → Manager Unit,
    Reaches (world anyUser) (lifetime false 3, .init defaultSettings 60000)
      ((performConnectionManagement false).times 3 >>= rest, started) :=
  ⟨_, .tail (.single (.call rfl)) (.others ⟨.changeTelemetryConnectionMode 2, trivial⟩)⟩

/-- The first pass: the UDP connection is stopped, and the one to the user's address gets its
socket. -/
theorem pass_connected : ∃ s',
    Reaches (world Eq) (performConnectionManagement false, started) (.done (), s') ∧
      s'.view.running (.tcp .custom) = true ∧ s'.view.running .udp = false ∧
      (s'.tcp .custom).receiver.keepReceiving = true ∧ (s'.tcp .custom).socketFd = 7 := by
  have hdead : isAlive 0 60000 = some false := by decide
  refine ⟨?_, ?pass, ?_⟩
  case pass =>
    refine .head (.call rfl) ?_ -- connectionMode
    refine .head (.call rfl) (.head (.call rfl) (.head (.call rfl) ?_)) -- isLooping
    refine .head (.call rfl) ?_ -- stopReceiving
    refine .head (.others ⟨.udp _ (.finish rfl rfl), rfl⟩) ?_
    refine .head (.call ⟨rfl, rfl⟩) ?_ -- join
    refine .head (.call rfl) (.head (.call rfl) ?_) -- manualTcpIp, customRemote
    refine .head (.call rfl) (.head (.call rfl) ?_) -- isLooping, startLooping
    refine .head (.others ⟨.tcp .custom _ (.connect rfl rfl), rfl⟩) ?_
    refine .head (.others ⟨.tcp .custom _ (.connected 7 rfl (by decide)), rfl⟩) ?_
    refine .head (.call ⟨false, fun b hb => Option.some.inj (hdead.symm.trans hb), rfl⟩) ?_
    refine .head (.call rfl) ?_ -- setStatus
    exact .refl
  exact ⟨rfl, rfl, rfl, rfl⟩

/-- What comes about while the user changes nothing is among what can come about. -/
theorem reaches_anyUser {p p' : Manager Unit} {s s' : Connections}
    (h : Reaches (world Eq) (p, s) (p', s')) : Reaches (world anyUser) (p, s) (p', s') := by
  refine h.lift id fun _ _ hstep => ?_
  cases hstep with
  | others hother => exact .others ⟨hother.1, trivial⟩
  | call hcall => exact .call hcall

/-- After the first pass, with the connection to the user's address running. -/
theorem safe_and_exclusive_started : ∃ s p,
    s.view.running (.tcp .custom) = true ∧
      Reaches (world anyUser) (lifetime false 3, .init defaultSettings 60000) (p, s) ∧
      GoesOn (world anyUser) s p ∧ s.view.Exclusive := by
  obtain ⟨rest, hstart⟩ := reaches_started
  obtain ⟨s, hpass, hrunning, -⟩ := pass_connected
  have h := hstart.trans (((reaches_anyUser hpass).bind _).bind rest)
  obtain ⟨hgo, hexclusive, -⟩ := safe_and_exclusive false 3 defaultSettings 60000 h
  exact ⟨s, _, hrunning, h, hgo, hexclusive⟩

/-- **A pass during which the user changes nothing**, whichever state it begins in and whatever
the receiving threads do: it can come to its end from wherever it is, and then exactly
the connections of the mode run. -/
theorem pass_runs (localhostOnly : Bool) (n : ℕ) (settings : Settings) (clock : UInt64)
    {p : Manager Unit} {s : Connections}
    (h : Reaches (world anyUser) (lifetime localhostOnly n, .init settings clock) (p, s)) :
    (∀ q t, Reaches (world Eq) (performConnectionManagement localhostOnly, s) (q, t) →
        ∃ s', Reaches (world Eq) (q, t) (.done (), s')) ∧
      ∀ s', Reaches (world Eq) (performConnectionManagement localhostOnly, s) (.done (), s') →
        s'.settings = s.settings ∧ s'.view.Wanted localhostOnly s.settings.connectionMode.val
          s.settings.manualTcpIp :=
  have hs := always_of_reaches h
  ⟨fun _ _ hpass => hs.pass_finishes hpass, fun _ hend => (hs.of_pass hend).2⟩

/-- The first pass. -/
theorem pass_runs_tcp : ∃ p s',
    Reaches (world anyUser) (lifetime false 3, .init defaultSettings 60000) (p, started) ∧
      Reaches (world Eq) (performConnectionManagement false, started) (.done (), s') ∧
      s'.view.Runs [.tcp .custom] ∧ s'.view.remote = ⟨ascii "192.168.178.36", 5760⟩ := by
  obtain ⟨rest, h⟩ := reaches_started
  obtain ⟨hfinishes, hwanted⟩ := pass_runs false 3 defaultSettings 60000 h
  obtain ⟨s', hend⟩ := hfinishes _ _ .refl
  exact ⟨_, s', h, hend, (hwanted s' hend).2⟩

/-- **Where a message goes in mode 2**, once a pass has been made: it is sent only if no other
connection counts as alive any more, those included that were stopped; and then to the
user's address. -/
theorem message_after_pass (localhostOnly : Bool) (n : ℕ) (settings : Settings) (clock : UInt64)
    {p : Manager Unit} {s s' : Connections}
    (h : Reaches (world anyUser) (lifetime localhostOnly n, .init settings clock) (p, s))
    (hmode : s.settings.connectionMode.val = 2)
    (hpass : Reaches (world Eq) (performConnectionManagement localhostOnly, s) (.done (), s'))
    (alive : Link → Bool) (sent : Sent) :
    ((s'.sendMessage alive).2 = some sent ↔
      (∀ l, alive l = true ↔ l = .tcp .custom) ∧
        (s'.tcp .custom).receiver.keepReceiving = true ∧ 0 ≤ (s'.tcp .custom).socketFd ∧
        sent = .tcp .custom (s'.tcp .custom).peer) ∧
      ((s'.tcp .custom).socketFd > 0 →
        (s'.tcp .custom).peer = ⟨s.settings.manualTcpIp, ohdMavlinkTcpServerPort⟩) := by
  obtain ⟨hi, -, hwanted⟩ := (always_of_reaches h).of_pass hpass
  rw [View.Wanted, if_pos hmode] at hwanted
  obtain ⟨hruns, hremote⟩ := hwanted
  refine ⟨?_, fun hfd => ((hi.tcp .custom).socket hfd).1.trans hremote⟩
  have hudp := hi.sendMessage_udp_of_stopped (hruns .udp)
  have hwifi := hi.sendMessage_tcp_of_stopped (hruns (.tcp .wifiHs))
  have heth := hi.sendMessage_tcp_of_stopped (hruns (.tcp .ethHs))
  rw [Connections.sendMessage, hudp, hwifi, heth, TCPConnection.sendMessage]
  constructor
  · intro hsent
    split_ifs at hsent with hudpAlive hwifiAlive hethAlive hcustomAlive hstopped hfd
    all_goals try cases hsent
    refine ⟨?_, by simpa using hstopped, Int.not_lt.mp hfd, rfl⟩
    rintro (- | (- | - | -))
    · simpa using hudpAlive
    · simpa using hwifiAlive
    · simpa using hethAlive
    · simpa using hcustomAlive
  · rintro ⟨halive, hkeep, hfd, rfl⟩
    have hnot : ∀ l, l ≠ .tcp .custom → ¬ alive l = true := fun l hl hal => hl ((halive l).mp hal)
    rw [if_neg (hnot _ (by decide)), if_neg (hnot _ (by decide)), if_neg (hnot _ (by decide)),
      if_pos ((halive _).mpr rfl), if_neg (by rw [hkeep]; decide), if_neg (Int.not_lt.mpr hfd)]
    rfl

/-- After the first pass: to the user's address, but not as long as the UDP connection counts as
alive. -/
theorem message_after_pass_tcp : ∃ p s',
    Reaches (world anyUser) (lifetime false 3, .init defaultSettings 60000) (p, started) ∧
      Reaches (world Eq) (performConnectionManagement false, started) (.done (), s') ∧
      (s'.sendMessage (· = .tcp .custom)).2 =
        some (.tcp .custom ⟨ascii "192.168.178.36", 5760⟩) ∧
      (s'.sendMessage fun _ => true).2 ≠
        some (.tcp .custom ⟨ascii "192.168.178.36", 5760⟩) := by
  obtain ⟨rest, h⟩ := reaches_started
  obtain ⟨s', hpass, -, -, hkeep, hfd⟩ := pass_connected
  refine ⟨_, s', h, hpass, ?_, fun hsent => ?_⟩
  · obtain ⟨hsent, hpeer⟩ := message_after_pass false 3 _ _ h rfl hpass (· = .tcp .custom)
      (.tcp .custom ⟨ascii "192.168.178.36", 5760⟩)
    refine hsent.mpr ⟨fun l => decide_eq_true_iff, hkeep, by rw [hfd]; decide, ?_⟩
    rw [hpeer (by rw [hfd]; decide)]
    rfl
  · have hall := (message_after_pass false 3 _ _ h rfl hpass _ _).1.mp hsent
    exact absurd ((hall.1 .udp).mp rfl) (by decide)

end ConnectionManagement

end QOpenHD
