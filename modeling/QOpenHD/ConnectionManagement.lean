/-
QOpenHD/ConnectionManagement.lean

Which telemetry connections run (`MavlinkTelemetry::perform_connection_management`,
`tcp_connection.cpp`, `udp_connection.cpp`).

There are four connections: one that listens for UDP, and three TCP clients, for
the hotspot and the ethernet of the ground station, and for an address that the
user gives.  Each has a thread of its own while it is looping.  Once a second the
heartbeat thread starts and stops them, as the mode that the user has chosen wants
it: it may call `start_looping` and `set_remote` only where there is no thread, and
`stop_looping` only where there is one, which it tells to stop and then waits for.

The heartbeat thread is a `Thread`; the others are the receiving threads, the user
and the clock, each of which may act between any two of its calls.

* `Inv.others` — what a connection keeps between its thread and its socket, whatever happens
  beside the heartbeat thread; `view_others` — which connections there are, and to
  where, is for the heartbeat thread alone to decide;
* **`TCPConnection.ends`**, `UDPConnection.ends` — a thread that is told to stop can come
  to its end, wherever it is;
* `Inv.sendMessage_tcp_of_stopped` — a connection that was stopped sends nothing.
-/
import QOpenHD.Connection
import QOpenHD.Interleaving
import QOpenHD.UDPRemote

namespace QOpenHD

open Checked Interleaving Relation

namespace ConnectionManagement

/-! ### The connections -/

/-- Where a receiving thread is, `loop_connect_receive` or `loop_receive`. -/
inductive Phase
  /-- At the condition of the outer loop. -/
  | loop
  /-- In `tcp_socket_try_connect` or `setup_socket`. -/
  | connecting
  /-- Data came, or a socket: `m_last_data_ms` is the next to be set. -/
  | noting
  | receiving
  /-- Behind the inner loop. -/
  | leaving
  | waiting
  | ended
  deriving DecidableEq

/-- The members that both classes have. -/
structure Receiver where
  keepReceiving : Bool := false
  receiveThread : Option Phase := none
  lastDataMs : Int32 := 0

namespace Receiver

def isLooping (c : Receiver) : Bool := c.receiveThread.isSome

def startLooping (c : Receiver) : Exec Receiver := do
  require (c.receiveThread = none)
  pure { c with keepReceiving := true, receiveThread := some .loop }

/-- `stop_looping`, up to the `join`. -/
def stopReceiving (c : Receiver) : Exec Receiver := do
  require (c.receiveThread ≠ none)
  pure { c with keepReceiving := false }

end Receiver

/-- `m_remote_ip` and `m_remote_port`. -/
structure TCPRemote where
  ip : List UInt8
  port : ℤ
  deriving DecidableEq

/-- `TCPConnection`. -/
structure TCPConnection where
  receiver : Receiver := {}
  remote : TCPRemote
  socketFd : ℤ := -1
  /-- Whom the socket is connected to. -/
  peer : TCPRemote := remote

/-- `set_remote` -/
def TCPConnection.setRemote (c : TCPConnection) (remote : TCPRemote) : Exec TCPConnection := do
  require (c.receiver.receiveThread = none)
  pure { c with remote := remote }

/-- `UDPConnection`. -/
structure UDPConnection where
  receiver : Receiver := {}
  currRemote : Option UDPRemote.Remote := none

inductive TCP
  | wifiHs
  | ethHs
  | custom
  deriving DecidableEq

inductive Link
  | udp
  | tcp (c : TCP)
  deriving DecidableEq

/-- A mode that the setter lets through. -/
abbrev Mode := {mode : ℤ // 0 ≤ mode ∧ mode ≤ 2}

/-- The check of `change_telemetry_connection_mode`, and of `start`. -/
def checkedMode (mode : ℤ) : Mode :=
  if h : mode < 0 ∨ mode > 2 then ⟨0, by decide⟩ else ⟨mode, by omega⟩

/-- What the user sets. -/
structure Settings where
  connectionMode : Mode
  manualTcpIp : List UInt8
  deriving DecidableEq

/-- The members of `MavlinkTelemetry`, and the clock. -/
structure Connections where
  udp : UDPConnection
  tcp : TCP → TCPConnection
  settings : Settings
  status : List UInt8
  clock : UInt64

namespace Connections

def receiver (s : Connections) : Link → Receiver
  | .udp => s.udp.receiver
  | .tcp c => (s.tcp c).receiver

def setReceiver (s : Connections) (r : Receiver) : Link → Connections
  | .udp => { s with udp := { s.udp with receiver := r } }
  | .tcp c => { s with tcp := Function.update s.tcp c { s.tcp c with receiver := r } }

def setTcp (s : Connections) (c : TCP) (conn : TCPConnection) : Connections :=
  { s with tcp := Function.update s.tcp c conn }

end Connections

def ohdMavlinkTcpServerPort : ℤ := 5760

/-- What `start` has constructed before it starts a thread. -/
def Connections.init (settings : Settings) (clock : UInt64) : Connections where
  udp := {}
  tcp
    | .wifiHs => { remote := ⟨ascii "192.168.3.1", ohdMavlinkTcpServerPort⟩ }
    | .ethHs => { remote := ⟨ascii "192.168.2.1", ohdMavlinkTcpServerPort⟩ }
    | .custom => { remote := ⟨settings.manualTcpIp, ohdMavlinkTcpServerPort⟩ }
  settings := settings
  status := ascii "N/A"
  clock := clock

/-! ### The receiving threads -/

def Receiver.at (c : Receiver) (phase : Phase) : Receiver := { c with receiveThread := some phase }

/-- A step of `loop_connect_receive`. -/
inductive TCPStep (now : UInt64) (c : TCPConnection) : TCPConnection → Prop
  | connect : c.receiver.receiveThread = some .loop → c.receiver.keepReceiving = true →
      TCPStep now c { c with receiver := c.receiver.at .connecting }
  | finish : c.receiver.receiveThread = some .loop → c.receiver.keepReceiving = false →
      TCPStep now c { c with receiver := c.receiver.at .ended }
  | connected (fd : ℤ) : c.receiver.receiveThread = some .connecting → fd > 0 →
      TCPStep now c
        { c with receiver := c.receiver.at .noting, socketFd := fd, peer := c.remote }
  | refused (fd : ℤ) : c.receiver.receiveThread = some .connecting → ¬ fd > 0 →
      TCPStep now c
        { c with receiver := c.receiver.at .waiting, socketFd := fd, peer := c.remote }
  | note : c.receiver.receiveThread = some .noting →
      TCPStep now c { c with
        receiver := { c.receiver.at .receiving with lastDataMs := toInt32 now } }
  | recvfrom : c.receiver.receiveThread = some .receiving →
      TCPStep now c { c with receiver := c.receiver.at .noting }
  | leave : c.receiver.receiveThread = some .receiving → c.receiver.keepReceiving = false →
      TCPStep now c { c with receiver := c.receiver.at .leaving }
  | inactive : c.receiver.receiveThread = some .receiving →
      elapsedLastMessage c.receiver.lastDataMs now > 3 * 1000 →
      TCPStep now c { c with receiver := c.receiver.at .leaving }
  | close : c.receiver.receiveThread = some .leaving →
      TCPStep now c { c with receiver := c.receiver.at .loop, socketFd := -1 }
  | again : c.receiver.receiveThread = some .waiting →
      TCPStep now c { c with receiver := c.receiver.at .loop }

/-- A step of `loop_receive`. -/
inductive UDPStep (now : UInt64) (c : UDPConnection) : UDPConnection → Prop
  | connect : c.receiver.receiveThread = some .loop → c.receiver.keepReceiving = true →
      UDPStep now c { c with receiver := c.receiver.at .connecting }
  | finish : c.receiver.receiveThread = some .loop → c.receiver.keepReceiving = false →
      UDPStep now c { c with receiver := c.receiver.at .ended }
  | bound : c.receiver.receiveThread = some .connecting →
      UDPStep now c { c with receiver := c.receiver.at .receiving }
  | refused : c.receiver.receiveThread = some .connecting →
      UDPStep now c { c with receiver := c.receiver.at .leaving }
  | recvfrom (srcAddr : SockaddrIn) : c.receiver.receiveThread = some .receiving →
      UDPStep now c
        { c with
          receiver := c.receiver.at .noting
          currRemote := UDPRemote.setRemote c.currRemote (inetNtoa srcAddr.sinAddr)
            (ntohs srcAddr.sinPort).toNat }
  | note : c.receiver.receiveThread = some .noting →
      UDPStep now c { c with
        receiver := { c.receiver.at .receiving with lastDataMs := toInt32 now } }
  | leave : c.receiver.receiveThread = some .receiving → c.receiver.keepReceiving = false →
      UDPStep now c { c with receiver := c.receiver.at .leaving }
  | clearRemote : c.receiver.receiveThread = some .leaving →
      UDPStep now c { c with receiver := c.receiver.at .waiting, currRemote := none }
  | again : c.receiver.receiveThread = some .waiting →
      UDPStep now c { c with receiver := c.receiver.at .loop }

/-- What happens beside the heartbeat thread. -/
inductive Others (s : Connections) : Connections → Prop
  | clock (now : UInt64) : s.clock ≤ now → Others s { s with clock := now }
  | udp (conn : UDPConnection) : UDPStep s.clock s.udp conn → Others s { s with udp := conn }
  | tcp (c : TCP) (conn : TCPConnection) : TCPStep s.clock (s.tcp c) conn →
      Others s (s.setTcp c conn)
  | changeTelemetryConnectionMode (mode : ℤ) :
      Others s { s with settings := { s.settings with connectionMode := checkedMode mode } }
  | changeManualTcpIp (ip : List UInt8) :
      Others s { s with settings := { s.settings with manualTcpIp := ip } }

/-! ### The heartbeat thread -/

inductive Op
  /-- Reads `m_connection_mode`. -/
  | connectionMode
  /-- `threadsafe_get_manual_tcp_ip` -/
  | manualTcpIp
  | isLooping (l : Link)
  | startLooping (l : Link)
  | stopReceiving (l : Link)
  | join (l : Link)
  | threadsafeIsAlive (l : Link)
  /-- Reads `m_remote_ip` and `m_remote_port` of the connection to the user's address. -/
  | customRemote
  | setRemote (remote : TCPRemote)
  | setStatus (text : List UInt8)

abbrev Op.Ans : Op → Type
  | connectionMode => ℤ
  | manualTcpIp => List UInt8
  | isLooping _ => Bool
  | startLooping _ => Unit
  | stopReceiving _ => Unit
  | join _ => Unit
  | threadsafeIsAlive _ => Bool
  | customRemote => TCPRemote
  | setRemote _ => Unit
  | setStatus _ => Unit

/-- What `threadsafe_is_alive` may answer: anything, where its subtraction overflows. -/
def Connections.Alive (s : Connections) (l : Link) (alive : Bool) : Prop :=
  ∀ b, isAlive (s.receiver l).lastDataMs s.clock = some b → alive = b

def calls : (o : Op) → Connections → Exec (o.Ans × Connections) → Prop
  | .connectionMode, s, r => r = .ok (s.settings.connectionMode.val, s)
  | .manualTcpIp, s, r => r = .ok (s.settings.manualTcpIp, s)
  | .isLooping l, s, r => r = .ok ((s.receiver l).isLooping, s)
  | .startLooping l, s, r =>
    r = (s.receiver l).startLooping.map fun c => ((), s.setReceiver c l)
  | .stopReceiving l, s, r =>
    r = (s.receiver l).stopReceiving.map fun c => ((), s.setReceiver c l)
  | .join l, s, r => (s.receiver l).receiveThread = some .ended ∧
    r = .ok ((), s.setReceiver { s.receiver l with receiveThread := none } l)
  | .threadsafeIsAlive l, s, r => ∃ alive, s.Alive l alive ∧ r = .ok (alive, s)
  | .customRemote, s, r => r = .ok ((s.tcp .custom).remote, s)
  | .setRemote remote, s, r =>
    r = ((s.tcp .custom).setRemote remote).map fun c => ((), s.setTcp .custom c)
  | .setStatus text, s, r => r = .ok ((), { s with status := text })

abbrev Manager (α : Type) := Thread Op Op.Ans α

def act (o : Op) : Manager o.Ans := Thread.perform o

def isLooping (l : Link) : Manager Bool := act (.isLooping l)

def startLooping (l : Link) : Manager Unit := act (.startLooping l)

def threadsafeIsAlive (l : Link) : Manager Bool := act (.threadsafeIsAlive l)

def setStatus (text : String) : Manager Unit := act (.setStatus (ascii text))

def stopLooping (l : Link) : Manager Unit := do
  act (.stopReceiving l)
  act (.join l)

def stopLoopingIf (l : Link) : Manager Unit := do
  if ← isLooping l then stopLooping l else pure ()

/-- `if(!is_looping())start_looping();` -/
def startLoopingIfNot (l : Link) : Manager Unit := do
  if ← isLooping l then pure () else startLooping l

/-- Mode 0, where OpenHD runs on the same device. -/
def autoLocalhost : Manager Unit := do
  stopLoopingIf (.tcp .custom)
  stopLoopingIf (.tcp .ethHs)
  stopLoopingIf (.tcp .wifiHs)
  startLoopingIfNot .udp
  if ← threadsafeIsAlive .udp then setStatus "AUTO-CONNECTED(UDP,LOCALHOST,LOCAL ONLY)"
  else setStatus "AUTO-DISCONNECTED(LOCAL ONLY) OPENHD CORE RUNNING ?"

/-- Mode 0, elsewhere. -/
def auto : Manager Unit := do
  stopLoopingIf (.tcp .custom)
  startLoopingIfNot .udp
  if ← threadsafeIsAlive .udp then do
    setStatus "AUTO-CONNECTED(UDP,LOCALHOST)"
    stopLoopingIf (.tcp .wifiHs)
    stopLoopingIf (.tcp .ethHs)
  else do
    startLoopingIfNot (.tcp .wifiHs)
    startLoopingIfNot (.tcp .ethHs)
    if ← threadsafeIsAlive (.tcp .wifiHs) then setStatus "AUTO-CONNECTED(TCP,WIFI HS)"
    else if ← threadsafeIsAlive (.tcp .ethHs) then setStatus "AUTO-CONNECTED(TCP,ETHERNET HS)"
    else setStatus "AUTO-NOT CONNECTED"

/-- Mode 1. -/
def explicitUdp : Manager Unit := do
  stopLoopingIf (.tcp .wifiHs)
  stopLoopingIf (.tcp .ethHs)
  stopLoopingIf (.tcp .custom)
  startLoopingIfNot .udp
  if ← threadsafeIsAlive .udp then setStatus "MANUAL UDP-ALIVE" else setStatus "MANUAL UDP-NO DATA"

/-- A new remote, if the user has set one. -/
def updateRemote (userIp : List UInt8) : Manager Unit := do
  let remote : TCPRemote ← act .customRemote
  if remote.ip ≠ userIp ∨ remote.port ≠ ohdMavlinkTcpServerPort then do
    stopLoopingIf (.tcp .custom)
    act (.setRemote ⟨userIp, ohdMavlinkTcpServerPort⟩)
  else pure ()

/-- Mode 2. -/
def explicitTcp : Manager Unit := do
  stopLoopingIf (.tcp .wifiHs)
  stopLoopingIf (.tcp .ethHs)
  stopLoopingIf .udp
  let userIp : List UInt8 ← act .manualTcpIp
  updateRemote userIp
  startLoopingIfNot (.tcp .custom)
  let alive ← threadsafeIsAlive (.tcp .custom)
  act (.setStatus (ascii "MANUAL TCP - " ++
    (if alive then ascii "CONNECTED [" else ascii "NOT CONNECTED [") ++ userIp ++ ascii "]"))

/-- `perform_connection_management`; `localhostOnly` is what `is_localhost_only_usage` says of
the platform. -/
def performConnectionManagement (localhostOnly : Bool) : Manager Unit := do
  let mode : ℤ ← act .connectionMode
  if mode = 0 then if localhostOnly then autoLocalhost else auto
  else if mode = 1 then explicitUdp
  else if mode = 2 then explicitTcp
  else setStatus "UNKNOWN CONNECTION MODE"

/-- From `start` to `terminate`, with `n` passes between them. -/
def lifetime (localhostOnly : Bool) (n : ℕ) : Manager Unit := do
  startLooping .udp
  (performConnectionManagement localhostOnly).times n
  stopLoopingIf .udp
  stopLoopingIf (.tcp .wifiHs)
  stopLoopingIf (.tcp .ethHs)
  stopLoopingIf (.tcp .custom)

/-! ### Sending -/

/-- `TCPConnection::send_message`: to whom. -/
def TCPConnection.sendMessage (c : TCPConnection) : Option TCPRemote :=
  if c.receiver.keepReceiving = false then none
  else if c.socketFd < 0 then none
  else some c.peer

/-- `UDPConnection::send_message`: to whom. -/
def UDPConnection.sendMessage (c : UDPConnection) : Option SockaddrIn :=
  c.currRemote.map UDPRemote.destAddr

/-- What is handed to a socket. -/
inductive Sent
  | udp (destAddr : SockaddrIn)
  | tcp (c : TCP) (peer : TCPRemote)
  deriving DecidableEq

/-- `MavlinkTelemetry::sendMessage`, where `threadsafe_is_alive` answers as `alive` does. -/
def Connections.sendMessage (s : Connections) (alive : Link → Bool) : Bool × Option Sent :=
  if alive .udp then (true, s.udp.sendMessage.map .udp)
  else if alive (.tcp .wifiHs) then (true, (s.tcp .wifiHs).sendMessage.map (.tcp .wifiHs))
  else if alive (.tcp .ethHs) then (true, (s.tcp .ethHs).sendMessage.map (.tcp .ethHs))
  else if alive (.tcp .custom) then (true, (s.tcp .custom).sendMessage.map (.tcp .custom))
  else (true, none)

/-! ### What a connection keeps -/

/-- In the inner loop, or on the way into it or out of it. -/
def Phase.isInner : Phase → Bool
  | .noting => true
  | .receiving => true
  | .leaving => true
  | _ => false

/-- The thread is in its inner loop. -/
def Receiver.Inner (c : Receiver) : Prop :=
  ∃ phase, c.receiveThread = some phase ∧ phase.isInner = true

/-- Where there is no thread, or only one that has ended, none keeps receiving. -/
def Receiver.Stops (c : Receiver) : Prop :=
  c.receiveThread = none ∨ c.receiveThread = some .ended → c.keepReceiving = false

structure TCPConnection.Inv (c : TCPConnection) : Prop where
  stops : c.receiver.Stops
  socket : c.socketFd > 0 → c.peer = c.remote ∧ c.receiver.Inner

structure UDPConnection.Inv (c : UDPConnection) : Prop where
  stops : c.receiver.Stops
  remote : c.currRemote ≠ none → c.receiver.Inner

structure Connections.Inv (s : Connections) : Prop where
  udp : s.udp.Inv
  tcp : ∀ c, (s.tcp c).Inv

theorem Receiver.inner_at {c : Receiver} {phase : Phase} (h : phase.isInner = true) :
    (c.at phase).Inner := ⟨phase, rfl, h⟩

theorem Receiver.stops_at {c : Receiver} {phase : Phase} (h : phase ≠ .ended) :
    (c.at phase).Stops := by
  rintro (hnone | hended)
  · cases hnone
  · exact absurd (Option.some.inj hended) h

theorem Receiver.not_inner {c : Receiver} {phase : Phase} (h : c.receiveThread = some phase)
    (hphase : phase.isInner = false) : ¬ c.Inner := by
  rintro ⟨phase', h', hinner⟩
  obtain rfl := Option.some.inj (h.symm.trans h')
  rw [hphase] at hinner
  cases hinner

/-- The receiving thread neither goes away nor does what only the heartbeat thread does. -/
structure SameManaged (c c' : Receiver) : Prop where
  looping : c.isLooping = true
  looping' : c'.isLooping = true
  keepReceiving : c'.keepReceiving = c.keepReceiving

theorem Receiver.sameManaged_at {c : Receiver} {before after : Phase}
    (h : c.receiveThread = some before) : SameManaged c (c.at after) :=
  ⟨by rw [Receiver.isLooping, h, Option.isSome_some], rfl, rfl⟩

theorem TCPStep.sameManaged {now : UInt64} {c c' : TCPConnection} (h : TCPStep now c c') :
    SameManaged c.receiver c'.receiver ∧ c'.remote = c.remote := by
  cases h with
  | connect hphase _ => exact ⟨Receiver.sameManaged_at hphase, rfl⟩
  | finish hphase _ => exact ⟨Receiver.sameManaged_at hphase, rfl⟩
  | connected fd hphase _ => exact ⟨Receiver.sameManaged_at hphase, rfl⟩
  | refused fd hphase _ => exact ⟨Receiver.sameManaged_at hphase, rfl⟩
  | note hphase =>
      obtain ⟨hlooping, -, -⟩ := @Receiver.sameManaged_at c.receiver _ .receiving hphase
      exact ⟨⟨hlooping, rfl, rfl⟩, rfl⟩
  | recvfrom hphase => exact ⟨Receiver.sameManaged_at hphase, rfl⟩
  | leave hphase _ => exact ⟨Receiver.sameManaged_at hphase, rfl⟩
  | inactive hphase _ => exact ⟨Receiver.sameManaged_at hphase, rfl⟩
  | close hphase => exact ⟨Receiver.sameManaged_at hphase, rfl⟩
  | again hphase => exact ⟨Receiver.sameManaged_at hphase, rfl⟩

theorem UDPStep.sameManaged {now : UInt64} {c c' : UDPConnection} (h : UDPStep now c c') :
    SameManaged c.receiver c'.receiver := by
  cases h with
  | connect hphase _ => exact Receiver.sameManaged_at hphase
  | finish hphase _ => exact Receiver.sameManaged_at hphase
  | bound hphase => exact Receiver.sameManaged_at hphase
  | refused hphase => exact Receiver.sameManaged_at hphase
  | recvfrom src hphase => exact Receiver.sameManaged_at hphase
  | note hphase =>
      obtain ⟨hlooping, -, -⟩ := @Receiver.sameManaged_at c.receiver _ .receiving hphase
      exact ⟨hlooping, rfl, rfl⟩
  | leave hphase _ => exact Receiver.sameManaged_at hphase
  | clearRemote hphase => exact Receiver.sameManaged_at hphase
  | again hphase => exact Receiver.sameManaged_at hphase

/-- **A step of a TCP thread keeps what its connection keeps.** -/
theorem TCPConnection.Inv.step {now : UInt64} {c c' : TCPConnection} (hi : c.Inv)
    (h : TCPStep now c c') : c'.Inv := by
  cases h with
  | connect hphase _ =>
      exact ⟨Receiver.stops_at (by decide),
        fun hfd => absurd (hi.socket hfd).2 (Receiver.not_inner hphase rfl)⟩
  | finish hphase hkeep =>
      exact ⟨fun _ => hkeep, fun hfd => absurd (hi.socket hfd).2 (Receiver.not_inner hphase rfl)⟩
  | connected fd hphase hfd =>
      exact ⟨Receiver.stops_at (by decide), fun _ => ⟨rfl, Receiver.inner_at rfl⟩⟩
  | refused fd hphase hfd =>
      exact ⟨Receiver.stops_at (by decide), fun hfd' => absurd hfd' hfd⟩
  | note hphase =>
      exact ⟨@Receiver.stops_at c.receiver .receiving (by decide),
        fun hfd => ⟨(hi.socket hfd).1, .receiving, rfl, rfl⟩⟩
  | recvfrom hphase =>
      exact ⟨Receiver.stops_at (by decide),
        fun hfd => ⟨(hi.socket hfd).1, Receiver.inner_at rfl⟩⟩
  | leave hphase _ =>
      exact ⟨Receiver.stops_at (by decide),
        fun hfd => ⟨(hi.socket hfd).1, Receiver.inner_at rfl⟩⟩
  | inactive hphase _ =>
      exact ⟨Receiver.stops_at (by decide),
        fun hfd => ⟨(hi.socket hfd).1, Receiver.inner_at rfl⟩⟩
  | close hphase =>
      exact ⟨Receiver.stops_at (by decide), fun hfd => absurd hfd (show ¬ (-1 : ℤ) > 0 by decide)⟩
  | again hphase =>
      exact ⟨Receiver.stops_at (by decide),
        fun hfd => absurd (hi.socket hfd).2 (Receiver.not_inner hphase rfl)⟩

/-- **A step of the UDP thread keeps what its connection keeps.** -/
theorem UDPConnection.Inv.step {now : UInt64} {c c' : UDPConnection} (hi : c.Inv)
    (h : UDPStep now c c') : c'.Inv := by
  cases h with
  | connect hphase _ =>
      exact ⟨Receiver.stops_at (by decide),
        fun hremote => absurd (hi.remote hremote) (Receiver.not_inner hphase rfl)⟩
  | finish hphase hkeep =>
      exact ⟨fun _ => hkeep,
        fun hremote => absurd (hi.remote hremote) (Receiver.not_inner hphase rfl)⟩
  | bound hphase => exact ⟨Receiver.stops_at (by decide), fun _ => Receiver.inner_at rfl⟩
  | refused hphase => exact ⟨Receiver.stops_at (by decide), fun _ => Receiver.inner_at rfl⟩
  | recvfrom src hphase => exact ⟨Receiver.stops_at (by decide), fun _ => Receiver.inner_at rfl⟩
  | note hphase =>
      exact ⟨@Receiver.stops_at c.receiver .receiving (by decide), fun _ => ⟨.receiving, rfl, rfl⟩⟩
  | leave hphase _ => exact ⟨Receiver.stops_at (by decide), fun _ => Receiver.inner_at rfl⟩
  | clearRemote hphase => exact ⟨Receiver.stops_at (by decide), fun h => absurd rfl h⟩
  | again hphase =>
      exact ⟨Receiver.stops_at (by decide),
        fun hremote => absurd (hi.remote hremote) (Receiver.not_inner hphase rfl)⟩

/-! ### A thread that is told to stop -/

/-- The thread can come to its end. -/
def TCPConnection.Ends (now : UInt64) (c : TCPConnection) : Prop :=
  ∃ c', ReflTransGen (TCPStep now) c c' ∧ c'.receiver.receiveThread = some .ended

def UDPConnection.Ends (now : UInt64) (c : UDPConnection) : Prop :=
  ∃ c', ReflTransGen (UDPStep now) c c' ∧ c'.receiver.receiveThread = some .ended

theorem TCPConnection.ends_of_step {now : UInt64} {c c' : TCPConnection}
    (hstep : TCPStep now c c') (h : c'.Ends now) : c.Ends now := by
  obtain ⟨c'', hrest, hended⟩ := h
  exact ⟨c'', .head hstep hrest, hended⟩

theorem UDPConnection.ends_of_step {now : UInt64} {c c' : UDPConnection}
    (hstep : UDPStep now c c') (h : c'.Ends now) : c.Ends now := by
  obtain ⟨c'', hrest, hended⟩ := h
  exact ⟨c'', .head hstep hrest, hended⟩

/-- **A TCP thread that is told to stop can come to its end**, wherever it is. -/
theorem TCPConnection.ends (now : UInt64) {c : TCPConnection}
    (hlooping : c.receiver.isLooping = true) (hkeep : c.receiver.keepReceiving = false) :
    c.Ends now := by
  have hloop : ∀ d : TCPConnection, d.receiver.receiveThread = some .loop →
      d.receiver.keepReceiving = false → d.Ends now :=
    fun d hd hkeep => ⟨_, .single (.finish hd hkeep), rfl⟩
  have hwaiting : ∀ d : TCPConnection, d.receiver.receiveThread = some .waiting →
      d.receiver.keepReceiving = false → d.Ends now :=
    fun d hd hkeep => TCPConnection.ends_of_step (.again hd) (hloop _ rfl hkeep)
  have hleaving : ∀ d : TCPConnection, d.receiver.receiveThread = some .leaving →
      d.receiver.keepReceiving = false → d.Ends now :=
    fun d hd hkeep => TCPConnection.ends_of_step (.close hd) (hloop _ rfl hkeep)
  have hreceiving : ∀ d : TCPConnection, d.receiver.receiveThread = some .receiving →
      d.receiver.keepReceiving = false → d.Ends now :=
    fun d hd hkeep => TCPConnection.ends_of_step (.leave hd hkeep) (hleaving _ rfl hkeep)
  obtain ⟨phase, hphase⟩ := Option.isSome_iff_exists.mp hlooping
  cases phase with
  | loop => exact hloop c hphase hkeep
  | connecting =>
      exact TCPConnection.ends_of_step (.refused (-1) hphase (by decide)) (hwaiting _ rfl hkeep)
  | noting => exact TCPConnection.ends_of_step (.note hphase) (hreceiving _ rfl hkeep)
  | receiving => exact hreceiving c hphase hkeep
  | leaving => exact hleaving c hphase hkeep
  | waiting => exact hwaiting c hphase hkeep
  | ended => exact ⟨c, .refl, hphase⟩

/-- **So can the UDP thread.** -/
theorem UDPConnection.ends (now : UInt64) {c : UDPConnection}
    (hlooping : c.receiver.isLooping = true) (hkeep : c.receiver.keepReceiving = false) :
    c.Ends now := by
  have hloop : ∀ d : UDPConnection, d.receiver.receiveThread = some .loop →
      d.receiver.keepReceiving = false → d.Ends now :=
    fun d hd hkeep => ⟨_, .single (.finish hd hkeep), rfl⟩
  have hwaiting : ∀ d : UDPConnection, d.receiver.receiveThread = some .waiting →
      d.receiver.keepReceiving = false → d.Ends now :=
    fun d hd hkeep => UDPConnection.ends_of_step (.again hd) (hloop _ rfl hkeep)
  have hleaving : ∀ d : UDPConnection, d.receiver.receiveThread = some .leaving →
      d.receiver.keepReceiving = false → d.Ends now :=
    fun d hd hkeep => UDPConnection.ends_of_step (.clearRemote hd) (hwaiting _ rfl hkeep)
  have hreceiving : ∀ d : UDPConnection, d.receiver.receiveThread = some .receiving →
      d.receiver.keepReceiving = false → d.Ends now :=
    fun d hd hkeep => UDPConnection.ends_of_step (.leave hd hkeep) (hleaving _ rfl hkeep)
  obtain ⟨phase, hphase⟩ := Option.isSome_iff_exists.mp hlooping
  cases phase with
  | loop => exact hloop c hphase hkeep
  | connecting => exact UDPConnection.ends_of_step (.refused hphase) (hleaving _ rfl hkeep)
  | noting => exact UDPConnection.ends_of_step (.note hphase) (hreceiving _ rfl hkeep)
  | receiving => exact hreceiving c hphase hkeep
  | leaving => exact hleaving c hphase hkeep
  | waiting => exact hwaiting c hphase hkeep
  | ended => exact ⟨c, .refl, hphase⟩

/-! ### What the heartbeat thread decides -/

/-- Which connections run, and where the one to the user's address goes. -/
structure View where
  running : Link → Bool
  remote : TCPRemote

def View.set (v : View) (l : Link) (running : Bool) : View :=
  { v with running := Function.update v.running l running }

theorem View.running_set_self (v : View) (l : Link) (running : Bool) :
    (v.set l running).running l = running := Function.update_self ..

theorem View.running_set_of_ne (v : View) {l l' : Link} (h : l' ≠ l) (running : Bool) :
    (v.set l running).running l' = v.running l' := Function.update_of_ne h ..

theorem View.set_running (v : View) {l : Link} {running : Bool} (h : v.running l = running) :
    v.set l running = v := by
  rw [View.set, ← h, Function.update_eq_self]

namespace Connections

variable {s s' : Connections}

def view (s : Connections) : View where
  running l := (s.receiver l).isLooping
  remote := (s.tcp .custom).remote

theorem setReceiver_receiver (s : Connections) (r : Receiver) (l : Link) :
    (s.setReceiver r l).receiver = Function.update s.receiver l r := by
  funext l'
  cases l with
  | udp => cases l' <;> rfl
  | tcp c =>
      cases l' with
      | udp => rfl
      | tcp c' =>
          by_cases h : c' = c
          · subst h
            simp [setReceiver, receiver]
          · simp [setReceiver, receiver, h]

@[simp] theorem receiver_setReceiver_self (s : Connections) (r : Receiver) (l : Link) :
    (s.setReceiver r l).receiver l = r := by
  rw [setReceiver_receiver, Function.update_self]

@[simp] theorem view_setReceiver (s : Connections) (r : Receiver) (l : Link) :
    (s.setReceiver r l).view = s.view.set l r.isLooping := by
  have hrunning : (s.setReceiver r l).view.running = (s.view.set l r.isLooping).running := by
    funext l'
    show ((s.setReceiver r l).receiver l').isLooping =
      Function.update s.view.running l r.isLooping l'
    rw [setReceiver_receiver]
    by_cases h : l' = l
    · rw [h, Function.update_self, Function.update_self]
    · rw [Function.update_of_ne h, Function.update_of_ne h]
      rfl
  have hremote : (s.setReceiver r l).view.remote = s.view.remote := by
    cases l with
    | udp => rfl
    | tcp c => cases c <;> rfl
  exact congrArg₂ View.mk hrunning hremote

@[simp] theorem settings_setReceiver (s : Connections) (r : Receiver) (l : Link) :
    (s.setReceiver r l).settings = s.settings := by
  cases l <;> rfl

/-- What a TCP thread does is what it does to its connection. -/
theorem view_setTcp {c : TCP} {conn : TCPConnection}
    (hlooping : conn.receiver.isLooping = (s.tcp c).receiver.isLooping)
    (hremote : conn.remote = (s.tcp c).remote) : (s.setTcp c conn).view = s.view := by
  have hrunning : (s.setTcp c conn).view.running = s.view.running := by
    funext l
    cases l with
    | udp => rfl
    | tcp c' =>
        by_cases h : c' = c
        · subst h
          simpa [view, receiver, setTcp] using hlooping
        · simp [view, receiver, setTcp, h]
  have hremote' : (s.setTcp c conn).view.remote = s.view.remote := by
    by_cases h : TCP.custom = c
    · subst h
      simpa [view, setTcp] using hremote
    · simp [view, setTcp, h]
  exact congrArg₂ View.mk hrunning hremote'

theorem Inv.setTcp {c : TCP} {conn : TCPConnection} (hi : s.Inv) (h : conn.Inv) :
    (s.setTcp c conn).Inv := by
  refine ⟨hi.udp, fun c' => ?_⟩
  by_cases hc : c' = c
  · subst hc
    simpa [Connections.setTcp] using h
  · simpa [Connections.setTcp, hc] using hi.tcp c'

theorem Inv.setReceiver {l : Link} {r : Receiver} (hi : s.Inv) (hstops : r.Stops)
    (hinner : (s.receiver l).Inner → r.Inner) : (s.setReceiver r l).Inv := by
  cases l with
  | udp => exact ⟨⟨hstops, fun h => hinner (hi.udp.remote h)⟩, hi.tcp⟩
  | tcp c =>
      exact hi.setTcp ⟨hstops, fun hfd =>
        ⟨((hi.tcp c).socket hfd).1, hinner ((hi.tcp c).socket hfd).2⟩⟩

/-- **A connection that does not run sends nothing.** -/
theorem Inv.sendMessage_udp_of_stopped (hi : s.Inv) (h : s.view.running .udp = false) :
    s.udp.sendMessage = none := by
  have hremote : s.udp.currRemote = none := by
    by_contra hne
    obtain ⟨phase, hphase, -⟩ := hi.udp.remote hne
    have hnone : s.udp.receiver.receiveThread.isSome = false := h
    rw [hphase] at hnone
    cases hnone
  rw [UDPConnection.sendMessage, hremote, Option.map_none]

theorem Inv.sendMessage_tcp_of_stopped (hi : s.Inv) {c : TCP}
    (h : s.view.running (.tcp c) = false) : (s.tcp c).sendMessage = none := by
  have hnone : (s.tcp c).receiver.receiveThread = none :=
    Option.isNone_iff_eq_none.mp (Option.isSome_eq_false_iff.mp h)
  exact if_pos ((hi.tcp c).stops (.inl hnone))

theorem Inv.stops (hi : s.Inv) (l : Link) : (s.receiver l).Stops := by
  cases l with
  | udp => exact hi.udp.stops
  | tcp c => exact (hi.tcp c).stops

/-- Nobody but the heartbeat thread changes what it decides. -/
theorem view_others (h : Others s s') : s'.view = s.view := by
  cases h with
  | clock now _ => rfl
  | udp conn hstep =>
      obtain ⟨hlooping, hlooping', -⟩ := hstep.sameManaged
      refine congrArg (View.mk · (s.tcp .custom).remote) (funext fun l => ?_)
      cases l with
      | udp => exact hlooping'.trans hlooping.symm
      | tcp c => rfl
  | tcp c conn hstep =>
      obtain ⟨⟨hlooping, hlooping', -⟩, hremote⟩ := hstep.sameManaged
      exact view_setTcp (hlooping'.trans hlooping.symm) hremote
  | changeTelemetryConnectionMode mode => rfl
  | changeManualTcpIp ip => rfl

theorem keepReceiving_others (h : Others s s') (l : Link) :
    (s'.receiver l).keepReceiving = (s.receiver l).keepReceiving := by
  cases h with
  | clock now _ => cases l <;> rfl
  | udp conn hstep =>
      cases l with
      | udp => exact hstep.sameManaged.keepReceiving
      | tcp c => rfl
  | tcp c conn hstep =>
      cases l with
      | udp => rfl
      | tcp c' =>
          by_cases h : c' = c
          · subst h
            simpa [receiver, setTcp] using hstep.sameManaged.1.keepReceiving
          · simp [receiver, setTcp, h]
  | changeTelemetryConnectionMode mode => cases l <;> rfl
  | changeManualTcpIp ip => cases l <;> rfl

theorem Inv.others (hi : s.Inv) (h : Others s s') : s'.Inv := by
  cases h with
  | clock now _ => exact ⟨hi.udp, hi.tcp⟩
  | udp conn hstep => exact ⟨hi.udp.step hstep, hi.tcp⟩
  | tcp c conn hstep => exact hi.setTcp ((hi.tcp c).step hstep)
  | changeTelemetryConnectionMode mode => exact ⟨hi.udp, hi.tcp⟩
  | changeManualTcpIp ip => exact ⟨hi.udp, hi.tcp⟩

theorem inv_init (settings : Settings) (clock : UInt64) : (init settings clock).Inv where
  udp := ⟨fun _ => rfl, fun h => absurd rfl h⟩
  tcp c := by
    have hfd : ¬ (-1 : ℤ) > 0 := by decide
    cases c <;> exact ⟨fun _ => rfl, fun h => absurd h hfd⟩

end Connections

end ConnectionManagement

end QOpenHD
