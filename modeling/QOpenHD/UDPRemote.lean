/-
QOpenHD/UDPRemote.lean

Whom the UDP connection answers (`udp_connection.cpp`): it listens, and sends to
whoever supplied it with data.

A remote is kept as text, the way `inet_ntoa` writes an address, and is read again by
`inet_pton` when something is sent.  When data come from somewhere else, the remote
is replaced — by itself.

* `inetPton_inetNtoa`, `destAddr_remoteOf` — nothing is lost between an address and its text;
* `Inv` — what is remembered is the source of the first datagram since the last clear that
  is not empty;
* **`replies_iff`** — a run answers the source of the latest datagram exactly if every
  datagram comes from the remote that is remembered, and is not empty where there is none.
-/
import QOpenHD.Checked
import QOpenHD.Decimal
import Mathlib.Algebra.Group.Int.Defs
import Mathlib.Data.Prod.Basic

namespace QOpenHD

open Checked

/-! ### Addresses -/

/-- `struct sockaddr_in`, with its fields in network byte order. -/
structure SockaddrIn where
  sinAddr : Vector UInt8 4
  sinPort : UInt16
  deriving DecidableEq

/-- `ntohs` and `htons`: the two bytes change places. -/
def ntohs (x : UInt16) : UInt16 := UInt16.ofNat (x.toNat % 256 * 256 + x.toNat / 256)

theorem toNat_ntohs (x : UInt16) : (ntohs x).toNat = x.toNat % 256 * 256 + x.toNat / 256 := by
  have hlt := x.toNat_lt
  rw [ntohs, UInt16.toNat_ofNat']
  omega

theorem ntohs_ntohs (x : UInt16) : ntohs (ntohs x) = x := by
  apply UInt16.toNat_inj.mp
  rw [toNat_ntohs, toNat_ntohs]
  have hlt := x.toNat_lt
  omega

/-- A port is kept by a conversion to `int` and back. -/
theorem ofInt_toNat (port : UInt16) : UInt16.ofInt (port.toNat : ℤ) = port := by
  apply UInt16.toNat_inj.mp
  have hlt := port.toNat_lt
  rw [UInt16.ofInt, UInt16.toNat_ofNat']
  omega

/-- `inet_ntoa`: four numbers with dots between them. -/
def inetNtoa (addr : Vector UInt8 4) : List UInt8 :=
  [46].intercalate (addr.toList.map fun b => digitsText b.toNat)

/-- One of the four numbers: at most three digits, at most 255, and no digit behind a leading
zero. -/
def octet (text : List UInt8) : Option UInt8 :=
  if text ≠ [] ∧ text.length ≤ 3 ∧ text.all isDigit ∧ digitsValue text ≤ 255 ∧
      (text.head? = some 48 → text.length = 1) then
    some (UInt8.ofNat (digitsValue text))
  else none

/-- `inet_pton`, for the family `AF_INET`. -/
def inetPton (text : List UInt8) : Option (Vector UInt8 4) :=
  match (text.splitOn 46).map octet with
  | [some a, some b, some c, some d] => some #v[a, b, c, d]
  | _ => none

theorem octet_digitsText (b : UInt8) : octet (digitsText b.toNat) = some b := by
  have hlength : (digitsText b.toNat).length ≤ 3 :=
    (length_digitsText_le_iff (by decide)).mpr (Nat.lt_trans b.toNat_lt (by decide))
  have hdigits : (digitsText b.toNat).all isDigit = true :=
    List.all_eq_true.mpr fun _ h => isDigit_of_mem h
  have hzero : (digitsText b.toNat).head? = some 48 → (digitsText b.toNat).length = 1 := by
    intro h
    rcases Nat.eq_zero_or_pos b.toNat with hb | hb
    · rw [hb]
      rfl
    · exact absurd h (head?_digitsText_ne hb)
  rw [octet, digitsValue_digitsText, if_pos ⟨digitsText_ne_nil _, hlength, hdigits,
    Nat.le_of_lt_succ b.toNat_lt, hzero⟩, UInt8.ofNat_toNat]

/-- **An address is read again as it was written.** -/
theorem inetPton_inetNtoa (addr : Vector UInt8 4) : inetPton (inetNtoa addr) = some addr := by
  have hdot : ∀ part ∈ addr.toList.map (fun b => digitsText b.toNat), 46 ∉ part := by
    intro part hpart hdot
    obtain ⟨b, -, rfl⟩ := List.mem_map.mp hpart
    exact absurd (isDigit_of_mem hdot) (by decide)
  have hne : addr.toList.map (fun b => digitsText b.toNat) ≠ [] := by
    rw [Ne, List.map_eq_nil_iff, ← List.length_eq_zero_iff, Vector.length_toList]
    decide
  have hparts : ((inetNtoa addr).splitOn 46).map octet = addr.toList.map some := by
    rw [inetNtoa, List.splitOn_intercalate 46 hdot hne, List.map_map]
    exact List.map_congr_left fun b _ => octet_digitsText b
  obtain ⟨a, b, c, d, haddr⟩ : ∃ a b c d, addr.toList = [a, b, c, d] :=
    List.length_eq_four.mp addr.length_toList
  rw [inetPton, hparts, haddr]
  exact congrArg some (Vector.toList_inj.mp haddr.symm)

/-! ### The remote -/

namespace UDPRemote

/-- `UDPConnection::Remote` -/
structure Remote where
  ip : List UInt8
  port : ℤ
  deriving DecidableEq

/-- What `set_remote` leaves in `m_curr_remote`.  Where the source has changed it assigns
`remote`, which refers to the old one. -/
def setRemote (currRemote : Option Remote) (ip : List UInt8) (port : ℤ) : Option Remote :=
  match currRemote with
  | some remote => if remote.ip ≠ ip ∨ remote.port ≠ port then some remote else currRemote
  | none => some ⟨ip, port⟩

/-- What `connect_once` makes of a call of `recvfrom`.  It takes a length of 0 for a socket that
was shut down, and an empty datagram has it too. -/
def received (currRemote : Option Remote) (recvLen : ℤ) (srcAddr : SockaddrIn) : Option Remote :=
  if recvLen = 0 then currRemote
  else if recvLen < 0 then currRemote
  else setRemote currRemote (inetNtoa srcAddr.sinAddr) (ntohs srcAddr.sinPort).toNat

/-- `dest_addr` of `send_message`. -/
def destAddr (remote : Remote) : SockaddrIn where
  sinAddr := (inetPton remote.ip).getD (Vector.replicate 4 0)
  sinPort := ntohs (UInt16.ofInt remote.port)

/-- What `send_message` hands to `sendto`: the bytes of the message, and where they go. -/
def sendMessage (currRemote : Option Remote) (buffer : List UInt8) :
    Option (List UInt8 × SockaddrIn) :=
  currRemote.map fun remote => (buffer, destAddr remote)

/-! ### The system -/

/-- `m_curr_remote`, and the lengths and sources of the datagrams since the last clear. -/
structure World where
  currRemote : Option Remote
  datagrams : List (ℕ × SockaddrIn)

def World.init : World := ⟨none, []⟩

inductive Event
  /-- `recvfrom` hands over a datagram, which may be empty. -/
  | datagram (length : ℕ) (srcAddr : SockaddrIn)
  /-- `recvfrom` returns 0 without a datagram: the socket was shut down. -/
  | shutdown
  /-- `recvfrom` fails: the socket was closed. -/
  | closed
  /-- `connect_once` comes to its end; there will be a new socket. -/
  | clearRemote

/-- `src_addr` before `recvfrom` fills it in. -/
def noAddr : SockaddrIn := ⟨Vector.replicate 4 0, 0⟩

def step (w : World) : Event → Exec World
  | .datagram length srcAddr =>
    pure ⟨received w.currRemote length srcAddr, w.datagrams ++ [(length, srcAddr)]⟩
  | .shutdown => pure { w with currRemote := received w.currRemote 0 noAddr }
  | .closed => pure { w with currRemote := received w.currRemote (-1) noAddr }
  | .clearRemote => pure ⟨none, []⟩

/-- A message goes to the source of the latest datagram, if there is one. -/
def Replies (w : World) : Prop :=
  ∀ buffer, sendMessage w.currRemote buffer =
    w.datagrams.getLast?.map fun received => (buffer, received.2)

/-- The condition: a datagram comes from the remote that is remembered; where there is none, it
is not empty. -/
def FromRemote (w : World) : Event → Prop
  | .datagram length srcAddr =>
    match w.currRemote with
    | some remote => remote = ⟨inetNtoa srcAddr.sinAddr, (ntohs srcAddr.sinPort).toNat⟩
    | none => 0 < length
  | .shutdown | .closed | .clearRemote => True

/-! ### What is remembered -/

/-- The remote that stands for a source. -/
def remoteOf (srcAddr : SockaddrIn) : Remote :=
  ⟨inetNtoa srcAddr.sinAddr, (ntohs srcAddr.sinPort).toNat⟩

/-- **What is sent to the remote arrives at its source.** -/
theorem destAddr_remoteOf (srcAddr : SockaddrIn) : destAddr (remoteOf srcAddr) = srcAddr := by
  simp only [destAddr, remoteOf, inetPton_inetNtoa, ofInt_toNat, ntohs_ntohs, Option.getD_some]

theorem remoteOf_inj {a b : SockaddrIn} : remoteOf a = remoteOf b ↔ a = b :=
  ⟨fun h => by rw [← destAddr_remoteOf a, h, destAddr_remoteOf], fun h => h ▸ rfl⟩

/-- A remote that is there stays, whoever sends. -/
theorem setRemote_some (remote : Remote) (ip : List UInt8) (port : ℤ) :
    setRemote (some remote) ip port = some remote :=
  ite_self _

/-- A datagram changes what is remembered only where nothing is, and where it is not empty. -/
theorem received_datagram (currRemote : Option Remote) (length : ℕ) (srcAddr : SockaddrIn) :
    received currRemote length srcAddr =
      currRemote.or (if 0 < length then some (remoteOf srcAddr) else none) := by
  rcases Nat.eq_zero_or_pos length with rfl | hlength
  · exact (Option.or_none).symm
  · rw [received, if_neg (by omega), if_neg (by omega), if_pos hlength]
    cases currRemote with
    | none => rfl
    | some remote => exact setRemote_some remote _ _

/-- What is remembered is the source of the first datagram that is not empty. -/
def Inv (w : World) : Prop :=
  w.currRemote = (w.datagrams.find? fun received => 0 < received.1).map fun received =>
    remoteOf received.2

theorem inv_init : Inv World.init := rfl

/-- **Every step keeps the invariant**, under no condition. -/
theorem Inv.step {w w' : World} {e : Event} (hi : Inv w) (h : step w e = .ok w') : Inv w' := by
  cases e with
  | datagram length srcAddr =>
      obtain rfl := Except.ok.inj h
      rw [Inv, received_datagram, hi, List.find?_append, Option.map_or, List.find?_singleton]
      by_cases hlength : 0 < length
      · rw [if_pos hlength, if_pos (decide_eq_true hlength), Option.map_some]
      -- an empty one is not looked at again
      · rw [if_neg hlength, if_neg (by simpa using hlength), Option.map_none]
  | shutdown | closed =>
      obtain rfl := Except.ok.inj h
      exact hi
  | clearRemote =>
      obtain rfl := Except.ok.inj h
      rfl

/-- Messages go to the latest source exactly if it is the one that is remembered. -/
theorem Inv.replies_iff_currRemote {w : World} (hi : Inv w) :
    Replies w ↔ w.currRemote = w.datagrams.getLast?.map fun received => remoteOf received.2 := by
  obtain ⟨first, hfirst⟩ : ∃ first : Option (ℕ × SockaddrIn),
      w.currRemote = first.map fun received => remoteOf received.2 := ⟨_, hi⟩
  rw [Replies, hfirst]
  rcases first with - | first <;> rcases w.datagrams.getLast? with - | last
  · exact iff_of_true (fun _ => rfl) rfl
  · exact iff_of_false (fun h => Option.some_ne_none _ (h []).symm) nofun
  · exact iff_of_false (fun h => Option.some_ne_none _ (h [])) nofun
  · simp only [sendMessage, Option.map_some, destAddr_remoteOf, Option.some.injEq, remoteOf_inj,
      Prod.mk.injEq, true_and, forall_const]

/-- A step after which messages go to the latest source, is one that meets the condition. -/
theorem Inv.fromRemote_iff {w : World} (hi : Inv w) (hreplies : Replies w) (e : Event) :
    (∀ w', UDPRemote.step w e = .ok w' → Replies w') ↔ FromRemote w e := by
  cases e with
  | datagram length srcAddr =>
      have hnext := hi.step (e := .datagram length srcAddr) rfl
      have hafter : (∀ w', UDPRemote.step w (.datagram length srcAddr) = .ok w' → Replies w') ↔
          Replies ⟨received w.currRemote length srcAddr, w.datagrams ++ [(length, srcAddr)]⟩ :=
        ⟨fun h => h _ rfl, fun h w' hw' => Except.ok.inj hw' ▸ h⟩
      rw [hafter, hnext.replies_iff_currRemote, received_datagram, List.getLast?_concat]
      unfold FromRemote
      cases w.currRemote with
      | none => simp
      | some remote => exact Option.some_inj
  | shutdown | closed =>
      refine iff_of_true (fun w' h => ?_) trivial
      obtain rfl := Except.ok.inj h
      exact hreplies
  | clearRemote =>
      refine iff_of_true (fun w' h => ?_) trivial
      obtain rfl := Except.ok.inj h
      exact fun _ => rfl

/-- **Messages go to the source of the latest datagram after every step, if and only if every
datagram comes from the remote that is remembered, and is not empty where there is none.** -/
theorem replies_iff (events : List Event) :
    EveryStep (fun w e => ∀ w', step w e = .ok w' → Replies w') step World.init events ↔
      EveryStep FromRemote step World.init events :=
  everyStep_leaves_iff (fun _ _ _ hi h => hi.step h) (fun _ e hi h => hi.fromRemote_iff h e)
    inv_init (fun _ => rfl) events

/-- A ground station that is started again has a new port: its datagram changes nothing. -/
theorem not_replies_restarted :
    ¬ EveryStep (fun w e => ∀ w', step w e = .ok w' → Replies w') step World.init
      [.datagram 21 ⟨#v[192, 168, 2, 1], 1⟩, .datagram 21 ⟨#v[192, 168, 2, 1], 2⟩] := by
  rintro ⟨-, hrest⟩
  obtain ⟨hsecond, -⟩ := hrest _ rfl
  have hsent := hsecond _ rfl []
  revert hsent
  decide

end UDPRemote

end QOpenHD
