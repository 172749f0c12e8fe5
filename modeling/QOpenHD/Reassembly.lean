/-
QOpenHD/Reassembly.lean

Putting units back together behind a channel that loses packets.

A sender turns each unit (a list of `α`) into packets: several whole units in
one packet, or one unit cut into a first, some middle and a last chunk
(`Item`).  The channel keeps the order; each packet arrives a number of times
in a row, zero times when it is lost.  The receiver notices that something
was lost in front of a packet, but not what.

`Phase` is what such a receiver can honestly know, and `Phase.arrive` what it
may deliver: a unit whose chunks all arrived in a row, and nothing else.  A
`Course U P ph es out` is a run of this receiver from phase `ph` over the
events `es`, delivering `out`.  It also records, event by event, that what
arrives fits the phase (`Compatible`): what has been collected is the
beginning of a unit (`U`), and what was collected after joining in the middle
of a unit satisfies `P`.  A program is shown to deliver `out` by induction on
the course, one arrival at a time.

* `Course.lossy` — whatever is lost, what is delivered is a subsequence of
  what was sent, and a joiner collects only pieces of units;
* `Course.lossless` — if every packet arrives, all units are delivered, and
  nobody joins in the middle.
-/
import Mathlib.Data.List.Basic
import Mathlib.Data.List.Infix

namespace Reassembly

variable {α : Type*}

/-- What a packet carries. -/
inductive Packet (α : Type*)
  | whole (units : List (List α))
  | first (chunk : List α)
  | middle (chunk : List α)
  | last (chunk : List α)

/-- Where a receiver stands after some packets. -/
inductive Phase (α : Type*)
  /-- Nothing has arrived yet. -/
  | fresh
  /-- Between two units. -/
  | idle
  /-- Inside a unit whose first chunk arrived, and everything since. -/
  | collecting (b : List α)
  /-- Inside a unit whose first chunk was sent before anything arrived. -/
  | joined (b : List α)
  /-- Something was lost since the last beginning of a unit. -/
  | broken

/-- A packet is lost.  Only a receiver that never received anything does not
notice. -/
def Phase.lose : Phase α → Phase α
  | .fresh => .fresh
  | _ => .broken

/-- A packet arrives: the next phase, and the units delivered. -/
def Phase.arrive : Phase α → Packet α → Phase α × List (List α)
  | _, .whole us => (.idle, us)
  | _, .first c => (.collecting c, [])
  | .fresh, .middle c => (.joined c, [])
  | .idle, .middle c => (.joined c, [])
  | .collecting b, .middle c => (.collecting (b ++ c), [])
  | .joined b, .middle c => (.joined (b ++ c), [])
  | .broken, .middle _ => (.broken, [])
  | .fresh, .last _ => (.idle, [])
  | .idle, .last _ => (.idle, [])
  | .collecting b, .last c => (.idle, [b ++ c])
  | .joined _, .last _ => (.idle, [])
  | .broken, .last _ => (.broken, [])

/-- What the sender makes of one unit, or of several small ones. -/
inductive Item (α : Type*)
  | whole (units : List (List α))
  | split (first : List α) (middles : List (List α)) (last : List α)

namespace Item

/-- The units an item stands for. -/
def units : Item α → List (List α)
  | whole us => us
  | split f ms l => [f ++ ms.flatten ++ l]

/-- The packets an item is sent as. -/
def packets : Item α → List (Packet α)
  | whole us => [.whole us]
  | split f ms l => .first f :: (ms.map .middle ++ [.last l])

/-- No middle or last chunk is empty. -/
def NonEmpty : Item α → Prop
  | whole _ => True
  | split _ ms l => (∀ m ∈ ms, m ≠ []) ∧ l ≠ []

end Item

/-! ### Courses -/

/-- Packet `p` fits phase `ph`: what it completes is a unit (`U`), and what it
adds to a unit joined in the middle satisfies `P`. -/
def Compatible (U P : List α → Prop) : Phase α → Packet α → Prop
  | _, .whole us => ∀ u ∈ us, U u
  | _, .first c => ∃ r, U (c ++ r)
  | .fresh, .middle c => c ≠ [] ∧ P c
  | .fresh, .last c => c ≠ [] ∧ P c
  | .idle, .middle _ => False
  | .idle, .last _ => False
  | .collecting b, .middle c => c ≠ [] ∧ ∃ r, U (b ++ c ++ r)
  | .collecting b, .last c => c ≠ [] ∧ U (b ++ c)
  | .joined b, .middle c => c ≠ [] ∧ P (b ++ c)
  | .joined b, .last c => c ≠ [] ∧ P (b ++ c)
  | .broken, .middle c => c ≠ []
  | .broken, .last c => c ≠ []

/-- A run of the receiver: every packet comes with the number of times it
arrives, repetitions being ignored. -/
inductive Course (U P : List α → Prop) :
    Phase α → List (Packet α × ℕ) → List (List α) → Prop
  | nil (ph : Phase α) : Course U P ph [] []
  | lost {ph : Phase α} {p : Packet α} {es : List (Packet α × ℕ)} {out : List (List α)} :
      Course U P ph.lose es out → Course U P ph ((p, 0) :: es) out
  | arrived {ph : Phase α} {p : Packet α} (n : ℕ) {es : List (Packet α × ℕ)}
      {out : List (List α)} :
      Compatible U P ph p → Course U P (ph.arrive p).1 es out →
        Course U P ph ((p, n + 1) :: es) ((ph.arrive p).2 ++ out)

theorem Compatible.mono {U P U' P' : List α → Prop} (hU : ∀ u, U u → U' u)
    (hP : ∀ x, P x → P' x) {ph : Phase α} {p : Packet α} (h : Compatible U P ph p) :
    Compatible U' P' ph p := by
  cases ph <;> cases p <;> simp only [Compatible] at h ⊢ <;> grind

theorem Course.mono {U P U' P' : List α → Prop} (hU : ∀ u, U u → U' u) (hP : ∀ x, P x → P' x)
    {ph : Phase α} {es : List (Packet α × ℕ)} {out : List (List α)} (h : Course U P ph es out) :
    Course U' P' ph es out := by
  induction h with
  | nil ph => exact .nil ph
  | lost _ ih => exact .lost ih
  | arrived n hfit _ ih => exact .arrived n (hfit.mono hU hP) ih

/-- Between two items. -/
def Phase.Settled : Phase α → Prop
  | .fresh => True
  | .idle => True
  | .broken => True
  | .collecting _ => False
  | .joined _ => False

/-- Inside a unit of which `done` has been sent. -/
def Phase.Inside (done : List α) : Phase α → Prop
  | .fresh => True
  | .broken => True
  | .idle => False
  | .collecting b => b = done
  | .joined b => b <:+ done

theorem Phase.lose_settled (ph : Phase α) : ph.lose.Settled := by
  cases ph <;> trivial

theorem Phase.lose_inside (done : List α) (ph : Phase α) : ph.lose.Inside done := by
  cases ph <;> trivial

@[simp] theorem Phase.arrive_whole (ph : Phase α) (us : List (List α)) :
    ph.arrive (.whole us) = (.idle, us) := by
  cases ph <;> rfl

@[simp] theorem Phase.arrive_first (ph : Phase α) (c : List α) :
    ph.arrive (.first c) = (.collecting c, []) := by
  cases ph <;> rfl

/-- A middle chunk delivers nothing. -/
@[simp] theorem Phase.arrive_middle_snd (ph : Phase α) (c : List α) :
    (ph.arrive (.middle c)).2 = [] := by
  cases ph <;> rfl

theorem Phase.arrive_ne_fresh (ph : Phase α) (p : Packet α) : (ph.arrive p).1 ≠ .fresh := by
  cases ph <;> cases p <;> nofun

/-- Nothing is missing once nothing was missing. -/
theorem Phase.arrive_ne_broken {ph : Phase α} (h : ph ≠ .broken) (p : Packet α) :
    (ph.arrive p).1 ≠ .broken := by
  cases ph with
  | broken => exact absurd rfl h
  | _ => cases p <;> nofun

variable {U P : List α → Prop}

@[simp] theorem compatible_whole {ph : Phase α} {us : List (List α)} :
    Compatible U P ph (.whole us) ↔ ∀ u ∈ us, U u := by
  cases ph <;> rfl

@[simp] theorem compatible_first {ph : Phase α} {c : List α} :
    Compatible U P ph (.first c) ↔ ∃ r, U (c ++ r) := by
  cases ph <;> rfl

theorem Course.arrived_whole {ph : Phase α} {us : List (List α)} {es : List (Packet α × ℕ)}
    {out : List (List α)} (n : ℕ) (hU : ∀ u ∈ us, U u) (h : Course U P .idle es out) :
    Course U P ph ((.whole us, n + 1) :: es) (us ++ out) := by
  have harr : Course U P ph ((.whole us, n + 1) :: es) ((ph.arrive (.whole us)).2 ++ out) :=
    .arrived n (by simpa using hU) (by simpa using h)
  simpa using harr

theorem Course.arrived_first {ph : Phase α} {c r : List α} {es : List (Packet α × ℕ)}
    {out : List (List α)} (n : ℕ) (hU : U (c ++ r)) (h : Course U P (.collecting c) es out) :
    Course U P ph ((.first c, n + 1) :: es) out := by
  have harr : Course U P ph ((.first c, n + 1) :: es) ((ph.arrive (.first c)).2 ++ out) :=
    .arrived n (by simpa using ⟨r, hU⟩) (by simpa using h)
  simpa using harr

/-! ### Loss -/

/-- A middle chunk that arrives inside a unit fits, delivers nothing and stays
inside the unit. -/
theorem Phase.arrive_middle (hP : ∀ u x, U u → x <:+: u → P x) {done c r : List α} (hc : c ≠ [])
    (hU : U (done ++ c ++ r)) {ph : Phase α} (hin : ph.Inside done) :
    Compatible U P ph (.middle c) ∧ (ph.arrive (.middle c)).2 = [] ∧
      (ph.arrive (.middle c)).1.Inside (done ++ c) := by
  cases ph with
  | fresh => exact ⟨⟨hc, hP _ _ hU ⟨done, r, rfl⟩⟩, rfl, List.suffix_append done c⟩
  | idle => exact absurd hin id
  | broken => exact ⟨hc, rfl, trivial⟩
  | collecting b =>
      obtain rfl : b = done := hin
      exact ⟨⟨hc, r, hU⟩, rfl, rfl⟩
  | joined b =>
      obtain ⟨a, rfl⟩ : b <:+ done := hin
      refine ⟨⟨hc, hP _ _ hU ⟨a, r, by simp⟩⟩, rfl, ⟨a, by simp⟩⟩

/-- A last chunk that arrives inside a unit fits, settles the receiver, and
delivers the unit or nothing. -/
theorem Phase.arrive_last (hP : ∀ u x, U u → x <:+: u → P x) {done c : List α} (hc : c ≠ [])
    (hU : U (done ++ c)) {ph : Phase α} (hin : ph.Inside done) :
    Compatible U P ph (.last c) ∧ (ph.arrive (.last c)).1.Settled ∧
      ((ph.arrive (.last c)).2 = [] ∨ (ph.arrive (.last c)).2 = [done ++ c]) := by
  cases ph with
  | fresh => exact ⟨⟨hc, hP _ _ hU ⟨done, [], by simp⟩⟩, trivial, .inl rfl⟩
  | idle => exact absurd hin id
  | broken => exact ⟨hc, trivial, .inl rfl⟩
  | collecting b =>
      obtain rfl : b = done := hin
      exact ⟨⟨hc, hU⟩, trivial, .inr rfl⟩
  | joined b =>
      obtain ⟨a, rfl⟩ : b <:+ done := hin
      exact ⟨⟨hc, hP _ _ hU ⟨a, [], by simp⟩⟩, trivial, .inl rfl⟩

/-- The rest of a unit that has been sent up to `done`, and then whatever
follows it. -/
theorem Course.lossy_inside (hP : ∀ u x, U u → x <:+: u → P x) {l : List α} (hl : l ≠ [])
    {rest : List (Packet α)} {sent : List (List α)}
    (hrest : ∀ (ph : Phase α) (copies : List ℕ), ph.Settled →
      ∃ out, Course U P ph (rest.zip copies) out ∧ out.Sublist sent) :
    ∀ (ms : List (List α)) (done : List α) (ph : Phase α) (copies : List ℕ),
      (∀ m ∈ ms, m ≠ []) → U (done ++ ms.flatten ++ l) → ph.Inside done →
      ∃ out, Course U P ph ((ms.map Packet.middle ++ .last l :: rest).zip copies) out ∧
        out.Sublist ((done ++ ms.flatten ++ l) :: sent) := by
  intro ms
  induction ms with
  | nil =>
      intro done ph copies _ hU hin
      simp only [List.flatten_nil, List.append_nil] at hU
      -- the last packet: not sent yet, lost, or arrived
      rcases copies with - | ⟨- | n, cs⟩
      · exact ⟨[], .nil ph, List.nil_sublist _⟩
      · obtain ⟨out, hcourse, hsub⟩ := hrest ph.lose cs ph.lose_settled
        exact ⟨out, .lost hcourse, hsub.trans (List.sublist_cons_self _ _)⟩
      · obtain ⟨hfit, hset, hout⟩ := Phase.arrive_last hP hl hU hin
        obtain ⟨out, hcourse, hsub⟩ := hrest _ cs hset
        refine ⟨_, .arrived n hfit hcourse, ?_⟩
        rcases hout with h | h <;> rw [h]
        · exact hsub.trans (List.sublist_cons_self _ _)
        · simpa using hsub
  | cons m ms ih =>
      intro done ph copies hne hU hin
      have hms : ∀ m' ∈ ms, m' ≠ [] := fun m' hm' => hne m' (by simp [hm'])
      -- a middle packet: whatever becomes of it, `done` grows
      have hassoc : done ++ (m :: ms).flatten ++ l = done ++ m ++ ms.flatten ++ l := by simp
      rw [hassoc] at hU ⊢
      rcases copies with - | ⟨- | n, cs⟩
      · exact ⟨[], .nil ph, List.nil_sublist _⟩
      · obtain ⟨out, hcourse, hsub⟩ :=
          ih (done ++ m) ph.lose cs hms hU (ph.lose_inside _)
        exact ⟨out, .lost hcourse, hsub⟩
      · have hU' : U (done ++ m ++ (ms.flatten ++ l)) := by simpa using hU
        obtain ⟨hfit, hout, hin'⟩ := Phase.arrive_middle hP (hne m (by simp)) hU' hin
        obtain ⟨out, hcourse, hsub⟩ := ih (done ++ m) _ cs hms hU hin'
        refine ⟨_, .arrived n hfit hcourse, ?_⟩
        rw [hout]
        exact hsub

/-- **Loss safety**: whatever is lost and however often the rest is repeated,
the receiver delivers a subsequence of the units that were sent. -/
theorem Course.lossy (hP : ∀ u x, U u → x <:+: u → P x) (items : List (Item α))
    (hne : ∀ it ∈ items, it.NonEmpty) (hU : ∀ it ∈ items, ∀ u ∈ it.units, U u) :
    ∀ (ph : Phase α) (copies : List ℕ), ph.Settled →
      ∃ out, Course U P ph ((items.flatMap Item.packets).zip copies) out ∧
        out.Sublist (items.flatMap Item.units) := by
  induction items with
  | nil => exact fun ph copies _ => ⟨[], by simpa using .nil ph, List.nil_sublist _⟩
  | cons it items ih =>
      have ih := ih (fun it' h => hne it' (by simp [h])) (fun it' h => hU it' (by simp [h]))
      have hUit := hU it (by simp)
      intro ph copies hset
      cases it with
      | whole us =>
          simp only [List.flatMap_cons, Item.packets, Item.units, List.singleton_append]
          rcases copies with - | ⟨- | n, cs⟩
          · exact ⟨[], .nil ph, List.nil_sublist _⟩
          · obtain ⟨out, hcourse, hsub⟩ := ih ph.lose cs ph.lose_settled
            exact ⟨out, .lost hcourse, hsub.trans (List.sublist_append_right _ _)⟩
          · obtain ⟨out, hcourse, hsub⟩ := ih .idle cs trivial
            exact ⟨us ++ out, .arrived_whole n hUit hcourse, hsub.append_left us⟩
      -- a split unit: its first packet, and then the rest inside it
      | split f ms l =>
          obtain ⟨hms, hl⟩ := hne (.split f ms l) (by simp)
          have hUu : U (f ++ (ms.flatten ++ l)) := by
            simpa using hUit (f ++ ms.flatten ++ l) (by simp [Item.units])
          have inside := Course.lossy_inside hP hl ih ms f
          simp only [List.flatMap_cons, Item.packets, Item.units, List.cons_append,
            List.append_assoc, List.nil_append] at inside ⊢
          rcases copies with - | ⟨- | n, cs⟩
          · exact ⟨[], .nil ph, List.nil_sublist _⟩
          · obtain ⟨out, hcourse, hsub⟩ := inside ph.lose cs hms hUu (ph.lose_inside f)
            exact ⟨out, .lost hcourse, hsub⟩
          · obtain ⟨out, hcourse, hsub⟩ := inside (.collecting f) cs hms hUu rfl
            exact ⟨out, .arrived_first n hUu hcourse, hsub⟩

/-! ### Losses in a row -/

/-- Fewer than `limit` packets are lost in a row, not counting those before the
first arrival; so far `missed` were. -/
def FewLost (limit : ℕ) : Option ℕ → List ℕ → Prop
  | _, [] => True
  | none, 0 :: cs => FewLost limit none cs
  | some m, 0 :: cs => m + 1 < limit ∧ FewLost limit (some (m + 1)) cs
  | _, (_ + 1) :: cs => FewLost limit (some 0) cs

theorem fewLost_of_not_infix {limit : ℕ} {cs : List ℕ} :
    ∀ {m : ℕ}, ¬ List.replicate limit 0 <:+: List.replicate m 0 ++ cs →
      FewLost limit (some m) cs := by
  induction cs with
  | nil => exact fun _ => trivial
  | cons n cs ih =>
      intro m h
      cases n with
      | zero =>
          have hshift : List.replicate m 0 ++ 0 :: cs = List.replicate (m + 1) 0 ++ cs := by
            simp [List.replicate_succ']
          rw [hshift] at h
          refine ⟨?_, ih h⟩
          by_contra hm
          refine h ⟨[], List.replicate (m + 1 - limit) 0 ++ cs, ?_⟩
          rw [List.nil_append, ← List.append_assoc, List.replicate_append_replicate]
          congr 2
          omega
      | succ n =>
          refine ih fun ⟨a, b, hab⟩ => h ⟨List.replicate m 0 ++ (n + 1) :: a, b, ?_⟩
          rw [List.replicate_zero, List.nil_append] at hab
          simp [← hab]

/-- A receiver may join at any time. -/
theorem fewLost_joining {limit : ℕ} {cs : List ℕ} (h : ¬ List.replicate limit 0 <:+: cs)
    (joinAt : ℕ) : FewLost limit none (List.replicate joinAt 0 ++ cs) := by
  induction joinAt with
  | succ j ih => exact ih
  | zero =>
      rw [List.replicate_zero, List.nil_append]
      induction cs with
      | nil => trivial
      | cons n cs ih =>
          have hcs : ¬ List.replicate limit 0 <:+: cs := fun ⟨a, b, hab⟩ =>
            h ⟨n :: a, b, by simp [← hab]⟩
          cases n with
          | zero => exact ih hcs
          | succ n => exact fewLost_of_not_infix (by simpa using hcs)

/-- Only the copies of packets that exist count. -/
theorem FewLost.zip {β : Type*} {limit : ℕ} {cs : List ℕ} :
    ∀ {missed : Option ℕ} (l : List β), FewLost limit missed cs →
      FewLost limit missed ((l.zip cs).map Prod.snd) := by
  induction cs with
  | nil => simp [FewLost]
  | cons n cs ih =>
      intro missed l h
      rcases l with - | ⟨b, l⟩
      · simp [FewLost]
      rw [List.zip_cons_cons, List.map_cons]
      rcases missed with - | m <;> rcases n with - | n
      · exact ih l h
      · exact ih l h
      · exact ⟨h.1, ih l h.2⟩
      · exact ih l h

/-! ### No loss -/

/-- The rest of a unit that has arrived up to `done`, and then whatever
follows it. -/
theorem Course.lossless_inside {l : List α} (hl : l ≠ []) {rest : List (Packet α)}
    {sent : List (List α)}
    (hrest : ∀ copies : List ℕ, copies.length = rest.length → (∀ n ∈ copies, 0 < n) →
      Course U P .idle (rest.zip copies) sent) :
    ∀ (ms : List (List α)) (done : List α) (copies : List ℕ),
      (∀ m ∈ ms, m ≠ []) → U (done ++ ms.flatten ++ l) →
      copies.length = (ms.map Packet.middle ++ .last l :: rest).length → (∀ n ∈ copies, 0 < n) →
      Course U P (.collecting done) ((ms.map Packet.middle ++ .last l :: rest).zip copies)
        ((done ++ ms.flatten ++ l) :: sent) := by
  intro ms
  induction ms with
  | nil =>
      intro done copies _ hU hlen hpos
      simp only [List.flatten_nil, List.append_nil] at hU ⊢
      rcases copies with - | ⟨- | n, cs⟩
      · simp at hlen
      -- a packet that arrives no times would be lost
      · exact absurd (hpos 0 (by simp)) (by simp)
      · have hcs := hrest cs (by simpa using hlen) (fun k hk => hpos k (by simp [hk]))
        have hfit : Compatible U P (.collecting done) (.last l) := ⟨hl, hU⟩
        exact .arrived n hfit hcs
  | cons m ms ih =>
      intro done copies hne hU hlen hpos
      have hassoc : done ++ (m :: ms).flatten ++ l = done ++ m ++ ms.flatten ++ l := by simp
      rw [hassoc] at hU ⊢
      rcases copies with - | ⟨- | n, cs⟩
      · simp at hlen
      · exact absurd (hpos 0 (by simp)) (by simp)
      · have hcs := ih (done ++ m) cs (fun m' hm' => hne m' (by simp [hm'])) hU
          (by simpa using hlen) (fun k hk => hpos k (by simp [hk]))
        have hfit : Compatible U P (.collecting done) (.middle m) :=
          ⟨hne m (by simp), ms.flatten ++ l, by simpa using hU⟩
        exact .arrived n hfit hcs

/-- **No loss**: if every packet arrives at least once, all units are
delivered, in order and once each. -/
theorem Course.lossless (items : List (Item α)) (hne : ∀ it ∈ items, it.NonEmpty)
    (hU : ∀ it ∈ items, ∀ u ∈ it.units, U u) :
    ∀ (ph : Phase α) (copies : List ℕ), copies.length = (items.flatMap Item.packets).length →
      (∀ n ∈ copies, 0 < n) →
      Course U P ph ((items.flatMap Item.packets).zip copies) (items.flatMap Item.units) := by
  induction items with
  | nil => exact fun ph copies _ _ => by simpa using .nil ph
  | cons it items ih =>
      have ih := ih (fun it' h => hne it' (by simp [h])) (fun it' h => hU it' (by simp [h]))
      have hUit := hU it (by simp)
      intro ph copies hlen hpos
      cases it with
      | whole us =>
          simp only [List.flatMap_cons, Item.packets, Item.units, List.singleton_append] at hlen ⊢
          rcases copies with - | ⟨- | n, cs⟩
          · simp at hlen
          · exact absurd (hpos 0 (by simp)) (by simp)
          · exact .arrived_whole n hUit
              (ih .idle cs (by simpa using hlen) (fun k hk => hpos k (by simp [hk])))
      -- a split unit: its first packet, and then the rest inside it
      | split f ms l =>
          obtain ⟨hms, hl⟩ := hne (.split f ms l) (by simp)
          have hUu : U (f ++ (ms.flatten ++ l)) := by
            simpa using hUit (f ++ ms.flatten ++ l) (by simp [Item.units])
          have inside := Course.lossless_inside hl (ih .idle) ms f
          simp only [List.flatMap_cons, Item.packets, Item.units, List.cons_append,
            List.append_assoc, List.nil_append] at inside hlen ⊢
          rcases copies with - | ⟨- | n, cs⟩
          · simp at hlen
          · exact absurd (hpos 0 (by simp)) (by simp)
          · exact .arrived_first n hUu
              (inside cs hms hUu (by simpa using hlen) (fun k hk => hpos k (by simp [hk])))

end Reassembly
