/-
QOpenHD/VideoPath.lean

The way of a NALU from the sender to the decoder.  `PacketizeH264.lean` and
`PacketizeH265.lean` end where `RTPDecoder` hands over NALUs, `RTPReceiver.lean`
begins where `queue_data` is given them; the callback of the decoder
(`nalu_data_callback`) joins the two.

The decoder behind the queue runs in a thread of its own: between any two NALUs,
also of one packet, it may fetch a frame or change the callback.  So the results
are about every order of events in which the NALUs that have been given are
those handed over, up to some point.

* **`frames_lossless`** — if every packet arrives, all NALUs are given, and the
  receiver does with them what `CarriesFrames` says: it delivers the frames
  behind the first complete set of parameter sets, in order and once each, except
  for those that it counts as dropped;
* **`frames_lossy`** — if packets are lost, a subsequence of the NALUs is given,
  and the receiver does the same with it.
-/
import QOpenHD.NaluContract
import QOpenHD.PacketizeH264
import QOpenHD.PacketizeH265
import QOpenHD.RTPReceiver

namespace QOpenHD

open Checked

/-! ### The configuration -/

/-- There is a parameter set of every kind that a decoder needs. -/
def Complete (isH265 : Bool) (nalus : List NALU) : Prop :=
  ∀ kind : ParameterSet, kind.Needed isH265 → ∃ nalu ∈ nalus, nalu.parameterSet = some kind

/-- The last parameter set of a kind. -/
def lastOf (kind : ParameterSet) (nalus : List NALU) : Option NALU :=
  (nalus.filter fun nalu => nalu.parameterSet = some kind).getLast?

theorem lastOf_append_singleton (kind : ParameterSet) (nalus : List NALU) (nalu : NALU) :
    lastOf kind (nalus ++ [nalu]) =
      if nalu.parameterSet = some kind then some nalu else lastOf kind nalus := by
  by_cases h : nalu.parameterSet = some kind <;> simp [lastOf, h]

theorem isSome_lastOf {kind : ParameterSet} {nalus : List NALU} :
    (lastOf kind nalus).isSome ↔ ∃ nalu ∈ nalus, nalu.parameterSet = some kind := by
  simp only [lastOf, Option.isSome_iff_ne_none, ne_eq, List.getLast?_eq_none_iff,
    List.filter_eq_nil_iff, decide_eq_true_eq, not_forall, not_not, exists_prop]

/-- `before` goes up to the NALU that makes the configuration complete, and `after`
is all that follows it. -/
structure SplitAtConfig (isH265 : Bool) (nalus before after : List NALU) : Prop where
  eq_append : nalus = before ++ after
  complete : after ≠ [] → Complete isH265 before
  first : ∀ earlier, earlier <+: before → Complete isH265 earlier → earlier = before

namespace SplitAtConfig

variable {isH265 : Bool} {nalus before after : List NALU}

theorem nil : SplitAtConfig isH265 [] [] [] where
  eq_append := rfl
  complete := fun h => absurd rfl h
  first := fun _ h _ => List.prefix_nil.mp h

/-- One more NALU, while the configuration is not complete. -/
theorem extend (h : SplitAtConfig isH265 nalus before after) (hnot : ¬ Complete isH265 before)
    (nalu : NALU) : after = [] ∧ SplitAtConfig isH265 (nalus ++ [nalu]) (before ++ [nalu]) [] := by
  have hafter : after = [] := by
    by_contra hne
    exact hnot (h.complete hne)
  refine ⟨hafter, by rw [h.eq_append, hafter]; simp, fun hne => absurd rfl hne, ?_⟩
  intro earlier hpre hcomplete
  rcases List.prefix_concat_iff.mp hpre with heq | hpre
  · exact heq
  · exact absurd (h.first earlier hpre hcomplete ▸ hcomplete) hnot

/-- One more NALU, once the configuration is complete. -/
theorem append (h : SplitAtConfig isH265 nalus before after) (hcomplete : Complete isH265 before)
    (nalu : NALU) : SplitAtConfig isH265 (nalus ++ [nalu]) before (after ++ [nalu]) where
  eq_append := by rw [h.eq_append, List.append_assoc]
  complete := fun _ => hcomplete
  first := h.first

end SplitAtConfig

namespace RTPReceiver

/-- Where there is room nothing is dropped. -/
theorem passOn_room_dropped {s : RTPReceiver} (h : s.HasRoom) (nalu : NALU) :
    (s.passOn nalu).nDroppedFrames = s.nDroppedFrames := by
  unfold passOn
  split
  · rfl
  split
  · rfl
  · rename_i hcb hqueue
    exact absurd h (not_or.mpr ⟨hcb, hqueue⟩)

namespace World

open CodecConfigFinder

/-! ### The receiver -/

/-- What has become of the NALUs that the receiver has been given. -/
structure Passes (isH265 : Bool) (w : World) (before after : List NALU) : Prop where
  codec : w.receiver.isH265 = isH265
  split : SplitAtConfig isH265 w.given before after
  /-- The decoder is told the last parameter sets up to there. -/
  told : ∀ kind, w.receiver.keyframeFinder.stored kind = lastOf kind before
  /-- What is delivered are frames from behind. -/
  delivered : w.receiver.delivered.Sublist (after.filter NALU.isFrame)
  /-- The others are counted. -/
  counted : w.receiver.delivered.length + w.receiver.nDroppedFrames =
    (after.filter NALU.isFrame).length

namespace Passes

variable {isH265 : Bool} {w : World} {before after : List NALU}

theorem complete_iff (h : Passes isH265 w before after) :
    w.receiver.keyframeFinder.allConfigAvailable w.receiver.isH265 = true ↔
      Complete isH265 before := by
  rw [allConfigAvailable_iff, h.codec]
  simp only [h.told, isSome_lastOf, Complete]

theorem new : Passes isH265 (World.new isH265) [] [] where
  codec := rfl
  split := .nil
  told := fun kind => by cases kind <;> rfl
  delivered := List.Sublist.refl _
  counted := rfl

/-- The same NALUs, and a receiver that has delivered and dropped the same. -/
theorem of_eq {receiver : RTPReceiver} (h : Passes isH265 w before after)
    (hcodec : receiver.isH265 = w.receiver.isH265)
    (hfinder : receiver.keyframeFinder = w.receiver.keyframeFinder)
    (hdelivered : receiver.delivered = w.receiver.delivered)
    (hdropped : receiver.nDroppedFrames = w.receiver.nDroppedFrames) :
    Passes isH265 ⟨receiver, w.given⟩ before after where
  codec := hcodec.trans h.codec
  split := h.split
  told := by rw [hfinder]; exact h.told
  delivered := by rw [hdelivered]; exact h.delivered
  counted := by rw [hdelivered, hdropped]; exact h.counted

/-- Before the configuration is complete: the NALU is saved, if it belongs to
the configuration. -/
theorem save (h : Passes isH265 w before after) (hnot : ¬ Complete isH265 before) (nalu : NALU) :
    Passes isH265 ⟨{ w.receiver with
      keyframeFinder := w.receiver.keyframeFinder.saveIfConfig nalu }, w.given ++ [nalu]⟩
      (before ++ [nalu]) [] := by
  obtain ⟨rfl, hsplit⟩ := h.split.extend hnot nalu
  refine { codec := h.codec, split := hsplit, told := ?_, delivered := h.delivered,
           counted := h.counted }
  intro kind
  rw [stored_saveIfConfig, lastOf_append_singleton, h.told]

/-- Afterwards: a NALU that is no frame changes nothing here. -/
theorem skip (h : Passes isH265 w before after) (hcomplete : Complete isH265 before) {nalu : NALU}
    (hframe : nalu.isFrame = false) :
    Passes isH265 ⟨w.receiver, w.given ++ [nalu]⟩ before (after ++ [nalu]) where
  codec := h.codec
  split := h.split.append hcomplete nalu
  told := h.told
  delivered := by simpa [hframe] using h.delivered
  counted := by simpa [hframe] using h.counted

/-- Afterwards: a frame is delivered, or dropped and counted. -/
theorem passOn (h : Passes isH265 w before after) (hcomplete : Complete isH265 before) {nalu : NALU}
    (hframe : nalu.isFrame = true) :
    Passes isH265 ⟨w.receiver.passOn nalu, w.given ++ [nalu]⟩ before (after ++ [nalu]) := by
  have hcounted := h.counted
  have hframes : (after ++ [nalu]).filter NALU.isFrame = after.filter NALU.isFrame ++ [nalu] := by
    simp [hframe]
  obtain ⟨hcodec, hfinder, -⟩ := w.receiver.passOn_frame nalu
  refine { codec := hcodec.trans h.codec, split := h.split.append hcomplete nalu,
           told := by dsimp only; rw [hfinder]; exact h.told, delivered := ?_, counted := ?_ }
  · dsimp only
    rw [hframes]
    by_cases hroom : w.receiver.HasRoom
    · rw [passOn_room hroom]
      exact h.delivered.append (List.Sublist.refl _)
    · rw [passOn_full hroom]
      exact h.delivered.trans (List.sublist_append_left _ _)
  · dsimp only
    rw [hframes, List.length_append, List.length_singleton]
    by_cases hroom : w.receiver.HasRoom
    · rw [passOn_room hroom, passOn_room_dropped hroom, List.length_append, List.length_singleton]
      omega
    · rw [passOn_full hroom]
      dsimp only
      omega

end Passes

/-- **One event**: what has become of the NALUs is known after it. -/
theorem passes_step {isH265 : Bool} {w w' : World} {event : Event}
    (hw : ∃ before after, Passes isH265 w before after) (h : w.step event = .ok w') :
    ∃ before after, Passes isH265 w' before after := by
  obtain ⟨before, after, hw⟩ := hw
  cases event with
  | queueData naluData =>
      obtain ⟨nalu, hnalu, h⟩ := bind_eq_ok_iff.mp h
      obtain ⟨receiver, hreceiver, h⟩ := bind_eq_ok_iff.mp h
      obtain rfl := Except.ok.inj h
      obtain ⟨hall, heq⟩ | ⟨hall, ⟨kind, other, hset, -⟩, heq⟩ | ⟨hall, hframe, heq⟩ |
        ⟨hall, hframe, heq⟩ := queueData_cases hnalu
      · obtain rfl := Except.ok.inj (heq.symm.trans hreceiver)
        have hnot : ¬ Complete isH265 before := fun hcomplete => by
          rw [hw.complete_iff.mpr hcomplete] at hall
          cases hall
        exact ⟨_, _, hw.save hnot nalu⟩
      · obtain rfl := Except.ok.inj (heq.symm.trans hreceiver)
        have hskip := hw.skip (hw.complete_iff.mp hall) (NALU.isFrame_of_parameterSet hset)
        exact ⟨_, _, hskip.of_eq rfl rfl rfl rfl⟩
      · obtain rfl := Except.ok.inj (heq.symm.trans hreceiver)
        exact ⟨_, _, hw.skip (hw.complete_iff.mp hall) hframe⟩
      · obtain rfl := Except.ok.inj (heq.symm.trans hreceiver)
        exact ⟨_, _, hw.passOn (hw.complete_iff.mp hall) hframe⟩
  | registerNewNaluCallback cb =>
      obtain rfl := Except.ok.inj h
      exact ⟨before, after, hw.of_eq rfl rfl rfl rfl⟩
  | getNextFrame =>
      obtain rfl := Except.ok.inj h
      refine ⟨before, after, hw.of_eq ?_ ?_ ?_ ?_⟩ <;>
        (dsimp only [RTPReceiver.getNextFrame]; split <;> rfl)

/-! ### The queue -/

/-- `queue_data` leaves the queue and what has been delivered alone, or passes
the NALU on. -/
theorem queueData_queue {s s' : RTPReceiver} {naluData : List UInt8} {nalu : NALU}
    (h : s.queueData naluData = .ok s') (hnalu : NALU.ofData naluData s.isH265 = .ok nalu) :
    s' = s.passOn nalu ∨ (s'.newNaluCb = s.newNaluCb ∧ s'.dataQueue = s.dataQueue ∧
      s'.nDroppedFrames = s.nDroppedFrames ∧ s'.delivered = s.delivered ∧
      s'.fetched = s.fetched) := by
  obtain ⟨-, heq⟩ | ⟨-, -, heq⟩ | ⟨-, -, heq⟩ | ⟨-, -, heq⟩ := queueData_cases hnalu
  iterate 3
    obtain rfl := Except.ok.inj (heq.symm.trans h)
    exact .inr ⟨rfl, rfl, rfl, rfl, rfl⟩
  obtain rfl := Except.ok.inj (heq.symm.trans h)
  exact .inl rfl

/-- The queue keeps the order.  Everything delivered has gone through it if there
was never a callback. -/
structure Queued (noCallback : Prop) (s : RTPReceiver) : Prop where
  sublist : (s.fetched ++ s.dataQueue).Sublist s.delivered
  bounded : s.dataQueue.length ≤ QUEUE_CAPACITY
  all : noCallback → s.newNaluCb = false ∧ s.fetched ++ s.dataQueue = s.delivered

namespace Queued

variable {noCallback : Prop} {s : RTPReceiver}

theorem new (isH265 : Bool) : Queued noCallback (RTPReceiver.new isH265) where
  sublist := List.Sublist.refl _
  bounded := Nat.zero_le _
  all := fun _ => ⟨rfl, rfl⟩

theorem passOn (h : Queued noCallback s) (nalu : NALU) : Queued noCallback (s.passOn nalu) := by
  unfold RTPReceiver.passOn
  split
  · rename_i hcb
    exact ⟨h.sublist.trans (List.sublist_append_left _ _), h.bounded,
      fun hno => absurd (hcb.symm.trans (h.all hno).1) (by decide)⟩
  split
  · rename_i hroom
    refine ⟨?_, ?_, fun hno => ⟨(h.all hno).1, ?_⟩⟩
    · rw [← List.append_assoc]
      exact h.sublist.append (List.Sublist.refl _)
    · rw [List.length_append, List.length_singleton]
      exact hroom
    · rw [← List.append_assoc, (h.all hno).2]
  · exact ⟨h.sublist, h.bounded, h.all⟩

theorem getNextFrame (h : Queued noCallback s) : Queued noCallback s.getNextFrame := by
  unfold RTPReceiver.getNextFrame
  split
  · rename_i nalu rest hqueue
    have hsublist := h.sublist
    have hbounded := h.bounded
    have hall := h.all
    rw [hqueue] at hsublist hbounded hall
    refine ⟨?_, Nat.le_of_succ_le hbounded, fun hno => ⟨(hall hno).1, ?_⟩⟩
    · simpa using hsublist
    · simpa using (hall hno).2
  · exact h

/-- **One event** that does not register a callback, or any event if that does not
matter. -/
theorem step {w w' : World} {event : Event} (hw : Queued noCallback w.receiver)
    (hevent : noCallback → event ≠ .registerNewNaluCallback true) (h : w.step event = .ok w') :
    Queued noCallback w'.receiver := by
  cases event with
  | queueData naluData =>
      obtain ⟨nalu, hnalu, h⟩ := bind_eq_ok_iff.mp h
      obtain ⟨receiver, hreceiver, h⟩ := bind_eq_ok_iff.mp h
      obtain rfl := Except.ok.inj h
      obtain rfl | ⟨hcb, hqueue, -, hdelivered, hfetched⟩ := queueData_queue hreceiver hnalu
      · exact hw.passOn nalu
      · obtain ⟨hsublist, hbounded, hall⟩ := hw
        rw [← hcb, ← hqueue, ← hdelivered, ← hfetched] at hall
        rw [← hqueue, ← hdelivered, ← hfetched] at hsublist
        rw [← hqueue] at hbounded
        exact ⟨hsublist, hbounded, hall⟩
  | registerNewNaluCallback cb =>
      obtain rfl := Except.ok.inj h
      refine ⟨hw.sublist, hw.bounded, fun hno => ⟨?_, (hw.all hno).2⟩⟩
      cases cb with
      | false => rfl
      | true => exact absurd rfl (hevent hno)
  | getNextFrame =>
      obtain rfl := Except.ok.inj h
      exact hw.getNextFrame

end Queued

/-- With room for every frame nothing is dropped. -/
theorem not_dropped_step {w w' : World} {event : Event} (hw : w.receiver.nDroppedFrames = 0)
    (hroom : w.receiver.HasRoom) (h : w.step event = .ok w') :
    w'.receiver.nDroppedFrames = 0 := by
  cases event with
  | queueData naluData =>
      obtain ⟨nalu, hnalu, h⟩ := bind_eq_ok_iff.mp h
      obtain ⟨receiver, hreceiver, h⟩ := bind_eq_ok_iff.mp h
      obtain rfl := Except.ok.inj h
      obtain rfl | ⟨-, -, hdropped, -⟩ := queueData_queue hreceiver hnalu
      · exact (passOn_room_dropped hroom nalu).trans hw
      · exact hdropped.trans hw
  | registerNewNaluCallback cb =>
      obtain rfl := Except.ok.inj h
      exact hw
  | getNextFrame =>
      obtain rfl := Except.ok.inj h
      refine Eq.trans ?_ hw
      dsimp only [RTPReceiver.getNextFrame]
      split <;> rfl

/-! ### Runs -/

/-- **What a receiver makes of the NALUs it is given.** -/
structure CarriesFrames (isH265 : Bool) (events : List Event) (w : World) : Prop where
  /-- Frames behind the configuration are delivered or counted, and all of them are
  delivered if there is always room. -/
  passes : ∃ before after, Passes isH265 w before after ∧
    (EveryStep (fun w _ => w.receiver.HasRoom) step (new isH265) events →
      w.receiver.delivered = after.filter NALU.isFrame)
  queued : Queued (.registerNewNaluCallback true ∉ events) w.receiver

/-- An event gives no NALU, or one that passes the asserts. -/
theorem safe_step {w : World} {event : Event}
    (h : ∀ naluData, event.naluData = some naluData →
      Safe (NALU.ofData naluData w.receiver.isH265)) : Safe (w.step event) := by
  cases event with
  | queueData naluData =>
      obtain ⟨nalu, hnalu⟩ := h naluData rfl
      obtain ⟨-, heq⟩ | ⟨-, -, heq⟩ | ⟨-, -, heq⟩ | ⟨-, -, heq⟩ := queueData_cases hnalu <;>
        exact ⟨_, by simp only [step, hnalu, heq, ok_bind]; rfl⟩
  | registerNewNaluCallback cb => exact ⟨_, rfl⟩
  | getNextFrame => exact ⟨_, rfl⟩

/-- A run over valid NALUs comes to its end. -/
theorem run_carriesFrames {isH265 : Bool} {events : List Event}
    (hvalid : ∀ naluData ∈ events.filterMap Event.naluData, Safe (NALU.ofData naluData isH265)) :
    ∃ w, run step (new isH265) events = .ok w ∧ CarriesFrames isH265 events w := by
  let I (w : World) : Prop := (∃ before after, Passes isH265 w before after) ∧
    Queued (.registerNewNaluCallback true ∉ events) w.receiver
  have hstep : ∀ w event, I w → event ∈ events → ∃ w', w.step event = .ok w' ∧ I w' := by
    rintro w event ⟨hpasses, hqueued⟩ hevent
    have hcodec : w.receiver.isH265 = isH265 := by
      obtain ⟨_, _, h⟩ := hpasses
      exact h.codec
    obtain ⟨w', h'⟩ := safe_step (w := w) fun naluData hdata => by
      rw [hcodec]
      exact hvalid naluData (List.mem_filterMap.mpr ⟨event, hevent, hdata⟩)
    exact ⟨w', h', passes_step hpasses h', hqueued.step (fun hno heq => hno (heq ▸ hevent)) h'⟩
  have hnew : I (new isH265) := ⟨⟨[], [], .new⟩, .new isH265⟩
  obtain ⟨w, hw, ⟨before, after, hpasses⟩, hqueued⟩ := run_total hstep hnew fun _ h => h
  refine ⟨w, hw, ⟨before, after, hpasses, fun hroom => ?_⟩, hqueued⟩
  have hdropped : w.receiver.nDroppedFrames = 0 := run_invariant_of_everyStep
    (I := fun w => w.receiver.nDroppedFrames = 0) (fun w event w' => not_dropped_step) rfl hroom hw
  have hcounted := hpasses.counted
  rw [hdropped, Nat.add_zero] at hcounted
  exact hpasses.delivered.eq_of_length hcounted

/-- NALUs of one codec are told apart by their data. -/
theorem eq_of_map_data {isH265 : Bool} {nalus others : List NALU}
    (hnalus : ∀ nalu ∈ nalus, nalu.isH265 = isH265)
    (hothers : ∀ nalu ∈ others, nalu.isH265 = isH265)
    (h : nalus.map NALU.data = others.map NALU.data) : nalus = others := by
  have hinj : Function.Injective fun nalu : NALU => (nalu.data, nalu.isH265) := by
    rintro ⟨data, isH265, _, _⟩ ⟨data', isH265', _, _⟩ heq
    obtain ⟨rfl, rfl⟩ := Prod.mk.inj heq
    rfl
  have hpair : ∀ l : List NALU, (∀ nalu ∈ l, nalu.isH265 = isH265) →
      l.map (fun nalu => (nalu.data, nalu.isH265)) = (l.map NALU.data).map (·, isH265) := by
    intro l hl
    rw [List.map_map]
    exact List.map_congr_left fun nalu hnalu => Prod.ext rfl (hl nalu hnalu)
  refine List.map_injective_iff.mpr hinj ?_
  rw [hpair nalus hnalus, hpair others hothers, h]

/-- The receiver has been given the NALUs of its events. -/
theorem CarriesFrames.given_eq {isH265 : Bool} {events : List Event} {w : World}
    (hw : CarriesFrames isH265 events w) (h : run step (new isH265) events = .ok w)
    {nalus : List NALU} (hcodec : ∀ nalu ∈ nalus, nalu.isH265 = isH265)
    (hdata : events.filterMap Event.naluData = nalus.map NALU.data) : w.given = nalus := by
  obtain ⟨_, _, hpasses, -⟩ := hw.passes
  have hinv : Inv w := run_invariant (I := Inv) (fun _ _ _ => inv_step) (inv_new isH265) h
  refine eq_of_map_data (fun nalu hnalu => (hinv.codec nalu hnalu).trans hpasses.codec) hcodec ?_
  rw [run_given h, hdata]
  rfl

end World

end RTPReceiver

/-! ### Senders -/

open Reassembly RTPDecoder RTPReceiver

/-- A sender whose NALUs pass the asserts of the receiver's constructor. -/
structure VideoSender (isH265 : Bool) (c : Codec) (ι ν : Type) extends Sender c ι ν where
  parse_eq : c.parse = udpRawDataCallback isH265
  nalu : ν → NALU
  data_nalu : ∀ n, (nalu n).data = startCode ++ bytes n
  isH265_nalu : ∀ n, (nalu n).isH265 = isH265

theorem hasValidPrefix_startCode_append (bytes : List UInt8) :
    NALU.hasValidPrefix (startCode ++ bytes) = true := rfl

def h265Video : VideoSender true h265Codec H265Item H265Nalu where
  toSender := h265Sender
  parse_eq := rfl
  nalu n := {
    data := startCode ++ n.bytes
    isH265 := true
    prefixValid := hasValidPrefix_startCode_append _
    sizeValid := by
      have hbody := List.length_pos_of_ne_nil n.body_ne
      simp [NALU.getMinimumNaluSize, H265Nalu.bytes, startCode] }
  data_nalu _ := rfl
  isH265_nalu _ := rfl

namespace VideoSender

open World

variable {isH265 : Bool} {c : Codec} {ι ν : Type} (video : VideoSender isH265 c ι ν)
  (fields : ℕ → RtpFields) (items : List ι)

/-- The NALUs that are sent, as the receiver will see them. -/
def sent : List NALU := (items.flatMap video.nalus).map video.nalu

theorem isH265_sent : ∀ nalu ∈ video.sent items, nalu.isH265 = isH265 := by
  intro nalu hnalu
  obtain ⟨n, -, rfl⟩ := List.mem_map.mp hnalu
  exact video.isH265_nalu n

theorem map_data_sent :
    (video.sent items).map NALU.data =
      ((items.flatMap video.nalus).map video.bytes).map (startCode ++ ·) := by
  rw [sent, List.map_map, List.map_map]
  exact List.map_congr_left fun n _ => video.data_nalu n

/-- A receiver whose events give it NALUs that have been sent. -/
theorem receives {nalus : List NALU} (hsub : nalus.Sublist (video.sent items)) {events : List Event}
    (hdata : events.filterMap Event.naluData = nalus.map NALU.data) :
    ∃ w, run World.step (World.new isH265) events = .ok w ∧ w.given = nalus ∧
      CarriesFrames isH265 events w := by
  have hcodec : ∀ nalu ∈ nalus, nalu.isH265 = isH265 :=
    fun nalu hnalu => video.isH265_sent items nalu (hsub.subset hnalu)
  have hvalid : ∀ naluData ∈ events.filterMap Event.naluData,
      Safe (NALU.ofData naluData isH265) := by
    intro naluData h
    rw [hdata] at h
    obtain ⟨nalu, hnalu, rfl⟩ := List.mem_map.mp h
    exact ⟨nalu, NALU.ofData_eq_ok_iff.mpr ⟨rfl, hcodec nalu hnalu⟩⟩
  obtain ⟨w, hw, hcarries⟩ := run_carriesFrames hvalid
  exact ⟨w, hw, hcarries.given_eq hw hcodec hdata, hcarries⟩

/-- **Loss**: if the receiver misses the first `joinAt` packets, and then any
packets but never 65535 in a row, and the side condition of the codec is met
(H264 has none), it is given a subsequence of the NALUs that were sent, and carries their
frames. -/
theorem frames_lossy (hclean : ∀ n ∈ items.flatMap video.nalus, Clean (video.bytes n))
    (start joinAt : ℕ) (copies : List ℕ) (hfew : ¬ List.replicate 65535 0 <:+: copies)
    (hspares : EveryStep c.SparesMissing c.parse (RTPDecoder.new true false)
      (arrivals fields start
        ((items.flatMap video.payloads).zip (List.replicate joinAt 0 ++ copies)))) :
    ∃ s, run (udpRawDataCallback isH265) (RTPDecoder.new true false)
        (arrivals fields start
          ((items.flatMap video.payloads).zip (List.replicate joinAt 0 ++ copies))) = .ok s ∧
      ∀ events : List Event, events.filterMap Event.naluData <+: s.handed →
        ∃ w, run World.step (World.new isH265) events = .ok w ∧
          w.given.map NALU.data = events.filterMap Event.naluData ∧
          w.given.Sublist (video.sent items) ∧ CarriesFrames isH265 events w := by
  obtain ⟨s, delivered, hs, hsub, hhanded⟩ :=
    video.toSender.lossSafe fields items hclean start joinAt hfew hspares
  refine ⟨s, video.parse_eq ▸ hs, fun events hevents => ?_⟩
  -- what the events give is a subsequence of what has been sent
  have hdata : (events.filterMap Event.naluData).Sublist ((video.sent items).map NALU.data) := by
    refine hevents.sublist.trans ?_
    rw [hhanded, map_data_sent]
    exact hsub.map _
  obtain ⟨nalus, hnalus, heq⟩ := List.sublist_map_iff.mp hdata
  obtain ⟨w, hw, rfl, hcarries⟩ := video.receives items hnalus heq
  exact ⟨w, hw, heq.symm, hnalus, hcarries⟩

/-- The H265 sample, without the packet of its own and the first fragment. -/
theorem frames_lossy_sample :
    ∃ s, run (udpRawDataCallback true) (RTPDecoder.new true false)
        (arrivals (fun _ => ⟨96, .replicate 8 0⟩) 65533
          ((h265Sample.flatMap h265Video.payloads).zip
            (List.replicate 1 0 ++ [1, 0, 1, 1, 1]))) = .ok s ∧
      ∀ events : List Event, events.filterMap Event.naluData <+: s.handed →
        ∃ w, run World.step (World.new true) events = .ok w ∧
          w.given.map NALU.data = events.filterMap Event.naluData ∧
          w.given.Sublist (h265Video.sent h265Sample) ∧ CarriesFrames true events w :=
  h265Video.frames_lossy (fun _ => ⟨96, .replicate 8 0⟩) h265Sample (by decide) 65533 1
    [1, 0, 1, 1, 1]
    (fun h => absurd h.length_le (by rw [List.length_replicate]; decide))
    (show EveryStep NoHoleForwarded parseRTPH265toNALU _ _ by decide)

end VideoSender

end QOpenHD
