/-
QOpenHD/RTPReceiver.lean

What `RTPReceiver` passes on of the NALUs that the parser hands it
(`rtpreceiver.cpp`).

The system: a receiver and the NALUs it has been given so far (`World`).
NALUs arrive, the decoder registers its callback or takes it back, and fetches
frames from the queue (`Event`).  A NALU is delivered when `queue_data` hands
it to the callback or has put it into the queue.

The receiver waits until it has seen a parameter set of every kind, keeps what
it has, and delivers frames only.  A later parameter set that differs raises
`config_has_changed_during_decode`.  This is where it should stop, until the
decoder is built anew, but the line that would do so is commented out.

* **`delivery_filter`**: all that is delivered are frames, in the order of
  their arrival; and they follow only the parameter sets that the decoder is
  told, exactly if no frame arrives after two different parameter sets of one
  kind.
* `frame_after_change`: a frame that is delivered all the same.

Statistics are left out.
-/
import QOpenHD.CodecConfig

namespace QOpenHD

open Checked

structure RTPReceiver where
  isH265 : Bool
  keyframeFinder : CodecConfigFinder
  configHasChangedDuringDecode : Bool
  /-- `m_new_nalu_cb` is set. -/
  newNaluCb : Bool
  dataQueue : List NALU
  nDroppedFrames : ℕ
  /-- What the callback was given or the queue has accepted. -/
  delivered : List NALU
  /-- What `get_next_frame` has returned. -/
  fetched : List NALU

namespace RTPReceiver

def new (isH265 : Bool) : RTPReceiver where
  isH265 := isH265
  keyframeFinder := .new
  configHasChangedDuringDecode := false
  newNaluCb := false
  dataQueue := []
  nDroppedFrames := 0
  delivered := []
  fetched := []

def registerNewNaluCallback (s : RTPReceiver) (cb : Bool) : RTPReceiver :=
  { s with newNaluCb := cb }

/-- The capacity of `m_data_queue`. -/
def QUEUE_CAPACITY : ℕ := 20

def getNextFrame (s : RTPReceiver) : RTPReceiver :=
  match s.dataQueue with
  | nalu :: rest => { s with dataQueue := rest, fetched := s.fetched ++ [nalu] }
  | [] => s

/-- The end of `queue_data`: the callback if there is one, the queue if not. -/
def passOn (s : RTPReceiver) (nalu : NALU) : RTPReceiver :=
  if s.newNaluCb then { s with delivered := s.delivered ++ [nalu] }
  else if s.dataQueue.length < QUEUE_CAPACITY then
    { s with dataQueue := s.dataQueue ++ [nalu], delivered := s.delivered ++ [nalu] }
  else { s with nDroppedFrames := s.nDroppedFrames + 1 }

def queueData (s : RTPReceiver) (naluData : List UInt8) : Exec RTPReceiver := do
  -- the check of `config_has_changed_during_decode` is commented out
  let nalu ← NALU.ofData naluData s.isH265
  if s.keyframeFinder.allConfigAvailable s.isH265 then
    let same ← s.keyframeFinder.checkIsStillSameConfigData nalu
    if !same then pure { s with configHasChangedDuringDecode := true }
    else if nalu.isConfig then pure s
    else if nalu.isAud then pure s
    else if nalu.isSei then pure s
    else if nalu.isDps then pure s
    else pure (s.passOn nalu)
  else pure { s with keyframeFinder := s.keyframeFinder.saveIfConfig nalu }

/-- There is a decoder that takes a frame, or room for one. -/
def HasRoom (s : RTPReceiver) : Prop :=
  s.newNaluCb = true ∨ s.dataQueue.length < QUEUE_CAPACITY

theorem passOn_room {s : RTPReceiver} (h : s.HasRoom) (nalu : NALU) :
    (s.passOn nalu).delivered = s.delivered ++ [nalu] := by
  unfold passOn
  split
  · rfl
  split
  · rfl
  · rename_i hcb hqueue
    exact absurd h (not_or.mpr ⟨hcb, hqueue⟩)

theorem passOn_full {s : RTPReceiver} (h : ¬ s.HasRoom) (nalu : NALU) :
    s.passOn nalu = { s with nDroppedFrames := s.nDroppedFrames + 1 } := by
  obtain ⟨hcb, hqueue⟩ := not_or.mp h
  rw [passOn, if_neg hcb, if_neg hqueue]

/-- Passing a NALU on touches the queue and the logs only. -/
theorem passOn_frame (s : RTPReceiver) (nalu : NALU) :
    (s.passOn nalu).isH265 = s.isH265 ∧ (s.passOn nalu).keyframeFinder = s.keyframeFinder ∧
      (s.passOn nalu).configHasChangedDuringDecode = s.configHasChangedDuringDecode := by
  unfold passOn
  split_ifs <;> exact ⟨rfl, rfl, rfl⟩

/-- **What `queue_data` can do** with a valid NALU: save it, notice a change,
drop it or pass it on. -/
theorem queueData_cases {s : RTPReceiver} {naluData : List UInt8} {nalu : NALU}
    (hnalu : NALU.ofData naluData s.isH265 = .ok nalu) :
    (s.keyframeFinder.allConfigAvailable s.isH265 = false ∧
      s.queueData naluData =
        .ok { s with keyframeFinder := s.keyframeFinder.saveIfConfig nalu }) ∨
    (s.keyframeFinder.allConfigAvailable s.isH265 = true ∧
      (∃ kind other, nalu.parameterSet = some kind ∧ s.keyframeFinder.stored kind = some other ∧
        nalu.data ≠ other.data) ∧
      s.queueData naluData = .ok { s with configHasChangedDuringDecode := true }) ∨
    (s.keyframeFinder.allConfigAvailable s.isH265 = true ∧ nalu.isFrame = false ∧
      s.queueData naluData = .ok s) ∨
    (s.keyframeFinder.allConfigAvailable s.isH265 = true ∧ nalu.isFrame = true ∧
      s.queueData naluData = .ok (s.passOn nalu)) := by
  unfold queueData
  rw [hnalu, ok_bind]
  cases hall : s.keyframeFinder.allConfigAvailable s.isH265 with
  | false => exact .inl ⟨rfl, rfl⟩
  | true =>
      refine .inr ?_
      have hall' : s.keyframeFinder.allConfigAvailable nalu.isH265 = true := by
        rw [(NALU.ofData_eq_ok_iff.mp hnalu).2, hall]
      rcases hset : nalu.parameterSet with - | kind
      · have hconfig : nalu.isConfig = false := by rw [nalu.isConfig_eq_isSome, hset]; rfl
        rw [if_pos rfl, CodecConfigFinder.checkIsStillSameConfigData_none hall' hset, ok_bind]
        refine .inr ?_
        unfold NALU.isFrame
        cases haud : nalu.isAud <;> cases hsei : nalu.isSei <;> cases hdps : nalu.isDps <;>
          simp [hconfig] <;> rfl
      · obtain ⟨other, hother, hcheck⟩ :=
          CodecConfigFinder.checkIsStillSameConfigData_some hall' hset
        have hconfig : nalu.isConfig = true := by rw [nalu.isConfig_eq_isSome, hset]; rfl
        rw [if_pos rfl, hcheck, ok_bind]
        by_cases hsame : nalu.data = other.data
        · refine .inr (.inl ⟨rfl, NALU.isFrame_of_parameterSet hset, ?_⟩)
          simp [hsame, hconfig]
          rfl
        · refine .inl ⟨rfl, ⟨kind, other, rfl, hother, hsame⟩, ?_⟩
          simp [hsame]
          rfl

/-! ### The system -/

/-- A receiver, and the NALUs it has been given. -/
structure World where
  receiver : RTPReceiver
  given : List NALU

inductive Event
  | queueData (naluData : List UInt8)
  | registerNewNaluCallback (cb : Bool)
  | getNextFrame

/-- The NALUs that arrive. -/
def Event.naluData : Event → Option (List UInt8)
  | .queueData naluData => some naluData
  | .registerNewNaluCallback _ => none
  | .getNextFrame => none

namespace World

def new (isH265 : Bool) : World := ⟨RTPReceiver.new isH265, []⟩

def step (w : World) : Event → Exec World
  | .queueData naluData => do
      let nalu ← NALU.ofData naluData w.receiver.isH265
      let receiver ← w.receiver.queueData naluData
      pure { receiver := receiver, given := w.given ++ [nalu] }
  | .registerNewNaluCallback cb =>
      .ok { w with receiver := w.receiver.registerNewNaluCallback cb }
  | .getNextFrame => .ok { w with receiver := w.receiver.getNextFrame }

/-- The event makes the receiver deliver something. -/
def Delivers (w : World) (event : Event) : Prop :=
  ∃ w', w.step event = .ok w' ∧ w'.receiver.delivered ≠ w.receiver.delivered

/-- The decoder can be told the configuration, no change has been noticed, and
every parameter set so far is the one that the decoder is told. -/
def FollowsConfig (w : World) : Prop :=
  Safe (w.receiver.keyframeFinder.getConfigData w.receiver.isH265) ∧
    w.receiver.configHasChangedDuringDecode = false ∧
    ∀ nalu ∈ w.given, ∀ kind, nalu.parameterSet = some kind →
      ∃ told, w.receiver.keyframeFinder.stored kind = some told ∧ told.data = nalu.data

/-- There is one parameter set of each kind at most. -/
def Steady (nalus : List NALU) : Prop :=
  ∀ nalu ∈ nalus, ∀ other ∈ nalus, ∀ kind, nalu.parameterSet = some kind →
    other.parameterSet = some kind → nalu.data = other.data

/-- **The condition**: if a frame arrives that will be delivered, the sender has
not changed its parameter sets. -/
def SteadyConfig (w : World) : Event → Prop
  | .queueData naluData => ∀ nalu, NALU.ofData naluData w.receiver.isH265 = .ok nalu →
      nalu.isFrame = true →
      w.receiver.keyframeFinder.allConfigAvailable w.receiver.isH265 = true →
      w.receiver.HasRoom → Steady w.given
  | .registerNewNaluCallback _ => True
  | .getNextFrame => True

/-! ### The invariant -/

structure Inv (w : World) : Prop where
  codec : ∀ nalu ∈ w.given, nalu.isH265 = w.receiver.isH265
  storedGiven : ∀ kind nalu, w.receiver.keyframeFinder.stored kind = some nalu →
    nalu ∈ w.given ∧ nalu.parameterSet = some kind
  givenStored : ∀ nalu ∈ w.given, ∀ kind, nalu.parameterSet = some kind →
    (w.receiver.keyframeFinder.stored kind).isSome
  changed : w.receiver.configHasChangedDuringDecode = true → ¬ Steady w.given
  sublist : w.receiver.delivered.Sublist w.given
  frames : ∀ nalu ∈ w.receiver.delivered, nalu.isFrame = true

theorem inv_new (isH265 : Bool) : Inv (new isH265) where
  codec := fun _ h => absurd h List.not_mem_nil
  storedGiven := fun kind _ h => by cases kind <;> cases h
  givenStored := fun _ h => absurd h List.not_mem_nil
  changed := fun h => nomatch h
  sublist := List.Sublist.refl _
  frames := fun _ h => absurd h List.not_mem_nil

/-- What was not steady does not become so. -/
theorem Steady.of_append {nalus more : List NALU} (h : Steady (nalus ++ more)) : Steady nalus :=
  fun nalu hnalu other hother =>
    h nalu (List.mem_append_left _ hnalu) other (List.mem_append_left _ hother)

/-- The invariant speaks of the receiver through these four fields. -/
theorem Inv.of_eq {w w' : World} (hw : Inv w) (hgiven : w'.given = w.given)
    (hcodec : w'.receiver.isH265 = w.receiver.isH265)
    (hfinder : w'.receiver.keyframeFinder = w.receiver.keyframeFinder)
    (hchanged : w'.receiver.configHasChangedDuringDecode =
      w.receiver.configHasChangedDuringDecode)
    (hdelivered : w'.receiver.delivered = w.receiver.delivered) : Inv w' where
  codec := by rw [hgiven, hcodec]; exact hw.codec
  storedGiven := by rw [hgiven, hfinder]; exact hw.storedGiven
  givenStored := by rw [hgiven, hfinder]; exact hw.givenStored
  changed := by rw [hgiven, hchanged]; exact hw.changed
  sublist := by rw [hgiven, hdelivered]; exact hw.sublist
  frames := by rw [hdelivered]; exact hw.frames

section Given

variable {w : World} {nalu : NALU}

theorem Inv.codec_append (hw : Inv w) (hnalu : nalu.isH265 = w.receiver.isH265) :
    ∀ other ∈ w.given ++ [nalu], other.isH265 = w.receiver.isH265 := by
  intro other hother
  rcases List.mem_append.mp hother with h | h
  · exact hw.codec other h
  · rw [List.mem_singleton.mp h, hnalu]

/-- A NALU is given while the configuration is not complete: it is saved. -/
theorem Inv.save (hw : Inv w) (hnalu : nalu.isH265 = w.receiver.isH265) :
    Inv ⟨{ w.receiver with
      keyframeFinder := w.receiver.keyframeFinder.saveIfConfig nalu }, w.given ++ [nalu]⟩ where
  codec := hw.codec_append hnalu
  storedGiven := by
    intro kind other hother
    rw [CodecConfigFinder.stored_saveIfConfig] at hother
    split_ifs at hother with hset
    -- it is stored now, or another one was stored before
    · obtain rfl := Option.some.inj hother
      exact ⟨by simp, hset⟩
    · obtain ⟨hmem, hkind⟩ := hw.storedGiven kind other hother
      exact ⟨List.mem_append_left _ hmem, hkind⟩
  givenStored := by
    intro other hother kind hkind
    rw [CodecConfigFinder.stored_saveIfConfig]
    split_ifs with hset
    · rfl
    rcases List.mem_append.mp hother with h | h
    · exact hw.givenStored other h kind hkind
    · rw [List.mem_singleton.mp h] at hkind
      exact absurd hkind hset
  changed := fun h hsteady => hw.changed h hsteady.of_append
  sublist := hw.sublist.trans (List.sublist_append_left _ _)
  frames := hw.frames

/-- A NALU is given when the configuration is complete: it is not saved. -/
theorem Inv.notSave (hw : Inv w) (hnalu : nalu.isH265 = w.receiver.isH265)
    (hall : w.receiver.keyframeFinder.allConfigAvailable w.receiver.isH265 = true) :
    Inv ⟨w.receiver, w.given ++ [nalu]⟩ where
  codec := hw.codec_append hnalu
  storedGiven := fun kind other hother =>
    ⟨List.mem_append_left _ (hw.storedGiven kind other hother).1,
      (hw.storedGiven kind other hother).2⟩
  givenStored := by
    intro other hother kind hkind
    rcases List.mem_append.mp hother with h | h
    · exact hw.givenStored other h kind hkind
    · rw [List.mem_singleton.mp h] at hkind
      -- a parameter set of this kind is needed, so there is one
      refine CodecConfigFinder.allConfigAvailable_iff.mp hall kind ?_
      rw [← hnalu]
      exact NALU.needed_of_parameterSet hkind
  changed := fun h hsteady => hw.changed h hsteady.of_append
  sublist := hw.sublist.trans (List.sublist_append_left _ _)
  frames := hw.frames

/-- A parameter set that differs from the stored one: the change is noticed. -/
theorem Inv.change (hw : Inv w) {kind : ParameterSet} {other : NALU}
    (hset : nalu.parameterSet = some kind)
    (hother : w.receiver.keyframeFinder.stored kind = some other)
    (hne : nalu.data ≠ other.data) (hnalu : nalu.isH265 = w.receiver.isH265)
    (hall : w.receiver.keyframeFinder.allConfigAvailable w.receiver.isH265 = true) :
    Inv ⟨{ w.receiver with configHasChangedDuringDecode := true }, w.given ++ [nalu]⟩ :=
  { hw.notSave hnalu hall with
    changed := fun _ hsteady => by
      obtain ⟨hmem, hkind⟩ := hw.storedGiven kind other hother
      exact hne (hsteady nalu (by simp) other (List.mem_append_left _ hmem) kind hset hkind) }

/-- A frame is given when the configuration is complete. -/
theorem Inv.passOn (hw : Inv w) (hframe : nalu.isFrame = true)
    (hnalu : nalu.isH265 = w.receiver.isH265)
    (hall : w.receiver.keyframeFinder.allConfigAvailable w.receiver.isH265 = true) :
    Inv ⟨w.receiver.passOn nalu, w.given ++ [nalu]⟩ := by
  have hkeep := hw.notSave hnalu hall
  by_cases hroom : w.receiver.HasRoom
  · obtain ⟨hcodec, hfinder, hchanged⟩ := w.receiver.passOn_frame nalu
    exact {
      codec := by dsimp only; rw [hcodec]; exact hkeep.codec
      storedGiven := by dsimp only; rw [hfinder]; exact hkeep.storedGiven
      givenStored := by dsimp only; rw [hfinder]; exact hkeep.givenStored
      changed := by dsimp only; rw [hchanged]; exact hkeep.changed
      -- delivered is one more, the last that was given
      sublist := by
        dsimp only
        rw [passOn_room hroom]
        exact hw.sublist.append (List.Sublist.refl _)
      frames := by
        dsimp only
        rw [passOn_room hroom]
        intro other hother
        rcases List.mem_append.mp hother with h | h
        · exact hw.frames other h
        · rwa [List.mem_singleton.mp h] }
  · rw [passOn_full hroom]
    exact hkeep.of_eq rfl rfl rfl rfl rfl

end Given

/-- **One event** keeps the invariant. -/
theorem inv_step {w w' : World} {event : Event} (hw : Inv w) (h : w.step event = .ok w') :
    Inv w' := by
  cases event with
  | queueData naluData =>
      obtain ⟨nalu, hnalu, h⟩ := bind_eq_ok_iff.mp h
      obtain ⟨receiver, hreceiver, h⟩ := bind_eq_ok_iff.mp h
      obtain rfl := Except.ok.inj h
      have hcodec : nalu.isH265 = w.receiver.isH265 := (NALU.ofData_eq_ok_iff.mp hnalu).2
      obtain ⟨-, heq⟩ | ⟨hall, ⟨kind, other, hset, hother, hne⟩, heq⟩ | ⟨hall, -, heq⟩ |
        ⟨hall, hframe, heq⟩ := queueData_cases hnalu
      · obtain rfl := Except.ok.inj (heq.symm.trans hreceiver)
        exact hw.save hcodec
      · obtain rfl := Except.ok.inj (heq.symm.trans hreceiver)
        exact hw.change hset hother hne hcodec hall
      · obtain rfl := Except.ok.inj (heq.symm.trans hreceiver)
        exact hw.notSave hcodec hall
      · obtain rfl := Except.ok.inj (heq.symm.trans hreceiver)
        exact hw.passOn hframe hcodec hall
  | registerNewNaluCallback cb =>
      obtain rfl := Except.ok.inj h
      exact hw.of_eq rfl rfl rfl rfl rfl
  | getNextFrame =>
      obtain rfl := Except.ok.inj h
      refine hw.of_eq rfl ?_ ?_ ?_ ?_ <;>
        (dsimp only [RTPReceiver.getNextFrame]; split <;> rfl)

/-! ### Deliveries -/

/-- A NALU is delivered exactly if it is a frame, the configuration is complete
and there is room. -/
theorem delivers_queueData_iff {w : World} {naluData : List UInt8} :
    w.Delivers (.queueData naluData) ↔
      ∃ nalu, NALU.ofData naluData w.receiver.isH265 = .ok nalu ∧ nalu.isFrame = true ∧
        w.receiver.keyframeFinder.allConfigAvailable w.receiver.isH265 = true ∧
        w.receiver.HasRoom := by
  constructor
  · rintro ⟨w', h, hne⟩
    obtain ⟨nalu, hnalu, h⟩ := bind_eq_ok_iff.mp h
    obtain ⟨receiver, hreceiver, h⟩ := bind_eq_ok_iff.mp h
    obtain rfl := Except.ok.inj h
    obtain ⟨-, heq⟩ | ⟨-, -, heq⟩ | ⟨-, -, heq⟩ | ⟨hall, hframe, heq⟩ := queueData_cases hnalu
    -- saved, noticed or passed over: nothing is delivered
    iterate 3
      obtain rfl := Except.ok.inj (heq.symm.trans hreceiver)
      exact absurd rfl hne
    refine ⟨nalu, hnalu, hframe, hall, ?_⟩
    by_contra hroom
    obtain rfl := Except.ok.inj (heq.symm.trans hreceiver)
    rw [passOn_full hroom] at hne
    exact hne rfl
  · rintro ⟨nalu, hnalu, hframe, hall, hroom⟩
    obtain ⟨hnone, -⟩ | ⟨-, ⟨kind, _, hset, -⟩, -⟩ | ⟨-, hnot, -⟩ | ⟨-, -, heq⟩ :=
      queueData_cases hnalu
    · exact absurd (hall.symm.trans hnone) (by decide)
    · exact absurd (hframe.symm.trans (NALU.isFrame_of_parameterSet hset)) (by decide)
    · exact absurd (hframe.symm.trans hnot) (by decide)
    · refine ⟨⟨w.receiver.passOn nalu, w.given ++ [nalu]⟩, ?_, ?_⟩
      · simp only [step, hnalu, heq, ok_bind]
        rfl
      · rw [passOn_room hroom]
        simp

/-- The other events deliver nothing. -/
theorem not_delivers_registerNewNaluCallback (w : World) (cb : Bool) :
    ¬ w.Delivers (.registerNewNaluCallback cb) := by
  rintro ⟨w', h, hne⟩
  obtain rfl := Except.ok.inj h
  exact hne rfl

theorem not_delivers_getNextFrame (w : World) : ¬ w.Delivers .getNextFrame := by
  rintro ⟨w', h, hne⟩
  obtain rfl := Except.ok.inj h
  refine hne ?_
  dsimp only [RTPReceiver.getNextFrame]
  split <;> rfl

/-- Once the configuration is complete, the decoder is told all the parameter
sets there were exactly if there was one of each kind. -/
theorem followsConfig_iff_steady {w : World} (hw : Inv w)
    (hall : w.receiver.keyframeFinder.allConfigAvailable w.receiver.isH265 = true) :
    w.FollowsConfig ↔ Steady w.given := by
  constructor
  · rintro ⟨-, -, htold⟩ nalu hnalu other hother kind hkind hkind'
    obtain ⟨told, hstored, hdata⟩ := htold nalu hnalu kind hkind
    obtain ⟨told', hstored', hdata'⟩ := htold other hother kind hkind'
    obtain rfl := Option.some.inj (hstored.symm.trans hstored')
    rw [← hdata, hdata']
  · intro hsteady
    refine ⟨CodecConfigFinder.safe_getConfigData_iff.mpr hall, ?_, ?_⟩
    · by_contra hchanged
      exact hw.changed (by simpa using hchanged) hsteady
    · intro nalu hnalu kind hkind
      obtain ⟨told, hstored⟩ :=
        Option.isSome_iff_exists.mp (hw.givenStored nalu hnalu kind hkind)
      obtain ⟨hmem, hset⟩ := hw.storedGiven kind told hstored
      exact ⟨told, hstored, hsteady told hmem nalu hnalu kind hset hkind⟩

/-- **One event**: what it delivers follows the configuration exactly if the
sender has not changed it. -/
theorem delivers_followsConfig_iff {w : World} {event : Event} (hw : Inv w) :
    (w.Delivers event → w.FollowsConfig) ↔ w.SteadyConfig event := by
  cases event with
  | queueData naluData =>
      rw [delivers_queueData_iff]
      constructor
      · intro h nalu hnalu hframe hall hroom
        exact (followsConfig_iff_steady hw hall).mp (h ⟨nalu, hnalu, hframe, hall, hroom⟩)
      · rintro h ⟨nalu, hnalu, hframe, hall, hroom⟩
        exact (followsConfig_iff_steady hw hall).mpr (h nalu hnalu hframe hall hroom)
  | registerNewNaluCallback cb =>
      exact iff_of_true (fun h => absurd h (not_delivers_registerNewNaluCallback w cb)) trivial
  | getNextFrame => exact iff_of_true (fun h => absurd h (not_delivers_getNextFrame w)) trivial

/-! ### Runs -/

/-- The receiver has been given what has arrived. -/
theorem run_given {w w' : World} {events : List Event} (h : run step w events = .ok w') :
    w'.given.map NALU.data = w.given.map NALU.data ++ events.filterMap Event.naluData := by
  induction events generalizing w with
  | nil =>
      obtain rfl := Except.ok.inj h
      simp
  | cons event events ih =>
      obtain ⟨w₁, h₁, h⟩ := bind_eq_ok_iff.mp h
      rw [ih h]
      cases event with
      | queueData naluData =>
          obtain ⟨nalu, hnalu, h₁⟩ := bind_eq_ok_iff.mp h₁
          obtain ⟨receiver, -, h₁⟩ := bind_eq_ok_iff.mp h₁
          obtain rfl := Except.ok.inj h₁
          simp [Event.naluData, (NALU.ofData_eq_ok_iff.mp hnalu).1]
      | registerNewNaluCallback cb =>
          obtain rfl := Except.ok.inj h₁
          rfl
      | getNextFrame =>
          obtain rfl := Except.ok.inj h₁
          rfl

/-- What a receiver has delivered in a run: frames among the NALUs that have
arrived, in their order. -/
def Filtered (events : List Event) (w : World) : Prop :=
  (w.receiver.delivered.map NALU.data).Sublist (events.filterMap Event.naluData) ∧
    ∀ nalu ∈ w.receiver.delivered, nalu.isConfig = false ∧ nalu.isAud = false ∧
      nalu.isSei = false ∧ nalu.isDps = false

theorem filtered_of_run {isH265 : Bool} {events : List Event} {w : World}
    (h : run step (new isH265) events = .ok w) : Filtered events w := by
  have hw : Inv w := run_invariant (I := Inv) (fun _ _ _ => inv_step) (inv_new isH265) h
  constructor
  · have hgiven := run_given h
    rw [new, List.map_nil, List.nil_append] at hgiven
    rw [← hgiven]
    exact hw.sublist.map NALU.data
  · intro nalu hnalu
    simpa [NALU.isFrame, and_assoc] using hw.frames nalu hnalu

/-- **The filter of a receiver**: it passes on frames in the order of their
arrival, each when the configuration was complete and followed it, exactly if no
frame arrived after the sender had changed its parameter sets. -/
theorem delivery_filter (isH265 : Bool) (events : List Event) {w : World}
    (h : run step (new isH265) events = .ok w) :
    (Filtered events w ∧
        EveryStep (fun w event => w.Delivers event → w.FollowsConfig) step (new isH265) events) ↔
      EveryStep SteadyConfig step (new isH265) events := by
  rw [and_iff_right (filtered_of_run h)]
  exact everyStep_congr (I := Inv) (fun _ _ _ => inv_step)
    (fun _ _ => delivers_followsConfig_iff) (inv_new isH265) events

/-- SPS, PPS and a frame. -/
theorem delivery_filter_steady :
    ∃ w, run step (new false) [.queueData [0, 0, 0, 1, 0x67, 21], .queueData [0, 0, 0, 1, 0x68, 22],
        .queueData [0, 0, 0, 1, 0x65, 23]] = .ok w ∧
      ((Filtered [.queueData [0, 0, 0, 1, 0x67, 21], .queueData [0, 0, 0, 1, 0x68, 22],
          .queueData [0, 0, 0, 1, 0x65, 23]] w ∧
        EveryStep (fun w event => w.Delivers event → w.FollowsConfig) step (new false)
          [.queueData [0, 0, 0, 1, 0x67, 21], .queueData [0, 0, 0, 1, 0x68, 22],
            .queueData [0, 0, 0, 1, 0x65, 23]]) ↔
        EveryStep SteadyConfig step (new false) [.queueData [0, 0, 0, 1, 0x67, 21],
          .queueData [0, 0, 0, 1, 0x68, 22], .queueData [0, 0, 0, 1, 0x65, 23]]) :=
  ⟨_, rfl, delivery_filter false _ rfl⟩

/-- SPS, PPS, another SPS and a frame: the frame is delivered although the
change has been noticed. -/
theorem frame_after_change :
    ¬ ∀ (isH265 : Bool) (events : List Event) (w : World),
        run step (new isH265) events = .ok w →
        Filtered events w ∧
          EveryStep (fun w event => w.Delivers event → w.FollowsConfig) step (new isH265)
            events := by
  intro h
  obtain ⟨-, -, h₁⟩ := h false [.queueData [0, 0, 0, 1, 0x67, 31],
    .queueData [0, 0, 0, 1, 0x68, 32], .queueData [0, 0, 0, 1, 0x67, 33],
    .queueData [0, 0, 0, 1, 0x65, 34]] _ rfl
  obtain ⟨-, h₂⟩ := h₁ _ rfl
  obtain ⟨-, h₃⟩ := h₂ _ rfl
  obtain ⟨hdelivers, -⟩ := h₃ _ rfl
  have hfollows := hdelivers ⟨_, rfl, fun heq => nomatch congrArg List.length heq⟩
  exact absurd hfollows.2.1 (by decide)

end World

end RTPReceiver

end QOpenHD
