/-
QOpenHD/AnnexB.lean

`RawReceiver` on a well-formed stream.

A well-formed stream is a list of units, each two zeros or more, a one, and
the bytes of a NALU (`AnnexBUnit`), possibly with another start code at the
end.  A receiver that is between two bytes of it is described by `At`: the
beginning of its buffer, its search state and what it has queued.  The buffer
holds the start code in its normal form and the bytes behind it; while a start
code is being read it holds up to three of its zeros as well.

One lemma for each kind of byte, one for the data of a unit, one for a start
code, and by induction on the units

* **`annexB_roundTrip`** — the receiver queues exactly the units that are
  followed by a start code and have six bytes or more, however the stream is
  cut into payloads.
-/
import QOpenHD.RawReceiver

namespace QOpenHD

open Checked RawReceiver

/-! ### Streams -/

/-- A start code and a NALU.  The data does not end with a zero, which would be
taken for a part of the next start code. -/
structure AnnexBUnit where
  zeros : ℕ
  data : List UInt8
  zeros_ge : 2 ≤ zeros
  data_ne : data ≠ []
  clean : Clean data
  last_ne : ¬ [0] <:+ data
  fits : (startCodeOf (3 ≤ zeros)).length + data.length + 4 ≤ NALU_MAXLEN - 2

namespace AnnexBUnit

/-- The unit as it is written. -/
def written (u : AnnexBUnit) : List UInt8 := List.replicate u.zeros 0 ++ 1 :: u.data

/-- The unit as it is queued: with a start code of three or four bytes. -/
def normalised (u : AnnexBUnit) : List UInt8 := startCodeOf (3 ≤ u.zeros) ++ u.data

end AnnexBUnit

/-- Nothing, or a start code of two zeros or more. -/
def closingCode : Option ℕ → List UInt8
  | none => []
  | some extraZeros => List.replicate (2 + extraZeros) 0 ++ [1]

/-- The units one after another, and the closing start code if there is one. -/
def annexBStream (units : List AnnexBUnit) (closing : Option ℕ) : List UInt8 :=
  units.flatMap AnnexBUnit.written ++ closingCode closing

/-- The units that are followed by a start code. -/
def followedUnits (units : List AnnexBUnit) : Option ℕ → List AnnexBUnit
  | none => units.dropLast
  | some _ => units

/-- What is to be queued: the units that are followed by a start code and have
six bytes or more. -/
def queuedUnits (units : List AnnexBUnit) (closing : Option ℕ) : List (List UInt8) :=
  ((followedUnits units closing).filter (6 ≤ ·.normalised.length)).map AnnexBUnit.normalised

/-! ### Single bytes -/

namespace RawReceiver

/-- The receiver's buffer begins with `known`, behind which it writes next. -/
structure At (s : RawReceiver) (known : List UInt8) (state : ℕ) (queued : List (List UInt8)) :
    Prop where
  holds : known <+: s.currNalu.toList
  length : s.naluDataLength = known.length
  state : s.naluSearchState = state
  queued : s.queued = queued

section Bytes

variable {s : RawReceiver} {known : List UInt8} {state : ℕ} {queued : List (List UInt8)}
  (h : s.At known state queued) (hroom : known.length + 2 < NALU_MAXLEN)
include h hroom

/-- Storing a byte. -/
theorem At.store (b : UInt8) :
    ∃ s', s.storeByte b = .ok s' ∧ s'.At (known ++ [b]) state queued := by
  obtain ⟨v, hv, hv'⟩ := storeAt_append h.holds h.length (by omega) b
  have hlength := h.length
  have hnext := advance_before_end (show s.naluDataLength ≠ NALU_MAXLEN - 2 by omega) v
  refine ⟨_, storeByte_ok (by omega) hv, hv', ?_, h.state, h.queued⟩
  rw [hnext, hlength, List.length_append, List.length_singleton]
  rfl

/-- A byte behind at most one zero. -/
theorem At.few (hfew : state ≤ 1) (b : UInt8) :
    ∃ s', s.udpRawDataByte b = .ok s' ∧
      s'.At (known ++ [b]) (if b = 0 then state + 1 else 0) queued := by
  obtain ⟨s₁, hs₁, h₁⟩ := h.store hroom b
  have hfew₁ : s₁.naluSearchState ≤ 1 := h₁.state.trans_le hfew
  refine ⟨_, by rw [udpRawDataByte, hs₁, ok_bind, searchStartCode_few hfew₁], ?_⟩
  exact ⟨h₁.holds, h₁.length, by simp only [h₁.state], h₁.queued⟩

/-- A byte behind two zeros or more that does not belong to a start code. -/
theorem At.other (hmany : state = 2 ∨ state = 3) {b : UInt8} (hb₀ : b ≠ 0) (hb₁ : b ≠ 1) :
    ∃ s', s.udpRawDataByte b = .ok s' ∧ s'.At (known ++ [b]) 0 queued := by
  obtain ⟨s₁, hs₁, h₁⟩ := h.store hroom b
  have hmany₁ : s₁.naluSearchState = 2 ∨ s₁.naluSearchState = 3 := h₁.state ▸ hmany
  refine ⟨_, by rw [udpRawDataByte, hs₁, ok_bind, searchStartCode_other hmany₁ hb₀ hb₁], ?_⟩
  exact ⟨h₁.holds, h₁.length, rfl, h₁.queued⟩

/-- The third zero. -/
theorem At.thirdZero (h2 : state = 2) :
    ∃ s', s.udpRawDataByte 0 = .ok s' ∧ s'.At (known ++ [0]) 3 queued := by
  obtain ⟨s₁, hs₁, h₁⟩ := h.store hroom 0
  have h2₁ : s₁.naluSearchState = 2 := h₁.state.trans h2
  refine ⟨_, by rw [udpRawDataByte, hs₁, ok_bind, searchStartCode_zero (.inl h2₁)], ?_⟩
  refine ⟨h₁.holds, ?_, rfl, h₁.queued⟩
  simp only [h2₁]
  exact h₁.length

/-- Any further zero: it is stored, and its place is given back. -/
theorem At.furtherZero (h3 : state = 3) :
    ∃ s', s.udpRawDataByte 0 = .ok s' ∧ s'.At known 3 queued := by
  obtain ⟨s₁, hs₁, h₁⟩ := h.store hroom 0
  have h3₁ : s₁.naluSearchState = 3 := h₁.state.trans h3
  have hlength := h₁.length
  refine ⟨_, by rw [udpRawDataByte, hs₁, ok_bind, searchStartCode_zero (.inr h3₁)], ?_⟩
  refine ⟨(List.prefix_append known [0]).trans h₁.holds, ?_, rfl, h₁.queued⟩
  simp only [h3₁, ↓reduceIte, hlength, List.length_append, List.length_singleton]
  omega

end Bytes

/-- The one that ends a start code of which `state` zeros are in the buffer: the
NALU in front of it is queued unless it is too short. -/
theorem At.one {s : RawReceiver} {nalu : List UInt8} {state : ℕ} {queued : List (List UInt8)}
    (h : s.At (nalu ++ List.replicate state 0) state queued) (hmany : state = 2 ∨ state = 3)
    (hroom : nalu.length + 5 < NALU_MAXLEN)
    (hcode : 6 ≤ nalu.length → ∃ long, startCodeOf long <+: nalu) :
    ∃ s', s.udpRawDataByte 1 = .ok s' ∧ s'.At (startCodeOf (3 ≤ state)) 0
      (queued ++ if 6 ≤ nalu.length then [nalu] else []) := by
  have hlen : (nalu ++ List.replicate state 0).length + 2 < NALU_MAXLEN := by
    simp only [List.length_append, List.length_replicate]
    omega
  obtain ⟨s₁, hs₁, h₁⟩ := h.store hlen 1
  have hmany₁ : s₁.naluSearchState = 2 ∨ s₁.naluSearchState = 3 := h₁.state ▸ hmany
  have hlength : s₁.naluDataLength = nalu.length + state + 1 := by
    rw [h₁.length]
    simp only [List.length_append, List.length_replicate, List.length_singleton]
    omega
  -- the NALU ends in front of the zeros of this start code
  obtain ⟨valid, hvalid⟩ := safe_hasValidPrefix s₁.currNalu
  obtain ⟨v, hv, hs₂⟩ := completeNalu_eq (s := s₁) (by omega) hvalid
  have hparsed : s₁.parsedPrefixLen = state + 1 := by
    rw [parsedPrefixLen, h₁.state]
    obtain rfl | rfl := hmany <;> rfl
  have hlong : (decide (s₁.parsedPrefixLen = 4)) = decide (3 ≤ state) := by
    rw [hparsed]
    obtain rfl | rfl := hmany <;> rfl
  have hnalu : nalu <+: s₁.currNalu.toList :=
    (((List.prefix_append nalu _).trans (List.prefix_append _ [1])).trans h₁.holds)
  have hcompleted : s₁.completed valid = if 6 ≤ nalu.length then [nalu] else [] := by
    rw [completed, hparsed, hlength]
    have htake : (nalu.length + state + 1 - (state + 1 : ℤ)).toNat = nalu.length := by omega
    rw [htake, ← List.prefix_iff_eq_take.mp hnalu]
    by_cases hlen : 6 ≤ nalu.length
    · obtain ⟨long, hlong⟩ := hcode hlen
      have hok := hasValidPrefix_startCodeOf (hlong.trans hnalu)
      obtain rfl := Except.ok.inj (hvalid.symm.trans hok)
      rw [if_pos ⟨rfl, by omega, by omega⟩, if_pos hlen]
    · rw [if_neg (by omega), if_neg hlen]
  refine ⟨_, by rw [udpRawDataByte, hs₁, ok_bind, searchStartCode_one hmany₁, hs₂], ?_⟩
  refine ⟨hlong ▸ hv, ?_, rfl, by rw [h₁.queued, hcompleted]⟩
  simp only [hparsed]
  obtain rfl | rfl := hmany <;> rfl

/-! ### Zeros and data -/

/-- Zeros: three of them are kept. -/
theorem run_zeros (n : ℕ) {s : RawReceiver} {known : List UInt8} {queued : List (List UInt8)}
    (h : s.At known 0 queued) (hroom : known.length + 5 < NALU_MAXLEN) :
    ∃ s', run udpRawDataByte s (List.replicate n 0) = .ok s' ∧
      s'.At (known ++ List.replicate (min n 3) 0) (min n 3) queued := by
  induction n with
  | zero => exact ⟨s, rfl, by simpa using h⟩
  | succ n ih =>
      obtain ⟨s₁, hs₁, h₁⟩ := ih
      have hroom₁ : (known ++ List.replicate (min n 3) 0).length + 2 < NALU_MAXLEN := by
        simp only [List.length_append, List.length_replicate]
        omega
      have hrun : ∀ s', s₁.udpRawDataByte 0 = .ok s' →
          run udpRawDataByte s (List.replicate (n + 1) 0) = .ok s' := by
        intro s' hs'
        rw [List.replicate_succ', run_append, hs₁, ok_bind, run_cons, hs', ok_bind, run_nil]
      have hmore : ∀ k, known ++ List.replicate k 0 ++ [0] = known ++ List.replicate (k + 1) 0 := by
        intro k
        rw [List.append_assoc, List.replicate_succ']
      -- the automaton counts two zeros, keeps a third, and drops further ones
      by_cases hfew : n ≤ 1
      · obtain ⟨s', hs', h'⟩ := h₁.few hroom₁ (by omega) 0
        rw [if_pos rfl, hmore, show min n 3 + 1 = min (n + 1) 3 by omega] at h'
        exact ⟨s', hrun s' hs', h'⟩
      by_cases h2 : n = 2
      · subst h2
        obtain ⟨s', hs', h'⟩ := h₁.thirdZero hroom₁ rfl
        exact ⟨s', hrun s' hs', hmore 2 ▸ h'⟩
      · obtain ⟨s', hs', h'⟩ := h₁.furtherZero hroom₁ (by omega)
        rw [show min n 3 = min (n + 1) 3 by omega] at h'
        have h3 : min (n + 1) 3 = 3 := by omega
        exact ⟨s', hrun s' hs', by rw [h3] at h' ⊢; exact h'⟩

/-- Data that does not contain a start code, nor end like the beginning of one.
The induction carries the `z` zeros that were read last. -/
theorem run_data {data : List UInt8} :
    ∀ {z : ℕ} {s : RawReceiver} {known : List UInt8} {queued : List (List UInt8)}, z ≤ 2 →
      Clean (List.replicate z 0 ++ data) → ¬ [0] <:+ List.replicate z 0 ++ data →
      s.At known z queued → known.length + data.length + 2 ≤ NALU_MAXLEN →
      ∃ s', run udpRawDataByte s data = .ok s' ∧ s'.At (known ++ data) 0 queued := by
  induction data with
  | nil =>
      intro z s known queued _ _ hlast h _
      have hz : z = 0 := by
        rcases z with - | z
        · rfl
        · refine absurd ⟨List.replicate z 0, ?_⟩ hlast
          rw [List.append_nil, List.replicate_succ']
      subst hz
      exact ⟨s, rfl, by simpa using h⟩
  | cons b data ih =>
      intro z s known queued hz hclean hlast h hroom
      rw [List.length_cons] at hroom
      -- what one byte does, and that the rest is as required
      obtain ⟨s₁, z₁, hs₁, hz₁, hsuffix, h₁⟩ : ∃ s₁ z₁, s.udpRawDataByte b = .ok s₁ ∧ z₁ ≤ 2 ∧
          (List.replicate z₁ 0 ++ data <:+ List.replicate z 0 ++ b :: data) ∧
          s₁.At (known ++ [b]) z₁ queued := by
        by_cases hzero : b = 0
        · subst hzero
          have hz2 : z ≠ 2 := fun h2 => hclean.1 ⟨[], data, by rw [h2]; rfl⟩
          obtain ⟨s₁, hs₁, h₁⟩ := h.few (by omega) (by omega) 0
          refine ⟨s₁, z + 1, hs₁, by omega, ?_, h₁⟩
          rw [List.replicate_succ', List.append_assoc]
          exact List.suffix_refl _
        have hdata : List.replicate 0 0 ++ data <:+ List.replicate z 0 ++ b :: data :=
          (List.suffix_cons b data).trans (List.suffix_append _ _)
        by_cases hfew : z ≤ 1
        · obtain ⟨s₁, hs₁, h₁⟩ := h.few (by omega) hfew b
          rw [if_neg hzero] at h₁
          exact ⟨s₁, 0, hs₁, by omega, hdata, h₁⟩
        · have hz2 : z = 2 := by omega
          have hone : b ≠ 1 := fun h1 => hclean.2 ⟨[], data, by rw [hz2, h1]; rfl⟩
          obtain ⟨s₁, hs₁, h₁⟩ := h.other (by omega) (.inl hz2) hzero hone
          exact ⟨s₁, 0, hs₁, by omega, hdata, h₁⟩
      obtain ⟨s', hs', h'⟩ := ih hz₁
        ⟨fun h => hclean.1 (h.trans hsuffix.isInfix), fun h => hclean.2 (h.trans hsuffix.isInfix)⟩
        (fun h => hlast (h.trans hsuffix)) h₁
        (by simp only [List.length_append, List.length_singleton]; omega)
      refine ⟨s', by rw [run_cons, hs₁, ok_bind, hs'], ?_⟩
      rwa [List.append_assoc, List.singleton_append] at h'

/-- A start code: the NALU in front of it is queued unless it is too short. -/
theorem run_startCode {zeros : ℕ} (hzeros : 2 ≤ zeros) {s : RawReceiver} {nalu : List UInt8}
    {queued : List (List UInt8)} (h : s.At nalu 0 queued) (hroom : nalu.length + 5 < NALU_MAXLEN)
    (hcode : 6 ≤ nalu.length → ∃ long, startCodeOf long <+: nalu) :
    ∃ s', run udpRawDataByte s (List.replicate zeros 0 ++ [1]) = .ok s' ∧
      s'.At (startCodeOf (3 ≤ zeros)) 0 (queued ++ if 6 ≤ nalu.length then [nalu] else []) := by
  obtain ⟨s₁, hs₁, h₁⟩ := run_zeros zeros h hroom
  obtain ⟨s', hs', h'⟩ := h₁.one (by omega) hroom hcode
  have h3 : 3 ≤ min zeros 3 ↔ 3 ≤ zeros := by omega
  simp only [h3] at h'
  exact ⟨s', by rw [run_append, hs₁, ok_bind, run_cons, hs', ok_bind, run_nil], h'⟩

end RawReceiver

/-! ### Whole streams -/

theorem AnnexBUnit.normalised_room (u : AnnexBUnit) : u.normalised.length + 5 < NALU_MAXLEN := by
  have hfits := u.fits
  have hmax : NALU_MAXLEN = 1048576 := rfl
  rw [AnnexBUnit.normalised, List.length_append]
  omega

/-- What a start code behind `u` makes the receiver queue. -/
theorem queuedUnits_cons (u u' : AnnexBUnit) (units : List AnnexBUnit) (closing : Option ℕ) :
    queuedUnits (u :: u' :: units) closing =
      (if 6 ≤ u.normalised.length then [u.normalised] else []) ++
        queuedUnits (u' :: units) closing := by
  have hfollowed : followedUnits (u :: u' :: units) closing =
      u :: followedUnits (u' :: units) closing := by
    cases closing <;> rfl
  rw [queuedUnits, hfollowed, List.filter_cons]
  by_cases hlen : 6 ≤ u.normalised.length <;> simp [queuedUnits, hlen]

theorem queuedUnits_closed (u : AnnexBUnit) (extraZeros : ℕ) :
    queuedUnits [u] (some extraZeros) =
      if 6 ≤ u.normalised.length then [u.normalised] else [] := by
  by_cases hlen : 6 ≤ u.normalised.length <;> simp [queuedUnits, followedUnits, hlen]

/-- The data of a unit behind its start code. -/
theorem run_unit (u : AnnexBUnit) {s : RawReceiver} {queued : List (List UInt8)}
    (h : s.At (startCodeOf (3 ≤ u.zeros)) 0 queued) :
    ∃ s', run udpRawDataByte s u.data = .ok s' ∧ s'.At u.normalised 0 queued := by
  have hroom := u.normalised_room
  rw [AnnexBUnit.normalised, List.length_append] at hroom
  have hclean : Clean (List.replicate 0 0 ++ u.data) := u.clean
  have hlast : ¬ [0] <:+ List.replicate 0 0 ++ u.data := u.last_ne
  exact run_data (by decide) hclean hlast h (by omega)

/-- The start code behind a unit. -/
theorem run_unit_startCode (u : AnnexBUnit) {zeros : ℕ} (hzeros : 2 ≤ zeros) {s : RawReceiver}
    {queued : List (List UInt8)} (h : s.At u.normalised 0 queued) :
    ∃ s', run udpRawDataByte s (List.replicate zeros 0 ++ [1]) = .ok s' ∧
      s'.At (startCodeOf (3 ≤ zeros)) 0
        (queued ++ if 6 ≤ u.normalised.length then [u.normalised] else []) :=
  run_startCode hzeros h u.normalised_room fun _ => ⟨_, List.prefix_append _ u.data⟩

/-- The rest of a stream, when the start code of `u` has been read. -/
theorem run_units (closing : Option ℕ) (units : List AnnexBUnit) :
    ∀ (u : AnnexBUnit) {s : RawReceiver} {queued : List (List UInt8)},
      s.At (startCodeOf (3 ≤ u.zeros)) 0 queued →
      ∃ s', run udpRawDataByte s (u.data ++ annexBStream units closing) = .ok s' ∧
        s'.queued = queued ++ queuedUnits (u :: units) closing := by
  induction units with
  | nil =>
      intro u s queued h
      obtain ⟨s₁, hs₁, h₁⟩ := run_unit u h
      cases closing with
      | none =>
          refine ⟨s₁, by simpa [annexBStream, closingCode] using hs₁, ?_⟩
          simp [h₁.queued, queuedUnits, followedUnits]
      | some extraZeros =>
          obtain ⟨s', hs', h'⟩ := run_unit_startCode u (Nat.le_add_right 2 extraZeros) h₁
          refine ⟨s', ?_, by rw [h'.queued, queuedUnits_closed]⟩
          rw [run_append, hs₁, ok_bind]
          exact hs'
  | cons u' units ih =>
      intro u s queued h
      obtain ⟨s₁, hs₁, h₁⟩ := run_unit u h
      obtain ⟨s₂, hs₂, h₂⟩ := run_unit_startCode u u'.zeros_ge h₁
      obtain ⟨s', hs', hqueued⟩ := ih u' h₂
      have hstream : annexBStream (u' :: units) closing =
          (List.replicate u'.zeros 0 ++ [1]) ++ (u'.data ++ annexBStream units closing) := by
        simp [annexBStream, AnnexBUnit.written]
      refine ⟨s', ?_, by rw [hqueued, queuedUnits_cons, List.append_assoc]⟩
      rw [hstream, run_append, hs₁, ok_bind, run_append, hs₂, ok_bind, hs']

/-- **Round trip**: a new receiver queues exactly the units that are followed by
a start code and have six bytes or more, in order, once each and unchanged,
however the stream is cut into payloads. -/
theorem annexB_roundTrip (currNalu : NaluArray) (units : List AnnexBUnit) (closing : Option ℕ)
    (payloads : List (List UInt8)) (hcut : payloads.flatten = annexBStream units closing) :
    ∃ s, run udpRawDataCallback (new currNalu) payloads = .ok s ∧
      s.queued = queuedUnits units closing := by
  have hnew : (new currNalu).At [] 0 [] := ⟨List.nil_prefix, rfl, rfl, rfl⟩
  have hcuts : run udpRawDataCallback (new currNalu) payloads =
      run udpRawDataByte (new currNalu) (annexBStream units closing) := by
    rw [← hcut, run_flatten]
    rfl
  rw [hcuts]
  -- the first start code stands behind nothing
  have hfirst : ∀ {zeros : ℕ}, 2 ≤ zeros → ∃ s₁,
      run udpRawDataByte (new currNalu) (List.replicate zeros 0 ++ [1]) = .ok s₁ ∧
        s₁.At (startCodeOf (3 ≤ zeros)) 0 [] := fun hzeros =>
    run_startCode hzeros hnew (by decide) (by simp)
  rcases units with - | ⟨u, units⟩
  · cases closing with
    | none => exact ⟨_, rfl, rfl⟩
    | some extraZeros =>
        obtain ⟨s, hs, h⟩ := hfirst (Nat.le_add_right 2 extraZeros)
        exact ⟨s, hs, h.queued⟩
  · obtain ⟨s₁, hs₁, h₁⟩ := hfirst u.zeros_ge
    obtain ⟨s, hs, hqueued⟩ := run_units closing units u h₁
    have hstream : annexBStream (u :: units) closing =
        (List.replicate u.zeros 0 ++ [1]) ++ (u.data ++ annexBStream units closing) := by
      simp [annexBStream, AnnexBUnit.written]
    exact ⟨s, by rw [hstream, run_append, hs₁, ok_bind, hs], hqueued⟩

/-- Three units and a closing start code, cut inside two of the start codes; the
second unit is too short. -/
theorem annexB_roundTrip_sample :
    ∃ s, run udpRawDataCallback (new (.replicate _ 0))
        [[0, 0], [0, 0, 1, 0x67, 1, 2, 0], [0, 1, 0x09], [0, 0, 1, 0x65, 0, 0, 3, 0, 0, 1]] =
          .ok s ∧
      s.queued = [[0, 0, 0, 1, 0x67, 1, 2], [0, 0, 1, 0x65, 0, 0, 3]] :=
  annexB_roundTrip (.replicate _ 0)
    [⟨4, [0x67, 1, 2], by decide, by decide, by decide, by decide, by decide⟩,
      ⟨2, [0x09], by decide, by decide, by decide, by decide, by decide⟩,
      ⟨2, [0x65, 0, 0, 3], by decide, by decide, by decide, by decide, by decide⟩]
    (some 0)
    [[0, 0], [0, 0, 1, 0x67, 1, 2, 0], [0, 1, 0x09], [0, 0, 1, 0x65, 0, 0, 3, 0, 0, 1]] (by decide)

end QOpenHD
