/-
QOpenHD/MavlinkMessageStatsModel.lean

`MavlinkMessageStatsModel` (`mavlinkmessagestatsmodel.cpp`): the table of the
messages that came in, with the last payload of each.

The table is a `SortedTable`: its comparison is the order of (origin, system,
component, message), and the ids that are searched for tell the origin, so that
they are as good as the key.

* `Summary` — what a row says about the messages that were recorded under its key;
* **`recorded_summary`** — the table is sorted, and every row is the summary of its
  messages;
* **`recorded_table`** — what that means for payloads that fit and are not empty.
-/
import QOpenHD.SortedTable
import QOpenHD.Mavlink
import Mathlib.Data.Prod.Lex
import Mathlib.Data.String.Basic
import Mathlib.Data.List.GetD
import Mathlib.Data.List.Induction

namespace QOpenHD

/-- `MAVLINK_MAX_PAYLOAD_LEN` -/
def MAVLINK_MAX_PAYLOAD_LEN : ℕ := 255

namespace MavlinkMessageStatsModel

def originCategoryForSysid (sysid : ℤ) : String :=
  if sysid = OHD_SYS_ID_AIR.toNat ∨ sysid = OHD_SYS_ID_GROUND.toNat then "OpenHD"
  else "Flight Controller"

/-- The order of the table: origin, system, component, message. -/
abbrev Key := String ×ₗ ℤ ×ₗ ℤ ×ₗ ℤ

def keyOf (sysid compid msgid : ℤ) : Key :=
  toLex (originCategoryForSysid sysid, toLex (sysid, toLex (compid, msgid)))

/-- The ids tell the key. -/
theorem keyOf_inj {s c m s' c' m' : ℤ} :
    keyOf s c m = keyOf s' c' m' ↔ s = s' ∧ c = c' ∧ m = m' := by
  constructor
  · intro h
    have hids := (Prod.mk.inj (toLex.injective h)).2
    have hrest := (Prod.mk.inj (toLex.injective hids)).2
    exact ⟨(Prod.mk.inj (toLex.injective hids)).1, Prod.mk.inj (toLex.injective hrest)⟩
  · rintro ⟨rfl, rfl, rfl⟩
    rfl

/-- The origin of an entry is that of its system. -/
structure Entry where
  systemId : ℤ
  componentId : ℤ
  messageId : ℤ
  messageName : String
  originCategory : String
  lastSeenMs : ℤ
  updateCount : Int32
  lastPayload : Vector UInt8 MAVLINK_MAX_PAYLOAD_LEN
  lastPayloadLen : UInt8
  hasPayload : Bool
  originValid : originCategory = originCategoryForSysid systemId

namespace Entry

def key (e : Entry) : Key :=
  toLex (e.originCategory, toLex (e.systemId, toLex (e.componentId, e.messageId)))

theorem key_eq (e : Entry) : e.key = keyOf e.systemId e.componentId e.messageId := by
  rw [key, keyOf, e.originValid]

/-- The part of the array that is in use. -/
def storedPayload (e : Entry) : List UInt8 := e.lastPayload.toList.take e.lastPayloadLen.toNat

/-- What `sort_entries` compares by. -/
def less (a b : Entry) : Bool :=
  if a.originCategory ≠ b.originCategory then a.originCategory < b.originCategory
  else if a.systemId ≠ b.systemId then a.systemId < b.systemId
  else if a.componentId ≠ b.componentId then a.componentId < b.componentId
  else a.messageId < b.messageId

/-- **The comparison is the order of the keys.** -/
theorem less_iff (a b : Entry) : less a b = true ↔ a.key < b.key := by
  simp only [key, Prod.Lex.toLex_lt_toLex]
  unfold less
  split
  · rename_i h
    simp [h]
  rename_i horigin
  rw [not_not] at horigin
  split
  · rename_i h
    simp [horigin, h]
  rename_i hsystem
  rw [not_not] at hsystem
  split
  · rename_i h
    simp [horigin, hsystem, h]
  rename_i hcomponent
  rw [not_not] at hcomponent
  simp [horigin, hsystem, hcomponent]

end Entry

/-! ### The payload array -/

/-- `std::copy_n` to the beginning of an array. -/
def copyN (n : ℕ) (source : List UInt8) (array : Vector UInt8 MAVLINK_MAX_PAYLOAD_LEN) :
    Vector UInt8 MAVLINK_MAX_PAYLOAD_LEN :=
  Vector.ofFn fun i => if i.1 < n then source.getD i.1 0 else array.get i

/-- What was copied is at the beginning, whatever was there before. -/
theorem take_copyN {n : ℕ} {source : List UInt8} (hn : n ≤ source.length)
    (hmax : n ≤ MAVLINK_MAX_PAYLOAD_LEN) (array : Vector UInt8 MAVLINK_MAX_PAYLOAD_LEN) :
    (copyN n source array).toList.take n = source.take n := by
  apply List.ext_getElem
  · simp [hn, hmax]
  intro i hi hi'
  have hin : i < n := (List.length_take_le ..).trans_lt' hi'
  have hsource : i < source.length := by omega
  rw [List.getElem_take, List.getElem_take]
  simp [copyN, hin, hsource]

/-! ### Recording -/

/-- A call of `handle_record_message`, and the time. -/
structure Record where
  sysid : ℤ
  compid : ℤ
  msgid : ℤ
  payload : List UInt8
  now : ℤ

def Record.key (r : Record) : Key := keyOf r.sysid r.compid r.msgid

variable (messageInfoName : UInt32 → Option String)

/-- The names of the MAVLink library, or the number. -/
def messageNameForId (msgid : ℤ) : String :=
  (messageInfoName (UInt32.ofInt msgid)).getD ("ID " ++ toString msgid)

/-- The entry that `handle_record_message` makes. -/
def newEntry (r : Record) : Entry :=
  let len := min r.payload.length MAVLINK_MAX_PAYLOAD_LEN
  { systemId := r.sysid
    componentId := r.compid
    messageId := r.msgid
    messageName := messageNameForId messageInfoName r.msgid
    originCategory := originCategoryForSysid r.sysid
    lastSeenMs := r.now
    updateCount := 0
    lastPayload :=
      if len > 0 then copyN len r.payload (Vector.replicate _ 0) else Vector.replicate _ 0
    lastPayloadLen := UInt8.ofNat len
    hasPayload := decide (len > 0)
    originValid := rfl }

def sortEntries (data : List Entry) : List Entry := data.mergeSort fun a b => !Entry.less b a

def sameIds (needle e : Entry) : Bool :=
  e.systemId == needle.systemId && e.componentId == needle.componentId &&
    e.messageId == needle.messageId

/-- What happens to the entry that was found. -/
def refresh (entryTemplate it : Entry) : Entry :=
  if entryTemplate.hasPayload then
    { it with
      lastSeenMs := entryTemplate.lastSeenMs
      updateCount := it.updateCount + 1
      lastPayloadLen := entryTemplate.lastPayloadLen
      hasPayload := entryTemplate.hasPayload
      lastPayload :=
        copyN entryTemplate.lastPayloadLen.toNat entryTemplate.lastPayload.toList it.lastPayload }
  else
    { it with
      lastSeenMs := entryTemplate.lastSeenMs
      updateCount := it.updateCount + 1 }

def updateOrInsertEntry (entryTemplate : Entry) (data : List Entry) : List Entry :=
  if data.any (sameIds entryTemplate) then
    sortEntries (SortedTable.updateFirst (sameIds entryTemplate) (refresh entryTemplate) data)
  else sortEntries (data ++ [{ entryTemplate with updateCount := 1 }])

def handleRecordMessage (data : List Entry) (r : Record) : List Entry :=
  updateOrInsertEntry (newEntry messageInfoName r) data

/-- `m_data` behind these calls. -/
def recorded (rs : List Record) : List Entry := rs.foldl (handleRecordMessage messageInfoName) []

/-! ### The table -/

theorem sameIds_iff (needle e : Entry) : sameIds needle e = true ↔ e.key = needle.key := by
  rw [Entry.key_eq, Entry.key_eq, keyOf_inj]
  simp [sameIds, and_assoc]

@[simp] theorem key_refresh (entryTemplate it : Entry) :
    (refresh entryTemplate it).key = it.key := by
  unfold refresh
  split
  · rfl
  · rfl

theorem sortEntries_eq (data : List Entry) :
    sortEntries data = SortedTable.sort Entry.key data := by
  have hle : (fun a b : Entry => !Entry.less b a) = fun a b => decide (a.key ≤ b.key) := by
    funext a b
    rw [Bool.eq_iff_iff, Bool.not_eq_true', ← Bool.not_eq_true, Entry.less_iff, not_lt,
      decide_eq_true_iff]
  rw [sortEntries, hle, SortedTable.sort]

/-- Recording changes a row of a sorted table, or puts a new one in. -/
theorem updateOrInsertEntry_eq (entryTemplate : Entry) (data : List Entry) :
    updateOrInsertEntry entryTemplate data =
      SortedTable.upsert Entry.key (sameIds entryTemplate) (refresh entryTemplate)
        { entryTemplate with updateCount := 1 } data := by
  unfold updateOrInsertEntry SortedTable.upsert
  split
  · exact sortEntries_eq _
  · exact sortEntries_eq _

/-! ### What a row says -/

/-- The last payload that is not empty. -/
def lastPayload (rs : List Record) : List UInt8 :=
  ((rs.map Record.payload).filter (· ≠ [])).getLast?.getD []

/-- The row of the messages `rs`, which were recorded under one key. -/
def Summary (rs : List Record) : Option Entry → Prop
  | none => rs = []
  | some e =>
    (∃ last, rs.getLast? = some last ∧ e.lastSeenMs = last.now) ∧
      e.updateCount = Int32.ofNat rs.length ∧
      e.storedPayload = (lastPayload rs).take MAVLINK_MAX_PAYLOAD_LEN ∧
      e.lastPayloadLen.toNat = min (lastPayload rs).length MAVLINK_MAX_PAYLOAD_LEN

theorem lastPayload_append_empty {rs : List Record} {r : Record} (h : r.payload = []) :
    lastPayload (rs ++ [r]) = lastPayload rs := by
  simp [lastPayload, h]

theorem lastPayload_append {rs : List Record} {r : Record} (h : r.payload ≠ []) :
    lastPayload (rs ++ [r]) = r.payload := by
  simp [lastPayload, h]

theorem toNat_newEntry_len (r : Record) :
    (newEntry messageInfoName r).lastPayloadLen.toNat =
      min r.payload.length MAVLINK_MAX_PAYLOAD_LEN := by
  have hlt : min r.payload.length MAVLINK_MAX_PAYLOAD_LEN < 256 :=
    Nat.lt_of_le_of_lt (Nat.min_le_right ..) (by decide)
  show (UInt8.ofNat _).toNat = _
  rw [UInt8.toNat_ofNat', Nat.mod_eq_of_lt hlt]

theorem storedPayload_newEntry (r : Record) :
    (newEntry messageInfoName r).storedPayload = r.payload.take MAVLINK_MAX_PAYLOAD_LEN := by
  rw [Entry.storedPayload, toNat_newEntry_len]
  by_cases h : min r.payload.length MAVLINK_MAX_PAYLOAD_LEN > 0
  · have harray : (newEntry messageInfoName r).lastPayload =
        copyN (min r.payload.length MAVLINK_MAX_PAYLOAD_LEN) r.payload (Vector.replicate _ 0) :=
      if_pos h
    rw [harray, take_copyN (Nat.min_le_left ..) (Nat.min_le_right ..), Nat.min_comm,
      ← List.take_eq_take_min]
  · have hempty : r.payload = [] := by
      rw [← List.length_eq_zero_iff]
      have hmax : MAVLINK_MAX_PAYLOAD_LEN = 255 := rfl
      omega
    simp [hempty]

/-- A first message. -/
theorem summary_new (r : Record) :
    Summary [r] (some { newEntry messageInfoName r with updateCount := 1 }) := by
  have hlast : lastPayload [r] = r.payload := by
    by_cases h : r.payload = [] <;> simp [lastPayload, h]
  refine ⟨⟨r, rfl, rfl⟩, rfl, ?_, ?_⟩
  · rw [hlast]
    exact storedPayload_newEntry messageInfoName r
  · rw [hlast]
    exact toNat_newEntry_len messageInfoName r

/-- **One more message of the same key**: a shorter payload leaves nothing of a longer
one behind. -/
theorem Summary.refresh {rs : List Record} {e : Entry} (h : Summary rs (some e)) (r : Record) :
    Summary (rs ++ [r])
      (some (MavlinkMessageStatsModel.refresh (newEntry messageInfoName r) e)) := by
  obtain ⟨-, hcount, hpayload, hlen⟩ := h
  have hcount' : e.updateCount + 1 = Int32.ofNat (rs ++ [r]).length := by
    rw [hcount, List.length_append, List.length_singleton, Int32.ofNat_add]
    rfl
  have htemplate := toNat_newEntry_len messageInfoName r
  by_cases hempty : r.payload = []
  · have hnone : (newEntry messageInfoName r).hasPayload = false := by
      show decide (min r.payload.length MAVLINK_MAX_PAYLOAD_LEN > 0) = false
      simp [hempty]
    rw [MavlinkMessageStatsModel.refresh, if_neg (by simp [hnone])]
    refine ⟨⟨r, by simp, rfl⟩, hcount', ?_, ?_⟩
    · rw [lastPayload_append_empty hempty]
      exact hpayload
    · rw [lastPayload_append_empty hempty]
      exact hlen
  · have hsome : (newEntry messageInfoName r).hasPayload = true := by
      have hpos := List.length_pos_iff.mpr hempty
      have hmax : MAVLINK_MAX_PAYLOAD_LEN = 255 := rfl
      exact decide_eq_true (by omega)
    rw [MavlinkMessageStatsModel.refresh, if_pos hsome]
    refine ⟨⟨r, by simp, rfl⟩, hcount', ?_, ?_⟩
    · rw [lastPayload_append hempty, Entry.storedPayload, take_copyN]
      · exact storedPayload_newEntry messageInfoName r
      · rw [Vector.length_toList, htemplate]
        exact Nat.min_le_right ..
      · rw [htemplate]
        exact Nat.min_le_right ..
    · rw [lastPayload_append hempty]
      exact htemplate

/-! ### Runs -/

/-- The messages that were recorded under a key. -/
def recordsOf (k : Key) (rs : List Record) : List Record := rs.filter fun r => r.key = k

/-- The table is sorted, and every row is the summary of its messages. -/
structure Summarizes (rs : List Record) (data : List Entry) : Prop where
  sorted : SortedTable.Sorted Entry.key data
  summary : ∀ k, Summary (recordsOf k rs) (SortedTable.lookup Entry.key k data)

/-- **One call keeps the table a summary.** -/
theorem Summarizes.handleRecordMessage {rs : List Record} {data : List Entry}
    (h : Summarizes rs data) (r : Record) :
    Summarizes (rs ++ [r])
      (MavlinkMessageStatsModel.handleRecordMessage messageInfoName data r) := by
  have hkey : (newEntry messageInfoName r).key = r.key := rfl
  have hp : ∀ e, sameIds (newEntry messageInfoName r) e = true ↔ e.key = r.key :=
    fun e => hkey ▸ sameIds_iff _ e
  have hf := key_refresh (newEntry messageInfoName r)
  rw [MavlinkMessageStatsModel.handleRecordMessage, updateOrInsertEntry_eq]
  refine ⟨h.sorted.upsert hp hf rfl, fun k => ?_⟩
  rw [SortedTable.lookup_upsert hp hf rfl h.sorted, recordsOf, List.filter_append]
  by_cases hk : k = r.key
  · subst hk
    have hmine : [r].filter (fun r' => decide (r'.key = r.key)) = [r] := by simp
    rw [if_pos rfl, hmine]
    have hrow := h.summary r.key
    rcases hfound : SortedTable.lookup Entry.key r.key data with - | e
    · rw [hfound] at hrow
      have hnone : rs.filter (fun r' => decide (r'.key = r.key)) = [] := hrow
      rw [hnone]
      exact summary_new messageInfoName r
    · rw [hfound] at hrow
      exact hrow.refresh messageInfoName r
  · have hother : [r].filter (fun r' => decide (r'.key = k)) = [] := by simp [Ne.symm hk]
    rw [if_neg hk, hother, List.append_nil]
    exact h.summary k

/-- **Whatever was recorded, the table is its summary.** -/
theorem recorded_summary (rs : List Record) : Summarizes rs (recorded messageInfoName rs) := by
  induction rs using List.reverseRecOn with
  | nil => exact ⟨SortedTable.sorted_nil, fun _ => rfl⟩
  | append_singleton rs r ih =>
      rw [recorded, List.foldl_append]
      exact ih.handleRecordMessage messageInfoName r

/-- The messages of a row, of which there is one at least. -/
theorem Summarizes.row {rs : List Record} {data : List Entry} (h : Summarizes rs data) {e : Entry}
    (he : e ∈ data) : Summary (recordsOf e.key rs) (some e) := by
  have hfound := (SortedTable.lookup_eq_some_iff h.sorted.nodup).mpr ⟨he, rfl⟩
  exact hfound ▸ h.summary e.key

/-- What was recorded has a row. -/
theorem Summarizes.exists_row {rs : List Record} {data : List Entry} (h : Summarizes rs data)
    {r : Record} (hr : r ∈ rs) : ∃ e ∈ data, e.key = r.key := by
  rcases hfound : SortedTable.lookup Entry.key r.key data with - | e
  · have hnone : recordsOf r.key rs = [] := by
      have hsummary := h.summary r.key
      rw [hfound] at hsummary
      exact hsummary
    have hmem : r ∈ recordsOf r.key rs := List.mem_filter.mpr ⟨hr, decide_eq_true rfl⟩
    rw [hnone] at hmem
    exact absurd hmem List.not_mem_nil
  · exact ⟨e, (SortedTable.lookup_eq_some_iff h.sorted.nodup).mp hfound⟩

theorem lastPayload_of_nonempty {rs : List Record} (h : ∀ r ∈ rs, r.payload ≠ []) {last : Record}
    (hlast : rs.getLast? = some last) : lastPayload rs = last.payload := by
  have hall : (rs.map Record.payload).filter (· ≠ []) = rs.map Record.payload := by
    rw [List.filter_eq_self]
    intro payload hpayload
    obtain ⟨r, hr, rfl⟩ := List.mem_map.mp hpayload
    exact decide_eq_true (h r hr)
  rw [lastPayload, hall, List.getLast?_map, hlast]
  rfl

/-- **Payloads that fit and are not empty**: the table is strictly sorted, what was
recorded has one row, and each row counts its messages and has the payload of the last one. -/
theorem recorded_table (rs : List Record)
    (h : ∀ r ∈ rs, r.payload ≠ [] ∧ r.payload.length ≤ MAVLINK_MAX_PAYLOAD_LEN) :
    (recorded messageInfoName rs).Pairwise (fun a b => a.key < b.key) ∧
      (∀ r ∈ rs, ∃! e, e ∈ recorded messageInfoName rs ∧ e.key = r.key) ∧
      ∀ e ∈ recorded messageInfoName rs, ∃ last,
        (recordsOf e.key rs).getLast? = some last ∧
          e.updateCount = Int32.ofNat (recordsOf e.key rs).length ∧
          ((recordsOf e.key rs).length < 2 ^ 31 →
            e.updateCount.toInt = (recordsOf e.key rs).length) ∧
          e.storedPayload = last.payload ∧ e.lastPayloadLen.toNat = last.payload.length := by
  have hsum := recorded_summary messageInfoName rs
  refine ⟨hsum.sorted, fun r hr => ?_, fun e he => ?_⟩
  · obtain ⟨e, he, hkey⟩ := hsum.exists_row hr
    refine ⟨e, ⟨he, hkey⟩, ?_⟩
    rintro e' ⟨he', hkey'⟩
    exact List.inj_on_of_nodup_map hsum.sorted.nodup he' he (hkey'.trans hkey.symm)
  · obtain ⟨⟨last, hlast, -⟩, hcount, hpayload, hlen⟩ := hsum.row he
    have hmine : ∀ r ∈ recordsOf e.key rs, r ∈ rs := fun r hr => (List.mem_filter.mp hr).1
    have hlastmem := hmine last (List.mem_of_getLast? hlast)
    rw [lastPayload_of_nonempty (fun r hr => (h r (hmine r hr)).1) hlast] at hpayload hlen
    refine ⟨last, hlast, hcount, fun hlt => ?_, ?_, ?_⟩
    · rw [hcount]
      exact Int32.toInt_ofNat_of_lt hlt
    · rw [hpayload, List.take_of_length_le (h last hlastmem).2]
    · rw [hlen, Nat.min_eq_left (h last hlastmem).2]

/-- A message of the air unit and one of the flight controller, and the first again with a
shorter payload. -/
theorem recorded_table_example :
    ∃ e ∈ recorded (fun _ => none)
        [⟨101, 191, 77, [1, 2, 3], 0⟩, ⟨1, 1, 0, [4], 5⟩, ⟨101, 191, 77, [9, 8], 7⟩],
      e.key = keyOf 101 191 77 ∧ e.storedPayload = [9, 8] ∧ e.updateCount = 2 := by
  obtain ⟨-, hone, hrows⟩ := recorded_table (fun _ => none)
    [⟨101, 191, 77, [1, 2, 3], 0⟩, ⟨1, 1, 0, [4], 5⟩, ⟨101, 191, 77, [9, 8], 7⟩] (by decide)
  obtain ⟨e, ⟨he, hkey⟩, -⟩ := hone ⟨101, 191, 77, [9, 8], 7⟩ (by simp)
  have hkey' : e.key = keyOf 101 191 77 := hkey
  obtain ⟨last, hlast, hcount, -, hpayload, -⟩ := hrows e he
  have hmine : recordsOf e.key
      [⟨101, 191, 77, [1, 2, 3], 0⟩, ⟨1, 1, 0, [4], 5⟩, ⟨101, 191, 77, [9, 8], 7⟩] =
        [⟨101, 191, 77, [1, 2, 3], 0⟩, ⟨101, 191, 77, [9, 8], 7⟩] := by
    rw [hkey']
    simp [recordsOf, Record.key, keyOf_inj]
  rw [hmine] at hlast hcount
  obtain rfl := Option.some.inj hlast
  exact ⟨e, he, hkey', hpayload, hcount⟩

end MavlinkMessageStatsModel

end QOpenHD
