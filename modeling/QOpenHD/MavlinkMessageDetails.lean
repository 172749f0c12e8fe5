/-
QOpenHD/MavlinkMessageDetails.lean

The fields of a recorded message (`MavlinkMessageStatsModel::decodeMessageDetails`,
`mavlinkmessagestatsmodel.cpp`).

The payload is copied into 255 bytes of zeros, and every field is read from there: `char`
arrays as text up to the first NUL, if that can be printed, and everything else as numbers.

* `safe_decodeField` — a field that lies within the copy is read inside of it;
* `shown_row` — what a row shows is a function of the last payload that is not empty;
* **`decodeMessageDetails_recorded`** — whatever was recorded, and zeros at the end of it can be
  left away, up to its first byte.

How `float` and `double` are written is a parameter, and so is the generated table of all
messages.
-/
import QOpenHD.Checked
import QOpenHD.MavlinkMessageStatsModel

namespace QOpenHD

open Checked

/-! ### The generated table -/

/-- `mavlink_message_type_t`, and all other values. -/
inductive MavlinkType
  | char
  | uint8
  | int8
  | uint16
  | int16
  | uint32
  | int32
  | uint64
  | int64
  | float
  | double
  | other
  deriving DecidableEq

/-- `mavlink_field_info_t` -/
structure MavlinkFieldInfo where
  name : String
  type : MavlinkType
  arrayLength : UInt32
  wireOffset : UInt32

/-- `mavlink_message_info_t` -/
structure MavlinkMessageInfo where
  name : String
  fields : List MavlinkFieldInfo

namespace MavlinkMessageStatsModel

/-! ### One field -/

def typeToString : MavlinkType → String
  | .char => "char"
  | .uint8 => "uint8"
  | .int8 => "int8"
  | .uint16 => "uint16"
  | .int16 => "int16"
  | .uint32 => "uint32"
  | .int32 => "int32"
  | .uint64 => "uint64"
  | .int64 => "int64"
  | .float => "float"
  | .double => "double"
  | .other => "unknown"

def typeSize : MavlinkType → ℕ
  | .char => 1
  | .uint8 => 1
  | .int8 => 1
  | .uint16 => 2
  | .int16 => 2
  | .uint32 => 4
  | .int32 => 4
  | .uint64 => 8
  | .int64 => 8
  | .float => 4
  | .double => 8
  | .other => 0

/-- A number of `n` bytes. -/
def qFromLittleEndian (n : ℕ) (ptr : List UInt8) : Exec (BitVec (8 * n)) := do
  let bytes ← loadSlice ptr n
  pure (BitVec.ofNat _ (bytes.foldr (fun b value => b.toNat + 256 * value) 0))

-- `QString::number` of a `float` and of a `double`, given by their bits
variable (numberFloat : BitVec 32 → String) (numberDouble : BitVec 64 → String)

def readScalarString (ptr : List UInt8) : MavlinkType → Exec String
  | .char => do
    let c ← load ptr 0
    pure (String.singleton (Char.ofNat c.toNat))
  | .uint8 => do
    let v ← load ptr 0
    pure (toString v.toNat)
  | .int8 => do
    let v ← load ptr 0
    pure (toString v.toInt8.toInt)
  | .uint16 => do
    let v ← qFromLittleEndian 2 ptr
    pure (toString v.toNat)
  | .int16 => do
    let v ← qFromLittleEndian 2 ptr
    pure (toString v.toInt)
  | .uint32 => do
    let v ← qFromLittleEndian 4 ptr
    pure (toString v.toNat)
  | .int32 => do
    let v ← qFromLittleEndian 4 ptr
    pure (toString v.toInt)
  | .uint64 => do
    let v ← qFromLittleEndian 8 ptr
    pure (toString v.toNat)
  | .int64 => do
    let v ← qFromLittleEndian 8 ptr
    pure (toString v.toInt)
  | .float => do
    let raw ← qFromLittleEndian 4 ptr
    pure (numberFloat raw)
  | .double => do
    let raw ← qFromLittleEndian 8 ptr
    pure (numberDouble raw)
  | .other => pure "n/a"

def printable (c : UInt8) : Bool :=
  c == 0x0a || c == 0x0d || c == 0x09 || (0x20 ≤ c && c ≤ 0x7e)

/-- `QString::fromLatin1` -/
def fromLatin1 (raw : List UInt8) : String := String.ofList (raw.map fun c => Char.ofNat c.toNat)

/-- The elements of an array. -/
def bracketed (values : List String) : String := "[" ++ ", ".intercalate values ++ "]"

/-- `array_len`, which is 1 for a single value. -/
def arrayLen (field : MavlinkFieldInfo) : UInt32 :=
  if field.arrayLength = 0 then 1 else field.arrayLength

structure FieldDetails where
  name : String
  type : String
  arrayLength : Int32
  value : String
  deriving DecidableEq

/-- A `char` array: its text up to the first NUL, or all of its bytes. -/
def charArrayValue (currPtr : List UInt8) (arrayLen : ℕ) : Exec String := do
  let bytes ← loadSlice currPtr arrayLen
  let raw := bytes.takeWhile (· ≠ 0)
  if raw.all printable then pure (fromLatin1 raw)
  else do
    let values ← (List.range arrayLen).mapM fun j => do
      let c ← load currPtr (j * typeSize .char)
      pure (toString c.toNat)
    pure (bracketed values)

/-- Anything else. -/
def scalarsValue (currPtr : List UInt8) (type : MavlinkType) (arrayLen : ℕ) : Exec String := do
  let values ← (List.range arrayLen).mapM fun j =>
    readScalarString numberFloat numberDouble (currPtr.drop (j * typeSize type)) type
  pure (if 1 < arrayLen then bracketed values else values.headD "")

def fieldValue (safePayload : List UInt8) (field : MavlinkFieldInfo) : Exec String :=
  let currPtr := safePayload.drop field.wireOffset.toNat
  if typeSize field.type = 0 then pure "n/a"
  else if field.type = .char ∧ 1 < arrayLen field then
    charArrayValue currPtr (arrayLen field).toNat
  else scalarsValue numberFloat numberDouble currPtr field.type (arrayLen field).toNat

def decodeField (safePayload : List UInt8) (field : MavlinkFieldInfo) : Exec FieldDetails := do
  let value ← fieldValue numberFloat numberDouble safePayload field
  pure ⟨field.name, typeToString field.type, (arrayLen field).toInt32, value⟩

/-! ### A row -/

structure MessageDetails where
  messageId : ℤ
  messageName : String
  fieldCount : ℕ
  fields : List FieldDetails
  deriving DecidableEq

-- `mavlink_get_message_info_by_id`
variable (messageInfo : UInt32 → Option MavlinkMessageInfo)

/-- What is read from the copy. -/
def detailsOf (messageId : ℤ) (messageName : String) (safePayload : List UInt8) :
    Exec MessageDetails :=
  match messageInfo (UInt32.ofInt messageId) with
  | none => pure ⟨messageId, messageName, 0, []⟩
  | some info => do
    let fields ← info.fields.mapM (decodeField numberFloat numberDouble safePayload)
    pure ⟨messageId, info.name, info.fields.length, fields⟩

/-- The copy. -/
def paddedPayload (entry : Entry) : Vector UInt8 MAVLINK_MAX_PAYLOAD_LEN :=
  let payloadLen := if entry.hasPayload then entry.lastPayloadLen.toNat else 0
  if entry.hasPayload ∧ payloadLen > 0 then
    copyN (min payloadLen MAVLINK_MAX_PAYLOAD_LEN) entry.lastPayload.toList (Vector.replicate _ 0)
  else Vector.replicate _ 0

def decodeMessageDetails (data : List Entry) (row : ℤ) : Exec MessageDetails :=
  if row < 0 ∨ data.length ≤ row then pure ⟨-1, "Unknown message", 0, []⟩
  else do
    let entry ← load data row.toNat
    detailsOf numberFloat numberDouble messageInfo entry.messageId entry.messageName
      (paddedPayload entry).toList

variable {numberFloat : BitVec 32 → String} {numberDouble : BitVec 64 → String}
  {messageInfo : UInt32 → Option MavlinkMessageInfo}

/-! ### Reading inside of the copy -/

theorem safe_qFromLittleEndian {n : ℕ} {ptr : List UInt8} (h : n ≤ ptr.length) :
    Safe (qFromLittleEndian n ptr) := by
  rw [qFromLittleEndian, loadSlice_of_le h, ok_bind]
  exact safe_pure _

theorem safe_readScalarString {ptr : List UInt8} {type : MavlinkType}
    (h : typeSize type ≤ ptr.length) :
    Safe (readScalarString numberFloat numberDouble ptr type) := by
  cases type with
  | char | uint8 | int8 => exact safe_bind_pure_iff.mpr (safe_load h)
  | uint16 | int16 | uint32 | int32 | uint64 | int64 | float | double =>
      exact safe_bind_pure_iff.mpr (safe_qFromLittleEndian h)
  | other => exact safe_pure _

theorem safe_charArrayValue {currPtr : List UInt8} {arrayLen : ℕ} (h : arrayLen ≤ currPtr.length) :
    Safe (charArrayValue currPtr arrayLen) := by
  simp only [charArrayValue, loadSlice_of_le h, ok_bind]
  split
  · exact safe_pure _
  · refine safe_bind_pure_iff.mpr (safe_mapM fun j hj => safe_bind_pure_iff.mpr (safe_load ?_))
    rw [typeSize, Nat.mul_one]
    exact (List.mem_range.mp hj).trans_le h

theorem safe_scalarsValue {currPtr : List UInt8} {type : MavlinkType} {arrayLen : ℕ}
    (h : typeSize type * arrayLen ≤ currPtr.length) :
    Safe (scalarsValue numberFloat numberDouble currPtr type arrayLen) := by
  refine safe_bind_pure_iff.mpr (safe_mapM fun j hj => safe_readScalarString ?_)
  have hfits : j * typeSize type + typeSize type ≤ currPtr.length :=
    calc j * typeSize type + typeSize type = typeSize type * (j + 1) := by
          rw [Nat.mul_succ, Nat.mul_comm j]
      _ ≤ typeSize type * arrayLen := Nat.mul_le_mul_left _ (List.mem_range.mp hj)
      _ ≤ currPtr.length := h
  rw [List.length_drop]
  omega

/-- The field lies within the copy. -/
def Fits (field : MavlinkFieldInfo) : Prop :=
  field.wireOffset.toNat + typeSize field.type * (arrayLen field).toNat ≤ MAVLINK_MAX_PAYLOAD_LEN

instance (field : MavlinkFieldInfo) : Decidable (Fits field) := inferInstanceAs (Decidable (_ ≤ _))

theorem safe_decodeField {field : MavlinkFieldInfo} (h : Fits field)
    (safePayload : Vector UInt8 MAVLINK_MAX_PAYLOAD_LEN) :
    Safe (decodeField numberFloat numberDouble safePayload.toList field) := by
  refine safe_bind_pure_iff.mpr ?_
  have hlen : typeSize field.type * (arrayLen field).toNat ≤
      (safePayload.toList.drop field.wireOffset.toNat).length := by
    rw [List.length_drop, Vector.length_toList]
    exact Nat.le_sub_of_add_le' h
  unfold fieldValue
  split_ifs with hsize hchar
  · exact safe_pure _
  · rw [hchar.1, typeSize, Nat.one_mul] at hlen
    exact safe_charArrayValue hlen
  · exact safe_scalarsValue hlen

theorem safe_detailsOf
    (hfits : ∀ id info, messageInfo id = some info → ∀ field ∈ info.fields, Fits field)
    (messageId : ℤ) (messageName : String) (safePayload : Vector UInt8 MAVLINK_MAX_PAYLOAD_LEN) :
    Safe (detailsOf numberFloat numberDouble messageInfo messageId messageName
      safePayload.toList) := by
  unfold detailsOf
  rcases hinfo : messageInfo (UInt32.ofInt messageId) with - | info
  · exact safe_pure _
  · exact safe_bind_pure_iff.mpr
      (safe_mapM fun field hfield => safe_decodeField (hfits _ info hinfo field hfield) safePayload)

theorem safe_decodeMessageDetails
    (hfits : ∀ id info, messageInfo id = some info → ∀ field ∈ info.fields, Fits field)
    (data : List Entry) (row : ℤ) :
    Safe (decodeMessageDetails numberFloat numberDouble messageInfo data row) := by
  unfold decodeMessageDetails
  split_ifs with hrow
  · exact safe_pure _
  · have hlt : row.toNat < data.length := by omega
    obtain ⟨entry, hentry⟩ := safe_load hlt
    rw [hentry, ok_bind]
    exact safe_detailsOf hfits _ _ _

/-! ### Zeros at the end -/

/-- A payload, and zeros behind it. -/
def padded (payload : List UInt8) : Vector UInt8 MAVLINK_MAX_PAYLOAD_LEN :=
  ⟨((payload ++ List.replicate MAVLINK_MAX_PAYLOAD_LEN 0).take MAVLINK_MAX_PAYLOAD_LEN).toArray,
    by simp⟩

theorem getElem_padded (payload : List UInt8) {i : ℕ} (hi : i < MAVLINK_MAX_PAYLOAD_LEN) :
    (padded payload)[i] = payload.getD i 0 := by
  simp only [padded, Vector.getElem_mk, List.getElem_toArray, List.getElem_take,
    List.getElem_append]
  split
  · rename_i hlt
    rw [List.getD_eq_getElem _ _ hlt]
  · rename_i hge
    rw [List.getElem_replicate, List.getD_eq_default _ _ (Nat.le_of_not_lt hge)]

/-- Zeros at the end may be left away. -/
theorem padded_append_zeros (payload : List UInt8) (k : ℕ) :
    padded (payload ++ List.replicate k 0) = padded payload := by
  refine Vector.ext fun i hi => ?_
  rw [getElem_padded _ hi, getElem_padded _ hi]
  rcases Nat.lt_or_ge i payload.length with hlt | hge
  · rw [List.getD_append _ _ _ _ hlt]
  · rw [List.getD_append_right _ _ _ _ hge, List.getD_eq_default _ _ hge,
      List.getD_eq_getElem?_getD, List.getElem?_replicate]
    split
    · rfl
    · rfl

theorem padded_take (payload : List UInt8) :
    padded (payload.take MAVLINK_MAX_PAYLOAD_LEN) = padded payload := by
  refine Vector.ext fun i hi => ?_
  rw [getElem_padded _ hi, getElem_padded _ hi]
  simp [List.getD_eq_getElem?_getD, hi]

/-! ### What is recorded -/

variable (messageInfo) in
/-- The names in the table. -/
def infoName (id : UInt32) : Option String := (messageInfo id).map MavlinkMessageInfo.name

variable (messageInfo) in
/-- What every entry of the table has. -/
structure Recorded (e : Entry) : Prop where
  hasPayload : e.hasPayload = decide (0 < e.lastPayloadLen.toNat)
  messageName : e.messageName = messageNameForId (infoName messageInfo) e.messageId

variable (messageInfo) in
theorem recorded_newEntry (r : Record) :
    Recorded messageInfo (newEntry (infoName messageInfo) r) :=
  ⟨by rw [toNat_newEntry_len]; rfl, rfl⟩

theorem Recorded.refresh {e e' : Entry} (h : Recorded messageInfo e)
    (h' : Recorded messageInfo e') : Recorded messageInfo (refresh e' e) := by
  unfold MavlinkMessageStatsModel.refresh
  split
  · exact ⟨h'.hasPayload, h.messageName⟩
  · exact ⟨h.hasPayload, h.messageName⟩

theorem recorded_of_mem (rs : List Record) :
    ∀ e ∈ recorded (infoName messageInfo) rs, Recorded messageInfo e := by
  induction rs using List.reverseRecOn with
  | nil => nofun
  | append_singleton rs r ih =>
      rw [recorded, List.foldl_append, List.foldl_cons, List.foldl_nil, handleRecordMessage,
        updateOrInsertEntry_eq]
      have hnew := recorded_newEntry messageInfo r
      exact SortedTable.forall_mem_upsert (fun e he => he.refresh hnew)
        ⟨hnew.hasPayload, hnew.messageName⟩ ih

/-- The copy is what was stored, and zeros behind it. -/
theorem Recorded.paddedPayload_eq {e : Entry} (h : Recorded messageInfo e) :
    paddedPayload e = padded e.storedPayload := by
  refine Vector.ext fun i hi => ?_
  rw [getElem_padded _ hi, Entry.storedPayload, paddedPayload, h.hasPayload]
  by_cases hlen : 0 < e.lastPayloadLen.toNat
  · by_cases hlt : i < e.lastPayloadLen.toNat
    · simp [copyN, List.getD_eq_getElem?_getD, hlen, hlt, hi]
    · simp [copyN, List.getD_eq_getElem?_getD, hlen, hlt, Vector.get]
  · simp [Nat.eq_zero_of_not_pos hlen]

variable (numberFloat numberDouble messageInfo) in
/-- What a row shows when these messages were recorded. -/
def shown (rs : List Record) (row : ℤ) : Exec MessageDetails :=
  decodeMessageDetails numberFloat numberDouble messageInfo (recorded (infoName messageInfo) rs) row

/-- **A row shows the last payload that is not empty.** -/
theorem shown_row {rs : List Record} {row : ℕ} {e : Entry}
    (he : (recorded (infoName messageInfo) rs)[row]? = some e) :
    shown numberFloat numberDouble messageInfo rs row =
      detailsOf numberFloat numberDouble messageInfo e.messageId
        (messageNameForId (infoName messageInfo) e.messageId)
        (padded (lastPayload (recordsOf e.key rs))).toList := by
  obtain ⟨hrow, -⟩ := List.getElem?_eq_some_iff.mp he
  have hmem := List.mem_of_getElem? he
  have hrecorded := recorded_of_mem rs e hmem
  obtain ⟨-, -, hpayload, -⟩ := (recorded_summary (infoName messageInfo) rs).row hmem
  have hload : load (recorded (infoName messageInfo) rs) row = .ok e := load_eq_ok_iff.mpr he
  rw [shown, decodeMessageDetails, if_neg (by omega), Int.toNat_natCast, hload, ok_bind,
    hrecorded.messageName, hrecorded.paddedPayload_eq, hpayload, padded_take]

theorem messageId_of_key {e e' : Entry} (h : e.key = e'.key) : e.messageId = e'.messageId := by
  rw [Entry.key_eq, Entry.key_eq, keyOf_inj] at h
  exact h.2.2

theorem lastPayload_recordsOf_append (rs : List Record) (r : Record) :
    lastPayload (recordsOf r.key (rs ++ [r])) =
      if r.payload = [] then lastPayload (recordsOf r.key rs) else r.payload := by
  have hmine : recordsOf r.key (rs ++ [r]) = recordsOf r.key rs ++ [r] := by simp [recordsOf]
  rw [hmine]
  split
  · rename_i hempty
    exact lastPayload_append_empty hempty
  · rename_i hne
    exact lastPayload_append hne

/-- One more payload, and the same without zeros at its end: as long as a byte is left, or nothing
came before. -/
theorem padded_lastPayload_trimmed {rs : List Record} {r r' : Record} {k : ℕ}
    (hkey : r'.key = r.key) (hpayload : r.payload = r'.payload ++ List.replicate k 0)
    (hleft : r'.payload ≠ [] ∨ lastPayload (recordsOf r.key rs) = []) :
    padded (lastPayload (recordsOf r.key (rs ++ [r]))) =
      padded (lastPayload (recordsOf r.key (rs ++ [r']))) := by
  have hafter : padded (lastPayload (recordsOf r.key (rs ++ [r']))) = padded r'.payload := by
    rw [← hkey, lastPayload_recordsOf_append, hkey]
    split
    · rename_i hempty
      rw [hleft.resolve_left (not_not_intro hempty), hempty]
    · rfl
  rw [hafter, lastPayload_recordsOf_append]
  split
  · rename_i hempty
    obtain ⟨hempty', -⟩ := List.append_eq_nil_iff.mp (hpayload ▸ hempty)
    rw [hleft.resolve_left (not_not_intro hempty'), hempty']
  · rw [hpayload, padded_append_zeros]

variable (numberFloat numberDouble) in
/-- **Fields are read inside of the copy, and depend only on the last payload that is not empty**,
whose zeros at the end may be left away, as long as a byte is left or nothing came before. -/
theorem decodeMessageDetails_recorded
    (hfits : ∀ id info, messageInfo id = some info → ∀ field ∈ info.fields, Fits field) :
    (∀ rs row, Safe (shown numberFloat numberDouble messageInfo rs row)) ∧
      (∀ rs rs' (row row' : ℕ) e e', (recorded (infoName messageInfo) rs)[row]? = some e →
        (recorded (infoName messageInfo) rs')[row']? = some e' → e.messageId = e'.messageId →
        lastPayload (recordsOf e.key rs) = lastPayload (recordsOf e'.key rs') →
        shown numberFloat numberDouble messageInfo rs row =
          shown numberFloat numberDouble messageInfo rs' row') ∧
      ∀ rs r r' k, r'.key = r.key → r.payload = r'.payload ++ List.replicate k 0 →
        (r'.payload ≠ [] ∨ lastPayload (recordsOf r.key rs) = []) →
        ∀ (row row' : ℕ) e e', (recorded (infoName messageInfo) (rs ++ [r]))[row]? = some e →
          (recorded (infoName messageInfo) (rs ++ [r']))[row']? = some e' →
          e.key = r.key → e'.key = r.key →
          shown numberFloat numberDouble messageInfo (rs ++ [r]) row =
            shown numberFloat numberDouble messageInfo (rs ++ [r']) row' := by
  refine ⟨fun rs row => safe_decodeMessageDetails hfits _ row, ?_, ?_⟩
  · intro rs rs' row row' e e' he he' hid hpayload
    rw [shown_row he, shown_row he', hid, hpayload]
  · intro rs r r' k hkey hpayload hleft row row' e e' he he' hek hek'
    rw [shown_row he, shown_row he', messageId_of_key (hek.trans hek'.symm), hek, hek',
      padded_lastPayload_trimmed hkey hpayload hleft]

variable (messageInfo) in
/-- What was recorded has a row. -/
theorem exists_shown {rs : List Record} {r : Record} (hr : r ∈ rs) :
    ∃ (row : ℕ) (e : Entry), (recorded (infoName messageInfo) rs)[row]? = some e ∧
      e.key = r.key ∧ e.messageId = r.msgid := by
  obtain ⟨e, he, hkey⟩ := (recorded_summary (infoName messageInfo) rs).exists_row hr
  obtain ⟨row, hrow⟩ := List.getElem?_of_mem he
  have hids := hkey
  rw [Entry.key_eq, Record.key, keyOf_inj] at hids
  exact ⟨row, e, hrow, hkey, hids.2.2⟩

/-- A table with one message. -/
def textInfo (id : UInt32) : Option MavlinkMessageInfo :=
  if id = 0 then some ⟨"TEXT", [⟨"text", .char, 3, 0⟩]⟩ else none

theorem fits_textInfo (id : UInt32) (info : MavlinkMessageInfo) (h : textInfo id = some info) :
    ∀ field ∈ info.fields, Fits field := by
  unfold textInfo at h
  split_ifs at h
  obtain rfl := Option.some.inj h
  decide

/-- Two zeros less: the text is the same. -/
theorem decodeMessageDetails_recorded_text :
    ∃ (row row' : ℕ) (details : MessageDetails),
      details.fields.map FieldDetails.value = ["A"] ∧
        shown (fun _ => "") (fun _ => "") textInfo [⟨1, 1, 0, [65, 0, 0], 7⟩] row = .ok details ∧
        shown (fun _ => "") (fun _ => "") textInfo [⟨1, 1, 0, [65], 7⟩] row' = .ok details := by
  obtain ⟨row, e, he, hkey, -⟩ := exists_shown textInfo
    (List.mem_singleton_self (⟨1, 1, 0, [65, 0, 0], 7⟩ : Record))
  obtain ⟨row', e', he', hkey', hid'⟩ := exists_shown textInfo
    (List.mem_singleton_self (⟨1, 1, 0, [65], 7⟩ : Record))
  obtain ⟨-, -, htrimmed⟩ :=
    decodeMessageDetails_recorded (fun _ => "") (fun _ => "") fits_textInfo
  have hsame := htrimmed [] ⟨1, 1, 0, [65, 0, 0], 7⟩ ⟨1, 1, 0, [65], 7⟩ 2 rfl rfl
    (.inl (List.cons_ne_nil _ _)) row row' e e' he he' hkey hkey'
  have hshown : shown (fun _ => "") (fun _ => "") textInfo [⟨1, 1, 0, [65], 7⟩] row' =
      .ok ⟨0, "TEXT", 1, [⟨"text", "char", 3, "A"⟩]⟩ := by
    rw [shown_row he', hkey', hid']
    decide +kernel
  exact ⟨row, row', _, rfl, hsame.trans hshown, hshown⟩

/-- The last payload is empty, and the one before is shown. -/
theorem not_last_payload :
    ¬ ∀ (rs rs' : List Record) (row row' : ℕ) (e e' : Entry),
      (recorded (infoName textInfo) rs)[row]? = some e →
      (recorded (infoName textInfo) rs')[row']? = some e' → e.key = e'.key →
      (recordsOf e.key rs).getLast?.map Record.payload =
        (recordsOf e'.key rs').getLast?.map Record.payload →
      shown (fun _ => "") (fun _ => "") textInfo rs row =
        shown (fun _ => "") (fun _ => "") textInfo rs' row' := by
  intro h
  have hmem : (⟨1, 1, 0, [], 8⟩ : Record) ∈ [⟨1, 1, 0, [65], 7⟩, ⟨1, 1, 0, [], 8⟩] := by simp
  obtain ⟨row, e, he, hkey, hid⟩ := exists_shown textInfo hmem
  obtain ⟨row', e', he', hkey', hid'⟩ := exists_shown textInfo
    (List.mem_singleton_self (⟨1, 1, 0, [], 8⟩ : Record))
  have hlast : (recordsOf e.key [⟨1, 1, 0, [65], 7⟩, ⟨1, 1, 0, [], 8⟩]).getLast?.map
        Record.payload = (recordsOf e'.key [⟨1, 1, 0, [], 8⟩]).getLast?.map Record.payload := by
    rw [hkey, hkey']
    decide
  have heq := h _ _ row row' e e' he he' (hkey.trans hkey'.symm) hlast
  rw [shown_row he, shown_row he', hkey, hkey', hid, hid'] at heq
  exact absurd heq (by decide +kernel)

end MavlinkMessageStatsModel

end QOpenHD
