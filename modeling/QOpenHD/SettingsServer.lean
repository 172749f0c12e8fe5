/-
QOpenHD/SettingsServer.lean

The server whose parameters a `MavlinkSettingsModel` caches, and the rows of the
cache.

The server has each of its parameters once, with a text as its name and, if it is
a string, as its value (`WellFormed`).  It decides by itself which sets it accepts,
applies those on receipt and acknowledges every set; a set of a parameter it does not
have is refused.  Asked for its parameters, it sends the values one by one.

* `rows` — what the cache should be: a row for each parameter of a supported
  type that is not whitelisted.
* `rows_applySet` — an accepted set of the model changes the rows as
  `updateData` does.
* `settings_of_full` — a set of responses that has them all is the parameters.
-/
import QOpenHD.LastWriter
import QOpenHD.MavlinkSettingsModel

namespace QOpenHD

open Checked LastWriter

def PARAM_ACK_FAILED : UInt8 := 2

/-- The id, and the value if it is a string, are text. -/
def SettingData.IsText (param : SettingData) : Prop :=
  Utf8.IsText param.uniqueId ∧
    match param.value with
    | .int _ => True
    | .string value => Utf8.IsText value

instance (param : SettingData) : Decidable param.IsText :=
  have : Decidable (match param.value with
      | .int _ => True
      | .string value => Utf8.IsText value) :=
    match param.value with
    | .int _ => isTrue trivial
    | .string value => inferInstanceAs (Decidable (Utf8.IsText value))
  inferInstanceAs (Decidable (_ ∧ _))

/-! ### The server -/

/-- A parameter of the server. -/
structure ServerParam where
  paramId : Vector UInt8 16
  paramType : UInt8
  paramValue : Vector UInt8 128
  deriving DecidableEq

namespace ServerParam

def id (p : ServerParam) : List UInt8 := getParamId p.paramId

/-- What is sent for it, as one of `paramCount`. -/
def response (p : ServerParam) (paramCount paramIndex : UInt16) : ParamExtValue :=
  ⟨paramCount, paramIndex, p.paramId, p.paramValue, p.paramType⟩

/-- What it means to the user, if its type is supported. -/
def setting (p : ServerParam) : Option SettingData :=
  if p.paramType = MAV_PARAM_EXT_TYPE_INT32 then some ⟨p.id, .int (getParamValueInt p.paramValue)⟩
  else if p.paramType = MAV_PARAM_EXT_TYPE_CUSTOM then
    some ⟨p.id, .string (getParamValueString p.paramValue)⟩
  else none

end ServerParam

namespace SettingsServer

/-- Each parameter is there once, they can be counted, and what the user reads is text. -/
structure WellFormed (params : List ServerParam) : Prop where
  nodup : (params.map ServerParam.id).Nodup
  length_lt : params.length < 65536
  text : ∀ p ∈ params, ∀ row, p.setting = some row → row.IsText

/-- What is sent for parameter number `i`. -/
def responseAt (params : List ServerParam) (i : ℕ) : Option ParamExtValue :=
  params[i]?.map fun p => p.response (UInt16.ofNat params.length) (UInt16.ofNat i)

/-- The set is for this parameter. -/
def isFor (cmd : ParamExtSet) (p : ServerParam) : Bool :=
  p.id == getParamId cmd.paramId && p.paramType == cmd.paramType

def applySet (cmd : ParamExtSet) (params : List ServerParam) : List ServerParam :=
  params.map fun p => if isFor cmd p then { p with paramValue := cmd.paramValue } else p

/-- The result of a set: what the server decides, if it has the parameter. -/
def resultOf (verdict : List ServerParam → ParamExtSet → UInt8) (params : List ServerParam)
    (cmd : ParamExtSet) : UInt8 :=
  if params.any (isFor cmd) then verdict params cmd else PARAM_ACK_FAILED

def receiveSet (verdict : List ServerParam → ParamExtSet → UInt8) (params : List ServerParam)
    (cmd : ParamExtSet) : List ServerParam × ParamExtAck :=
  let result := resultOf verdict params cmd
  (if result = PARAM_ACK_ACCEPTED then applySet cmd params else params,
    { acknowledge cmd with paramResult := result })

/-- The rows of a cache that is up to date. -/
def rows (isParamWhitelisted : List UInt8 → Bool) (params : List ServerParam) : List SettingData :=
  (params.filterMap ServerParam.setting).filter fun param => !isParamWhitelisted param.uniqueId

/-! ### Rows -/

/-- Of two updates of one row the last one stays. -/
theorem overwrites_updateRow :
    Overwrites MavlinkSettingsModel.updateRow SettingData.uniqueId where
  same := by
    intro x y data hid
    induction data with
    | nil => rfl
    | cons row data ih =>
        by_cases hrow : row.uniqueId = x.uniqueId
        · simp [MavlinkSettingsModel.updateRow, hrow, hid]
        · have hrow' : row.uniqueId ≠ y.uniqueId := hid ▸ hrow
          simp [MavlinkSettingsModel.updateRow, hrow, hrow', ih]
  comm := by
    intro x y data hid
    induction data with
    | nil => rfl
    | cons row data ih =>
        by_cases hx : row.uniqueId = x.uniqueId
        · simp [MavlinkSettingsModel.updateRow, hx, hid]
        · by_cases hy : row.uniqueId = y.uniqueId
          · simp [MavlinkSettingsModel.updateRow, hy, hid.symm]
          · simp [MavlinkSettingsModel.updateRow, hx, hy, ih]

/-- The first rows have other ids. -/
theorem updateRow_append {newData : SettingData} {pre : List SettingData}
    (h : ∀ row ∈ pre, row.uniqueId ≠ newData.uniqueId) (post : List SettingData) :
    MavlinkSettingsModel.updateRow newData (pre ++ post) =
      pre ++ MavlinkSettingsModel.updateRow newData post := by
  induction pre with
  | nil => rfl
  | cons row pre ih =>
      obtain ⟨hrow, hpre⟩ := List.forall_mem_cons.mp h
      rw [List.cons_append, MavlinkSettingsModel.updateRow, if_neg hrow, ih hpre, List.cons_append]

theorem updateRow_of_notMem {newData : SettingData} {data : List SettingData}
    (h : ∀ row ∈ data, row.uniqueId ≠ newData.uniqueId) :
    MavlinkSettingsModel.updateRow newData data = data := by
  have happend := updateRow_append h []
  rwa [MavlinkSettingsModel.updateRow, List.append_nil] at happend

/-- Adding one after another: those that are not whitelisted. -/
theorem foldl_addData (isParamWhitelisted : List UInt8 → Bool) (params data : List SettingData) :
    params.foldl (MavlinkSettingsModel.addData isParamWhitelisted) data =
      data ++ params.filter fun param => !isParamWhitelisted param.uniqueId := by
  induction params generalizing data with
  | nil => simp
  | cons param params ih =>
      rw [List.foldl_cons, ih, MavlinkSettingsModel.addData]
      cases hwhitelisted : isParamWhitelisted param.uniqueId <;> simp [hwhitelisted]

theorem setting_uniqueId {p : ServerParam} {row : SettingData} (h : p.setting = some row) :
    row.uniqueId = p.id := by
  unfold ServerParam.setting at h
  split_ifs at h
  · rw [← Option.some.inj h]
  · rw [← Option.some.inj h]

theorem mem_rows_uniqueId {isParamWhitelisted : List UInt8 → Bool} {params : List ServerParam}
    {row : SettingData} (h : row ∈ rows isParamWhitelisted params) :
    ∃ p ∈ params, row.uniqueId = p.id := by
  obtain ⟨p, hp, hrow⟩ := List.mem_filterMap.mp (List.mem_of_mem_filter h)
  exact ⟨p, hp, setting_uniqueId hrow⟩

/-- No parameter has the id, so no row has. -/
theorem rows_apart {params : List ServerParam} {id : List UInt8} (h : ∀ p ∈ params, p.id ≠ id)
    (isParamWhitelisted : List UInt8 → Bool) :
    ∀ row ∈ rows isParamWhitelisted params, row.uniqueId ≠ id := by
  intro row hrow
  obtain ⟨p, hp, hrowp⟩ := mem_rows_uniqueId hrow
  rw [hrowp]
  exact h p hp

/-- The row of the first parameter, and the others. -/
theorem rows_cons (isParamWhitelisted : List UInt8 → Bool) (p : ServerParam)
    (params : List ServerParam) :
    rows isParamWhitelisted (p :: params) =
      rows isParamWhitelisted [p] ++ rows isParamWhitelisted params := by
  rw [rows, rows, rows, ← List.filter_append, ← List.filterMap_append]
  rfl

/-! ### Sets -/

/-- The set of a row, as a model of this component sends it. -/
def setFor (sysId compId : UInt8) (param : SettingData) : ParamExtSet :=
  (MavlinkSettingsModel.new sysId compId).createCmdSet param

/-- The value fits into the field for it. -/
def FitsValue : SettingValue → Prop
  | .int _ => True
  | .string value => FitsField 128 value

/-- The id and the value can be read again, from the set and by the model. -/
structure FitsCmd (param : SettingData) : Prop where
  id : FitsField 16 param.uniqueId
  value : FitsValue param.value
  text : param.IsText

variable {sysId compId : UInt8} {param : SettingData} {p : ServerParam}

theorem getParamId_setFor (h : FitsCmd param) :
    getParamId (setFor sysId compId param).paramId = param.uniqueId := by
  obtain ⟨id, value | value⟩ := param
  · exact getParamId_setParamId h.1
  · exact getParamId_setParamId h.1

theorem isFor_setFor_iff (h : FitsCmd param) :
    isFor (setFor sysId compId param) p = true ↔
      p.id = param.uniqueId ∧ p.paramType = (setFor sysId compId param).paramType := by
  rw [isFor, getParamId_setFor h, Bool.and_eq_true, beq_iff_eq, beq_iff_eq]

theorem setting_int {paramId : Vector UInt8 16} {paramType : UInt8} {paramValue : Vector UInt8 128}
    (h : paramType = MAV_PARAM_EXT_TYPE_INT32) :
    (⟨paramId, paramType, paramValue⟩ : ServerParam).setting =
      some ⟨getParamId paramId, .int (getParamValueInt paramValue)⟩ := if_pos h

theorem setting_string {paramId : Vector UInt8 16} {paramType : UInt8}
    {paramValue : Vector UInt8 128} (h : paramType = MAV_PARAM_EXT_TYPE_CUSTOM) :
    (⟨paramId, paramType, paramValue⟩ : ServerParam).setting =
      some ⟨getParamId paramId, .string (getParamValueString paramValue)⟩ := by
  have hint : paramType ≠ MAV_PARAM_EXT_TYPE_INT32 := by
    rw [h]
    decide
  exact (if_neg hint).trans (if_pos h)

/-- **What fits is read as it was written.** -/
theorem setting_createCmdSet (h : FitsCmd param)
    (hp : isFor (setFor sysId compId param) p = true) :
    ({ p with paramValue := (setFor sysId compId param).paramValue } : ServerParam).setting =
      some param := by
  obtain ⟨hid, htype⟩ := (isFor_setFor_iff h).mp hp
  obtain ⟨uniqueId, value | value⟩ := param
  · have hvalue :
        getParamValueInt (setFor sysId compId ⟨uniqueId, .int value⟩).paramValue = value :=
      getParamValueInt_setParamValueInt value
    rw [setting_int htype, hvalue]
    exact congrArg (fun id => some (⟨id, .int value⟩ : SettingData)) hid
  · have hvalue :
        getParamValueString (setFor sysId compId ⟨uniqueId, .string value⟩).paramValue = value :=
      getParamValueString_setParamValueString h.2
    rw [setting_string htype, hvalue]
    exact congrArg (fun id => some (⟨id, .string value⟩ : SettingData)) hid

/-- The parameter it is for has a row, whatever its value. -/
theorem setting_of_isFor (h : FitsCmd param) (hp : isFor (setFor sysId compId param) p = true) :
    ∃ row, p.setting = some row ∧ row.uniqueId = param.uniqueId := by
  obtain ⟨hid, htype⟩ := (isFor_setFor_iff h).mp hp
  obtain ⟨uniqueId, value | value⟩ := param
  · exact ⟨_, setting_int htype, hid⟩
  · exact ⟨_, setting_string htype, hid⟩

theorem map_id_applySet (cmd : ParamExtSet) (params : List ServerParam) :
    (applySet cmd params).map ServerParam.id = params.map ServerParam.id := by
  rw [applySet, List.map_map]
  apply List.map_congr_left
  intro p _
  show (if isFor cmd p then { p with paramValue := cmd.paramValue } else p).id = p.id
  split_ifs <;> rfl

theorem length_applySet (cmd : ParamExtSet) (params : List ServerParam) :
    (applySet cmd params).length = params.length := List.length_map _

/-- A set of the model leaves text where there was text. -/
theorem WellFormed.applySet {params : List ServerParam} (hparams : WellFormed params)
    (h : FitsCmd param) :
    WellFormed (SettingsServer.applySet (setFor sysId compId param) params) where
  nodup := by
    rw [map_id_applySet]
    exact hparams.nodup
  length_lt := by
    rw [length_applySet]
    exact hparams.length_lt
  text := by
    intro q hq row hrow
    obtain ⟨p, hp, rfl⟩ := List.mem_map.mp hq
    split_ifs at hrow with hfor
    · rw [setting_createCmdSet h hfor] at hrow
      exact Option.some.inj hrow ▸ h.text
    · exact hparams.text p hp row hrow

/-- A set of none of these. -/
theorem applySet_of_notMem {params : List ServerParam} (h : FitsCmd param)
    (hid : ∀ p ∈ params, p.id ≠ param.uniqueId) :
    SettingsServer.applySet (setFor sysId compId param) params = params := by
  have hnone : ∀ p ∈ params, isFor (setFor sysId compId param) p = false := by
    intro p hp
    apply eq_false_of_ne_true
    exact fun hfor => hid p hp ((isFor_setFor_iff h).mp hfor).1
  rw [SettingsServer.applySet]
  conv => rhs; rw [← List.map_id params]
  apply List.map_congr_left
  intro p hp
  rw [hnone p hp]
  rfl

/-- **A set that is applied is an update of the rows.** -/
theorem rows_applySet (isParamWhitelisted : List UInt8 → Bool) {params : List ServerParam}
    (h : FitsCmd param) (hnodup : (params.map ServerParam.id).Nodup)
    (hany : params.any (isFor (setFor sysId compId param)) = true) :
    rows isParamWhitelisted (SettingsServer.applySet (setFor sysId compId param) params) =
      MavlinkSettingsModel.updateRow param (rows isParamWhitelisted params) := by
  induction params with
  | nil => cases hany
  | cons p params ih =>
      obtain ⟨hp, hnodup⟩ := List.nodup_cons.mp hnodup
      have hne : ∀ q ∈ params, q.id ≠ p.id := fun q hq heq => hp (heq ▸ List.mem_map_of_mem hq)
      have happly : SettingsServer.applySet (setFor sysId compId param) (p :: params) =
          (if isFor (setFor sysId compId param) p then
            { p with paramValue := (setFor sysId compId param).paramValue } else p) ::
              SettingsServer.applySet (setFor sysId compId param) params := rfl
      rw [happly, rows_cons, rows_cons isParamWhitelisted p]
      by_cases hfor : isFor (setFor sysId compId param) p = true
      · -- it is the first one, and no other
        have hid := ((isFor_setFor_iff h).mp hfor).1
        have hothers : ∀ q ∈ params, q.id ≠ param.uniqueId := fun q hq => hid ▸ hne q hq
        have hrest := rows_apart hothers isParamWhitelisted
        obtain ⟨row, hrow, hrowId⟩ := setting_of_isFor h hfor
        rw [if_pos hfor, applySet_of_notMem h hothers]
        -- its row is the first, unless it is whitelisted and no row has the id
        cases hwhitelisted : isParamWhitelisted param.uniqueId
        · simp [rows, setting_createCmdSet h hfor, hrow, hrowId, hwhitelisted,
            MavlinkSettingsModel.updateRow]
        · simp only [rows, List.filterMap_cons, setting_createCmdSet h hfor, hrow,
            List.filterMap_nil, List.filter_cons, hrowId, hwhitelisted, List.filter_nil,
            Bool.not_true, Bool.false_eq_true, if_false, List.nil_append]
          exact (updateRow_of_notMem hrest).symm
      · -- it is one of the others
        have hany' : params.any (isFor (setFor sysId compId param)) = true := by
          simpa [hfor] using hany
        obtain ⟨q, hq, hqfor⟩ := List.any_eq_true.mp hany'
        have hid : p.id ≠ param.uniqueId := by
          rw [← ((isFor_setFor_iff h).mp hqfor).1]
          exact (hne q hq).symm
        have hfirst : ∀ row ∈ rows isParamWhitelisted [p], row.uniqueId ≠ param.uniqueId :=
          rows_apart (List.forall_mem_singleton.mpr hid) isParamWhitelisted
        rw [if_neg hfor, ih hnodup hany', updateRow_append hfirst]

/-! ### Responses -/

/-- The slots that are filled have what the server would send now. -/
structure Current (params : List ServerParam) (slots : List (Option ParamExtValue)) : Prop where
  length : slots.length = params.length
  filled : ∀ i v, slots[i]? = some (some v) → responseAt params i = some v

/-- What the model makes of a response. -/
theorem qtParamValue_response (p : ServerParam) (paramCount paramIndex : UInt16) :
    MavlinkSettingsModel.qtParamValue (XParam.parseParam (p.response paramCount paramIndex)) =
      p.setting.map fun row => ⟨QString.fromUtf8 row.uniqueId,
        match row.value with
        | .int value => .int value
        | .string value => .string (QString.fromUtf8 value)⟩ := by
  unfold XParam.parseParam ServerParam.setting ServerParam.response
  dsimp only
  split_ifs <;> rfl

/-- Text is kept. -/
theorem qtParamValue_of_isText {p : ServerParam} (h : ∀ row, p.setting = some row → row.IsText)
    (paramCount paramIndex : UInt16) :
    MavlinkSettingsModel.qtParamValue (XParam.parseParam (p.response paramCount paramIndex)) =
      p.setting := by
  rw [qtParamValue_response]
  rcases hsetting : p.setting with - | ⟨uniqueId, value | value⟩
  · rfl
  · obtain ⟨hid, -⟩ := h _ hsetting
    simp only [Option.map_some, QString.fromUtf8, Utf8.reread_of_isText hid]
  · obtain ⟨hid, hvalue⟩ := h _ hsetting
    simp only [Option.map_some, QString.fromUtf8, Utf8.reread_of_isText hid,
      Utf8.reread_of_isText hvalue]

/-- **All the responses are all the parameters.** -/
theorem settings_of_full {params : List ServerParam} (hparams : WellFormed params)
    {slots : List (Option ParamExtValue)} {vs : List ParamExtValue} (hslots : Current params slots)
    (h : validParamSet slots = .ok vs) :
    (XParam.parseServerParamSet vs).filterMap MavlinkSettingsModel.qtParamValue =
      params.filterMap ServerParam.setting := by
  obtain rfl := eq_map_some_of_validParamSet h
  have hlength : vs.length = params.length := by
    rw [← hslots.length, List.length_map]
  have hmap : vs.map (MavlinkSettingsModel.qtParamValue ∘ XParam.parseParam) =
      params.map ServerParam.setting := by
    apply List.ext_getElem
    · rw [List.length_map, List.length_map, hlength]
    intro i hi hi'
    rw [List.length_map] at hi hi'
    have hfilled := hslots.filled i vs[i] (by simp [hi])
    rw [responseAt, List.getElem?_eq_getElem hi', Option.map_some, Option.some.injEq] at hfilled
    rw [List.getElem_map, List.getElem_map, Function.comp_apply, ← hfilled,
      qtParamValue_of_isText (hparams.text _ (List.getElem_mem hi'))]
  have hfilterMap : ∀ {α β : Type} (f : α → Option β) (l : List α),
      l.filterMap f = (l.map f).filterMap (fun b => b) := by
    intro α β f l
    rw [List.filterMap_map]
    rfl
  rw [XParam.parseServerParamSet, List.filterMap_map, hfilterMap _ vs, hmap, ← hfilterMap]

end SettingsServer

end QOpenHD
