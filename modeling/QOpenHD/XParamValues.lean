/-
QOpenHD/XParamValues.lean

The ids and values that the messages of `XParam` carry (`xparam.cpp`): how a set
is put together, and how the parameters of a server are read.

An id has 16 bytes in a message and a value 128.  A shorter one is terminated, a
longer one is cut off.  `fieldString_stringField` says that what fits is read as it
was written.
-/
import QOpenHD.XParam
import Mathlib.Data.List.GetD

namespace QOpenHD

/-! ### Fields -/

/-- A string in an array of zeros: `set_param_id` for 16 bytes, and
`set_param_value_string` for 128. -/
def stringField (n : ℕ) (source : List UInt8) : Vector UInt8 n :=
  Vector.ofFn fun i => source.getD i 0

/-- What can be read again from a field of `n` bytes. -/
def FitsField (n : ℕ) (source : List UInt8) : Prop := source.length ≤ n ∧ 0 ∉ source

instance (n : ℕ) (source : List UInt8) : Decidable (FitsField n source) :=
  inferInstanceAs (Decidable (_ ∧ _))

theorem stringField_toList {n : ℕ} {source : List UInt8} (h : source.length ≤ n) :
    (stringField n source).toList = source ++ List.replicate (n - source.length) 0 := by
  apply List.ext_getElem
  · simp [h]
  intro i hi hi'
  rw [Vector.length_toList] at hi
  have hget : (stringField n source).toList[i] = source.getD i 0 := by
    simp [stringField, Vector.getElem_toList]
  rw [hget]
  by_cases hlt : i < source.length
  · rw [List.getElem_append_left hlt, List.getD_eq_getElem _ _ hlt]
  · rw [List.getElem_append_right (Nat.le_of_not_lt hlt), List.getElem_replicate,
      List.getD_eq_default _ _ (Nat.le_of_not_lt hlt)]

theorem getD_stringField {n : ℕ} {source : List UInt8} (h : source.length ≤ n) (i : ℕ) :
    (stringField n source).toList.getD i 0 = source.getD i 0 := by
  rw [stringField_toList h]
  by_cases hi : i < source.length
  · rw [List.getD_append _ _ _ _ hi]
  · rw [List.getD_append_right _ _ _ _ (Nat.le_of_not_lt hi), List.getD_eq_getElem?_getD,
      List.getElem?_getD_replicate_default_eq, List.getD_eq_default _ _ (Nat.le_of_not_lt hi)]

/-- What fits is read as it was written. -/
theorem fieldString_stringField {n : ℕ} {source : List UInt8} (h : FitsField n source) :
    fieldString (stringField n source) = source := by
  have hall : ∀ b ∈ source, decide (b ≠ 0) = true := by
    intro b hb
    apply decide_eq_true
    rintro rfl
    exact h.2 hb
  rw [fieldString, stringField_toList h.1, List.takeWhile_append_of_pos hall]
  rcases n - source.length with - | k
  · simp
  · simp [List.replicate_succ]

/-! ### Values -/

def setParamId (source : List UInt8) : Vector UInt8 16 := stringField 16 source

/-- The four bytes of the number on a little-endian machine, and zeros. -/
def setParamValueInt (value : Int32) : Vector UInt8 128 :=
  let n := value.toUInt32.toNat
  stringField 128
    [UInt8.ofNat n, UInt8.ofNat (n / 256), UInt8.ofNat (n / 65536), UInt8.ofNat (n / 16777216)]

def setParamValueString (value : List UInt8) : Vector UInt8 128 := stringField 128 value

def getParamValueInt (paramValue : Vector UInt8 128) : Int32 :=
  let byte := fun i => (paramValue.toList.getD i 0).toNat
  ⟨UInt32.ofNat (byte 0 + byte 1 * 256 + byte 2 * 65536 + byte 3 * 16777216)⟩

def getParamValueString (paramValue : Vector UInt8 128) : List UInt8 := fieldString paramValue

theorem getParamId_setParamId {source : List UInt8} (h : FitsField 16 source) :
    getParamId (setParamId source) = source := fieldString_stringField h

theorem getParamValueInt_setParamValueInt (value : Int32) :
    getParamValueInt (setParamValueInt value) = value := by
  obtain ⟨v⟩ := value
  have hv := v.toNat_lt
  have hbytes : ∀ b₀ b₁ b₂ b₃ : UInt8, [b₀, b₁, b₂, b₃].length ≤ 128 := fun _ _ _ _ => by simp
  rw [getParamValueInt, setParamValueInt]
  simp only [getD_stringField (hbytes _ _ _ _), List.getD_cons_zero, List.getD_cons_succ,
    UInt8.toNat_ofNat']
  congr 1
  apply UInt32.toNat_inj.mp
  rw [UInt32.toNat_ofNat']
  omega

theorem getParamValueString_setParamValueString {value : List UInt8} (h : FitsField 128 value) :
    getParamValueString (setParamValueString value) = value := fieldString_stringField h

/-! ### Commands -/

def MAV_PARAM_EXT_TYPE_INT32 : UInt8 := 6

def MAV_PARAM_EXT_TYPE_CUSTOM : UInt8 := 11

namespace XParam

def createCmdSetInt (targetSysid targetCompid : UInt8) (paramName : List UInt8) (value : Int32) :
    ParamExtSet where
  targetSystem := targetSysid
  targetComponent := targetCompid
  paramId := setParamId paramName
  paramType := MAV_PARAM_EXT_TYPE_INT32
  paramValue := setParamValueInt value

def createCmdSetString (targetSysid targetCompid : UInt8) (paramId value : List UInt8) :
    ParamExtSet where
  targetSystem := targetSysid
  targetComponent := targetCompid
  paramId := setParamId paramId
  paramType := MAV_PARAM_EXT_TYPE_CUSTOM
  paramValue := setParamValueString value

def createCmdGetAll (targetSysid targetCompid : UInt8) : ParamExtRequestList where
  targetSystem := targetSysid
  targetComponent := targetCompid

/-- `XParam::ParamVariant` -/
structure ParamVariant where
  paramId : List UInt8
  stringParam : Option (List UInt8)
  intParam : Option Int32
  deriving DecidableEq

/-- Types other than these two are not supported. -/
def parseParam (paramExtValue : ParamExtValue) : ParamVariant :=
  if paramExtValue.paramType = MAV_PARAM_EXT_TYPE_INT32 then
    { paramId := getParamId paramExtValue.paramId
      stringParam := none
      intParam := some (getParamValueInt paramExtValue.paramValue) }
  else if paramExtValue.paramType = MAV_PARAM_EXT_TYPE_CUSTOM then
    { paramId := getParamId paramExtValue.paramId
      stringParam := some (getParamValueString paramExtValue.paramValue)
      intParam := none }
  else
    { paramId := getParamId paramExtValue.paramId
      stringParam := none
      intParam := none }

def parseServerParamSet (paramSet : List ParamExtValue) : List ParamVariant :=
  paramSet.map parseParam

end XParam

end QOpenHD
