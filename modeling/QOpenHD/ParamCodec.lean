/-
QOpenHD/ParamCodec.lean

How parameters are written into messages: `XParam` (`xparam.cpp`), and the command
line tool (`openhd_mavlink_tool.cpp`), which has an encoder of its own.

* `copyString_eq` — the copies of `XParam` stay inside of both strings, for every length;
* **`parseServerParamSet_createCmdSet`** — what `XParam` writes is read again, cut off
  after 16 and 128 bytes;
* **`sameParameter_iff`** — the tool, which always terminates an id and writes integers
  as text, sets the same parameter to the same value for strings under ids of less
  than 16 bytes, and for three integers.
-/
import QOpenHD.Decimal
import QOpenHD.XParamValues
import Mathlib.Data.List.TakeWhile
import Mathlib.Algebra.Group.Nat.Defs

namespace QOpenHD

open Checked

/-! ### Strings in fields -/

/-- `len` of `set_param_id` and `set_param_value_string`. -/
def copyLength (n : ℕ) (source : List UInt8) : ℕ :=
  if source.length ≥ n then n else source.length + 1

/-- Their `memcpy` out of `c_str()`, over an array of zeros. -/
def copyString (n : ℕ) (source : List UInt8) : Exec (List UInt8) := do
  let bytes ← loadSlice (source ++ [0]) (copyLength n source)
  if copyLength n source ≤ n then .ok (bytes ++ List.replicate (n - copyLength n source) 0)
  else .error .outOfBounds

theorem stringField_toList_of_le {n : ℕ} {source : List UInt8} (h : n ≤ source.length) :
    (stringField n source).toList = source.take n := by
  apply List.ext_getElem
  · simp [h]
  intro i hi hi'
  rw [Vector.length_toList] at hi
  have hsource : i < source.length := by omega
  simp [stringField, hsource]

/-- **The copies read and write what is there**, also where a string is as long as its
field or longer. -/
theorem copyString_eq (n : ℕ) (source : List UInt8) :
    copyString n source = .ok (stringField n source).toList := by
  unfold copyString
  by_cases h : source.length ≥ n
  · have hlength : copyLength n source = n := if_pos h
    have hread : n ≤ (source ++ [0]).length := by
      rw [List.length_append]
      omega
    rw [hlength, loadSlice_of_le hread, ok_bind, if_pos (Nat.le_refl n),
      stringField_toList_of_le h, List.take_append_of_le_length h]
    simp
  · have hlength : copyLength n source = source.length + 1 := if_neg h
    have hread : source.length + 1 ≤ (source ++ [0]).length := by
      rw [List.length_append, List.length_singleton]
    have hlen : source.length + 1 ≤ n := by omega
    have hsplit : n - source.length = (n - (source.length + 1)) + 1 := by omega
    rw [hlength, loadSlice_of_le hread, ok_bind, if_pos hlen,
      stringField_toList (by omega), hsplit, List.replicate_succ,
      List.take_of_length_le (by rw [List.length_append, List.length_singleton])]
    simp

/-- What is read from a field. -/
theorem fieldString_stringField_eq (n : ℕ) (source : List UInt8) :
    fieldString (stringField n source) = (source.take n).takeWhile (· ≠ 0) := by
  unfold fieldString
  by_cases h : n ≤ source.length
  · rw [stringField_toList_of_le h]
  · have hle : source.length ≤ n := by omega
    rw [stringField_toList hle, List.take_of_length_le hle]
    by_cases hall : ∀ b ∈ source, decide (b ≠ 0) = true
    · have hsplit : n - source.length = (n - source.length - 1) + 1 := by omega
      rw [List.takeWhile_append_of_pos hall, hsplit, List.replicate_succ,
        List.takeWhile_eq_self_iff.mpr hall]
      simp
    · have hshort : (source.takeWhile fun b => decide (b ≠ 0)).length ≠ source.length := by
        intro hlen
        have heq := (List.takeWhile_prefix fun b : UInt8 => decide (b ≠ 0)).eq_of_length hlen
        exact hall (List.takeWhile_eq_self_iff.mp heq)
      rw [List.takeWhile_append, if_neg hshort]

/-- Without a terminator inside, the first bytes. -/
theorem fieldString_stringField_of_not_mem {n : ℕ} {source : List UInt8} (h : 0 ∉ source) :
    fieldString (stringField n source) = source.take n := by
  rw [fieldString_stringField_eq, List.takeWhile_eq_self_iff]
  intro b hb
  apply decide_eq_true
  rintro rfl
  exact h (List.mem_of_mem_take hb)

/-! ### Parameters that are written and read -/

inductive ParamValue
  | int (value : Int32)
  | string (value : List UInt8)

/-- A parameter, as a caller has it. -/
structure Parameter where
  paramId : List UInt8
  value : ParamValue

namespace Parameter

def createCmdSet (targetSysid targetCompid : UInt8) (p : Parameter) : ParamExtSet :=
  match p.value with
  | .int value => XParam.createCmdSetInt targetSysid targetCompid p.paramId value
  | .string value => XParam.createCmdSetString targetSysid targetCompid p.paramId value

/-- The parameter, as `XParam` returns it. -/
def variant (p : Parameter) : XParam.ParamVariant :=
  match p.value with
  | .int value => { paramId := p.paramId, stringParam := none, intParam := some value }
  | .string value => { paramId := p.paramId, stringParam := some value, intParam := none }

/-- The copies into the message stay inside of the string and of the field. -/
def Copied (p : Parameter) : Prop :=
  copyString 16 p.paramId = .ok (setParamId p.paramId).toList ∧
    ∀ value, p.value = .string value →
      copyString 128 value = .ok (setParamValueString value).toList

theorem copied (p : Parameter) : p.Copied :=
  ⟨copyString_eq 16 p.paramId, fun value _ => copyString_eq 128 value⟩

/-- What there is room for. -/
def cut (p : Parameter) : Parameter where
  paramId := p.paramId.take 16
  value :=
    match p.value with
    | .int value => .int value
    | .string value => .string (value.take 128)

/-- There is no terminator inside of a string. -/
def NoTerminator (p : Parameter) : Prop :=
  0 ∉ p.paramId ∧ ∀ value, p.value = .string value → 0 ∉ value

/-- There is room for the parameter. -/
def Fits (p : Parameter) : Prop :=
  p.paramId.length ≤ 16 ∧ ∀ value, p.value = .string value → value.length ≤ 128

theorem cut_of_fits {p : Parameter} (h : p.Fits) : p.cut = p := by
  obtain ⟨paramId, value⟩ := p
  have hid : paramId.take 16 = paramId := List.take_of_length_le h.1
  rcases value with v | s
  · simp only [cut, hid]
  · have hvalue : s.take 128 = s := List.take_of_length_le (h.2 s rfl)
    simp only [cut, hid, hvalue]

end Parameter

/-- The value message has the fields of the set. -/
def Carries (m : ParamExtValue) (s : ParamExtSet) : Prop :=
  m.paramId = s.paramId ∧ m.paramType = s.paramType ∧ m.paramValue = s.paramValue

/-- The value message of a server that has nothing but this parameter. -/
def valueMessage (s : ParamExtSet) : ParamExtValue where
  paramCount := 1
  paramIndex := 0
  paramId := s.paramId
  paramValue := s.paramValue
  paramType := s.paramType

theorem carries_valueMessage (s : ParamExtSet) : Carries (valueMessage s) s := ⟨rfl, rfl, rfl⟩

namespace XParam

/-- One parameter is read as it was written. -/
theorem parseParam_createCmdSet {p : Parameter} (hp : p.NoTerminator) {m : ParamExtValue}
    {targetSysid targetCompid : UInt8} (hm : Carries m (p.createCmdSet targetSysid targetCompid)) :
    parseParam m = p.cut.variant := by
  obtain ⟨paramId, value⟩ := p
  obtain ⟨hid, htype, hvalue⟩ := hm
  have hread : getParamId m.paramId = paramId.take 16 := by
    have hset : m.paramId = setParamId paramId := by
      rw [hid]
      rcases value with v | s
      · rfl
      · rfl
    rw [hset]
    exact fieldString_stringField_of_not_mem hp.1
  rcases value with v | s
  · have htype' : m.paramType = MAV_PARAM_EXT_TYPE_INT32 := htype
    have hvalue' : m.paramValue = setParamValueInt v := hvalue
    rw [parseParam, if_pos htype', hread, hvalue', getParamValueInt_setParamValueInt]
    rfl
  · have htype' : m.paramType = MAV_PARAM_EXT_TYPE_CUSTOM := htype
    have hne : m.paramType ≠ MAV_PARAM_EXT_TYPE_INT32 := by
      rw [htype']
      decide
    have hvalue' : getParamValueString m.paramValue = s.take 128 := by
      rw [show m.paramValue = setParamValueString s from hvalue]
      exact fieldString_stringField_of_not_mem (hp.2 s rfl)
    rw [parseParam, if_neg hne, if_pos htype', hread, hvalue']
    rfl

/-- **Parameters are read as they were written**, one for each message and in their
order: their first 16 and 128 bytes, and that is all of them where they fit; and however long
they are, nothing is read or written beside the strings and the fields. -/
theorem parseServerParamSet_createCmdSet (params : List Parameter) (messages : List ParamExtValue)
    (hsets : List.Forall₂
      (fun p m => ∃ targetSysid targetCompid, Carries m (p.createCmdSet targetSysid targetCompid))
      params messages)
    (hnul : ∀ p ∈ params, p.NoTerminator) :
    parseServerParamSet messages = params.map (fun p => p.cut.variant) ∧
      ((∀ p ∈ params, p.Fits) → parseServerParamSet messages = params.map Parameter.variant) ∧
      ∀ p ∈ params, p.Copied := by
  have hcut : parseServerParamSet messages = params.map fun p => p.cut.variant := by
    induction hsets with
    | nil => rfl
    | cons hpm _ ih =>
        obtain ⟨targetSysid, targetCompid, hm⟩ := hpm
        have hrest := ih fun q hq => hnul q (List.mem_cons_of_mem _ hq)
        rw [parseServerParamSet, List.map_cons, List.map_cons,
          parseParam_createCmdSet (hnul _ List.mem_cons_self) hm]
        exact congrArg _ hrest
  refine ⟨hcut, fun hfits => ?_, fun p _ => p.copied⟩
  rw [hcut]
  apply List.map_congr_left
  intro p hp
  rw [Parameter.cut_of_fits (hfits p hp)]

/-- An id that fills its field, and a string in a field of its own. -/
theorem parseServerParamSet_example :
    parseServerParamSet
        [valueMessage (createCmdSetInt 101 191 (List.replicate 16 65) (-7)),
          valueMessage (createCmdSetString 101 191 [66] [47, 100])] =
      [⟨List.replicate 16 65, none, some (-7)⟩, ⟨[66], some [47, 100], none⟩] :=
  (parseServerParamSet_createCmdSet
    [⟨List.replicate 16 65, .int (-7)⟩, ⟨[66], .string [47, 100]⟩] _
    (.cons ⟨101, 191, carries_valueMessage _⟩ (.cons ⟨101, 191, carries_valueMessage _⟩ .nil))
    (by simp [Parameter.NoTerminator])).2.1 (by simp [Parameter.Fits])

end XParam

/-! ### The command line tool -/

/-- What C functions see of a string. -/
def cString (source : List UInt8) : List UInt8 := source.takeWhile (· ≠ 0)

/-- `strncpy` into an array, and a terminator in its last place. -/
def strncpyTerminated (n : ℕ) (source : List UInt8) : Vector UInt8 n :=
  Vector.ofFn fun i => if i.1 = n - 1 then 0 else (cString source).getD i.1 0

/-- `Target` of the tool. -/
structure Target where
  systemId : UInt8
  componentId : UInt8

/-- The payload of `build_param_ext_set`. -/
def buildParamExtSet (target : Target) (name value : List UInt8) (type : UInt8) : ParamExtSet where
  targetSystem := target.systemId
  targetComponent := target.componentId
  paramId := strncpyTerminated 16 name
  paramType := type
  paramValue := strncpyTerminated 128 value

theorem zero_notMem_cString (source : List UInt8) : 0 ∉ cString source := by
  intro h
  have hne := List.mem_takeWhile_imp h
  exact absurd rfl (of_decide_eq_true hne)

theorem cString_of_not_mem {source : List UInt8} (h : 0 ∉ source) : cString source = source := by
  rw [cString, List.takeWhile_eq_self_iff]
  intro b hb
  apply decide_eq_true
  rintro rfl
  exact h hb

/-- The last byte is lost. -/
theorem strncpyTerminated_eq (n : ℕ) (source : List UInt8) :
    strncpyTerminated n source = stringField n ((cString source).take (n - 1)) := by
  unfold strncpyTerminated stringField
  congr 1
  funext i
  have hi := i.2
  split
  · rename_i hlast
    rw [List.getD_eq_default]
    rw [hlast]
    exact List.length_take_le ..
  · have hlt : i.1 < n - 1 := by omega
    rw [List.getD_eq_getElem?_getD, List.getD_eq_getElem?_getD, List.getElem?_take_of_lt hlt]

theorem fieldString_strncpyTerminated (n : ℕ) (source : List UInt8) :
    fieldString (strncpyTerminated n source) = (cString source).take (n - 1) := by
  have hnul : 0 ∉ (cString source).take (n - 1) :=
    fun h => zero_notMem_cString source (List.mem_of_mem_take h)
  rw [strncpyTerminated_eq, fieldString_stringField_of_not_mem hnul, List.take_take,
    Nat.min_eq_right (Nat.sub_le n 1)]

/-- Both sets are for one system and set one parameter to one value, as `XParam` reads them. -/
def SameParameter (a b : ParamExtSet) : Prop :=
  a.targetSystem = b.targetSystem ∧ a.targetComponent = b.targetComponent ∧
    XParam.parseParam (valueMessage a) = XParam.parseParam (valueMessage b)

instance (a b : ParamExtSet) : Decidable (SameParameter a b) :=
  inferInstanceAs (Decidable (_ ∧ _))

/-- Ids of 16 bytes are not the same. -/
theorem take_fifteen_iff {name : List UInt8} (hname : name.length ≤ 16) :
    name.take 15 = name.take 16 ↔ name.length < 16 := by
  rw [List.take_of_length_le hname]
  constructor
  · intro h
    have hlen := congrArg List.length h
    rw [List.length_take] at hlen
    omega
  · intro h
    exact List.take_of_length_le (Nat.le_of_lt_succ h)

/-! ### Numbers as text -/

/-- The first four bytes as a number, the first one being the last digit. -/
def wordOf (text : List UInt8) : ℕ :=
  let byte := fun i => (text.getD i 0).toNat
  byte 0 + byte 1 * 256 + byte 2 * 65536 + byte 3 * 16777216

theorem byte_le {text : List UInt8} (h : ∀ b ∈ text, b.toNat ≤ 57) (i : ℕ) :
    (text.getD i 0).toNat ≤ 57 := by
  by_cases hi : i < text.length
  · rw [List.getD_eq_getElem _ _ hi]
    exact h _ (List.getElem_mem hi)
  · rw [List.getD_eq_default _ _ (by omega)]
    decide

theorem le_byte {n i : ℕ} (h : i < (digitsText n).length) :
    48 ≤ ((digitsText n).getD i 0).toNat := by
  rw [List.getD_eq_getElem _ _ h]
  exact (digit_of_mem (List.getElem_mem h)).1

theorem wordOf_le {text : List UInt8} (h : ∀ b ∈ text, b.toNat ≤ 57) : wordOf text ≤ 960051513 := by
  have h₀ := byte_le h 0
  have h₁ := byte_le h 1
  have h₂ := byte_le h 2
  have h₃ := byte_le h 3
  show (text.getD 0 0).toNat + (text.getD 1 0).toNat * 256 + (text.getD 2 0).toNat * 65536 +
    (text.getD 3 0).toNat * 16777216 ≤ _
  omega

/-- The text of a number of nine digits begins with its first four. -/
theorem wordOf_nineDigits {n : ℕ} (h : 100000000 ≤ n) :
    wordOf (digitsText n) = wordOf (digitsText (n / 100000)) := by
  have hfour : 3 < (digitsText (n / 100000)).length := lt_length_digitsText (by omega)
  have hsplit : ∃ rest, digitsText n = digitsText (n / 100000) ++ rest := by
    rw [digitsText_div (n := n) (by omega), digitsText_div (n := n / 10) (by omega),
      digitsText_div (n := n / 10 / 10) (by omega),
      digitsText_div (n := n / 10 / 10 / 10) (by omega),
      digitsText_div (n := n / 10 / 10 / 10 / 10) (by omega)]
    have hdiv : n / 10 / 10 / 10 / 10 / 10 = n / 100000 := by omega
    rw [hdiv]
    simp only [List.append_assoc]
    exact ⟨_, rfl⟩
  obtain ⟨rest, hrest⟩ := hsplit
  have hbyte : ∀ i, i < 4 → (digitsText n).getD i 0 = (digitsText (n / 100000)).getD i 0 := by
    intro i hi
    rw [hrest, List.getD_append _ _ _ _ (by omega)]
  simp only [wordOf, hbyte 0 (by decide), hbyte 1 (by decide), hbyte 2 (by decide),
    hbyte 3 (by decide)]

/-- Four digits as a number. -/
theorem wordOf_fourDigits {q : ℕ} (h : 1000 ≤ q) (h' : q < 10000) :
    wordOf (digitsText q) =
      808464432 + q / 1000 + q / 100 % 10 * 256 + q / 10 % 10 * 65536 + q % 10 * 16777216 := by
  rw [digitsText_div (n := q) (by omega), digitsText_div (n := q / 10) (by omega),
    digitsText_div (n := q / 10 / 10) (by omega),
    digitsText_digit (d := q / 10 / 10 / 10) (by omega)]
  show (UInt8.ofNat _).toNat + (UInt8.ofNat _).toNat * 256 + (UInt8.ofNat _).toNat * 65536 +
    (UInt8.ofNat _).toNat * 16777216 = _
  simp only [UInt8.toNat_ofNat']
  omega

/-- The numbers whose first four digits begin what their bytes spell. -/
theorem coincidence {q : ℕ} (h : 8084 ≤ q) (h' : q < 9601)
    (heq : (808464432 + q / 1000 + q / 100 % 10 * 256 + q / 10 % 10 * 65536 +
      q % 10 * 16777216) / 100000 = q) : q = 8090 ∨ q = 8593 ∨ q = 9428 := by
  -- the last digit leaves seven numbers
  have hall : ∀ d, d < 10 → ∀ i, i < 7 →
      (808464432 + ((808464432 + d * 16777216) / 100000 + i) / 1000 +
        ((808464432 + d * 16777216) / 100000 + i) / 100 % 10 * 256 +
        ((808464432 + d * 16777216) / 100000 + i) / 10 % 10 * 65536 +
        ((808464432 + d * 16777216) / 100000 + i) % 10 * 16777216) / 100000 =
          (808464432 + d * 16777216) / 100000 + i →
        (808464432 + d * 16777216) / 100000 + i = 8090 ∨
          (808464432 + d * 16777216) / 100000 + i = 8593 ∨
          (808464432 + d * 16777216) / 100000 + i = 9428 := by
    decide +kernel
  have hlow : (808464432 + q % 10 * 16777216) / 100000 ≤ q := by omega
  obtain ⟨i, hi⟩ := Nat.exists_eq_add_of_le hlow
  have hdigit := hall (q % 10) (Nat.mod_lt q (by decide)) i (by omega)
  rw [← hi] at hdigit
  exact hdigit heq

/-- **Three numbers are what the first four bytes of their text spell.** -/
theorem wordOf_digitsText_eq_iff (n : ℕ) :
    wordOf (digitsText n) = n ↔ n = 809054264 ∨ n = 859387192 ∨ n = 942814265 := by
  have hle := wordOf_le fun b hb => (digit_of_mem (n := n) hb).2
  have hnine : 100000000 ≤ n → n < 1000000000 → wordOf (digitsText n) =
      808464432 + n / 100000 / 1000 + n / 100000 / 100 % 10 * 256 +
        n / 100000 / 10 % 10 * 65536 + n / 100000 % 10 * 16777216 := by
    intro h h'
    rw [wordOf_nineDigits h, wordOf_fourDigits (by omega) (by omega)]
  constructor
  · intro heq
    by_cases hmany : 100000000 ≤ n
    · have hword := hnine hmany (by omega)
      have hq := coincidence (q := n / 100000) (by omega) (by omega) (by rw [← hword, heq])
      omega
    · -- what is shorter spells a greater number, by its last digit
      have hbyte : ∀ i, 10 ^ i ≤ n → 48 ≤ ((digitsText n).getD i 0).toNat :=
        fun i hi => le_byte (lt_length_digitsText hi)
      have hword : wordOf (digitsText n) = ((digitsText n).getD 0 0).toNat +
          ((digitsText n).getD 1 0).toNat * 256 + ((digitsText n).getD 2 0).toNat * 65536 +
            ((digitsText n).getD 3 0).toNat * 16777216 := rfl
      have h₀ : 48 ≤ ((digitsText n).getD 0 0).toNat := by
        apply le_byte
        by_cases hn : n < 10
        · simp [digitsText_digit hn]
        · simp [digitsText_div (Nat.le_of_not_lt hn)]
      have h₁ : 10 ≤ n → _ := hbyte 1
      have h₂ : 100 ≤ n → _ := hbyte 2
      have h₃ : 1000 ≤ n → _ := hbyte 3
      omega
  · rintro (rfl | rfl | rfl)
    · exact hnine (by decide) (by decide)
    · exact hnine (by decide) (by decide)
    · exact hnine (by decide) (by decide)

theorem decimalText_bytes {v : Int32} {b : UInt8} (h : b ∈ decimalText v) :
    45 ≤ b.toNat ∧ b.toNat ≤ 57 := by
  have hdigit : ∀ {n}, b ∈ digitsText n → 45 ≤ b.toNat ∧ b.toNat ≤ 57 := by
    intro n hb
    have hrange := digit_of_mem hb
    omega
  unfold decimalText at h
  split at h
  · rcases List.mem_cons.mp h with rfl | hb
    · decide
    · exact hdigit hb
  · exact hdigit h

/-- What the tool writes for an integer, as `XParam` reads it. -/
theorem getParamValueInt_text (v : Int32) :
    (getParamValueInt (strncpyTerminated 128 (decimalText v))).toInt = wordOf (decimalText v) := by
  have hnul : 0 ∉ decimalText v := fun h => by
    have hzero := (decimalText_bytes h).1
    exact absurd hzero (by decide)
  have hlen : ((decimalText v).take 127).length ≤ 128 := by
    rw [List.length_take]
    omega
  have hbyte : ∀ i, i < 127 → ((decimalText v).take 127).getD i 0 = (decimalText v).getD i 0 := by
    intro i hi
    rw [List.getD_eq_getElem?_getD, List.getD_eq_getElem?_getD, List.getElem?_take_of_lt hi]
  have hword : getParamValueInt (strncpyTerminated 128 (decimalText v)) =
      Int32.ofNat (wordOf (decimalText v)) := by
    rw [strncpyTerminated_eq, cString_of_not_mem hnul, getParamValueInt]
    simp only [getD_stringField hlen, hbyte 0 (by decide), hbyte 1 (by decide),
      hbyte 2 (by decide), hbyte 3 (by decide)]
    rfl
  have hsmall := wordOf_le fun b hb => (decimalText_bytes (v := v) hb).2
  rw [hword, Int32.toInt_ofNat_of_lt (by omega)]

/-- **Integers that the tool sets right.** -/
theorem getParamValueInt_text_iff (v : Int32) :
    getParamValueInt (strncpyTerminated 128 (decimalText v)) = v ↔
      v = 809054264 ∨ v = 859387192 ∨ v = 942814265 := by
  rw [← Int32.toInt_inj, getParamValueInt_text, ← Int32.toInt_inj, ← Int32.toInt_inj,
    ← Int32.toInt_inj]
  have h₁ : (809054264 : Int32).toInt = 809054264 := rfl
  have h₂ : (859387192 : Int32).toInt = 859387192 := rfl
  have h₃ : (942814265 : Int32).toInt = 942814265 := rfl
  rw [h₁, h₂, h₃]
  by_cases hneg : v.toInt < 0
  · have hword : (0 : ℤ) ≤ wordOf (decimalText v) := Int.natCast_nonneg _
    omega
  · have htext : decimalText v = digitsText v.toInt.toNat := if_neg hneg
    have hiff := wordOf_digitsText_eq_iff v.toInt.toNat
    rw [htext]
    omega

/-! ### Both encoders -/

/-- **The tool and `XParam` set the same**: never under an id of 16 bytes; strings under any
shorter one, and three integers. -/
theorem sameParameter_iff (target : Target) {name : List UInt8} (hname : FitsField 16 name) :
    (∀ v : Int32,
      SameParameter (buildParamExtSet target name (decimalText v) MAV_PARAM_EXT_TYPE_INT32)
          (XParam.createCmdSetInt target.systemId target.componentId name v) ↔
        name.length < 16 ∧ (v = 809054264 ∨ v = 859387192 ∨ v = 942814265)) ∧
      ∀ value : List UInt8, value.length < 128 →
        (SameParameter (buildParamExtSet target name value MAV_PARAM_EXT_TYPE_CUSTOM)
            (XParam.createCmdSetString target.systemId target.componentId name value) ↔
          name.length < 16) := by
  have hid : getParamId (strncpyTerminated 16 name) = getParamId (setParamId name) ↔
      name.length < 16 := by
    rw [← take_fifteen_iff hname.1]
    show fieldString (strncpyTerminated 16 name) = fieldString (stringField 16 name) ↔ _
    rw [fieldString_strncpyTerminated, cString_of_not_mem hname.2,
      fieldString_stringField_of_not_mem hname.2]
  constructor
  · intro v
    have hsame : SameParameter
        (buildParamExtSet target name (decimalText v) MAV_PARAM_EXT_TYPE_INT32)
        (XParam.createCmdSetInt target.systemId target.componentId name v) ↔
          getParamId (strncpyTerminated 16 name) = getParamId (setParamId name) ∧
            getParamValueInt (strncpyTerminated 128 (decimalText v)) =
              getParamValueInt (setParamValueInt v) := by
      simp [SameParameter, XParam.parseParam, valueMessage, buildParamExtSet,
        XParam.createCmdSetInt]
    rw [hsame, hid, getParamValueInt_setParamValueInt, getParamValueInt_text_iff]
  · intro value hvalue
    have hread : getParamValueString (strncpyTerminated 128 value) =
        getParamValueString (setParamValueString value) := by
      show fieldString (strncpyTerminated 128 value) = fieldString (stringField 128 value)
      have hshort : (cString value).length ≤ 127 :=
        Nat.le_trans (List.takeWhile_prefix _).length_le (Nat.le_of_lt_succ hvalue)
      rw [fieldString_strncpyTerminated, fieldString_stringField_eq,
        List.take_of_length_le hshort, List.take_of_length_le (Nat.le_of_lt hvalue), cString]
    have hsame : SameParameter (buildParamExtSet target name value MAV_PARAM_EXT_TYPE_CUSTOM)
        (XParam.createCmdSetString target.systemId target.componentId name value) ↔
          getParamId (strncpyTerminated 16 name) = getParamId (setParamId name) ∧
            getParamValueString (strncpyTerminated 128 value) =
              getParamValueString (setParamValueString value) := by
      have hne : MAV_PARAM_EXT_TYPE_CUSTOM ≠ MAV_PARAM_EXT_TYPE_INT32 := by decide
      simp [SameParameter, XParam.parseParam, valueMessage, buildParamExtSet,
        XParam.createCmdSetString, hne]
    rw [hsame, hid]
    exact and_iff_left hread

/-- A parameter that both set the same. -/
theorem sameParameter_uartDevice :
    SameParameter
      (buildParamExtSet ⟨101, 191⟩ (ascii "OHD_UART_TLM") (ascii "/dev/serial0")
        MAV_PARAM_EXT_TYPE_CUSTOM)
      (XParam.createCmdSetString 101 191 (ascii "OHD_UART_TLM") (ascii "/dev/serial0")) :=
  ((sameParameter_iff ⟨101, 191⟩ (by decide)).2
    (ascii "/dev/serial0") (by decide)).mpr (by decide)

/-- The tool's own parameters: an id of 16 bytes, and a number. -/
theorem not_sameParameter_uart :
    ¬ SameParameter
        (buildParamExtSet ⟨100, 191⟩ (ascii "TRACKER_UART_OUT") (ascii "/dev/ttyUSB0")
          MAV_PARAM_EXT_TYPE_CUSTOM)
        (XParam.createCmdSetString 100 191 (ascii "TRACKER_UART_OUT") (ascii "/dev/ttyUSB0")) ∧
      ¬ SameParameter
        (buildParamExtSet ⟨101, 191⟩ (ascii "OHD_UART_BAUD") (decimalText 115200)
          MAV_PARAM_EXT_TYPE_INT32)
        (XParam.createCmdSetInt 101 191 (ascii "OHD_UART_BAUD") 115200) := by
  constructor
  · decide
  · decide +kernel

end QOpenHD
