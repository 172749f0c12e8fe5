/-
QOpenHD/Bits.lean

Numbers as lists of bits, the highest bit first, and Exp-Golomb codes.

`ofNat n v` is the `n` low bits of `v`, `toNat` the number that a list of bits
is, and `ofBytes` the bits of a list of bytes.  The code `golomb v` is `v + 1` in
binary behind one zero less than it has digits.

* `toNat_append`, `ofNat_add` — both over `++`, and `ofNat_toNat`,
  `toNat_ofNat` — one undoes the other;
* `golomb_of_zeros` — `k` zeros, a one and `k` bits are a code, and
  `golomb_eq_zeros` — every code is of this shape.
-/
import Mathlib.Data.Nat.Size
import Mathlib.Data.List.Basic
import Mathlib.Tactic.Ring

namespace Bits

/-! ### Numbers -/

/-- The `n` low bits of `v`. -/
def ofNat : ℕ → ℕ → List Bool
  | 0, _ => []
  | n + 1, v => v.testBit n :: ofNat n v

/-- The number that `bits` is in binary. -/
def toNat : List Bool → ℕ
  | [] => 0
  | b :: bits => b.toNat * 2 ^ bits.length + toNat bits

@[simp] theorem ofNat_zero (v : ℕ) : ofNat 0 v = [] := rfl

@[simp] theorem toNat_nil : toNat [] = 0 := rfl

@[simp] theorem length_ofNat (n v : ℕ) : (ofNat n v).length = n := by
  induction n with
  | zero => rfl
  | succ n ih => rw [ofNat, List.length_cons, ih]

theorem toNat_lt (bits : List Bool) : toNat bits < 2 ^ bits.length := by
  induction bits with
  | nil => exact Nat.one_pos
  | cons b bits ih =>
      have hb : b.toNat * 2 ^ bits.length ≤ 1 * 2 ^ bits.length :=
        Nat.mul_le_mul_right _ b.toNat_le
      rw [toNat, List.length_cons, pow_succ]
      omega

theorem toNat_append (x y : List Bool) : toNat (x ++ y) = toNat x * 2 ^ y.length + toNat y := by
  induction x with
  | nil => simp
  | cons b x ih =>
      rw [List.cons_append, toNat, ih, toNat, List.length_append, pow_add]
      ring

theorem toNat_ofNat (n v : ℕ) : toNat (ofNat n v) = v % 2 ^ n := by
  induction n with
  | zero => simp [Nat.mod_one]
  | succ n ih =>
      rw [ofNat, toNat, length_ofNat, ih, Nat.toNat_testBit, Nat.mod_pow_succ, Nat.mul_comm,
        Nat.add_comm]

theorem toNat_ofNat_of_lt {n v : ℕ} (h : v < 2 ^ n) : toNat (ofNat n v) = v := by
  rw [toNat_ofNat, Nat.mod_eq_of_lt h]

theorem toNat_take (n : ℕ) (bits : List Bool) :
    toNat (bits.take n) = toNat bits / 2 ^ (bits.length - n) := by
  have hsplit := toNat_append (bits.take n) (bits.drop n)
  have hlow := toNat_lt (bits.drop n)
  rw [List.take_append_drop, List.length_drop] at hsplit
  rw [List.length_drop] at hlow
  rw [hsplit, Nat.add_comm, Nat.add_mul_div_right _ _ (Nat.two_pow_pos _),
    Nat.div_eq_of_lt hlow, Nat.zero_add]

theorem toNat_drop (n : ℕ) (bits : List Bool) :
    toNat (bits.drop n) = toNat bits % 2 ^ (bits.length - n) := by
  have hsplit := toNat_append (bits.take n) (bits.drop n)
  have hlow := toNat_lt (bits.drop n)
  rw [List.take_append_drop, List.length_drop] at hsplit
  rw [List.length_drop] at hlow
  rw [hsplit, Nat.mul_add_mod_self_right, Nat.mod_eq_of_lt hlow]

theorem getElem?_ofNat (n v i : ℕ) :
    (ofNat n v)[i]? = if i < n then some (v.testBit (n - 1 - i)) else none := by
  induction n generalizing i with
  | zero => simp
  | succ n ih =>
      cases i with
      | zero => simp [ofNat]
      | succ i =>
          rw [ofNat, List.getElem?_cons_succ, ih, show n + 1 - 1 - (i + 1) = n - 1 - i by omega]
          simp

/-- Two lists of bits of one length that are the same number are the same. -/
theorem eq_of_toNat_eq {x y : List Bool} (hlen : x.length = y.length) (h : toNat x = toNat y) :
    x = y := by
  induction x generalizing y with
  | nil => exact (List.length_eq_zero_iff.mp hlen.symm).symm
  | cons a x ih =>
      cases y with
      | nil => cases hlen
      | cons b y =>
          have hlen' : x.length = y.length := by simpa using hlen
          have hx := toNat_lt x
          have hy := toNat_lt y
          rw [toNat, toNat, hlen'] at h
          rw [hlen'] at hx
          have hab : a = b := by
            cases a <;> cases b <;> simp at h <;> first | rfl | omega
          subst hab
          rw [ih hlen' (Nat.add_left_cancel h)]

theorem ofNat_toNat (bits : List Bool) : ofNat bits.length (toNat bits) = bits :=
  eq_of_toNat_eq (length_ofNat _ _) (toNat_ofNat_of_lt (toNat_lt bits))

theorem ofNat_of_toNat_eq {n v : ℕ} {bits : List Bool} (hlen : bits.length = n)
    (h : toNat bits = v) : ofNat n v = bits := by
  rw [← hlen, ← h, ofNat_toNat]

/-- The high and the low digits of a number. -/
theorem ofNat_add (m n v : ℕ) : ofNat (m + n) v = ofNat m (v / 2 ^ n) ++ ofNat n v := by
  refine eq_of_toNat_eq (by simp) ?_
  rw [toNat_append, toNat_ofNat, toNat_ofNat, toNat_ofNat, length_ofNat, Nat.add_comm m n, pow_add,
    Nat.mod_mul]
  ring

theorem ofNat_mod {n m : ℕ} (h : n ≤ m) (v : ℕ) : ofNat n (v % 2 ^ m) = ofNat n v := by
  refine eq_of_toNat_eq (by simp) ?_
  rw [toNat_ofNat, toNat_ofNat, Nat.mod_mod_of_dvd _ (pow_dvd_pow 2 h)]

theorem ofNat_eq_replicate (n : ℕ) : ofNat n 0 = List.replicate n false := by
  induction n with
  | zero => rfl
  | succ n ih => rw [ofNat, ih, Nat.zero_testBit, List.replicate_succ]

/-! ### Bytes -/

/-- The eight bits of a byte. -/
def ofByte (b : UInt8) : List Bool := ofNat 8 b.toNat

/-- The bits of the bytes, one after another. -/
def ofBytes (bytes : List UInt8) : List Bool := bytes.flatMap ofByte

@[simp] theorem length_ofByte (b : UInt8) : (ofByte b).length = 8 := length_ofNat 8 _

@[simp] theorem ofBytes_nil : ofBytes [] = [] := rfl

@[simp] theorem ofBytes_cons (b : UInt8) (bytes : List UInt8) :
    ofBytes (b :: bytes) = ofByte b ++ ofBytes bytes := rfl

@[simp] theorem ofBytes_append (x y : List UInt8) : ofBytes (x ++ y) = ofBytes x ++ ofBytes y :=
  List.flatMap_append

@[simp] theorem length_ofBytes (bytes : List UInt8) :
    (ofBytes bytes).length = 8 * bytes.length := by
  induction bytes with
  | nil => rfl
  | cons b bytes ih =>
      rw [ofBytes_cons, List.length_append, length_ofByte, ih, List.length_cons]
      ring

theorem toNat_ofByte (b : UInt8) : toNat (ofByte b) = b.toNat := toNat_ofNat_of_lt b.toNat_lt

theorem ofByte_toNat {bits : List Bool} (h : bits.length = 8) :
    ofByte (UInt8.ofNat (toNat bits)) = bits := by
  have hlt := toNat_lt bits
  rw [h] at hlt
  rw [ofByte, UInt8.toNat_ofNat', Nat.mod_eq_of_lt hlt, ← h, ofNat_toNat]

/-- What is behind the byte that a position is in. -/
theorem drop_ofBytes {bytes : List UInt8} {i : ℕ} {b : UInt8} (h : bytes[i]? = some b) (k : ℕ)
    (hk : k ≤ 8) :
    (ofBytes bytes).drop (8 * i + k) = (ofByte b).drop k ++ ofBytes (bytes.drop (i + 1)) := by
  obtain ⟨hi, rfl⟩ := List.getElem?_eq_some_iff.mp h
  have hsplit : bytes = bytes.take i ++ bytes[i] :: bytes.drop (i + 1) := by simp
  conv_lhs => rw [hsplit]
  rw [ofBytes_append, ofBytes_cons, ← List.drop_drop,
    List.drop_left' (by rw [length_ofBytes, List.length_take, Nat.min_eq_left hi.le]),
    List.drop_append_of_le_length (by simpa using hk)]

/-- The bits of whole bytes, and the first ones of the byte behind them. -/
theorem take_ofBytes {bytes : List UInt8} {i : ℕ} {b : UInt8} (h : bytes[i]? = some b) {k : ℕ}
    (hk : k ≤ 8) :
    (ofBytes bytes).take (8 * i + k) = (ofBytes bytes).take (8 * i) ++ (ofByte b).take k := by
  have hdrop := drop_ofBytes h 0 (Nat.zero_le _)
  rw [Nat.add_zero, List.drop_zero] at hdrop
  rw [List.take_add, hdrop, List.take_append_of_le_length (by rwa [length_ofByte])]

/-! ### Overwriting -/

/-- `x` in the place of the bits from `p` on. -/
def overwrite (l : List Bool) (p : ℕ) (x : List Bool) : List Bool :=
  l.take p ++ x ++ l.drop (p + x.length)

theorem length_overwrite {l : List Bool} {p : ℕ} {x : List Bool} (h : p + x.length ≤ l.length) :
    (overwrite l p x).length = l.length := by
  simp only [overwrite, List.length_append, List.length_take, List.length_drop]
  omega

theorem overwrite_nil (l : List Bool) (p : ℕ) : overwrite l p [] = l := by
  simp [overwrite]

/-- A write over all of it. -/
theorem overwrite_whole {l x : List Bool} (h : x.length = l.length) : overwrite l 0 x = x := by
  rw [overwrite, List.take_zero, List.nil_append, Nat.zero_add, h, List.drop_length,
    List.append_nil]

theorem getElem?_overwrite {l x : List Bool} {p : ℕ} (h : p + x.length ≤ l.length) (i : ℕ) :
    (overwrite l p x)[i]? =
      if p ≤ i ∧ i < p + x.length then x[i - p]? else l[i]? := by
  have htake : (l.take p).length = p := by
    rw [List.length_take, Nat.min_eq_left (by omega)]
  rw [overwrite, List.getElem?_append, List.getElem?_append, List.length_append, htake]
  by_cases hlow : i < p
  · rw [if_pos (by omega), if_pos hlow, if_neg (by omega), List.getElem?_take_of_lt hlow]
  by_cases hin : i < p + x.length
  · rw [if_pos hin, if_neg hlow, if_pos (by omega)]
  · rw [if_neg hin, if_neg (by omega), List.getElem?_drop]
    congr 1
    omega

/-- One write behind another is one write. -/
theorem overwrite_overwrite {l : List Bool} {p : ℕ} {x : List Bool} (y : List Bool)
    (h : p + x.length ≤ l.length) :
    overwrite (overwrite l p x) (p + x.length) y = overwrite l p (x ++ y) := by
  have hlen : (l.take p ++ x).length = p + x.length := by
    rw [List.length_append, List.length_take, Nat.min_eq_left (by omega)]
  rw [overwrite, overwrite, overwrite, ← List.append_assoc]
  congr 1
  · rw [List.take_left' hlen]
  · rw [← List.drop_drop, List.drop_left' hlen, List.drop_drop, List.length_append, Nat.add_assoc]

/-- What is behind the end of a write is left as it is. -/
theorem drop_overwrite {l : List Bool} {p : ℕ} {x : List Bool} (h : p + x.length ≤ l.length) :
    (overwrite l p x).drop p = x ++ l.drop (p + x.length) := by
  rw [overwrite, List.append_assoc,
    List.drop_left' (by rw [List.length_take, Nat.min_eq_left (by omega)])]

/-- A byte is written by the part of it that changes. -/
theorem ofBytes_set {bytes : List UInt8} {i off : ℕ} {target byte : UInt8} {x : List Bool}
    (h : bytes[i]? = some target) (hx : off + x.length ≤ 8)
    (hbyte : ofByte byte = overwrite (ofByte target) off x) :
    ofBytes (bytes.set i byte) = overwrite (ofBytes bytes) (8 * i + off) x := by
  obtain ⟨hi, rfl⟩ := List.getElem?_eq_some_iff.mp h
  have hget : (bytes.set i byte)[i]? = some byte := by
    rw [List.getElem?_set_self hi]
  have htake : (ofBytes (bytes.set i byte)).take (8 * i) = (ofBytes bytes).take (8 * i) := by
    have hset : bytes.set i byte = bytes.take i ++ byte :: bytes.drop (i + 1) :=
      List.set_eq_take_append_cons_drop.trans (if_pos hi)
    have hsplit : bytes = bytes.take i ++ bytes[i] :: bytes.drop (i + 1) := by simp
    have hlen : (ofBytes (bytes.take i)).length = 8 * i := by
      rw [length_ofBytes, List.length_take, Nat.min_eq_left hi.le]
    conv_rhs => rw [hsplit]
    rw [hset, ofBytes_append, ofBytes_append, List.take_left' hlen, List.take_left' hlen]
  have hdrop := drop_ofBytes hget 0 (Nat.zero_le _)
  have htarget := take_ofBytes h (k := off) (by omega)
  have hrest := drop_ofBytes h (off + x.length) hx
  rw [List.drop_set_of_lt (by omega), Nat.add_zero, List.drop_zero, hbyte] at hdrop
  rw [← List.take_append_drop (8 * i) (ofBytes (bytes.set i byte)), hdrop, htake, overwrite,
    overwrite, htarget, Nat.add_assoc, hrest]
  simp only [List.append_assoc]

/-! ### Exp-Golomb codes -/

/-- `v + 1` in binary, and in front of it one zero less than it has digits. -/
def golomb (v : ℕ) : List Bool :=
  List.replicate ((v + 1).size - 1) false ++ ofNat (v + 1).size (v + 1)

theorem toNat_true_cons_pos (y : List Bool) : 0 < toNat (true :: y) := by
  rw [toNat]
  have := Nat.two_pow_pos y.length
  simp only [Bool.toNat_true]
  omega

/-- A number has as many digits as a list of bits that begins with a one. -/
theorem size_toNat_true_cons (y : List Bool) : (toNat (true :: y)).size = y.length + 1 := by
  apply le_antisymm
  · exact Nat.size_le.mpr (toNat_lt (true :: y))
  · refine Nat.lt_size.mpr ?_
    rw [toNat]
    simp

/-- A number has one digit more than its half. -/
theorem size_eq_size_half {v : ℕ} (hv : v ≠ 0) : v.size = (v / 2).size + 1 := by
  have hbit : v = Nat.bit v.bodd (v / 2) := by
    rw [← Nat.div2_val, Nat.bit_bodd_div2]
  conv_lhs => rw [hbit, Nat.size_bit (by rwa [← hbit])]

/-- `k` zeros, a one and `k` bits are a code. -/
theorem golomb_of_zeros {k : ℕ} {y : List Bool} (hy : y.length = k) :
    golomb (toNat (true :: y) - 1) = List.replicate k false ++ true :: y := by
  have hpos := toNat_true_cons_pos y
  have hsize := size_toNat_true_cons y
  rw [golomb, Nat.sub_add_cancel hpos, hsize, hy, Nat.add_sub_cancel,
    ofNat_of_toNat_eq (by rw [List.length_cons, hy]) rfl]

/-- Every code is of this shape. -/
theorem golomb_eq_zeros (v : ℕ) :
    ∃ y : List Bool, y.length = (v + 1).size - 1 ∧ toNat (true :: y) = v + 1 ∧
      golomb v = List.replicate ((v + 1).size - 1) false ++ true :: y := by
  obtain ⟨k, hk⟩ : ∃ k, (v + 1).size = k + 1 :=
    Nat.exists_eq_add_one.mpr (Nat.size_pos.mpr v.succ_pos)
  have hdigit : (v + 1).testBit k = true := by
    have hlow : 2 ^ k ≤ v + 1 := Nat.lt_size.mp (by omega)
    have hhigh : v + 1 < 2 ^ (k + 1) := Nat.size_le.mp hk.le
    exact Nat.testBit_of_two_pow_le_and_two_pow_add_one_gt hlow hhigh
  have hcons : ofNat (v + 1).size (v + 1) = true :: ofNat k (v + 1) := by rw [hk, ofNat, hdigit]
  refine ⟨ofNat k (v + 1), by rw [length_ofNat, hk, Nat.add_sub_cancel], ?_, ?_⟩
  · rw [← hcons, toNat_ofNat_of_lt (Nat.lt_size_self _)]
  · rw [golomb, hcons]

theorem length_golomb (v : ℕ) : (golomb v).length = 2 * (v + 1).size - 1 := by
  have := Nat.size_pos.mpr v.succ_pos
  rw [golomb, List.length_append, List.length_replicate, length_ofNat]
  omega

/-- The number in binary at the length of the code is the code: the zeros come from its own. -/
theorem ofNat_size_eq_golomb (v : ℕ) : ofNat (2 * (v + 1).size - 1) (v + 1) = golomb v := by
  have hpos := Nat.size_pos.mpr v.succ_pos
  rw [show 2 * (v + 1).size - 1 = ((v + 1).size - 1) + (v + 1).size by omega, ofNat_add,
    Nat.div_eq_of_lt (Nat.lt_size_self _), ofNat_eq_replicate, golomb]

end Bits
