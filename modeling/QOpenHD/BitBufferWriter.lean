/-
QOpenHD/BitBufferWriter.lean

`rtc::BitBufferWriter` (`lib/h264/bit_buffer.cc`), the counterpart of the reader.

* `writeBits_written` — `WriteBits` puts the low bits of a value at the position, leaves
  all other bits as they are, moves behind them and touches no byte outside the buffer;
* **`read_iff`** — a read returns a value exactly if its encoding is next, and moves behind it;
  else it leaves the position where it is;
* **`readFields_writeFields`** — a list of fields, of any bits and of signed and unsigned
  Exp-Golomb codes, that is written is read back, from the position where the first of them
  was written to the one behind the last; they are refused exactly where the buffer has no
  room for all of them.
-/
import QOpenHD.BitBuffer

namespace QOpenHD

open Checked Grammar

namespace BitBuffer

/-! ### The writer -/

/-- `bytes[i] = byte`, inside the buffer. -/
def setByte (b : BitBuffer) (i : ℕ) (byte : UInt8) : Exec BitBuffer :=
  if i < b.bytes.length then
    .ok
      { b with
        bytes := b.bytes.set i byte
        length_le := by rw [List.length_set]; exact b.length_le
        pos_le := by rw [List.length_set]; exact b.pos_le }
  else .error .outOfBounds

def highestByte (val : UInt64) : UInt8 := (val >>> 56).toUInt8

def writePartialByte (source : UInt8) (sourceBitCount : ℕ) (target : UInt8)
    (targetBitOffset : ℕ) : Exec UInt8 := do
  require (targetBitOffset < 8)
  require (sourceBitCount < 9)
  require (sourceBitCount ≤ 8 - targetBitOffset)
  let mask := UInt8.ofNat (0xFF <<< (8 - sourceBitCount)) >>> UInt8.ofNat targetBitOffset
  pure (target &&& ~~~mask ||| source >>> UInt8.ofNat targetBitOffset)

/-- The loop of `WriteBits` over whole bytes, from index `i` on. -/
def writeBytes (b : BitBuffer) (i : ℕ) (val : UInt64) : ℕ → Exec (BitBuffer × ℕ × UInt64 × ℕ)
  | bitCount + 8 => do
      let b ← b.setByte i (highestByte val)
      writeBytes b (i + 1) (val <<< 8) bitCount
  | bitCount => pure (b, i, val, bitCount)

/-- `WriteBits`; `none` where it returns `false`. -/
def writeBits (b : BitBuffer) (val : UInt64) (bitCount : ℕ) : Exec (Option BitBuffer) := do
  if bitCount > b.remainingBitCount then
    return none
  -- the shift has a meaning for these counts only
  require (0 < bitCount ∧ bitCount ≤ 64)
  let val := val <<< UInt64.ofNat (64 - bitCount)
  let remainingBitsInCurrentByte := 8 - b.bitOffset
  let bitsInFirstByte := min bitCount remainingBitsInCurrentByte
  let target ← load b.bytes b.byteOffset
  let byte ← writePartialByte (highestByte val) bitsInFirstByte target b.bitOffset
  let b₁ ← b.setByte b.byteOffset byte
  if bitCount ≤ remainingBitsInCurrentByte then
    return b₁.consumeBits bitCount
  let val := val <<< UInt64.ofNat bitsInFirstByte
  let (b₂, i, val, rest) ← writeBytes b₁ (b.byteOffset + 1) val (bitCount - bitsInFirstByte)
  if rest > 0 then
    let target ← load b₂.bytes i
    let byte ← writePartialByte (highestByte val) rest target 0
    let b₃ ← b₂.setByte i byte
    return b₃.consumeBits bitCount
  return b₂.consumeBits bitCount

/-- The loop of `CountBits`; a value has at most 64 bits. -/
def countBitsFrom : ℕ → ℕ → UInt64 → Exec ℕ
  | 0, _, _ => throw .endlessLoop
  | fuel + 1, bitCount, val =>
      if val ≠ 0 then countBitsFrom fuel (bitCount + 1) (val >>> 1) else pure bitCount

def countBits (val : UInt64) : Exec ℕ := countBitsFrom 65 0 val

def writeExponentialGolomb (b : BitBuffer) (val : UInt32) : Exec (Option BitBuffer) := do
  if val = 0xFFFFFFFF then
    return none
  let valToEncode := val.toUInt64 + 1
  let count ← countBits valToEncode
  b.writeBits valToEncode (count * 2 - 1)

def writeSignedExponentialGolomb (b : BitBuffer) (val : Int32) : Exec (Option BitBuffer) :=
  if val = 0 then b.writeExponentialGolomb 0
  else if val > 0 then b.writeExponentialGolomb (val.toUInt32 * 2 - 1)
  else if val = Int32.minValue then pure none
  else b.writeExponentialGolomb ((-val).toUInt32 * 2)

/-! ### The value that is shifted out -/

/-- The high bits of the value are `x`, and there are no others. -/
def Pending (val : UInt64) (x : List Bool) : Prop :=
  x.length ≤ 64 ∧ Bits.ofNat 64 val.toNat = x ++ List.replicate (64 - x.length) false

theorem ofNat_shiftLeft (val : UInt64) {k : ℕ} (hk : k < 64) :
    Bits.ofNat 64 (val <<< UInt64.ofNat k).toNat =
      (Bits.ofNat 64 val.toNat).drop k ++ List.replicate k false := by
  have hshift : (val <<< UInt64.ofNat k).toNat = val.toNat * 2 ^ k % 2 ^ 64 := by
    rw [UInt64.toNat_shiftLeft, UInt64.toNat_ofNat', Nat.mod_mod_of_dvd _ (by decide),
      Nat.mod_eq_of_lt hk, Nat.shiftLeft_eq]
  have hhigh := Bits.ofNat_add (64 - k) k (val.toNat * 2 ^ k)
  have hlow := Bits.ofNat_add k (64 - k) val.toNat
  rw [Nat.sub_add_cancel hk.le, Nat.mul_div_cancel _ (Nat.two_pow_pos k)] at hhigh
  rw [Nat.add_sub_cancel' hk.le] at hlow
  have hzero : Bits.ofNat k (val.toNat * 2 ^ k) = List.replicate k false := by
    rw [← Bits.ofNat_eq_replicate, ← Bits.ofNat_mod le_rfl, Nat.mul_mod_left]
  rw [hshift, Bits.ofNat_mod le_rfl, hhigh, hlow, hzero, List.drop_left' (Bits.length_ofNat _ _)]

theorem pending_shiftLeft {val : UInt64} {x : List Bool} (h : Pending val x) {k : ℕ}
    (hk : k ≤ x.length) (hlt : k < 64) : Pending (val <<< UInt64.ofNat k) (x.drop k) := by
  refine ⟨by rw [List.length_drop]; exact (Nat.sub_le _ _).trans h.1, ?_⟩
  have hlen := h.1
  rw [ofNat_shiftLeft val hlt, h.2, List.drop_append_of_le_length hk, List.append_assoc,
    List.replicate_append_replicate, List.length_drop]
  congr 2
  omega

/-- The shift at the beginning of `WriteBits`. -/
theorem pending_initial (val : UInt64) {n : ℕ} (hpos : 0 < n) (hn : n ≤ 64) :
    Pending (val <<< UInt64.ofNat (64 - n)) (Bits.ofNat n val.toNat) := by
  refine ⟨by rw [Bits.length_ofNat]; exact hn, ?_⟩
  have hlow := Bits.ofNat_add (64 - n) n val.toNat
  rw [Nat.sub_add_cancel hn] at hlow
  rw [ofNat_shiftLeft val (by omega), hlow, List.drop_left' (Bits.length_ofNat _ _),
    Bits.length_ofNat]

theorem ofByte_highestByte (val : UInt64) :
    Bits.ofByte (highestByte val) = (Bits.ofNat 64 val.toNat).take 8 := by
  have hval : (highestByte val).toNat = val.toNat / 2 ^ 56 := by
    have := val.toNat_lt
    have hshift : (val >>> 56).toNat = val.toNat / 2 ^ 56 := by
      rw [UInt64.toNat_shiftRight, Nat.shiftRight_eq_div_pow]
      rfl
    rw [highestByte, UInt64.toNat_toUInt8, hshift]
    omega
  have hhigh := Bits.ofNat_add 8 56 val.toNat
  rw [Bits.ofByte, hval, show 64 = 8 + 56 from rfl, hhigh, List.take_left' (Bits.length_ofNat _ _)]

/-- The byte that is written next. -/
theorem highestByte_pending {val : UInt64} {x : List Bool} (h : Pending val x) {n : ℕ}
    (hn : n ≤ 8) (hx : n ≤ x.length) :
    ∃ y, Bits.ofByte (highestByte val) = x.take n ++ y ∧
      (n = x.length → y = List.replicate (8 - n) false) := by
  have hlen := h.1
  refine ⟨(Bits.ofByte (highestByte val)).drop n, ?_, ?_⟩
  · conv_lhs => rw [← List.take_append_drop n (Bits.ofByte (highestByte val))]
    rw [ofByte_highestByte, h.2, List.take_take, Nat.min_eq_left hn,
      List.take_append_of_le_length hx]
  · rintro rfl
    rw [ofByte_highestByte, h.2, List.drop_take, List.drop_left', List.take_replicate,
      Nat.min_eq_left (by omega)]
    rfl

/-! ### Bytes -/

theorem getElem?_ofByte (byte : UInt8) (i : ℕ) :
    (Bits.ofByte byte)[i]? = if i < 8 then some (byte.toBitVec.getLsbD (7 - i)) else none := by
  rw [Bits.ofByte, Bits.getElem?_ofNat]
  rfl

theorem getLsbD_shiftRight (byte : UInt8) {off : ℕ} (hoff : off < 8) (j : ℕ) :
    (byte >>> UInt8.ofNat off).toBitVec.getLsbD j = byte.toBitVec.getLsbD (off + j) := by
  have hcount : ((UInt8.ofNat off).toBitVec % 8).toNat = off := by
    show off % 2 ^ 8 % 8 = off
    omega
  rw [UInt8.toBitVec_shiftRight, BitVec.ushiftRight_eq', hcount, BitVec.getLsbD_ushiftRight]

theorem getLsbD_mask (n k : ℕ) :
    (UInt8.ofNat (0xFF <<< (8 - n))).toBitVec.getLsbD k =
      (decide (k < 8) && decide (8 - n ≤ k)) := by
  have hones : (0xFF : ℕ) = 2 ^ 8 - 1 := rfl
  show (BitVec.ofNat 8 (0xFF <<< (8 - n))).getLsbD k = _
  rw [BitVec.getLsbD_ofNat, Nat.testBit_shiftLeft, hones, Nat.testBit_two_pow_sub_one]
  by_cases hk : k < 8
  · have : k - (8 - n) < 8 := by omega
    simp [this]
  · simp [hk]

/-- The bits of the source are written into the target, and no others. -/
theorem writePartialByte_eq {source : UInt8} (target : UInt8) {n off : ℕ} {x y : List Bool}
    (hoff : off < 8) (hn : n ≤ 8 - off) (hx : x.length = n)
    (hsource : Bits.ofByte source = x ++ y)
    (hy : y = List.replicate (8 - n) false ∨ off + n = 8) :
    ∃ byte, writePartialByte source n target off = .ok byte ∧
      Bits.ofByte byte = Bits.overwrite (Bits.ofByte target) off x := by
  refine ⟨_, by
    rw [writePartialByte, require_of hoff, ok_bind, require_of (by omega : n < 9), ok_bind,
      require_of hn, ok_bind]
    rfl, ?_⟩
  apply List.ext_getElem?
  intro i
  rw [getElem?_ofByte, Bits.getElem?_overwrite (by rw [Bits.length_ofByte]; omega),
    getElem?_ofByte, hx]
  by_cases hi : i < 8
  swap
  · rw [if_neg hi, if_neg hi, if_neg (by omega)]
  have hbit := congrArg (·[i - off]?) hsource
  simp only [getElem?_ofByte, List.getElem?_append, hx] at hbit
  rw [if_pos hi, UInt8.toBitVec_or, BitVec.getLsbD_or, UInt8.toBitVec_and, BitVec.getLsbD_and,
    UInt8.toBitVec_not, BitVec.getLsbD_not, getLsbD_shiftRight _ hoff, getLsbD_shiftRight _ hoff,
    getLsbD_mask]
  by_cases hin : off ≤ i ∧ i < off + n
  · -- inside the mask the target is dropped
    have hmask : (decide (off + (7 - i) < 8) && decide (8 - n ≤ off + (7 - i))) = true := by
      rw [decide_eq_true (by omega : off + (7 - i) < 8),
        decide_eq_true (by omega : 8 - n ≤ off + (7 - i))]
      rfl
    rw [if_pos (by omega), if_pos (by omega), show 7 - (i - off) = off + (7 - i) by omega] at hbit
    rw [if_pos hin, hmask, ← hbit]
    simp
  · -- outside it the source has no ones
    have hmask : (decide (off + (7 - i) < 8) && decide (8 - n ≤ off + (7 - i))) = false := by
      rw [Bool.and_eq_false_iff, decide_eq_false_iff_not, decide_eq_false_iff_not]
      omega
    have hzero : source.toBitVec.getLsbD (off + (7 - i)) = false := by
      by_cases hlow : i < off
      · exact BitVec.getLsbD_of_ge _ _ (by omega)
      · obtain rfl : y = List.replicate (8 - n) false := hy.resolve_right (by omega)
        rw [if_pos (by omega), if_neg (by omega), List.getElem?_replicate_of_lt (by omega),
          show 7 - (i - off) = off + (7 - i) by omega] at hbit
        exact Option.some.inj hbit
    have hj : 7 - i < 8 := by omega
    rw [if_neg hin, if_pos hi, hmask, hzero]
    simp [hj]

/-! ### `WriteBits` -/

/-- The bits of `b'` are those of `b` with `x` from `p` on; the position is the same. -/
structure Writes (b : BitBuffer) (p : ℕ) (x : List Bool) (b' : BitBuffer) : Prop where
  byteOffset : b'.byteOffset = b.byteOffset
  bitOffset : b'.bitOffset = b.bitOffset
  bits : Bits.ofBytes b'.bytes = Bits.overwrite (Bits.ofBytes b.bytes) p x
  fits : p + x.length ≤ 8 * b.bytes.length

theorem Writes.length {b b' : BitBuffer} {p : ℕ} {x : List Bool} (h : Writes b p x b') :
    b'.bytes.length = b.bytes.length := by
  have hlen := congrArg List.length h.bits
  rw [Bits.length_overwrite (by rw [Bits.length_ofBytes]; exact h.fits), Bits.length_ofBytes,
    Bits.length_ofBytes] at hlen
  omega

theorem Writes.trans {b m b' : BitBuffer} {p : ℕ} {x y : List Bool} (h₁ : Writes b p x m)
    (h₂ : Writes m (p + x.length) y b') : Writes b p (x ++ y) b' where
  byteOffset := h₂.byteOffset.trans h₁.byteOffset
  bitOffset := h₂.bitOffset.trans h₁.bitOffset
  bits := by
    rw [h₂.bits, h₁.bits, Bits.overwrite_overwrite _ (by rw [Bits.length_ofBytes]; exact h₁.fits)]
  fits := by
    have := h₂.fits
    rw [h₁.length] at this
    rw [List.length_append]
    omega

theorem setByte_writes {b : BitBuffer} {i off : ℕ} {target byte : UInt8} {x : List Bool}
    (h : b.bytes[i]? = some target) (hx : off + x.length ≤ 8)
    (hbyte : Bits.ofByte byte = Bits.overwrite (Bits.ofByte target) off x) :
    ∃ b', b.setByte i byte = .ok b' ∧ Writes b (8 * i + off) x b' := by
  obtain ⟨hi, -⟩ := List.getElem?_eq_some_iff.mp h
  refine ⟨_, if_pos hi, rfl, rfl, Bits.ofBytes_set h hx hbyte, ?_⟩
  omega

theorem writeBytes_eq {b : BitBuffer} {i : ℕ} {val : UInt64} {n : ℕ} {x : List Bool}
    (hval : Pending val x) (hx : x.length = n) (hfit : 8 * i + n ≤ 8 * b.bytes.length) :
    ∃ b' val', writeBytes b i val n = .ok (b', i + n / 8, val', n % 8) ∧
      Writes b (8 * i) (x.take (8 * (n / 8))) b' ∧ Pending val' (x.drop (8 * (n / 8))) := by
  fun_induction writeBytes b i val n generalizing x with
  | case1 b i val n ih =>
      have hx : x.length = n + 8 := hx
      have hi : i < b.bytes.length := by omega
      obtain ⟨y, hbyte, -⟩ := highestByte_pending hval le_rfl (by omega : 8 ≤ x.length)
      obtain rfl : y = [] := by
        have := congrArg List.length hbyte
        rw [Bits.length_ofByte, List.length_append, List.length_take] at this
        exact List.length_eq_zero_iff.mp (by omega)
      rw [List.append_nil] at hbyte
      have hlen : (x.take 8).length = 8 := by
        rw [List.length_take]
        omega
      obtain ⟨b₁, hset, hwrite⟩ : ∃ b₁, b.setByte i (highestByte val) = .ok b₁ ∧
          Writes b (8 * i + 0) (x.take 8) b₁ :=
        setByte_writes (List.getElem?_eq_getElem hi) (by rw [hlen])
          (by rw [hbyte, Bits.overwrite_whole (by rw [hlen, Bits.length_ofByte])])
      obtain ⟨b', val', hok, hwrites, hpending⟩ := ih b₁ (pending_shiftLeft hval (k := 8)
        (by omega) (by decide)) (by rw [List.length_drop]; omega) (by rw [hwrite.length]; omega)
      have hdiv : 8 * ((n + 8) / 8) = 8 + 8 * (n / 8) := by omega
      refine ⟨b', val', ?_, ?_, ?_⟩
      · rw [hset, ok_bind, hok]
        show _ = Except.ok (b', i + (n + 8) / 8, val', (n + 8) % 8)
        rw [Nat.add_mod_right, show i + (n + 8) / 8 = i + 1 + n / 8 by omega]
      · show Writes b (8 * i) (x.take (8 * ((n + 8) / 8))) b'
        rw [hdiv, List.take_add]
        refine hwrite.trans ?_
        rw [hlen]
        exact hwrites
      · show Pending val' (x.drop (8 * ((n + 8) / 8)))
        rwa [hdiv, ← List.drop_drop]
  | case2 b i val n hn =>
      have hsmall : n < 8 := by
        by_contra hbig
        exact hn (n - 8) (by omega)
      refine ⟨b, val, ?_, ⟨rfl, rfl, ?_, ?_⟩, ?_⟩
      · rw [Nat.div_eq_of_lt hsmall, Nat.mod_eq_of_lt hsmall]
        rfl
      · rw [Nat.div_eq_of_lt hsmall, Nat.mul_zero, List.take_zero, Bits.overwrite_nil]
      · rw [Nat.div_eq_of_lt hsmall, Nat.mul_zero, List.take_zero, List.length_nil]
        omega
      · rwa [Nat.div_eq_of_lt hsmall, Nat.mul_zero, List.drop_zero]

/-- A part of a byte is written at a position inside it. -/
theorem writePart {b : BitBuffer} {i off n : ℕ} {val : UInt64} {x : List Bool}
    (hi : i < b.bytes.length) (hoff : off < 8) (hn : n ≤ 8 - off) (hval : Pending val x)
    (hx : n ≤ x.length) (hend : n = x.length ∨ off + n = 8) :
    ∃ target byte b', load b.bytes i = .ok target ∧
      writePartialByte (highestByte val) n target off = .ok byte ∧
      b.setByte i byte = .ok b' ∧ Writes b (8 * i + off) (x.take n) b' := by
  have htake : (x.take n).length = n := List.length_take_of_le hx
  obtain ⟨y, hbyte, hy⟩ := highestByte_pending hval (by omega) hx
  obtain ⟨byte, hpartial, hbits⟩ := writePartialByte_eq b.bytes[i] hoff hn htake hbyte
    (hend.imp_left hy)
  obtain ⟨b', hset, hwrites⟩ := setByte_writes (List.getElem?_eq_getElem hi)
    (by rw [htake]; omega) hbits
  exact ⟨_, byte, b', load_eq_ok_iff.mpr (List.getElem?_eq_getElem hi), hpartial, hset, hwrites⟩

/-- `WriteBits` writes the low bits of the value at the position, and moves behind them. -/
theorem writeBits_of_le {b : BitBuffer} (val : UInt64) {n : ℕ} (hpos : 0 < n) (hn : n ≤ 64)
    (h : n ≤ b.unread.length) :
    ∃ b₁, Writes b b.pos (Bits.ofNat n val.toNat) b₁ ∧
      b.writeBits val n = .ok (b₁.consumeBits n) := by
  have hrem := length_unread b
  have hoff := b.bitOffset_lt
  have hguard : ¬ n > b.remainingBitCount := by omega
  rw [remainingBitCount] at hrem
  have hpending := pending_initial val hpos hn
  generalize hx : Bits.ofNat n val.toNat = x at hpending
  have hlen : x.length = n := by rw [← hx, Bits.length_ofNat]
  rw [writeBits, if_neg hguard, require_of ⟨hpos, hn⟩, ok_bind]
  generalize val <<< UInt64.ofNat (64 - n) = val₀ at hpending
  set k := min n (8 - b.bitOffset) with hk
  obtain ⟨target, byte, b₁, hload, hpartial, hset, hfirst⟩ := writePart (b := b)
    (i := b.byteOffset) (by omega) hoff (by omega : k ≤ 8 - b.bitOffset) hpending (by omega)
    (by omega)
  have hfirst : Writes b b.pos (x.take k) b₁ := hfirst
  rw [hload, ok_bind, hpartial, ok_bind, hset, ok_bind]
  by_cases hwithin : n ≤ 8 - b.bitOffset
  · -- the first byte has room for all bits
    rw [List.take_of_length_le (by omega)] at hfirst
    exact ⟨b₁, hfirst, by rw [if_pos hwithin]; rfl⟩
  -- whole bytes behind the first one, and a part of the last
  rw [if_neg hwithin]
  have htakeLen : (x.take k).length = k := List.length_take_of_le (by omega)
  obtain ⟨b₂, val₂, hbytes, hwhole, hpending₂⟩ := writeBytes_eq (b := b₁) (i := b.byteOffset + 1)
    (pending_shiftLeft hpending (k := k) (by omega) (by omega))
    (by rw [List.length_drop, hlen] : (x.drop k).length = n - k) (by rw [hfirst.length]; omega)
  dsimp only
  rw [← hk, hbytes, ok_bind]
  dsimp only
  have hsplit : b.pos + (x.take k).length = 8 * (b.byteOffset + 1) := by
    rw [htakeLen, pos]
    omega
  generalize hq : (n - k) / 8 = q at hwhole hpending₂
  have htwo : Writes b b.pos (x.take k ++ (x.drop k).take (8 * q)) b₂ :=
    hfirst.trans (by rw [hsplit]; exact hwhole)
  have hwholeLen : ((x.drop k).take (8 * q)).length = 8 * q :=
    List.length_take_of_le (by rw [List.length_drop]; omega)
  have hrestLen : ((x.drop k).drop (8 * q)).length = (n - k) % 8 := by
    rw [List.length_drop, List.length_drop]
    omega
  have hall : x.take k ++ (x.drop k).take (8 * q) ++ (x.drop k).drop (8 * q) = x := by
    rw [List.append_assoc, List.take_append_drop, List.take_append_drop]
  by_cases hrest : (n - k) % 8 > 0
  · obtain ⟨target, byte, b₃, hload, hpartial, hset, hlast⟩ := writePart (b := b₂)
      (i := b.byteOffset + 1 + q) (by rw [hwhole.length, hfirst.length]; omega)
      (by decide : 0 < 8) (by omega : (n - k) % 8 ≤ 8 - 0) hpending₂ hrestLen.ge
      (.inl hrestLen.symm)
    rw [if_pos hrest, hload, ok_bind, hpartial, ok_bind, hset, ok_bind]
    refine ⟨b₃, ?_, rfl⟩
    rw [List.take_of_length_le hrestLen.le] at hlast
    rw [← hall]
    refine htwo.trans ?_
    rw [List.length_append, hwholeLen, ← Nat.add_assoc, hsplit,
      show 8 * (b.byteOffset + 1) + 8 * q = 8 * (b.byteOffset + 1 + q) + 0 by omega]
    exact hlast
  · rw [if_neg hrest]
    refine ⟨b₂, ?_, rfl⟩
    have hnil : (x.drop k).drop (8 * q) = [] := List.length_eq_zero_iff.mp (by omega)
    rw [hnil, List.append_nil] at hall
    rwa [hall] at htwo

theorem writeBits_of_lt {b : BitBuffer} (val : UInt64) {n : ℕ} (h : b.unread.length < n) :
    b.writeBits val n = .ok none := by
  rw [length_unread] at h
  rw [writeBits, if_pos h]
  rfl

/-- `x` is in the place of what was unread, and the position is behind it. -/
structure Written (b : BitBuffer) (x : List Bool) (b' : BitBuffer) : Prop where
  bits : Bits.ofBytes b'.bytes = Bits.overwrite (Bits.ofBytes b.bytes) b.pos x
  pos : b'.pos = b.pos + x.length
  fits : b.pos + x.length ≤ 8 * b.bytes.length

theorem Written.length {b b' : BitBuffer} {x : List Bool} (h : Written b x b') :
    b'.bytes.length = b.bytes.length := by
  have hlen := congrArg List.length h.bits
  rw [Bits.length_overwrite (by rw [Bits.length_ofBytes]; exact h.fits), Bits.length_ofBytes,
    Bits.length_ofBytes] at hlen
  omega

theorem length_unread_eq (b : BitBuffer) : b.unread.length = 8 * b.bytes.length - b.pos := by
  rw [unread, List.length_drop, Bits.length_ofBytes]

theorem Written.length_unread {b b' : BitBuffer} {x : List Bool} (h : Written b x b') :
    x.length + b'.unread.length = b.unread.length := by
  have := h.fits
  rw [length_unread_eq, length_unread_eq, h.length, h.pos]
  omega

theorem written_nil (b : BitBuffer) : Written b [] b where
  bits := (Bits.overwrite_nil _ _).symm
  pos := rfl
  fits := b.pos_le

theorem Written.trans {b m b' : BitBuffer} {x y : List Bool} (h₁ : Written b x m)
    (h₂ : Written m y b') : Written b (x ++ y) b' where
  bits := by
    rw [h₂.bits, h₁.bits, h₁.pos,
      Bits.overwrite_overwrite _ (by rw [Bits.length_ofBytes]; exact h₁.fits)]
  pos := by rw [h₂.pos, h₁.pos, List.length_append, Nat.add_assoc]
  fits := by
    have := h₂.fits
    rw [h₁.length, h₁.pos] at this
    rw [List.length_append]
    omega

/-- From where it was written, what is written is read back. -/
theorem Written.rewind {b b' : BitBuffer} {x : List Bool} (h : Written b x b') :
    ∃ start, b'.seek b.byteOffset b.bitOffset = some start ∧ Consumes start x b' := by
  have hoff := b.bitOffset_lt
  have hpos := b.pos_le
  have hlen := h.length
  have hfits := h.fits
  refine ⟨⟨b'.bytes, b.byteOffset, b.bitOffset, b'.length_le, hoff, by rw [hlen]; exact hpos⟩, ?_,
    rfl, ?_⟩
  · rw [seek, dif_neg]
    rw [hlen]
    omega
  · show (Bits.ofBytes b'.bytes).drop b.pos = x ++ (Bits.ofBytes b'.bytes).drop b'.pos
    rw [h.pos, ← List.drop_drop, h.bits,
      Bits.drop_overwrite (by rw [Bits.length_ofBytes]; exact hfits), List.drop_left]

/-- `WriteBits` where there is room. -/
theorem writeBits_written {b : BitBuffer} (val : UInt64) {n : ℕ} (hpos : 0 < n) (hn : n ≤ 64)
    (h : n ≤ b.unread.length) :
    ∃ b', b.writeBits val n = .ok (some b') ∧ Written b (Bits.ofNat n val.toNat) b' := by
  obtain ⟨b₁, hwrites, hok⟩ := writeBits_of_le val hpos hn h
  have hpos₁ : b₁.pos = b.pos := by
    rw [pos, pos, hwrites.byteOffset, hwrites.bitOffset]
  have hfits := hwrites.fits
  rw [Bits.length_ofNat] at hfits
  obtain ⟨b', hb'⟩ := consumeBits_of_le (b := b₁) (n := n) (by
    rw [length_unread_eq, hpos₁, hwrites.length]
    omega)
  obtain ⟨y, hy, hcons⟩ := consumeBits_iff.mp hb'
  refine ⟨b', by rw [hok, hb'], ?_, ?_, hwrites.fits⟩
  · rw [hcons.1, hwrites.bits]
  · have hlen := consumes_length hcons
    have hle := b'.pos_le
    rw [length_unread_eq, length_unread_eq, hcons.1, hy, hpos₁, hwrites.length] at hlen
    rw [hcons.1, hwrites.length] at hle
    rw [Bits.length_ofNat]
    have : b'.pos ≤ 8 * b.bytes.length := hle
    omega

/-! ### Codes and fields -/

theorem countBitsFrom_eq (fuel count : ℕ) (val : UInt64) (h : val.toNat.size < fuel) :
    countBitsFrom fuel count val = .ok (count + val.toNat.size) := by
  induction fuel generalizing count val with
  | zero => omega
  | succ fuel ih =>
      rw [countBitsFrom]
      by_cases hval : val = 0
      · subst hval
        rfl
      have hne : val.toNat ≠ 0 := fun hzero => hval (UInt64.toNat_inj.mp hzero)
      have hhalf : (val >>> 1).toNat = val.toNat / 2 := by
        rw [UInt64.toNat_shiftRight]
        rfl
      have hsize := Bits.size_eq_size_half hne
      rw [if_pos hval, ih (count + 1) (val >>> 1) (by rw [hhalf]; omega), hhalf, hsize]
      congr 1
      omega

theorem countBits_eq (val : UInt64) : countBits val = .ok val.toNat.size := by
  have hsize : val.toNat.size ≤ 64 := Nat.size_le.mpr val.toNat_lt
  rw [countBits, countBitsFrom_eq 65 0 val (by omega), Nat.zero_add]

theorem length_code (v : Ue) : v.code.length = 2 * (v.1.toNat + 1).size - 1 :=
  Bits.length_golomb _

/-- `WriteExponentialGolomb` writes the code of its value. -/
theorem writeExponentialGolomb_eq (b : BitBuffer) (v : Ue) :
    (v.code.length ≤ b.unread.length →
      ∃ b', b.writeExponentialGolomb v.1 = .ok (some b') ∧ Written b v.code b') ∧
    (b.unread.length < v.code.length → b.writeExponentialGolomb v.1 = .ok none) := by
  have hnum : (v.1.toUInt64 + 1).toNat = v.1.toNat + 1 := by
    have := v.1.toNat_lt
    rw [UInt64.toNat_add, UInt32.toNat_toUInt64, UInt64.toNat_one]
    omega
  have hwrite : b.writeExponentialGolomb v.1 =
      b.writeBits (v.1.toUInt64 + 1) (2 * (v.1.toNat + 1).size - 1) := by
    rw [writeExponentialGolomb, if_neg v.2]
    show (countBits (v.1.toUInt64 + 1) >>= _) = _
    rw [countBits_eq, ok_bind, hnum, Nat.mul_comm]
  have hpos := Nat.size_pos.mpr (by omega : 0 < v.1.toNat + 1)
  have hsize : (v.1.toNat + 1).size ≤ 32 := Nat.size_le.mpr (by have := v.toNat_lt; omega)
  rw [hwrite, length_code]
  constructor
  · intro hroom
    obtain ⟨b', hok, hwritten⟩ := writeBits_written (v.1.toUInt64 + 1) (by omega) (by omega) hroom
    rw [hnum, Bits.ofNat_size_eq_golomb] at hwritten
    exact ⟨b', hok, hwritten⟩
  · exact writeBits_of_lt _

theorem toNat_toUInt32 {d : Int32} (h : 0 ≤ d.toInt) : (d.toUInt32.toNat : ℤ) = d.toInt := by
  have hcond : d.toInt = if 2 * d.toUInt32.toNat < 2 ^ 32 then (d.toUInt32.toNat : ℤ)
      else (d.toUInt32.toNat : ℤ) - (2 ^ 32 : ℕ) := BitVec.toInt_eq_toNat_cond _
  have hlt := d.toUInt32.toNat_lt
  split at hcond <;> omega

/-- `WriteSignedExponentialGolomb` writes the code that stands for its value. -/
theorem writeSignedExponentialGolomb_eq (b : BitBuffer) (d : Se) :
    b.writeSignedExponentialGolomb d.1 = b.writeExponentialGolomb d.toUe.1 := by
  have hlow := d.1.le_toInt
  have hhigh := d.1.toInt_lt
  have hcode : d.toUe.1.toNat = d.codeNum := toNat_ofNat_codeNum d
  have hzero : d.1 = 0 ↔ d.1.toInt = 0 := Int32.toInt_inj.symm
  have hpositive : d.1 > 0 ↔ 0 < d.1.toInt := Int32.lt_iff_toInt_lt
  rw [Se.codeNum] at hcode
  rw [writeSignedExponentialGolomb]
  by_cases h₀ : d.1 = 0
  · rw [if_pos h₀]
    congr 1
    apply UInt32.toNat_inj.mp
    rw [hcode, hzero.mp h₀]
    rfl
  have hne : d.1.toInt ≠ 0 := fun h => h₀ (hzero.mpr h)
  rw [if_neg h₀]
  by_cases hpos : 0 < d.1.toInt
  · have hnat := toNat_toUInt32 hpos.le
    rw [if_pos (hpositive.mpr hpos)]
    congr 1
    apply UInt32.toNat_inj.mp
    rw [if_pos hpos] at hcode
    rw [hcode, UInt32.toNat_sub, UInt32.toNat_mul, UInt32.toNat_one,
      show (2 : UInt32).toNat = 2 from rfl]
    omega
  · have hmin : d.1.toInt ≠ -2 ^ 31 := fun h => d.2 (Int32.toInt_inj.mp (by rw [h]; rfl))
    have hneg : (-d.1).toInt = -d.1.toInt := by
      rw [Int32.toInt_neg]
      exact Int.bmod_eq_of_le_mul_two (by omega) (by omega)
    have hnat := toNat_toUInt32 (d := -d.1) (by omega)
    rw [if_neg (fun h => hpos (hpositive.mp h)), if_neg d.2]
    congr 1
    apply UInt32.toNat_inj.mp
    rw [if_neg hpos] at hcode
    rw [hcode, UInt32.toNat_mul, show (2 : UInt32).toNat = 2 from rfl]
    omega

theorem writeSignedExponentialGolomb_code (b : BitBuffer) (d : Se) :
    (d.code.length ≤ b.unread.length →
      ∃ b', b.writeSignedExponentialGolomb d.1 = .ok (some b') ∧ Written b d.code b') ∧
    (b.unread.length < d.code.length → b.writeSignedExponentialGolomb d.1 = .ok none) := by
  rw [writeSignedExponentialGolomb_eq, ← d.code_toUe]
  exact writeExponentialGolomb_eq b d.toUe

/-- A value that is written, or the kind of one that is read. -/
inductive Kind
  | bits (n : ℕ) (hpos : 0 < n) (hn : n ≤ 32)
  | ue
  | se

def Kind.Value : Kind → Type
  | bits n _ _ => { val : UInt64 // val.toNat < 2 ^ n }
  | ue => Ue
  | se => Se

abbrev Field : Type := (k : Kind) × k.Value

def Field.code : Field → List Bool
  | ⟨.bits n _ _, val⟩ => Bits.ofNat n val.1.toNat
  | ⟨.ue, v⟩ => Ue.code v
  | ⟨.se, d⟩ => Se.code d

def Field.write (b : BitBuffer) : Field → Exec (Option BitBuffer)
  | ⟨.bits n _ _, val⟩ => b.writeBits val.1 n
  | ⟨.ue, v⟩ => b.writeExponentialGolomb v.1
  | ⟨.se, d⟩ => b.writeSignedExponentialGolomb d.1

/-- What a call that reads a value returns. -/
inductive Read
  | unsigned (val : UInt32)
  | signed (val : Int32)
  deriving DecidableEq

def Field.read : Field → Read
  | ⟨.bits _ _ _, val⟩ => .unsigned (UInt32.ofNat val.1.toNat)
  | ⟨.ue, v⟩ => .unsigned v.1
  | ⟨.se, d⟩ => .signed d.1

def Kind.read : Kind → Reader BitBuffer Read
  | .bits n _ _ => readBits n >>= fun val => pure (.unsigned val)
  | .ue => readExponentialGolomb >>= fun val => pure (.unsigned val)
  | .se => readSignedExponentialGolomb >>= fun val => pure (.signed val)

theorem reads_read (k : Kind) :
    Reads k.read (fun val : k.Value => Field.code ⟨k, val⟩) fun val => Field.read ⟨k, val⟩ := by
  cases k with
  | ue => exact reads_readExponentialGolomb.map Read.unsigned
  | se => exact reads_readSignedExponentialGolomb.map Read.signed
  | bits n hpos hn =>
      refine ((reads_readBits hpos hn).map Read.unsigned).congr ?_ ?_
      · rintro ⟨x, hx⟩
        have hlt := Bits.toNat_lt x
        have hpow : 2 ^ x.length ≤ 2 ^ 32 := Nat.pow_le_pow_right (by decide) (by omega)
        have hnum : (UInt64.ofNat (Bits.toNat x)).toNat = Bits.toNat x := by
          rw [UInt64.toNat_ofNat', Nat.mod_eq_of_lt (by omega)]
        refine ⟨⟨UInt64.ofNat (Bits.toNat x), by rw [hnum, ← hx]; exact hlt⟩, ?_, ?_⟩
        · show Bits.ofNat n (UInt64.ofNat (Bits.toNat x)).toNat = x
          rw [hnum, Bits.ofNat_of_toNat_eq hx rfl]
        · show Read.unsigned (UInt32.ofNat (UInt64.ofNat (Bits.toNat x)).toNat) = _
          rw [hnum]
          rfl
      · rintro ⟨val, hval⟩
        refine ⟨⟨Bits.ofNat n val.toNat, Bits.length_ofNat n _⟩, rfl, ?_⟩
        show Read.unsigned (UInt32.ofNat (Bits.toNat (Bits.ofNat n val.toNat))) = _
        rw [Bits.toNat_ofNat_of_lt hval]
        rfl

theorem exec_map_none {α γ : Type} {p : Reader BitBuffer α} {f : α → γ} {b : BitBuffer}
    (h : p.exec b = .ok (none, b)) : (p >>= fun a => pure (f a)).exec b = .ok (none, b) := by
  rw [exec_bind, h]
  rfl

theorem exec_read_none {k : Kind} {b : BitBuffer}
    (h : ∀ (val : k.Value) (b' : BitBuffer), ¬ Consumes b (Field.code ⟨k, val⟩) b') :
    k.read.exec b = .ok (none, b) := by
  cases k with
  | bits n hpos hn =>
      refine exec_map_none (exec_readBits_none hpos (.inl ?_))
      by_contra hroom
      obtain ⟨x, b', hx, hcons⟩ := exists_consumes (not_lt.mp hroom)
      obtain ⟨val, hcode, -⟩ := (reads_read (.bits n hpos hn)).iff b
        (.unsigned (UInt32.ofNat (Bits.toNat x))) b' |>.mp (exec_bind_some.mpr
          ⟨_, b', (reads_readBits hpos hn).iff _ _ _ |>.mpr ⟨⟨x, hx⟩, hcons, rfl⟩, rfl⟩)
      exact h val b' hcode
  | ue =>
      refine exec_map_none ?_
      rcases exec_readExponentialGolomb_cases b with ⟨v, b', hcode, -⟩ | ⟨-, hexec⟩
      · exact absurd hcode (h v b')
      · exact hexec
  | se =>
      have hunsigned : readExponentialGolomb.exec b = .ok (none, b) := by
        rcases exec_readExponentialGolomb_cases b with ⟨v, b', hcode, -⟩ | ⟨-, hexec⟩
        · rw [← v.code_toSe] at hcode
          exact absurd hcode (h v.toSe b')
        · exact hexec
      refine exec_map_none ?_
      show (readExponentialGolomb >>= _).exec b = _
      rw [exec_bind, hunsigned]
      rfl

/-- **A read returns a value exactly if its encoding is next**, and moves behind it; if there
is none, the position is as before. -/
theorem read_iff (k : Kind) (b : BitBuffer) :
    (∀ r b', k.read.exec b = .ok (some r, b') ↔
      ∃ val : k.Value, Consumes b (Field.code ⟨k, val⟩) b' ∧ Field.read ⟨k, val⟩ = r) ∧
    ((∀ (val : k.Value) (b' : BitBuffer), ¬ Consumes b (Field.code ⟨k, val⟩) b') →
      k.read.exec b = .ok (none, b)) :=
  ⟨fun r b' => (reads_read k).iff b r b', exec_read_none⟩

/-- Fields one after another, until one is refused. -/
def writeFields : List Field → BitBuffer → Exec (Option BitBuffer)
  | [], b => pure (some b)
  | f :: fs, b => do
      match ← f.write b with
      | none => pure none
      | some b' => writeFields fs b'

/-- Values of the given kinds, one after another. -/
def readFields : List Kind → Reader BitBuffer (List Read)
  | [] => pure []
  | k :: ks => do
      let val ← k.read
      let vals ← readFields ks
      pure (val :: vals)

theorem write_eq (b : BitBuffer) (f : Field) :
    (f.code.length ≤ b.unread.length →
      ∃ b', f.write b = .ok (some b') ∧ Written b f.code b') ∧
    (b.unread.length < f.code.length → f.write b = .ok none) := by
  rcases f with ⟨⟨n, hpos, hn⟩ | _ | _, val⟩
  · show (_ → ∃ b', b.writeBits val.1 n = _ ∧ _) ∧ (_ → b.writeBits val.1 n = _)
    rw [Field.code, Bits.length_ofNat]
    exact ⟨writeBits_written val.1 hpos (by omega), writeBits_of_lt val.1⟩
  · exact writeExponentialGolomb_eq b val
  · exact writeSignedExponentialGolomb_code b val

theorem writeFields_eq (fs : List Field) (b : BitBuffer) :
    ((fs.flatMap Field.code).length ≤ b.unread.length →
      ∃ b', writeFields fs b = .ok (some b') ∧ Written b (fs.flatMap Field.code) b') ∧
    (b.unread.length < (fs.flatMap Field.code).length → writeFields fs b = .ok none) := by
  induction fs generalizing b with
  | nil => exact ⟨fun _ => ⟨b, rfl, written_nil b⟩, fun h => absurd h (Nat.not_lt_zero _)⟩
  | cons f fs ih =>
      rw [List.flatMap_cons, List.length_append]
      obtain ⟨hroom, hfull⟩ := write_eq b f
      by_cases hf : f.code.length ≤ b.unread.length
      · obtain ⟨m, hok, hwritten⟩ := hroom hf
        have hlen := hwritten.length_unread
        have hrest : writeFields (f :: fs) b = writeFields fs m := by
          rw [writeFields, hok]
          rfl
        rw [hrest]
        constructor
        · intro h
          obtain ⟨b', hok', hwritten'⟩ := (ih m).1 (by omega)
          exact ⟨b', hok', hwritten.trans hwritten'⟩
        · intro h
          exact (ih m).2 (by omega)
      · refine ⟨fun h => absurd h (by omega), fun _ => ?_⟩
        rw [writeFields, hfull (by omega)]
        rfl

theorem exec_readFields {fs : List Field} {b b' : BitBuffer}
    (h : Consumes b (fs.flatMap Field.code) b') :
    (readFields (fs.map Sigma.fst)).exec b = .ok (some (fs.map Field.read), b') := by
  induction fs generalizing b with
  | nil =>
      obtain rfl := Cursor.consumes_nil.mp h
      rfl
  | cons f fs ih =>
      obtain ⟨m, hf, hfs⟩ := Cursor.consumes_append.mp h
      refine exec_bind_some.mpr ⟨f.read, m, ?_, exec_bind_some.mpr ⟨_, b', ih hfs, rfl⟩⟩
      exact ((reads_read f.1).iff b f.read m).mpr ⟨f.2, hf, rfl⟩

/-- **What is written is read back**, and it is refused exactly where there is no room. -/
theorem readFields_writeFields (fs : List Field) (b : BitBuffer) :
    if (fs.flatMap Field.code).length ≤ b.unread.length then
      ∃ b' start, writeFields fs b = .ok (some b') ∧ Written b (fs.flatMap Field.code) b' ∧
        b'.seek b.byteOffset b.bitOffset = some start ∧
        (readFields (fs.map Sigma.fst)).exec start = .ok (some (fs.map Field.read), b')
    else writeFields fs b = .ok none := by
  split
  · obtain ⟨b', hok, hwritten⟩ := (writeFields_eq fs b).1 ‹_›
    obtain ⟨start, hseek, hcons⟩ := hwritten.rewind
    exact ⟨b', start, hok, hwritten, hseek, exec_readFields hcons⟩
  · exact (writeFields_eq fs b).2 (by omega)

end BitBuffer

end QOpenHD
