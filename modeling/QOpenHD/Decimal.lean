/-
QOpenHD/Decimal.lean

Numbers in decimal, as `std::to_string` and streams write them and as `atoi`
and `inet_pton` read them: texts of bytes, of which 48 to 57 are the digits.

* `digitsText`, `digitsValue` — the text of a number, and the number that digits stand for;
* `digitsValue_digitsText` — what is written is read again.
-/
import Mathlib.Data.List.Basic
import Mathlib.Data.Nat.Notation
import Mathlib.Algebra.Group.Nat.Defs

namespace QOpenHD

/-! ### Writing -/

/-- The bytes of a text in ASCII. -/
def ascii (text : String) : List UInt8 := text.toList.map fun c => UInt8.ofNat c.toNat

/-- The digits of a number. -/
def digitsText (n : ℕ) : List UInt8 := (Nat.toDigits 10 n).map fun c => UInt8.ofNat c.toNat

/-- The decimal text of an integer. -/
def decimalText (v : Int32) : List UInt8 :=
  if v.toInt < 0 then 45 :: digitsText (-v.toInt).toNat else digitsText v.toInt.toNat

theorem digitsText_digit {d : ℕ} (hd : d < 10) : digitsText d = [UInt8.ofNat (48 + d)] := by
  rw [digitsText, Nat.toDigits_of_lt_base hd, List.map_singleton,
    Nat.toNat_digitChar_of_lt_ten hd]

theorem digitsText_append {n d : ℕ} (hn : 0 < n) (hd : d < 10) :
    digitsText (10 * n + d) = digitsText n ++ [UInt8.ofNat (48 + d)] := by
  rw [← digitsText_digit hd, digitsText, digitsText, digitsText,
    ← Nat.toDigits_append_toDigits (by decide) hn hd, List.map_append]

/-- The last digit and what stands before it. -/
theorem digitsText_div {n : ℕ} (hn : 10 ≤ n) :
    digitsText n = digitsText (n / 10) ++ [UInt8.ofNat (48 + n % 10)] := by
  have hpos : 0 < n / 10 := Nat.div_pos hn (by decide)
  rw [← digitsText_append hpos (Nat.mod_lt n (by decide)), Nat.div_add_mod]

theorem toNat_digit {d : ℕ} (hd : d < 10) : (UInt8.ofNat (48 + d)).toNat = 48 + d := by
  rw [UInt8.toNat_ofNat']
  omega

theorem digit_of_mem {n : ℕ} {b : UInt8} (h : b ∈ digitsText n) : 48 ≤ b.toNat ∧ b.toNat ≤ 57 := by
  have hdigit : ∀ d, d < 10 → 48 ≤ (UInt8.ofNat (48 + d)).toNat ∧
      (UInt8.ofNat (48 + d)).toNat ≤ 57 := by
    intro d hd
    rw [toNat_digit hd]
    omega
  induction n using Nat.strongRecOn with
  | ind n ih =>
      by_cases hn : n < 10
      · rw [digitsText_digit hn, List.mem_singleton] at h
        exact h ▸ hdigit n hn
      · rw [digitsText_div (by omega), List.mem_append, List.mem_singleton] at h
        rcases h with h | h
        · exact ih (n / 10) (by omega) h
        · exact h ▸ hdigit (n % 10) (by omega)

theorem digitsText_ne_nil (n : ℕ) : digitsText n ≠ [] := by
  rw [digitsText, Ne, List.map_eq_nil_iff, ← List.length_eq_zero_iff]
  exact Nat.ne_of_gt Nat.length_toDigits_pos

/-- No number but 0 is written with a leading zero. -/
theorem head?_digitsText_ne {n : ℕ} (hn : 0 < n) : (digitsText n).head? ≠ some 48 := by
  induction n using Nat.strongRecOn with
  | ind n ih =>
      by_cases hdigit : n < 10
      · rw [digitsText_digit hdigit, List.head?_cons, Ne, Option.some.injEq,
          ← UInt8.toNat_inj, toNat_digit hdigit]
        exact Nat.ne_of_gt (Nat.lt_add_of_pos_right hn)
      · have hrest := ih (n / 10) (by omega) (by omega)
        rw [digitsText_div (by omega), List.head?_append_of_ne_nil _ (digitsText_ne_nil _)]
        exact hrest

theorem length_digitsText_le_iff {k n : ℕ} (hk : 0 < k) :
    (digitsText n).length ≤ k ↔ n < 10 ^ k := by
  rw [digitsText, List.length_map]
  exact Nat.length_toDigits_le_iff (by decide) hk

theorem lt_length_digitsText {k n : ℕ} (h : 10 ^ k ≤ n) : k < (digitsText n).length := by
  rcases Nat.eq_zero_or_pos k with rfl | hk
  · exact List.length_pos_iff.mpr (digitsText_ne_nil n)
  · exact Nat.lt_of_not_le fun hle => absurd ((length_digitsText_le_iff hk).mp hle) (by omega)

/-! ### Reading -/

/-- `isdigit` -/
def isDigit (b : UInt8) : Bool := 48 ≤ b && b ≤ 57

/-- `isspace` -/
def isSpace (b : UInt8) : Bool := b == 32 || (9 ≤ b && b ≤ 13)

/-- The number that a text of digits stands for. -/
def digitsValue (text : List UInt8) : ℕ := text.foldl (fun value b => 10 * value + (b.toNat - 48)) 0

theorem digitsValue_concat (text : List UInt8) (b : UInt8) :
    digitsValue (text ++ [b]) = 10 * digitsValue text + (b.toNat - 48) := by
  simp [digitsValue]

theorem isDigit_iff {b : UInt8} : isDigit b = true ↔ 48 ≤ b.toNat ∧ b.toNat ≤ 57 := by
  simp [isDigit, UInt8.le_iff_toNat_le]

theorem isDigit_of_mem {n : ℕ} {b : UInt8} (h : b ∈ digitsText n) : isDigit b = true :=
  isDigit_iff.mpr (digit_of_mem h)

theorem isSpace_of_isDigit {b : UInt8} (h : isDigit b = true) : isSpace b = false := by
  obtain ⟨hlow, -⟩ := isDigit_iff.mp h
  have hspace : b ≠ 32 := by
    rintro rfl
    exact absurd hlow (by decide)
  have hcontrol : ¬ b ≤ 13 := by
    rw [UInt8.le_iff_toNat_le]
    exact Nat.not_le.mpr (Nat.lt_of_lt_of_le (by decide) hlow)
  simp [isSpace, hspace, hcontrol]

theorem dropWhile_isSpace_digits {text : List UInt8} (hdigits : ∀ b ∈ text, isDigit b = true) :
    text.dropWhile isSpace = text := by
  cases text with
  | nil => rfl
  | cons b rest =>
      exact List.dropWhile_cons_of_neg (by simp [isSpace_of_isDigit (hdigits b (by simp))])

/-- No sign stands before digits. -/
theorem head?_digits (sign : UInt8) (hsign : isDigit sign = false) {text : List UInt8}
    (hdigits : ∀ b ∈ text, isDigit b = true) : (text.head? == some sign) = false := by
  rw [beq_eq_false_iff_ne]
  intro hhead
  rw [hdigits sign (List.mem_of_mem_head? hhead)] at hsign
  cases hsign

/-- **What is written is read again.** -/
theorem digitsValue_digitsText (n : ℕ) : digitsValue (digitsText n) = n := by
  induction n using Nat.strongRecOn with
  | ind n ih =>
      by_cases hn : n < 10
      · rw [digitsText_digit hn]
        simp only [digitsValue, List.foldl_cons, List.foldl_nil, toNat_digit hn]
        omega
      · rw [digitsText_div (Nat.le_of_not_lt hn), digitsValue_concat, ih (n / 10) (by omega),
          toNat_digit (Nat.mod_lt n (by decide)), Nat.add_sub_cancel_left, Nat.div_add_mod]

end QOpenHD
