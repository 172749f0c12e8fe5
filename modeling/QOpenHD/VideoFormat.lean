/-
QOpenHD/VideoFormat.lean

The resolution and the frame rate of a camera as text (`as_string` and
`parse_video_format`, `camera.hpp`).

The text is `{width}x{height}@{framerate}`.  What is read is the first place of a text that looks
like that, where numbers may be missing; and at least 6 characters are asked for, which
three numbers of one digit do not have.

* `matchAt_reg`, `search_reg_eq_none_iff` — what the expression finds, and where;
* `parseVideoFormat_of_inGrammar`, `parseVideoFormat_eq_none_iff` — what is read of a text of the
  grammar, and which texts are not read;
* **`accepts_grammar_iff`** — the texts with which the parser does what the grammar says, and
  the values that are read again.
-/
import QOpenHD.Decimal
import QOpenHD.Regex
import Mathlib.Algebra.Group.Int.Defs
import Mathlib.Data.List.TakeWhile

namespace QOpenHD

/-! ### Writing and reading -/

structure ResolutionFramerate where
  widthPx : Int32
  heightPx : Int32
  fps : Int32
  deriving DecidableEq

def ResolutionFramerate.asString (r : ResolutionFramerate) : List UInt8 :=
  decimalText r.widthPx ++ ascii "x" ++ decimalText r.heightPx ++ ascii "@" ++ decimalText r.fps

/-- `atoi`, which is `strtol`, cut off to 32 bits. -/
def atoi (text : List UInt8) : Int32 :=
  let text := text.dropWhile isSpace
  let negative := text.head? == some 45
  let text := if negative || text.head? == some 43 then text.tail else text
  let value : ℤ := digitsValue (text.takeWhile isDigit)
  Int32.ofInt (if negative then max (-value) (-2 ^ 63) else min value (2 ^ 63 - 1))

/-- `(\d*)x(\d*)\@(\d*)` -/
def reg : Regex UInt8 :=
  let digits := Regex.star (Regex.sat isDigit)
  .cat (.group 1 digits) (.cat (.sat (· == 120)) (.cat (.group 2 digits)
    (.cat (.sat (· == 64)) (.group 3 digits))))

def parseVideoFormat (videoFormat : List UInt8) : Option ResolutionFramerate :=
  if videoFormat = ascii "0x0@0" then some ⟨0, 0, 0⟩
  else if videoFormat.length ≤ 5 then none
  else
    match reg.search videoFormat with
    | some result =>
      -- `result.size() == 4`
      if reg.groups + 1 = 4 then some ⟨atoi (result 1), atoi (result 2), atoi (result 3)⟩ else none
    | none => none

/-! ### The grammar -/

/-- A number, which is not empty, and an `int`. -/
structure IsNumber (text : List UInt8) (n : Int32) : Prop where
  ne_nil : text ≠ []
  digits : ∀ b ∈ text, isDigit b = true
  value : (digitsValue text : ℤ) = n.toInt

/-- Three numbers, with an `x` and an `@` between them. -/
def InGrammar (s : List UInt8) (r : ResolutionFramerate) : Prop :=
  ∃ w h f, s = w ++ 120 :: (h ++ 64 :: f) ∧
    IsNumber w r.widthPx ∧ IsNumber h r.heightPx ∧ IsNumber f r.fps

/-- An `x`, perhaps digits, and an `@`, with anything before and behind them. -/
def HasMark (s : List UInt8) : Prop :=
  ∃ before digits after, s = before ++ 120 :: (digits ++ 64 :: after) ∧
    ∀ b ∈ digits, isDigit b = true

/-! ### What the expression finds -/

theorem isDigit_ne {b c : UInt8} (hb : isDigit b = true) (hc : isDigit c = false) :
    ¬ (b == c) = true := by
  rw [beq_iff_eq]
  rintro rfl
  exact absurd hb (by simp [hc])

/-- Where the expression matches, each group is all the digits that are there. -/
theorem matchAt_reg {s t u : List UInt8} (hs : s.dropWhile isDigit = 120 :: t)
    (ht : t.dropWhile isDigit = 64 :: u) :
    ∃ c, reg.matchAt s = some c ∧ c 1 = s.takeWhile isDigit ∧ c 2 = t.takeWhile isDigit ∧
      c 3 = u.takeWhile isDigit := by
  have hmatch : reg.matchAt s = some (Function.update (Function.update (Function.update
      (Function.update (fun _ => []) 1 (s.takeWhile isDigit)) 2 (t.takeWhile isDigit)) 3
      (u.takeWhile isDigit)) 0 (s.take (s.length - (u.dropWhile isDigit).length))) := by
    show Regex.exec reg s _ _ = _
    rw [reg, Regex.exec_group_star_sat_cat fun c hc => isDigit_ne hc rfl, hs]
    show Regex.exec _ t _ _ = _
    rw [Regex.exec_group_star_sat_cat fun c hc => isDigit_ne hc rfl, ht]
    show Regex.exec _ u _ _ = _
    exact Regex.exec_group_star_sat_of_greedy rfl
  exact ⟨_, hmatch, rfl, rfl, rfl⟩

/-- And where it matches. -/
theorem matchAt_reg_eq_none {s : List UInt8}
    (h : ∀ t u, s.dropWhile isDigit = 120 :: t → t.dropWhile isDigit ≠ 64 :: u) :
    reg.matchAt s = none := by
  show Regex.exec reg s _ _ = _
  rw [reg, Regex.exec_group_star_sat_cat fun c hc => isDigit_ne hc rfl]
  rcases hs : s.dropWhile isDigit with - | ⟨c, t⟩
  · rfl
  by_cases hc : c = 120
  · subst hc
    show Regex.exec _ t _ _ = _
    rw [Regex.exec_group_star_sat_cat fun c hc => isDigit_ne hc rfl]
    rcases ht : t.dropWhile isDigit with - | ⟨c, u⟩
    · rfl
    · have hc : c ≠ 64 := by
        rintro rfl
        exact h t u hs ht
      exact if_neg (by simpa using hc)
  · exact if_neg (by simpa using hc)

/-- Digits, and another character behind them. -/
theorem dropWhile_digits {digits rest : List UInt8} {b : UInt8}
    (hdigits : ∀ b ∈ digits, isDigit b = true) (hb : isDigit b = false) :
    (digits ++ b :: rest).dropWhile isDigit = b :: rest := by
  rw [List.dropWhile_append_of_pos hdigits, List.dropWhile_cons_of_neg (by simp [hb])]

theorem takeWhile_digits {digits rest : List UInt8} {b : UInt8}
    (hdigits : ∀ b ∈ digits, isDigit b = true) (hb : isDigit b = false) :
    (digits ++ b :: rest).takeWhile isDigit = digits := by
  rw [List.takeWhile_append_of_pos hdigits, List.takeWhile_cons_of_neg (by simp [hb]),
    List.append_nil]

/-- **Where something is found.** -/
theorem search_reg_eq_none_iff {s : List UInt8} : reg.search s = none ↔ ¬ HasMark s := by
  rw [Regex.search_eq_none_iff]
  constructor
  · rintro h ⟨before, digits, after, rfl, hdigits⟩
    obtain ⟨c, hc, -⟩ := matchAt_reg (s := 120 :: (digits ++ 64 :: after)) rfl
      (dropWhile_digits hdigits rfl)
    rw [h _ (List.suffix_append _ _)] at hc
    cases hc
  · rintro h t ⟨before, rfl⟩
    refine matchAt_reg_eq_none fun t' u ht hu => h ?_
    refine ⟨before ++ t.takeWhile isDigit, t'.takeWhile isDigit, u, ?_, ?_⟩
    · rw [← hu, List.takeWhile_append_dropWhile, ← ht, List.append_assoc,
        List.takeWhile_append_dropWhile]
    · exact fun b hb => List.mem_takeWhile_imp hb

/-! ### Numbers -/

/-- A text of digits has no sign, and nothing before it. -/
theorem atoi_digits {text : List UInt8} (hdigits : ∀ b ∈ text, isDigit b = true) :
    atoi text = Int32.ofInt (min (digitsValue text : ℤ) (2 ^ 63 - 1)) := by
  simp only [atoi, dropWhile_isSpace_digits hdigits, head?_digits 45 rfl hdigits,
    head?_digits 43 rfl hdigits, Bool.or_self, Bool.false_eq_true, if_false]
  rw [List.takeWhile_eq_self_iff.mpr hdigits]

/-- A number that is an `int` is read as it is. -/
theorem atoi_of_isNumber {text : List UInt8} {n : Int32} (h : IsNumber text n) : atoi text = n := by
  have hlt := n.toInt_lt
  rw [atoi_digits h.digits, h.value, Int.min_eq_left (by omega), Int32.ofInt_toInt]

/-! ### The grammar -/

/-- What the expression finds in a text of the grammar. -/
theorem search_of_inGrammar {s : List UInt8} {r : ResolutionFramerate} (h : InGrammar s r) :
    ∃ c, reg.search s = some c ∧
      (⟨atoi (c 1), atoi (c 2), atoi (c 3)⟩ : ResolutionFramerate) = r := by
  obtain ⟨w, h, f, rfl, hw, hh, hf⟩ := h
  obtain ⟨c, hc, h₁, h₂, h₃⟩ := matchAt_reg (dropWhile_digits hw.digits rfl)
    (dropWhile_digits hh.digits rfl)
  refine ⟨c, Regex.search_of_matchAt hc, ?_⟩
  rw [h₁, h₂, h₃, takeWhile_digits hw.digits rfl, takeWhile_digits hh.digits rfl,
    List.takeWhile_eq_self_iff.mpr hf.digits, atoi_of_isNumber hw, atoi_of_isNumber hh,
    atoi_of_isNumber hf]

/-- A text is in the grammar with one value at most. -/
theorem InGrammar.unique {s : List UInt8} {r r' : ResolutionFramerate} (h : InGrammar s r)
    (h' : InGrammar s r') : r = r' := by
  obtain ⟨c, hc, rfl⟩ := search_of_inGrammar h
  obtain ⟨c', hc', rfl⟩ := search_of_inGrammar h'
  obtain rfl := Option.some.inj (hc.symm.trans hc')
  rfl

/-! ### What is written -/

def ResolutionFramerate.Nonneg (r : ResolutionFramerate) : Prop :=
  0 ≤ r.widthPx ∧ 0 ≤ r.heightPx ∧ 0 ≤ r.fps

instance (r : ResolutionFramerate) : Decidable r.Nonneg := inferInstanceAs (Decidable (_ ∧ _ ∧ _))

theorem decimalText_nonneg {n : Int32} (h : 0 ≤ n) :
    decimalText n = digitsText n.toInt.toNat := by
  rw [Int32.le_iff_toInt_le] at h
  exact if_neg (Int.not_lt.mpr h)

theorem isNumber_decimalText {n : Int32} (h : 0 ≤ n) : IsNumber (decimalText n) n := by
  rw [decimalText_nonneg h]
  refine ⟨digitsText_ne_nil _, fun b => isDigit_of_mem, ?_⟩
  rw [Int32.le_iff_toInt_le] at h
  rw [digitsValue_digitsText, Int.toNat_of_nonneg h]

/-- What is written is in the grammar. -/
theorem inGrammar_asString {r : ResolutionFramerate} (h : r.Nonneg) : InGrammar r.asString r := by
  refine ⟨_, _, _, ?_, isNumber_decimalText h.1, isNumber_decimalText h.2.1,
    isNumber_decimalText h.2.2⟩
  simp [ResolutionFramerate.asString, ascii]

theorem length_decimalText {n : Int32} (h : 0 ≤ n) :
    0 < (decimalText n).length ∧ (1 < (decimalText n).length ↔ 10 ≤ n) := by
  rw [decimalText_nonneg h]
  refine ⟨List.length_pos_iff.mpr (digitsText_ne_nil _), ?_⟩
  have hshort := length_digitsText_le_iff (k := 1) (n := n.toInt.toNat) (by decide)
  have hten : (10 : Int32).toInt = 10 := rfl
  rw [Int32.le_iff_toInt_le] at h ⊢
  rw [← Nat.not_le, hshort, hten]
  omega

/-- What is written is long enough if one of the numbers is. -/
theorem length_asString {r : ResolutionFramerate} (h : r.Nonneg) :
    5 < r.asString.length ↔ 10 ≤ r.widthPx ∨ 10 ≤ r.heightPx ∨ 10 ≤ r.fps := by
  obtain ⟨hw, hw'⟩ := length_decimalText h.1
  obtain ⟨hh, hh'⟩ := length_decimalText h.2.1
  obtain ⟨hf, hf'⟩ := length_decimalText h.2.2
  have hlen : r.asString.length = (decimalText r.widthPx).length +
      (decimalText r.heightPx).length + (decimalText r.fps).length + 2 := by
    simp only [ResolutionFramerate.asString, List.length_append, ascii, List.length_map]
    have hone : "x".toList.length = 1 ∧ "@".toList.length = 1 := by decide
    omega
  rw [← hw', ← hh', ← hf', hlen]
  omega

/-! ### The parser -/

theorem zero_inGrammar : InGrammar (ascii "0x0@0") ⟨0, 0, 0⟩ := by
  have htext : ResolutionFramerate.asString ⟨0, 0, 0⟩ = ascii "0x0@0" := by decide
  exact htext ▸ inGrammar_asString (by decide)

/-- **What is read of a text of the grammar.** -/
theorem parseVideoFormat_of_inGrammar {s : List UInt8} {r : ResolutionFramerate}
    (h : InGrammar s r) :
    parseVideoFormat s = if s = ascii "0x0@0" ∨ 5 < s.length then some r else none := by
  unfold parseVideoFormat
  by_cases hzero : s = ascii "0x0@0"
  · subst hzero
    rw [if_pos rfl, if_pos (.inl rfl), h.unique zero_inGrammar]
  rw [if_neg hzero]
  by_cases hlen : s.length ≤ 5
  · rw [if_pos hlen, if_neg (not_or.mpr ⟨hzero, Nat.not_lt.mpr hlen⟩)]
  obtain ⟨c, hc, hvalue⟩ := search_of_inGrammar h
  rw [if_neg hlen, hc, if_pos (.inr (Nat.lt_of_not_le hlen)), ← hvalue]
  rfl

/-- **Which texts are not read.** -/
theorem parseVideoFormat_eq_none_iff {s : List UInt8} :
    parseVideoFormat s = none ↔ s ≠ ascii "0x0@0" ∧ (s.length ≤ 5 ∨ ¬ HasMark s) := by
  unfold parseVideoFormat
  by_cases hzero : s = ascii "0x0@0"
  · simp [hzero]
  by_cases hlen : s.length ≤ 5
  · simp [hzero, hlen]
  rw [if_neg hzero, if_neg hlen, ← search_reg_eq_none_iff]
  rcases hfound : reg.search s with - | c
  · simp [hzero]
  · simp [hzero, hlen, show reg.groups + 1 = 4 from rfl]

theorem asString_eq_zero_iff {r : ResolutionFramerate} (h : r.Nonneg) :
    r.asString = ascii "0x0@0" ↔ r = ⟨0, 0, 0⟩ := by
  constructor
  · intro heq
    exact (heq ▸ inGrammar_asString h).unique zero_inGrammar
  · rintro rfl
    decide

/-! ### Where the parser is right -/

/-- A text of the grammar has to be read. -/
theorem accepts_iff_of_inGrammar {s : List UInt8} {r : ResolutionFramerate} (h : InGrammar s r) :
    (∀ r', parseVideoFormat s = some r' ↔ InGrammar s r') ↔ s = ascii "0x0@0" ∨ 5 < s.length := by
  rw [parseVideoFormat_of_inGrammar h]
  constructor
  · intro hright
    by_contra hshort
    have hread := (hright r).mpr h
    rw [if_neg hshort] at hread
    cases hread
  · intro hlong r'
    rw [if_pos hlong, Option.some.injEq]
    constructor
    · rintro rfl
      exact h
    · exact h.unique

/-- Any other text must not be. -/
theorem accepts_iff_of_not_inGrammar {s : List UInt8} (h : ¬ ∃ r, InGrammar s r) :
    (∀ r, parseVideoFormat s = some r ↔ InGrammar s r) ↔ s.length ≤ 5 ∨ ¬ HasMark s := by
  have hzero : s ≠ ascii "0x0@0" := by
    rintro rfl
    exact h ⟨_, zero_inGrammar⟩
  have hnone : parseVideoFormat s = none ↔ s.length ≤ 5 ∨ ¬ HasMark s := by
    rw [parseVideoFormat_eq_none_iff, and_iff_right hzero]
  rw [← hnone, Option.eq_none_iff_forall_ne_some]
  exact forall_congr' fun r => iff_false_right fun hr => h ⟨r, hr⟩

/-- **The parser accepts exactly its grammar** on these texts; and it reads these values again. -/
theorem accepts_grammar_iff (s : List UInt8) (r : ResolutionFramerate) (hr : r.Nonneg) :
    ((∀ r', parseVideoFormat s = some r' ↔ InGrammar s r') ↔
      ((∃ r', InGrammar s r') → s = ascii "0x0@0" ∨ 5 < s.length) ∧
        ((¬ ∃ r', InGrammar s r') → s.length ≤ 5 ∨ ¬ HasMark s)) ∧
    (parseVideoFormat r.asString = some r ↔
      r = ⟨0, 0, 0⟩ ∨ 10 ≤ r.widthPx ∨ 10 ≤ r.heightPx ∨ 10 ≤ r.fps) := by
  constructor
  · by_cases hgrammar : ∃ r', InGrammar s r'
    · obtain ⟨r', hr'⟩ := id hgrammar
      rw [accepts_iff_of_inGrammar hr']
      simp only [hgrammar, forall_const, not_true_eq_false, false_imp_iff, and_true]
    · rw [accepts_iff_of_not_inGrammar hgrammar]
      simp only [hgrammar, forall_const, false_imp_iff, not_false_eq_true, true_and]
  · rw [parseVideoFormat_of_inGrammar (inGrammar_asString hr), ← length_asString hr,
      ← asString_eq_zero_iff hr]
    simp [or_iff_not_imp_left]

/-- The example of its comment. -/
theorem accepts_grammar_iff_hd : parseVideoFormat (ascii "1280x720@30") = some ⟨1280, 720, 30⟩ :=
  (accepts_grammar_iff (ascii "1280x720@30") ⟨1280, 720, 30⟩ (by decide)).2.mpr (by decide)

/-- A text that is too short; and one that has only the marks. -/
theorem not_accepts_grammar :
    ¬ (∀ s r, parseVideoFormat s = some r → InGrammar s r) ∧
      ¬ ∀ s r, InGrammar s r → parseVideoFormat s = some r := by
  constructor
  · intro h
    obtain ⟨w, _, _, heq, hw, -⟩ := h (ascii "abcx@def") ⟨0, 0, 0⟩ (by decide)
    obtain ⟨b, rest, rfl⟩ := List.exists_cons_of_ne_nil hw.ne_nil
    have hhead : some 97 = some b := congrArg List.head? heq
    obtain rfl := Option.some.inj hhead
    exact absurd (hw.digits 97 List.mem_cons_self) (by decide)
  · intro h
    have hone : InGrammar (ResolutionFramerate.asString ⟨1, 1, 1⟩) ⟨1, 1, 1⟩ :=
      inGrammar_asString (by decide)
    exact absurd (h _ _ hone) (by decide)

end QOpenHD
