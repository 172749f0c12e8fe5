/-
QOpenHD/Regex.lean

Regular expressions with groups, as programs match them: by backtracking, in which a
repetition takes as much as it can and gives back one part after the other until what
follows matches, and from the first position on where there is a match.

* `exec` — the match at the beginning of a text, with what is to follow given as a function
  that may fail;
* `exec_group_star_sat_of_greedy`, `exec_group_star_sat_cat` — a repeated character takes all
  that it can, if that is followed by a match, or if nothing shorter can be;
* `search_eq_none_iff`, `search_of_matchAt` — where nothing is found, and where something is
  found at once.

Nothing here depends on what the characters are.
-/
import Mathlib.Data.List.Basic
import Mathlib.Data.List.Infix
import Mathlib.Logic.Function.Basic

/-- A regular expression over the characters `α`; groups are numbered by the one who writes it. -/
inductive Regex (α : Type*)
  | sat (p : α → Bool)
  | cat (r r' : Regex α)
  | star (r : Regex α)
  | group (i : ℕ) (r : Regex α)

namespace Regex

variable {α β : Type*}

/-- What each group has matched, if anything; number 0 is the whole match. -/
abbrev Captures (α : Type*) := ℕ → List α

/-- What follows: it is given the rest of the text, and may fail. -/
abbrev Then (α β : Type*) := List α → Captures α → Option β

/-- The number of groups. -/
def groups : Regex α → ℕ
  | sat _ => 0
  | cat r r' => r.groups + r'.groups
  | star r => r.groups
  | group _ r => r.groups + 1

/-- As many parts as possible, but not more than `n`, and none that is empty. -/
def many (part : List α → Captures α → Then α β → Option β) :
    ℕ → List α → Captures α → Then α β → Option β
  | 0, s, g, k => k s g
  | n + 1, s, g, k =>
    (part s g fun s' g' => if s'.length < s.length then many part n s' g' k else none).or (k s g)

/-- Match the beginning of a text, and what follows behind it. -/
def exec : Regex α → List α → Captures α → Then α β → Option β
  | sat _, [], _, _ => none
  | sat p, c :: s, g, k => if p c then k s g else none
  | cat r r', s, g, k => exec r s g fun s' g' => exec r' s' g' k
  | star r, s, g, k => many (exec r) s.length s g k
  | group i r, s, g, k => exec r s g fun s' g' =>
    k s' (Function.update g' i (s.take (s.length - s'.length)))

/-- A match at the beginning of a text. -/
def matchAt (r : Regex α) (s : List α) : Option (Captures α) :=
  exec (group 0 r) s (fun _ => []) fun _ g => some g

/-- The first match. -/
def search (r : Regex α) : List α → Option (Captures α)
  | [] => matchAt r []
  | c :: s => (matchAt r (c :: s)).or (search r s)

variable {r : Regex α} {s : List α} {g : Captures α} {k : Then α β} {p : α → Bool}

/-! ### Repeated characters -/

theorem exec_sat_of_not {c : α} (h : ¬ p c = true) : exec (sat p) (c :: s) g k = none := if_neg h

/-- One more character, and the rest. -/
theorem many_sat_cons {c : α} (hc : p c = true) (n : ℕ) :
    many (exec (sat p)) (n + 1) (c :: s) g k =
      (many (exec (sat p)) n s g k).or (k (c :: s) g) := by
  simp [many, exec, hc]

theorem many_sat_of_not {c : α} (hc : ¬ p c = true) (n : ℕ) :
    many (exec (sat p)) n (c :: s) g k = k (c :: s) g := by
  cases n with
  | zero => rfl
  | succ n => simp [many, exec_sat_of_not hc]

/-- All that can be taken is, where that is followed by a match. -/
theorem exec_star_sat_of_greedy {b : β} (h : k (s.dropWhile p) g = some b) :
    exec (star (sat p)) s g k = some b := by
  show many (exec (sat p)) s.length s g k = some b
  induction s with
  | nil => exact h
  | cons c s ih =>
      by_cases hc : p c = true
      · rw [List.dropWhile_cons_of_pos hc] at h
        rw [List.length_cons, many_sat_cons hc, ih h, Option.some_or]
      · rw [List.dropWhile_cons_of_neg hc] at h
        rw [many_sat_of_not hc, h]

/-- All that can be taken is, where nothing shorter is followed by a match. -/
theorem exec_star_sat_of_possessive (h : ∀ c t, p c = true → k (c :: t) g = none) :
    exec (star (sat p)) s g k = k (s.dropWhile p) g := by
  show many (exec (sat p)) s.length s g k = _
  induction s with
  | nil => rfl
  | cons c s ih =>
      by_cases hc : p c = true
      · rw [List.length_cons, many_sat_cons hc, ih, h c s hc, Option.or_none,
          List.dropWhile_cons_of_pos hc]
      · rw [many_sat_of_not hc, List.dropWhile_cons_of_neg hc]

/-- What a repeated character has taken. -/
theorem take_length_sub_dropWhile (p : α → Bool) (s : List α) :
    s.take (s.length - (s.dropWhile p).length) = s.takeWhile p := by
  have hlen := congrArg List.length (List.takeWhile_append_dropWhile (p := p) (l := s))
  rw [List.length_append] at hlen
  have htaken : s.length - (s.dropWhile p).length = (s.takeWhile p).length := by omega
  rw [htaken]
  exact (List.prefix_iff_eq_take.mp (List.takeWhile_prefix p)).symm

/-- A group that takes all that it can. -/
theorem exec_group_star_sat_of_greedy {i : ℕ} {b : β}
    (h : k (s.dropWhile p) (Function.update g i (s.takeWhile p)) = some b) :
    exec (group i (star (sat p))) s g k = some b := by
  apply exec_star_sat_of_greedy
  rw [take_length_sub_dropWhile, h]

/-- A group of characters that ends with another one. -/
theorem exec_group_star_sat_cat {i : ℕ} {q : α → Bool} (hpq : ∀ c, p c = true → ¬ q c = true)
    (r : Regex α) :
    exec (cat (group i (star (sat p))) (cat (sat q) r)) s g k =
      exec (cat (sat q) r) (s.dropWhile p) (Function.update g i (s.takeWhile p)) k := by
  show exec (star (sat p)) s g (fun s' g' => exec (cat (sat q) r) s'
    (Function.update g' i (s.take (s.length - s'.length))) k) = _
  rw [exec_star_sat_of_possessive, take_length_sub_dropWhile]
  intro c t hc
  rw [exec, exec_sat_of_not (hpq c hc)]

/-! ### The first match -/

theorem search_of_matchAt {c : Captures α} (h : matchAt r s = some c) : search r s = some c := by
  cases s with
  | nil => exact h
  | cons a s => rw [search, h, Option.some_or]

/-- Nothing is found exactly if nothing matches anywhere. -/
theorem search_eq_none_iff : search r s = none ↔ ∀ t, t <:+ s → matchAt r t = none := by
  induction s with
  | nil =>
      constructor
      · intro h t ht
        rw [List.suffix_nil.mp ht]
        exact h
      · exact fun h => h [] List.suffix_rfl
  | cons a s ih =>
      rw [search, Option.or_eq_none_iff, ih]
      constructor
      · rintro ⟨hhere, hlater⟩ t ht
        rcases List.suffix_cons_iff.mp ht with rfl | ht
        · exact hhere
        · exact hlater t ht
      · exact fun h => ⟨h _ List.suffix_rfl, fun t ht => h t (List.suffix_cons_iff.mpr (.inr ht))⟩

end Regex
