/-
QOpenHD/Options.lean

Command lines of options: flags, and options that have a value behind them.

A reader goes through the words once and keeps a variable for every option.  A word that is
no option is skipped, and so is an option at the end whose value is missing.  The word
behind an option is its value, whatever it looks like.

* `given` — what a command line says, from the left to the right;
* **`read_eq_ok_iff`** — the reader gets to the end exactly if it accepts every value, and then
  the variables have what is given last;
* `given_words` — what is written as a command line is given.
-/
import Mathlib.Data.List.Nodup
import Mathlib.Logic.Function.Basic

namespace Options

variable {ω β ε : Type}

/-- Whether an option has a value, and how that is read. -/
inductive Kind (ω β ε : Type)
  | flag (on : β)
  | value (read : ω → Except ε β)

/-- The options and their kinds. -/
abbrev Table (ω β ε : Type) := List (ω × Kind ω β ε)

/-- The variables of the options. -/
abbrev Vars (ω β : Type) := ω → Option β

/-- What is given, where every value is accepted. -/
def accepted (settings : List (ω × β)) : List (ω × Except ε β) :=
  settings.map fun s => (s.1, .ok s.2)

/-- What is given is accepted, or there is a first value that is not. -/
theorem accepted_or_not (l : List (ω × Except ε β)) :
    (∃ settings, l = accepted settings) ∨
      ∃ settings option e rest, l = accepted settings ++ (option, .error e) :: rest := by
  induction l with
  | nil => exact .inl ⟨[], rfl⟩
  | cons x l ih =>
      obtain ⟨option, v | v⟩ := x
      · exact .inr ⟨[], option, v, l, rfl⟩
      · obtain ⟨settings, rfl⟩ | ⟨settings, o, e, rest, rfl⟩ := ih
        · exact .inl ⟨(option, v) :: settings, rfl⟩
        · exact .inr ⟨(option, v) :: settings, o, e, rest, rfl⟩

variable [DecidableEq ω]

def Vars.set (vars : Vars ω β) (option : ω) (v : β) : Vars ω β :=
  Function.update vars option (some v)

/-- The loop over the words. -/
def read (table : Table ω β ε) (vars : Vars ω β) : List ω → Except ε (Vars ω β)
  | [] => .ok vars
  | [arg] =>
    match table.lookup arg with
    | some (.flag on) => .ok (vars.set arg on)
    | _ => .ok vars
  | arg :: next :: rest =>
    match table.lookup arg with
    | some (.flag on) => read table (vars.set arg on) (next :: rest)
    | some (.value f) =>
      match f next with
      | .ok v => read table (vars.set arg v) rest
      | .error e => .error e
    | none => read table vars (next :: rest)

/-! ### What is given -/

/-- The options of a command line, and what becomes of their values. -/
def given (table : Table ω β ε) : List ω → List (ω × Except ε β)
  | [] => []
  | [arg] =>
    match table.lookup arg with
    | some (.flag on) => [(arg, .ok on)]
    | _ => []
  | arg :: next :: rest =>
    match table.lookup arg with
    | some (.flag on) => (arg, .ok on) :: given table (next :: rest)
    | some (.value f) => (arg, f next) :: given table rest
    | none => given table (next :: rest)

/-- What is accepted of them. -/
def assign (vars : Vars ω β) (settings : List (ω × β)) : Vars ω β :=
  settings.foldl (fun vars s => vars.set s.1 s.2) vars

/-- The last value of an option. -/
def last (settings : List (ω × β)) (option : ω) : Option β := settings.reverse.lookup option

theorem given_flag {table : Table ω β ε} {option : ω} {on : β}
    (h : table.lookup option = some (.flag on)) (rest : List ω) :
    given table (option :: rest) = (option, .ok on) :: given table rest := by
  cases rest <;> simp [given, h]

theorem given_value {table : Table ω β ε} {option : ω} {f : ω → Except ε β}
    (h : table.lookup option = some (.value f)) (value : ω) (rest : List ω) :
    given table (option :: value :: rest) = (option, f value) :: given table rest := by
  simp [given, h]

theorem given_skip {table : Table ω β ε} {arg : ω} (h : table.lookup arg = none)
    (rest : List ω) : given table (arg :: rest) = given table rest := by
  cases rest <;> simp [given, h]

/-! ### What the loop returns -/

/-- The loop over what is given. -/
def store (vars : Vars ω β) : List (ω × Except ε β) → Except ε (Vars ω β)
  | [] => .ok vars
  | (option, .ok v) :: rest => store (vars.set option v) rest
  | (_, .error e) :: _ => .error e

theorem read_eq (table : Table ω β ε) (vars : Vars ω β) (args : List ω) :
    read table vars args = store vars (given table args) := by
  fun_induction read table vars args with
  | case1 vars => rfl
  | case2 vars arg on h => rw [given_flag h]; rfl
  | case3 vars arg h =>
      cases hlookup : table.lookup arg with
      | none => rw [given_skip hlookup]; rfl
      | some kind =>
          cases kind with
          | flag on => exact absurd hlookup (h on)
          | value f => simp [given, hlookup, store]
  | case4 vars arg next rest on h ih => rw [given_flag h, store, ih]
  | case5 vars arg next rest f h v hv ih => rw [given_value h, hv, store, ih]
  | case6 vars arg next rest f h e he => rw [given_value h, he, store]
  | case7 vars arg next rest h ih => rw [given_skip h, ih]

theorem store_accepted (vars : Vars ω β) (settings : List (ω × β))
    (rest : List (ω × Except ε β)) :
    store vars (accepted settings ++ rest) = store (assign vars settings) rest := by
  induction settings generalizing vars with
  | nil => rfl
  | cons s settings ih => exact ih _

/-- **The loop returns** if every value is accepted. -/
theorem read_eq_ok_iff {table : Table ω β ε} {vars vars' : Vars ω β} {args : List ω} :
    read table vars args = .ok vars' ↔
      ∃ settings, given table args = accepted settings ∧ vars' = assign vars settings := by
  rw [read_eq]
  constructor
  · intro h
    obtain ⟨settings, heq⟩ | ⟨settings, option, e, rest, heq⟩ := accepted_or_not (given table args)
    · rw [heq, ← List.append_nil (accepted settings), store_accepted] at h
      exact ⟨settings, heq, (Except.ok.inj h).symm⟩
    · rw [heq, store_accepted] at h
      cases h
  · rintro ⟨settings, heq, rfl⟩
    rw [heq, ← List.append_nil (accepted settings), store_accepted]
    rfl

/-- Every variable has what was given last. -/
theorem assign_eq_last (vars : Vars ω β) (settings : List (ω × β)) (option : ω) :
    assign vars settings option = (last settings option).or (vars option) := by
  induction settings generalizing vars with
  | nil => rfl
  | cons s settings ih =>
      obtain ⟨o, v⟩ := s
      rw [assign, List.foldl_cons, ← assign, ih, last, last, List.reverse_cons, List.lookup_append,
        Option.or_assoc]
      congr 1
      by_cases h : option = o
      · simp [Vars.set, h]
      · have hother : [(o, v)].lookup option = none := by simp [h]
        simp [Vars.set, h, hother]

/-- A value before another one of its option. -/
theorem last_cons_of_mem {s : ω × β} {settings : List (ω × β)}
    (h : s.1 ∈ settings.map Prod.fst) : last (s :: settings) = last settings := by
  funext option
  rw [last, List.reverse_cons, List.lookup_append, ← last]
  cases hlast : last settings option with
  | some v => rfl
  | none =>
      have hother : ∀ x ∈ settings, option ≠ x.1 := by
        intro x hx
        exact bne_iff_ne.mp (List.lookup_eq_none_iff.mp hlast x (List.mem_reverse.mpr hx))
      obtain ⟨x, hx, heq⟩ := List.mem_map.mp h
      have hne : option ≠ s.1 := heq ▸ hother x hx
      simp [hne]

theorem lookup_eq_some_iff_mem {settings : List (ω × β)} (hnodup : (settings.map Prod.fst).Nodup)
    {option : ω} {v : β} : settings.lookup option = some v ↔ (option, v) ∈ settings := by
  rw [List.lookup_eq_some_iff]
  constructor
  · rintro ⟨pre, post, rfl, -⟩
    simp
  · intro hmem
    obtain ⟨pre, post, rfl⟩ := List.append_of_mem hmem
    refine ⟨pre, post, rfl, fun s hs => bne_iff_ne.mpr ?_⟩
    rw [List.map_append, List.map_cons] at hnodup
    exact ((List.nodup_append.mp hnodup).2.2 s.1 (List.mem_map_of_mem hs) option (by simp)).symm

/-- Where every option is given once, their order does not matter. -/
theorem last_of_perm {settings settings' : List (ω × β)} (h : settings.Perm settings')
    (hnodup : (settings.map Prod.fst).Nodup) : last settings = last settings' := by
  have hreverse : (settings.reverse.map Prod.fst).Nodup := by
    rwa [List.map_reverse, List.nodup_reverse]
  have hreverse' : (settings'.reverse.map Prod.fst).Nodup := by
    rw [List.map_reverse, List.nodup_reverse]
    exact (h.map _).nodup_iff.mp hnodup
  funext option
  apply Option.ext
  intro v
  rw [last, last, lookup_eq_some_iff_mem hreverse, lookup_eq_some_iff_mem hreverse',
    List.mem_reverse, List.mem_reverse, h.mem_iff]

/-! ### Writing a command line -/

/-- An option, and its value if it has one. -/
abbrev Written (ω : Type) := ω × Option ω

def Written.words (w : Written ω) : List ω := w.1 :: w.2.toList

/-- What becomes of it, if it is written as its kind wants it. -/
def Written.meaning (table : Table ω β ε) (w : Written ω) : Option (ω × Except ε β) :=
  match table.lookup w.1, w.2 with
  | some (.flag on), none => some (w.1, .ok on)
  | some (.value f), some value => some (w.1, f value)
  | _, _ => none

/-- **What is written is given**, whatever stands behind it. -/
theorem given_words {table : Table ω β ε} {ws : List (Written ω)}
    (h : ∀ w ∈ ws, (w.meaning table).isSome) (rest : List ω) :
    given table (ws.flatMap Written.words ++ rest) =
      ws.filterMap (Written.meaning table) ++ given table rest := by
  induction ws with
  | nil => rfl
  | cons w ws ih =>
      obtain ⟨hw, hws⟩ := List.forall_mem_cons.mp h
      obtain ⟨option, value⟩ := w
      rw [List.flatMap_cons, List.append_assoc]
      cases hlookup : table.lookup option with
      | none => simp [Written.meaning, hlookup] at hw
      | some kind =>
          rcases kind with on | f <;> rcases value with - | value <;>
            simp only [Written.meaning, hlookup, Option.isSome_none, Bool.false_eq_true] at hw
          · have hmeaning : Written.meaning table (option, none) = some (option, .ok on) := by
              simp [Written.meaning, hlookup]
            rw [List.filterMap_cons_some hmeaning, List.cons_append, ← ih hws]
            exact given_flag hlookup _
          · have hmeaning : Written.meaning table (option, some value) =
                some (option, f value) := by
              simp [Written.meaning, hlookup]
            rw [List.filterMap_cons_some hmeaning, List.cons_append, ← ih hws]
            exact given_value hlookup value _

end Options
