/-
QOpenHD/ToolEndpoint.lean

The command line of `openhd_mavlink_tool` (`openhd_mavlink_tool.cpp`):

    openhd_mavlink_tool [--host ip] [--port udp_port] <command> [options]

`parse_endpoint` reads the options wherever they stand, but takes as many words as they
have from the front; `main` looks for a command behind what is then the first word.

* `items` — a command line as words and as options with their values;
* `scan_eq` — what the loop has read and counted when it returns;
* `drop_texts_eq_kept_iff` — when the words that are left are those of no option;
* `main_usage` — the tool, used as its usage text says;
* **`removesPairs_iff`** — the command lines of which exactly the options are removed.
-/
import QOpenHD.Decimal
import QOpenHD.UDPRemote
import Mathlib.Data.List.TakeWhile

namespace QOpenHD

namespace Tool

/-- A word of the command line. -/
abbrev Word := List UInt8

/-- What the standard library and `MavlinkSender` throw. -/
inductive Exception
  | invalidArgument
  | outOfRange
  /-- A string is made from a null pointer. -/
  | logicError
  | runtimeError
  deriving DecidableEq

structure Endpoint where
  host : Word := ascii "127.0.0.1"
  port : UInt16 := 14550
  deriving DecidableEq

/-- `std::stoi`, which does not look at what stands behind the digits. -/
def stoi (text : Word) : Except Exception ℤ :=
  let text := text.dropWhile isSpace
  let negative := text.head? == some 45
  let digits := (if negative || text.head? == some 43 then text.tail else text).takeWhile isDigit
  let value : ℤ := if negative then -digitsValue digits else digitsValue digits
  if digits = [] then .error .invalidArgument
  else if value < -2 ^ 31 ∨ 2 ^ 31 ≤ value then .error .outOfRange
  else .ok value

/-- The loop of `parse_endpoint`, over the words from `argv[i]` on.  The last of them has no word
behind it: `i + 1 < argc` fails. -/
def scan (ep : Endpoint) (shift : ℕ) : List Word → Except Exception (Endpoint × ℕ)
  | [] => .ok (ep, shift)
  | [_] => .ok (ep, shift)
  | arg :: next :: rest =>
    if arg = ascii "--host" then scan { ep with host := next } (shift + 2) rest
    else if arg = ascii "--port" then
      match stoi next with
      | .ok port => scan { ep with port := UInt16.ofInt port } (shift + 2) rest
      | .error e => .error e
    else scan ep shift (next :: rest)

/-- The endpoint, and `argv` as it is left behind. -/
def parseEndpoint (argv : List Word) : Except Exception (Endpoint × List Word) :=
  (scan {} 0 argv.tail).map fun (ep, shift) => (ep, argv.drop shift)

/-- `argv[argc]` is a null pointer. -/
def string : Option Word → Except Exception Word
  | some text => .ok text
  | none => .error .logicError

/-- `MavlinkSender::addr_` -/
def mavlinkSender (ep : Endpoint) : Except Exception SockaddrIn :=
  match inetPton ep.host with
  | some addr => .ok ⟨addr, ntohs ep.port⟩
  | none => .error .runtimeError

def commands : List Word :=
  [ascii "scan", ascii "set-link", ascii "set-video", ascii "set-camera", ascii "set-recording",
    ascii "set-wifi", ascii "set-uart"]

inductive Outcome
  | usage
  /-- The handler of a command is called, with this `argv`. -/
  | handle (command : Word) (addr : SockaddrIn) (argv : List Word)
  deriving DecidableEq

def main (argv : List Word) : Except Exception Outcome :=
  if argv.length < 2 then .ok .usage
  else do
    let (ep, argv) ← parseEndpoint argv
    let command ← string argv[1]?
    let addr ← mavlinkSender ep
    if command ∈ commands then return .handle command addr (argv.drop 1) else return .usage

/-! ### Words and pairs -/

/-- `--host X`, or `--port N` where `N` is a number. -/
def IsPair (option value : Word) : Prop :=
  option = ascii "--host" ∨ option = ascii "--port" ∧ (stoi value).toBool = true

instance (option value : Word) : Decidable (IsPair option value) :=
  inferInstanceAs (Decidable (_ ∨ _))

structure Pair where
  option : Word
  value : Word
  isPair : IsPair option value
  deriving DecidableEq

inductive Item
  | pair (p : Pair)
  | word (w : Word)
  deriving DecidableEq

/-- The pairs of a command line, from the left to the right, and the words between them. -/
def items : List Word → List Item
  | [] => []
  | [arg] => [.word arg]
  | arg :: next :: rest =>
    if h : IsPair arg next then .pair ⟨arg, next, h⟩ :: items rest
    else .word arg :: items (next :: rest)

def Item.texts : Item → List Word
  | .pair p => [p.option, p.value]
  | .word w => [w]

/-- The words as they were written. -/
def texts (l : List Item) : List Word := l.flatMap Item.texts

def Item.pair? : Item → Option Pair
  | .pair p => some p
  | .word _ => none

def Item.word? : Item → Option Word
  | .pair _ => none
  | .word w => some w

def pairs (l : List Item) : List Pair := l.filterMap Item.pair?

/-- The words that belong to no pair. -/
def kept (l : List Item) : List Word := l.filterMap Item.word?

/-- The program name, and the other arguments without the pairs. -/
def remaining : List Word → List Word
  | [] => []
  | prog :: rest => prog :: kept (items rest)

/-- **What is asked for**: the pairs are removed, and nothing else; and `main` has an `argv[1]` to
read. -/
def RemovesPairs (argv : List Word) : Prop :=
  (∃ ep, parseEndpoint argv = .ok (ep, remaining argv)) ∧ main argv ≠ .error .logicError

/-- Where `o` is a word that belongs to no pair, nothing stands behind it. -/
def IsLast (o : Word) (l : List Item) : Prop := .word o ∉ l.dropLast

instance (o : Word) (l : List Item) : Decidable (IsLast o l) :=
  inferInstanceAs (Decidable (¬ _))

/-- What a pair says about the endpoint. -/
def Endpoint.set (ep : Endpoint) (p : Pair) : Endpoint :=
  if p.option = ascii "--host" then { ep with host := p.value }
  else
    match stoi p.value with
    | .ok port => { ep with port := UInt16.ofInt port }
    | .error _ => ep

theorem isPair_host (next : Word) : IsPair (ascii "--host") next := .inl rfl

theorem isPair_port {next : Word} {port : ℤ} (h : stoi next = .ok port) :
    IsPair (ascii "--port") next :=
  .inr ⟨rfl, by rw [h]; rfl⟩

theorem not_isPair_of_error {next : Word} {e : Exception} (h : stoi next = .error e) :
    ¬ IsPair (ascii "--port") next := by
  rintro (heq | ⟨-, hok⟩)
  · exact absurd heq (by decide)
  · rw [h] at hok
    cases hok

theorem not_isPair_of_ne {arg next : Word} (hhost : arg ≠ ascii "--host")
    (hport : arg ≠ ascii "--port") : ¬ IsPair arg next := by
  rintro (heq | ⟨heq, -⟩)
  · exact hhost heq
  · exact hport heq

theorem items_pair {arg next : Word} (h : IsPair arg next) (rest : List Word) :
    items (arg :: next :: rest) = .pair ⟨arg, next, h⟩ :: items rest := by
  rw [items, dif_pos h]

theorem items_word {arg next : Word} (h : ¬ IsPair arg next) (rest : List Word) :
    items (arg :: next :: rest) = .word arg :: items (next :: rest) := by
  rw [items, dif_neg h]

theorem items_ne_nil (arg : Word) (rest : List Word) : items (arg :: rest) ≠ [] := by
  cases rest with
  | nil => simp [items]
  | cons next rest =>
      by_cases h : IsPair arg next
      · simp [items_pair h]
      · simp [items_word h]

@[simp] theorem texts_pair (p : Pair) (l : List Item) :
    texts (.pair p :: l) = p.option :: p.value :: texts l := rfl

@[simp] theorem texts_word (w : Word) (l : List Item) : texts (.word w :: l) = w :: texts l := rfl

@[simp] theorem pairs_pair (p : Pair) (l : List Item) : pairs (.pair p :: l) = p :: pairs l := rfl

@[simp] theorem pairs_word (w : Word) (l : List Item) : pairs (.word w :: l) = pairs l := rfl

@[simp] theorem kept_pair (p : Pair) (l : List Item) : kept (.pair p :: l) = kept l := rfl

@[simp] theorem kept_word (w : Word) (l : List Item) : kept (.word w :: l) = w :: kept l := rfl

/-- **Nothing of a command line is lost among the items.** -/
theorem texts_items (rest : List Word) : texts (items rest) = rest := by
  fun_induction items rest with
  | case1 => rfl
  | case2 arg => rfl
  | case3 arg next rest h ih => rw [texts_pair, ih]
  | case4 arg next rest h ih => rw [texts_word, ih]

theorem length_texts (l : List Item) :
    (texts l).length = 2 * (pairs l).length + (kept l).length := by
  induction l with
  | nil => rfl
  | cons item l ih =>
      cases item with
      | pair p =>
          simp only [texts_pair, pairs_pair, kept_pair, List.length_cons, ih]
          omega
      | word w =>
          simp only [texts_word, pairs_word, kept_word, List.length_cons, ih]
          omega

theorem texts_append (l l' : List Item) : texts (l ++ l') = texts l ++ texts l' :=
  List.flatMap_append

theorem kept_append (l l' : List Item) : kept (l ++ l') = kept l ++ kept l' :=
  List.filterMap_append

theorem pairs_append (l l' : List Item) : pairs (l ++ l') = pairs l ++ pairs l' :=
  List.filterMap_append

theorem mem_kept_iff {w : Word} {l : List Item} : w ∈ kept l ↔ .word w ∈ l := by
  induction l with
  | nil => simp [kept]
  | cons item l ih => cases item <;> simp [ih]

/-! ### Words that have to be the last -/

theorem isLast_pair {o : Word} {p : Pair} {l : List Item} :
    IsLast o (.pair p :: l) ↔ IsLast o l := by
  cases l <;> simp [IsLast]

theorem isLast_pairs_append {o : Word} {ps : List Pair} {l : List Item} :
    IsLast o (ps.map .pair ++ l) ↔ IsLast o l := by
  induction ps with
  | nil => rfl
  | cons p ps ih => rw [List.map_cons, List.cons_append, isLast_pair, ih]

theorem isLast_word {o w : Word} {l : List Item} (hl : l ≠ []) :
    IsLast o (.word w :: l) ↔ w ≠ o ∧ IsLast o l := by
  rw [IsLast, IsLast, List.dropLast_cons_of_ne_nil hl, List.mem_cons, Item.word.injEq, not_or]
  exact and_congr_left' ne_comm

/-- Whatever stands behind `--host` is its value. -/
theorem isLast_host (rest : List Word) : IsLast (ascii "--host") (items rest) := by
  fun_induction items rest with
  | case1 => simp [IsLast]
  | case2 arg => simp [IsLast]
  | case3 arg next rest h ih => exact isLast_pair.mpr ih
  | case4 arg next rest h ih =>
      exact (isLast_word (items_ne_nil _ _)).mpr ⟨fun heq => h (.inl heq), ih⟩

/-- The name of a pair is not a word of its own before it. -/
theorem option_not_mem_kept {rest : List Word} (hport : IsLast (ascii "--port") (items rest))
    {before after : List Item} {p : Pair} (h : items rest = before ++ .pair p :: after) :
    p.option ∉ kept before := by
  have hlast : IsLast p.option (items rest) := by
    rcases p.isPair with hoption | ⟨hoption, -⟩
    · exact hoption ▸ isLast_host rest
    · exact hoption ▸ hport
  rw [h, IsLast, List.dropLast_append_of_ne_nil (List.cons_ne_nil _ _)] at hlast
  intro hmem
  exact hlast (List.mem_append_left _ (mem_kept_iff.mp hmem))

/-! ### The loop -/

/-- **What the loop returns**, if there is a number behind every `--port`. -/
theorem scan_eq {rest : List Word} (h : IsLast (ascii "--port") (items rest)) (ep : Endpoint)
    (shift : ℕ) :
    scan ep shift rest =
      .ok ((pairs (items rest)).foldl Endpoint.set ep,
        shift + 2 * (pairs (items rest)).length) := by
  fun_induction scan ep shift rest with
  | case1 ep shift => rfl
  | case2 ep shift arg => rfl
  | case3 ep shift next rest ih =>
      rw [items_pair (isPair_host next)] at h ⊢
      rw [ih (isLast_pair.mp h), pairs_pair, List.foldl_cons, Endpoint.set, if_pos rfl,
        List.length_cons, Nat.mul_succ]
      simp only [Nat.add_assoc, Nat.add_comm]
  | case4 ep shift next rest port hport hne ih =>
      rw [items_pair (isPair_port hport)] at h ⊢
      rw [ih (isLast_pair.mp h), pairs_pair, List.foldl_cons, Endpoint.set, if_neg hne, hport,
        List.length_cons, Nat.mul_succ]
      simp only [Nat.add_assoc, Nat.add_comm]
  | case5 ep shift next rest e herror hne =>
      rw [items_word (not_isPair_of_error herror), isLast_word (items_ne_nil _ _)] at h
      exact absurd rfl h.1
  | case6 ep shift arg next rest hhost hport ih =>
      rw [items_word (not_isPair_of_ne hhost hport)] at h ⊢
      exact ih ((isLast_word (items_ne_nil _ _)).mp h).2

/-- What `stoi` throws is not what a null pointer throws. -/
theorem stoi_ne_logicError (text : Word) : stoi text ≠ .error .logicError := by
  simp only [stoi]
  split_ifs <;> simp

/-- **The loop is left by an exception** otherwise. -/
theorem scan_eq_error {rest : List Word} (h : ¬ IsLast (ascii "--port") (items rest))
    (ep : Endpoint) (shift : ℕ) : ∃ e, scan ep shift rest = .error e ∧ e ≠ .logicError := by
  fun_induction scan ep shift rest with
  | case1 ep shift => exact absurd (by simp [IsLast, items]) h
  | case2 ep shift arg => exact absurd (by simp [IsLast, items]) h
  | case3 ep shift next rest ih =>
      rw [items_pair (isPair_host next), isLast_pair] at h
      exact ih h
  | case4 ep shift next rest port hport hne ih =>
      rw [items_pair (isPair_port hport), isLast_pair] at h
      exact ih h
  | case5 ep shift next rest e herror hne =>
      exact ⟨e, rfl, fun heq => stoi_ne_logicError next (heq ▸ herror)⟩
  | case6 ep shift arg next rest hhost hport ih =>
      rw [items_word (not_isPair_of_ne hhost hport), isLast_word (items_ne_nil _ _)] at h
      exact ih fun hlast => h ⟨hport, hlast⟩

/-! ### What is left -/

/-- `parse_endpoint`, if it returns: as many words are gone as there are in pairs. -/
theorem parseEndpoint_eq {argv : List Word} (h : IsLast (ascii "--port") (items argv.tail)) :
    parseEndpoint argv = .ok ((pairs (items argv.tail)).foldl Endpoint.set {},
      argv.drop (2 * (pairs (items argv.tail)).length)) := by
  rw [parseEndpoint, scan_eq h, Nat.zero_add]
  rfl

theorem parseEndpoint_ok_iff {argv left : List Word} :
    (∃ ep, parseEndpoint argv = .ok (ep, left)) ↔
      IsLast (ascii "--port") (items argv.tail) ∧
        argv.drop (2 * (pairs (items argv.tail)).length) = left := by
  by_cases h : IsLast (ascii "--port") (items argv.tail)
  · simp [parseEndpoint_eq h, h]
  · obtain ⟨e, herror, -⟩ := scan_eq_error h {} 0
    simp [parseEndpoint, herror, h, Except.map]

theorem parseEndpoint_ne_logicError (argv : List Word) :
    parseEndpoint argv ≠ .error .logicError := by
  by_cases h : IsLast (ascii "--port") (items argv.tail)
  · simp [parseEndpoint_eq h]
  · obtain ⟨e, herror, hne⟩ := scan_eq_error h {} 0
    simp [parseEndpoint, herror, Except.map, hne]

/-- A list of items has a last pair, or none. -/
theorem words_or_last_pair (l : List Item) :
    l = (kept l).map .word ∨
      ∃ before p after, l = before ++ .pair p :: List.map .word after := by
  induction l with
  | nil => exact .inl rfl
  | cons item l ih =>
      rcases ih with hwords | ⟨before, p, after, hl⟩
      · cases item with
        | pair p => exact .inr ⟨[], p, kept l, by rw [List.nil_append, ← hwords]⟩
        | word w => exact .inl (by rw [kept_word, List.map_cons, ← hwords])
      · exact .inr ⟨item :: before, p, after, by rw [hl, List.cons_append]⟩

@[simp] theorem kept_words (ws : List Word) : kept (ws.map .word) = ws := by
  induction ws with
  | nil => rfl
  | cons w ws ih => rw [List.map_cons, kept_word, ih]

@[simp] theorem pairs_words (ws : List Word) : pairs (ws.map .word) = [] := by
  induction ws with
  | nil => rfl
  | cons w ws ih => rw [List.map_cons, pairs_word, ih]

@[simp] theorem pairs_pairs (ps : List Pair) : pairs (ps.map .pair) = ps := by
  induction ps with
  | nil => rfl
  | cons p ps ih => rw [List.map_cons, pairs_pair, ih]

@[simp] theorem kept_pairs (ps : List Pair) : kept (ps.map .pair) = [] := by
  induction ps with
  | nil => rfl
  | cons p ps ih => rw [List.map_cons, kept_pair, ih]

@[simp] theorem texts_words (ws : List Word) : texts (ws.map .word) = ws := by
  induction ws with
  | nil => rfl
  | cons w ws ih => rw [List.map_cons, texts_word, ih]

/-- Without a pair, all words are kept. -/
theorem kept_items_of_no_pairs {rest : List Word} (h : pairs (items rest) = []) :
    kept (items rest) = rest := by
  have hrest := texts_items rest
  rcases words_or_last_pair (items rest) with hwords | ⟨before, p, after, hitems⟩
  · rwa [hwords, texts_words] at hrest
  · rw [hitems, pairs_append] at h
    simp at h

/-- **As many words as there are in pairs, from the front**: they are the pairs exactly if no other
word stands before the last pair, or if that word is the same as the value of this pair. -/
theorem drop_texts_eq_kept_iff {before : List Item} {p : Pair} (after : List Word)
    (hoption : p.option ∉ kept before) :
    (texts (before ++ .pair p :: after.map .word)).drop (2 * ((pairs before).length + 1)) =
        kept before ++ after ↔
      kept before = [] ∨ kept before = [p.value] := by
  have hlength := length_texts before
  have htexts : texts (before ++ .pair p :: after.map .word) =
      texts before ++ [p.option, p.value] ++ after := by
    simp [texts_append]
  rw [htexts, List.drop_append_of_le_length (by simp [hlength]; omega), List.append_cancel_right_eq]
  rcases hkept : kept before with - | ⟨w, - | ⟨w', ws⟩⟩
  · have hall : (texts before ++ [p.option, p.value]).length ≤ 2 * ((pairs before).length + 1) := by
      rw [List.length_append, hlength, hkept]
      exact Nat.le_refl _
    simp [List.drop_eq_nil_of_le hall]
  · have hfront : (texts before ++ [p.option]).length = 2 * ((pairs before).length + 1) := by
      rw [List.length_append, hlength, hkept]
      rfl
    have hsplit : texts before ++ [p.option, p.value] =
        texts before ++ [p.option] ++ [p.value] := by
      simp
    rw [hsplit, ← hfront, List.drop_left]
    simp [eq_comm]
  · -- the name of the pair is among what is left
    have hle : 2 * ((pairs before).length + 1) ≤ (texts before).length := by
      rw [hlength, hkept]
      simp only [List.length_cons]
      omega
    rw [List.drop_append_of_le_length hle]
    constructor
    · intro heq
      have hmem : p.option ∈ kept before := by
        rw [hkept, ← heq]
        simp
      exact absurd hmem hoption
    · simp

/-- Some words from the front of a list leave `b :: rest` exactly if `b` is the last of them. -/
theorem drop_cons_eq_cons_iff {α : Type} {a b : α} {l rest : List α} {n : ℕ} :
    (a :: l).drop (n + 1) = b :: rest ↔ l[n]? = some b ∧ l.drop (n + 1) = rest := by
  rw [List.drop_succ_cons]
  by_cases hn : n < l.length
  · rw [List.drop_eq_getElem_cons hn, List.cons.injEq, List.getElem?_eq_getElem hn,
      Option.some.injEq]
  · simp [List.drop_eq_nil_of_le (Nat.le_of_not_lt hn), Nat.le_of_not_lt hn]

/-- Where the words of a pair stand. -/
theorem getElem?_texts (before after : List Item) (p : Pair) :
    (texts (before ++ .pair p :: after))[(texts before).length]? = some p.option ∧
      (texts (before ++ .pair p :: after))[(texts before).length + 1]? = some p.value := by
  rw [texts_append, List.getElem?_append_right (Nat.le_refl _),
    List.getElem?_append_right (Nat.le_succ _)]
  simp

/-- With the word that stands in the place of the program name: it is a word of the last pair. -/
theorem drop_eq_cons_kept_iff {prog : Word} {before : List Item} {p : Pair} (after : List Word)
    (hoption : p.option ∉ kept before) :
    (prog :: texts (before ++ .pair p :: after.map .word)).drop (2 * ((pairs before).length + 1)) =
        prog :: (kept before ++ after) ↔
      kept before = [] ∧ p.value = prog ∨ kept before = [p.value] ∧ p.option = prog := by
  have hlength := length_texts before
  have hcut : 2 * ((pairs before).length + 1) = 2 * (pairs before).length + 1 + 1 := rfl
  obtain ⟨hname, hvalue⟩ := getElem?_texts before (after.map .word) p
  rw [hcut, drop_cons_eq_cons_iff, ← hcut, drop_texts_eq_kept_iff after hoption]
  constructor
  · rintro ⟨hprog, hnil | hone⟩
    · rw [hlength, hnil, List.length_nil, Nat.add_zero, hprog] at hvalue
      exact .inl ⟨hnil, (Option.some.inj hvalue).symm⟩
    · rw [hlength, hone, List.length_singleton, hprog] at hname
      exact .inr ⟨hone, (Option.some.inj hname).symm⟩
  · rintro (⟨hnil, hprog⟩ | ⟨hone, hprog⟩)
    · rw [hlength, hnil, List.length_nil, Nat.add_zero, hprog] at hvalue
      exact ⟨hvalue, .inl hnil⟩
    · rw [hlength, hone, List.length_singleton, hprog] at hname
      exact ⟨hname, .inr hone⟩

/-! ### The program -/

theorem main_short {argv : List Word} (h : argv.length < 2) : main argv = .ok .usage := by
  rw [main, if_pos h]

theorem main_of_error {argv : List Word} {e : Exception} (h : 2 ≤ argv.length)
    (hparse : parseEndpoint argv = .error e) : main argv = .error e := by
  rw [main, if_neg (Nat.not_lt.mpr h), hparse]
  rfl

/-- There is no command: `argv[1]` is what stands behind the last word. -/
theorem main_null {argv left : List Word} {ep : Endpoint} (h : 2 ≤ argv.length)
    (hparse : parseEndpoint argv = .ok (ep, left)) (hleft : left.length < 2) :
    main argv = .error .logicError := by
  have hnull : left[1]? = none := List.getElem?_eq_none (Nat.le_of_lt_succ hleft)
  rw [main, if_neg (Nat.not_lt.mpr h), hparse]
  simp only [bind, Except.bind, hnull, string]

theorem main_command {argv options : List Word} {ep : Endpoint} {prog command : Word}
    (h : 2 ≤ argv.length) (hparse : parseEndpoint argv = .ok (ep, prog :: command :: options)) :
    main argv = (mavlinkSender ep).map fun addr =>
      if command ∈ commands then .handle command addr (command :: options) else .usage := by
  rw [main, if_neg (Nat.not_lt.mpr h), hparse]
  rcases hsender : mavlinkSender ep with e | addr
  · simp [bind, Except.bind, string, hsender, Except.map]
  · by_cases hmem : command ∈ commands <;>
      simp [bind, Except.bind, string, hsender, Except.map, hmem, pure, Except.pure]

theorem mavlinkSender_ne_logicError (ep : Endpoint) :
    mavlinkSender ep ≠ .error .logicError := by
  rw [mavlinkSender]
  split <;> simp

/-- `main` makes a string from a null pointer if there is no word behind what it has for the
program name, and for no other reason. -/
theorem main_eq_logicError_iff {argv : List Word} :
    main argv = .error .logicError ↔
      2 ≤ argv.length ∧ ∃ ep left, parseEndpoint argv = .ok (ep, left) ∧ left.length < 2 := by
  constructor
  · intro hmain
    have hargc : 2 ≤ argv.length := by
      by_contra hlt
      rw [main_short (Nat.lt_of_not_le hlt)] at hmain
      cases hmain
    refine ⟨hargc, ?_⟩
    rcases hparse : parseEndpoint argv with e | ⟨ep, - | ⟨prog, - | ⟨command, options⟩⟩⟩
    · rw [main_of_error hargc hparse] at hmain
      cases hmain
      exact absurd hparse (parseEndpoint_ne_logicError argv)
    · exact ⟨ep, _, rfl, by simp⟩
    · exact ⟨ep, _, rfl, by simp⟩
    · rw [main_command hargc hparse] at hmain
      rcases hsender : mavlinkSender ep with e | addr
      · rw [hsender] at hmain
        cases hmain
        exact absurd hsender (mavlinkSender_ne_logicError ep)
      · rw [hsender] at hmain
        cases hmain
  · rintro ⟨hargc, ep, left, hparse, hleft⟩
    exact main_null hargc hparse hleft

/-- **No command is left** of a command line of nothing but pairs. -/
theorem main_cons_eq_logicError_iff {prog : Word} {rest : List Word} :
    main (prog :: rest) = .error .logicError ↔
      IsLast (ascii "--port") (items rest) ∧ rest ≠ [] ∧ kept (items rest) = [] := by
  have hrest := length_texts (items rest)
  rw [texts_items] at hrest
  rw [main_eq_logicError_iff]
  constructor
  · rintro ⟨hargc, ep, left, hparse, hleft⟩
    obtain ⟨hport, rfl⟩ := parseEndpoint_ok_iff.mp ⟨ep, hparse⟩
    rw [List.tail_cons, List.length_drop, List.length_cons, hrest] at hleft
    refine ⟨hport, ?_, List.length_eq_zero_iff.mp (by omega)⟩
    rintro rfl
    simp at hargc
  · rintro ⟨hport, hne, hkept⟩
    have hpos := List.length_pos_iff.mpr hne
    refine ⟨Nat.succ_le_succ hpos, _, _, parseEndpoint_eq hport, ?_⟩
    rw [List.tail_cons, List.length_drop, List.length_cons, hrest, hkept, List.length_nil]
    omega

/-- Pairs in front of a command line are read one after the other. -/
theorem items_texts_append (ps : List Pair) (rest : List Word) :
    items (texts (ps.map .pair) ++ rest) = ps.map .pair ++ items rest := by
  induction ps with
  | nil => rfl
  | cons p ps ih =>
      rw [List.map_cons, texts_pair, List.cons_append, List.cons_append, items_pair p.isPair, ih,
        List.cons_append]

/-- **Pairs in front of a command** are read, and the command and its options are handed on. -/
theorem main_pairs_command (prog : Word) (ps : List Pair) {command : Word} {options : List Word}
    (hnone : pairs (items (command :: options)) = [])
    (hport : IsLast (ascii "--port") (items (command :: options))) :
    main (prog :: (texts (ps.map .pair) ++ command :: options)) =
      (mavlinkSender (ps.foldl Endpoint.set {})).map fun addr =>
        if command ∈ commands then .handle command addr (command :: options) else .usage := by
  have hitems := items_texts_append ps (command :: options)
  have hpairs : pairs (items (texts (ps.map .pair) ++ command :: options)) = ps := by
    rw [hitems, pairs_append, hnone, List.append_nil, pairs_pairs]
  have hlast : IsLast (ascii "--port") (items (texts (ps.map .pair) ++ command :: options)) := by
    rw [hitems]
    exact isLast_pairs_append.mpr hport
  have hlength : (texts (ps.map .pair)).length = 2 * ps.length := by
    rw [length_texts, pairs_pairs, kept_pairs, List.length_nil, Nat.add_zero]
  -- one word is left of the program name and the pairs
  obtain ⟨last, hleft⟩ : ∃ last, (prog :: texts (ps.map .pair)).drop (2 * ps.length) = [last] := by
    apply List.length_eq_one_iff.mp
    rw [List.length_drop, List.length_cons, hlength]
    omega
  have hdrop : (prog :: (texts (ps.map .pair) ++ command :: options)).drop (2 * ps.length) =
      last :: command :: options := by
    rw [← List.cons_append, List.drop_append_of_le_length (by simp [hlength]), hleft,
      List.singleton_append]
  have hparse : parseEndpoint (prog :: (texts (ps.map .pair) ++ command :: options)) = _ :=
    parseEndpoint_eq hlast
  rw [List.tail_cons, hpairs, hdrop] at hparse
  refine main_command ?_ hparse
  simp only [List.length_cons, List.length_append]
  omega

/-- A number is read as it is written. -/
theorem stoi_digitsText {n : ℕ} (hn : n < 2 ^ 31) : stoi (digitsText n) = .ok n := by
  have hdigits : ∀ b ∈ digitsText n, isDigit b = true := fun _ h => isDigit_of_mem h
  simp only [stoi, dropWhile_isSpace_digits hdigits, head?_digits 45 rfl hdigits,
    head?_digits 43 rfl hdigits, Bool.or_self, Bool.false_eq_true, if_false]
  rw [List.takeWhile_eq_self_iff.mpr hdigits, digitsValue_digitsText,
    if_neg (digitsText_ne_nil n), if_neg (by omega)]

/-- `--host`, with an address as `inet_ntoa` writes it. -/
def Pair.host (addr : Vector UInt8 4) : Pair := ⟨ascii "--host", inetNtoa addr, isPair_host _⟩

/-- `--port`, with the number of a port. -/
def Pair.port (port : UInt16) : Pair where
  option := ascii "--port"
  value := digitsText port.toNat
  isPair := isPair_port (stoi_digitsText (Nat.lt_trans port.toNat_lt (by decide)))

/-- **`--host` and `--port` say where messages go.** -/
theorem mavlinkSender_host_port (addr : Vector UInt8 4) (port : UInt16) :
    mavlinkSender ([Pair.host addr, Pair.port port].foldl Endpoint.set {}) =
      .ok ⟨addr, ntohs port⟩ := by
  have hset : [Pair.host addr, Pair.port port].foldl Endpoint.set {} = ⟨inetNtoa addr, port⟩ := by
    have hport := stoi_digitsText (Nat.lt_trans port.toNat_lt (by decide : 2 ^ 16 < 2 ^ 31))
    have hne : ascii "--port" ≠ ascii "--host" := by decide
    simp [Pair.host, Pair.port, Endpoint.set, hport, hne, ofInt_toNat]
  rw [hset, mavlinkSender, inetPton_inetNtoa]

/-- **The tool, used as its usage text says**: the handler of the command gets the command with its
options, and sends to the host and the port. -/
theorem main_usage (prog : Word) (addr : Vector UInt8 4) (port : UInt16) {command : Word}
    {options : List Word} (hcommand : command ∈ commands)
    (hnone : pairs (items (command :: options)) = [])
    (hport : IsLast (ascii "--port") (items (command :: options))) :
    main (prog :: ascii "--host" :: inetNtoa addr :: ascii "--port" :: digitsText port.toNat ::
        command :: options) =
      .ok (.handle command ⟨addr, ntohs port⟩ (command :: options)) := by
  have hmain := main_pairs_command prog [Pair.host addr, Pair.port port] hnone hport
  rw [mavlinkSender_host_port, Except.map, if_pos hcommand] at hmain
  exact hmain

/-- When what is left of `argv` is what is asked for, at a last pair. -/
theorem drop_eq_remaining_iff {prog : Word} {rest : List Word} {before : List Item} {p : Pair}
    {after : List Word} (hport : IsLast (ascii "--port") (items rest))
    (hitems : items rest = before ++ .pair p :: after.map .word) :
    (prog :: rest).drop (2 * (pairs (items rest)).length) = remaining (prog :: rest) ↔
      kept before = [] ∧ p.value = prog ∨ kept before = [p.value] ∧ p.option = prog := by
  have htexts : rest = texts (before ++ .pair p :: after.map .word) := by
    rw [← hitems, texts_items]
  have hpairs : pairs (items rest) = pairs before ++ [p] := by
    rw [hitems, pairs_append, pairs_pair, pairs_words]
  have hkept : kept (items rest) = kept before ++ after := by
    rw [hitems, kept_append, kept_pair, kept_words]
  rw [remaining, hkept, hpairs, List.length_append, List.length_singleton, htexts]
  exact drop_eq_cons_kept_iff after (option_not_mem_kept hport hitems)

/-- **Exactly the pairs are removed** if there are none; otherwise one word of the last pair has to
be the same as the program name, and all other words stand behind this pair, but for one that is
the same as its value. -/
theorem removesPairs_iff (argv : List Word) :
    RemovesPairs argv ↔
      IsLast (ascii "--port") (items argv.tail) ∧
        (pairs (items argv.tail) = [] ∨
          ∃ before p after, items argv.tail = before ++ .pair p :: List.map .word after ∧
            (kept before = [] ∧ argv.head? = some p.value ∧ after ≠ [] ∨
              kept before = [p.value] ∧ argv.head? = some p.option)) := by
  rcases argv with - | ⟨prog, rest⟩
  · simp [RemovesPairs, parseEndpoint_ok_iff, main_short, remaining, items, IsLast, pairs]
  · rw [RemovesPairs, parseEndpoint_ok_iff, Ne, main_cons_eq_logicError_iff, List.tail_cons]
    constructor
    · rintro ⟨⟨hport, hdrop⟩, hcommand⟩
      refine ⟨hport, ?_⟩
      rcases words_or_last_pair (items rest) with hwords | ⟨before, p, after, hitems⟩
      · exact .inl (by rw [hwords, pairs_words])
      · refine .inr ⟨before, p, after, hitems, ?_⟩
        rcases (drop_eq_remaining_iff hport hitems).mp hdrop with ⟨hnil, rfl⟩ | ⟨hone, rfl⟩
        · refine .inl ⟨hnil, rfl, ?_⟩
          rintro rfl
          refine hcommand ⟨hport, ?_, ?_⟩
          · rintro rfl
            simp [items] at hitems
          · rw [hitems, kept_append, hnil]
            rfl
        · exact .inr ⟨hone, rfl⟩
    · rintro ⟨hport, hnone | ⟨before, p, after, hitems, hcases⟩⟩
      · have hkept := kept_items_of_no_pairs hnone
        refine ⟨⟨hport, ?_⟩, fun h => h.2.1 (hkept.symm.trans h.2.2)⟩
        rw [hnone, remaining, hkept]
        rfl
      · have hkept : kept (items rest) = kept before ++ after := by
          rw [hitems, kept_append, kept_pair, kept_words]
        rw [drop_eq_remaining_iff hport hitems, hkept]
        rcases hcases with ⟨hnil, hprog, hafter⟩ | ⟨hone, hprog⟩
        · exact ⟨⟨hport, .inl ⟨hnil, (Option.some.inj hprog).symm⟩⟩, by simp [hafter]⟩
        · exact ⟨⟨hport, .inr ⟨hone, (Option.some.inj hprog).symm⟩⟩, by simp [hone]⟩

/-- An option behind the command is read, but it is the command that is gone; and without a command
there is nothing to read. -/
theorem not_removesPairs :
    remaining [ascii "tool", ascii "scan", ascii "--host", ascii "10.0.0.1"] =
        [ascii "tool", ascii "scan"] ∧
      parseEndpoint [ascii "tool", ascii "scan", ascii "--host", ascii "10.0.0.1"] =
        .ok (⟨ascii "10.0.0.1", 14550⟩, [ascii "--host", ascii "10.0.0.1"]) ∧
      main [ascii "tool", ascii "--host", ascii "10.0.0.1"] = .error .logicError ∧
      ¬ ∀ argv, RemovesPairs argv := by
  have hparse : parseEndpoint [ascii "tool", ascii "scan", ascii "--host", ascii "10.0.0.1"] =
      .ok (⟨ascii "10.0.0.1", 14550⟩, [ascii "--host", ascii "10.0.0.1"]) := by
    rfl
  refine ⟨by rfl, hparse, by rfl, fun h => ?_⟩
  obtain ⟨⟨ep, hremaining⟩, -⟩ := h [ascii "tool", ascii "scan", ascii "--host", ascii "10.0.0.1"]
  rw [hparse] at hremaining
  cases hremaining

end Tool

end QOpenHD
