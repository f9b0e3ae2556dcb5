import Mathlib.Data.List.Basic
import Mathlib.Data.List.Infix
import Mathlib.Data.List.Nodup

/-!
# Substitution in one scan, and in passes

`scan` goes over a text once and puts in the value of whichever binding's token stands where it is;
`substitute` is the scan of a plain text. In a text of marked cells (`mark`) every character knows
the position it came from, or that it came from a value, so that a pass over a text others have
rewritten can be asked whose characters it replaced (`replaced`).

One pass for each binding (`passes`) is the one scan for all of them as long as every pass
replaces only what already stood in the original text (`pass_after`). Whether it does shows in the
plain texts: as often as the token stands in the original it must stand in what the bindings before
it make of that (`countP_found`), so that the passes are right exactly where no count grows
(`passes_iff`).
-/

namespace Substitution
set_option autoImplicit false

variable {α β : Type}

/-- A token and what it is to be replaced by. -/
structure Binding (α : Type) where
  token : List α
  value : List α
  token_ne : token ≠ []

/-- Wherever both tokens stand and meet, they are one token in one place. -/
def Apart (t u : List α) : Prop :=
  ∀ s d, d < t.length → t <+: s → u <+: s.drop d → d = 0 ∧ u = t

/-- No two of the tokens are the same, nor do any two of them ever overlap. -/
structure Separate (bs : List (Binding α)) : Prop where
  apart : ∀ b ∈ bs, ∀ c ∈ bs, Apart b.token c.token
  nodup : (bs.map Binding.token).Nodup

theorem Binding.token_pos (b : Binding α) : 0 < b.token.length :=
  List.length_pos_iff.2 b.token_ne

theorem Separate.of_append {bs cs : List (Binding α)} (h : Separate (bs ++ cs)) : Separate bs where
  apart b hb c hc := h.apart b (List.mem_append_left _ hb) c (List.mem_append_left _ hc)
  nodup := by
    have both := h.nodup
    rw [List.map_append] at both
    exact (List.nodup_append.1 both).1

variable [DecidableEq α]

/-- The first of the bindings whose token the text begins with. -/
def hit (bs : List (Binding α)) (text : List α) : Option (Binding α) :=
  bs.find? fun b => b.token.isPrefixOf text

/-- Goes over the cells once, reading each as a character, and writes the value of the binding whose
token stands there. `skip` cells are still to be dropped of the token last replaced. -/
def scan (read : β → α) (write : List α → List β) (bs : List (Binding α)) : Nat → List β → List β
  | _, [] => []
  | skip + 1, _ :: cells => scan read write bs skip cells
  | 0, cell :: cells =>
    match hit bs ((cell :: cells).map read) with
    | some b => write b.value ++ scan read write bs (b.token.length - 1) cells
    | none => cell :: scan read write bs 0 cells

/-- All bindings at once. -/
def substitute (bs : List (Binding α)) (text : List α) : List α :=
  scan id id bs 0 text

/-- How often the token stands in the text, overlaps and all. -/
def occurrences (token text : List α) : Nat :=
  text.tails.countP fun s => token.isPrefixOf s

/-! ## What the text begins with -/

theorem hit_eq_none {bs : List (Binding α)} {text : List α} :
    hit bs text = none ↔ ∀ b ∈ bs, ¬ b.token <+: text := by
  simp [hit, List.isPrefixOf_iff_prefix]

theorem hit_mem {bs : List (Binding α)} {text : List α} {b : Binding α} (h : hit bs text = some b) : b ∈ bs :=
  List.mem_of_find?_eq_some h

theorem hit_stands {bs : List (Binding α)} {text : List α} {b : Binding α} (h : hit bs text = some b) :
    b.token <+: text := by
  have stands : b.token.isPrefixOf text = true := List.find?_some (p := fun b : Binding α => b.token.isPrefixOf text) h
  exact List.isPrefixOf_iff_prefix.1 stands

theorem hit_append {bs cs : List (Binding α)} {text : List α} :
    hit (bs ++ cs) text = (hit bs text).or (hit cs text) :=
  List.find?_append

theorem hit_single {b : Binding α} {text : List α} :
    hit [b] text = if b.token <+: text then some b else none := by
  by_cases h : b.token <+: text
  · have stands : b.token.isPrefixOf text = true := List.isPrefixOf_iff_prefix.2 h
    rw [if_pos h]
    simp only [hit, List.find?_cons, stands]
  · rw [if_neg h, hit_eq_none]
    rintro c hc
    rwa [List.mem_singleton.1 hc]

/-- Of separate bindings at most one stands anywhere, whatever their order. -/
theorem hit_perm {bs cs : List (Binding α)} (h : Separate bs) (order : cs.Perm bs) (text : List α) :
    hit cs text = hit bs text := by
  cases standing : hit bs text with
  | none => exact hit_eq_none.2 fun b hb => hit_eq_none.1 standing b (order.mem_iff.1 hb)
  | some b =>
    cases found : hit cs text with
    | none => exact absurd (hit_stands standing) (hit_eq_none.1 found b (order.mem_iff.2 (hit_mem standing)))
    | some c =>
      have inside := order.mem_iff.1 (hit_mem found)
      have same := (h.apart b (hit_mem standing) c inside text 0 b.token_pos (hit_stands standing)
        (hit_stands found)).2
      exact congrArg some (List.inj_on_of_nodup_map h.nodup inside (hit_mem standing) same)

/-! ## One scan -/

section scan

variable {read : β → α} {write : List α → List β} {bs : List (Binding α)}

theorem scan_skip (skip : Nat) (cells : List β) :
    scan read write bs skip cells = scan read write bs 0 (cells.drop skip) := by
  induction cells generalizing skip with
  | nil => cases skip <;> rfl
  | cons cell cells ih =>
    cases skip with
    | zero => rfl
    | succ skip => exact ih skip

theorem scan_hit_cons {cell : β} {cells : List β} {b : Binding α} (h : hit bs ((cell :: cells).map read) = some b) :
    scan read write bs 0 (cell :: cells) = write b.value ++ scan read write bs (b.token.length - 1) cells := by
  simp only [scan, h]

theorem scan_hit {cells : List β} {b : Binding α} (h : hit bs (cells.map read) = some b) :
    scan read write bs 0 cells = write b.value ++ scan read write bs 0 (cells.drop b.token.length) := by
  cases cells with
  | nil => exact absurd (List.prefix_nil.1 (hit_stands h)) b.token_ne
  | cons cell cells =>
    obtain ⟨n, hn⟩ : ∃ n, b.token.length = n + 1 := ⟨b.token.length - 1, by have := b.token_pos; omega⟩
    rw [scan_hit_cons h, scan_skip, hn, Nat.add_sub_cancel, List.drop_succ_cons]

theorem scan_miss {cell : β} {cells : List β} (h : hit bs ((cell :: cells).map read) = none) :
    scan read write bs 0 (cell :: cells) = cell :: scan read write bs 0 cells := by
  simp only [scan, h]

/-- Cells where no token stands come through. -/
theorem scan_past (n : Nat) {cells : List β} (h : ∀ d < n, hit bs ((cells.drop d).map read) = none) :
    scan read write bs 0 cells = cells.take n ++ scan read write bs 0 (cells.drop n) := by
  induction n generalizing cells with
  | zero => rfl
  | succ n ih =>
    cases cells with
    | nil => rfl
    | cons cell cells =>
      rw [scan_miss (h 0 (Nat.succ_pos n)), ih fun d hd => h (d + 1) (Nat.succ_lt_succ hd)]
      rfl

/-- Read character by character, a scan of cells is the scan of the characters. -/
theorem map_scan (erase : ∀ v, (write v).map read = v) (skip : Nat) (cells : List β) :
    (scan read write bs skip cells).map read = scan id id bs skip (cells.map read) := by
  induction cells generalizing skip with
  | nil => cases skip <;> rfl
  | cons cell cells ih =>
    cases skip with
    | succ skip => exact ih skip
    | zero =>
      cases standing : hit bs ((cell :: cells).map read) with
      | some b =>
        have plain : hit bs ((read cell :: cells.map read).map id) = some b := by rwa [List.map_id]
        rw [scan_hit_cons standing, List.map_append, erase, ih, List.map_cons, scan_hit_cons plain, id_eq]
      | none =>
        have plain : hit bs ((read cell :: cells.map read).map id) = none := by rwa [List.map_id]
        rw [scan_miss standing, List.map_cons, ih, List.map_cons, scan_miss plain]

end scan

/-- At once, the bindings have no order. -/
theorem substitute_perm {bs cs : List (Binding α)} (h : Separate bs) (order : cs.Perm bs) (text : List α) :
    substitute cs text = substitute bs text := by
  have each : hit cs = hit bs := funext (hit_perm h order)
  have scans : ∀ skip text, scan id id cs skip text = scan id id bs skip text := by
    intro skip text
    induction text generalizing skip with
    | nil => cases skip <;> rfl
    | cons c text ih =>
      cases skip with
      | succ skip => exact ih skip
      | zero => simp only [scan, each, ih]
  exact scans 0 text

/-! ## Marked texts -/

/-- The text with each character's position, from `i` on. -/
def mark : Nat → List α → List (α × Option Nat)
  | _, [] => []
  | i, c :: cs => (c, some i) :: mark (i + 1) cs

/-- The value with no positions. -/
def unmarked (value : List α) : List (α × Option Nat) :=
  value.map fun c => (c, none)

def substituteMarked (bs : List (Binding α)) (cells : List (α × Option Nat)) : List (α × Option Nat) :=
  scan Prod.fst unmarked bs 0 cells

/-- One pass for each binding, in the order they stand. -/
def passes (bs : List (Binding α)) (cells : List (α × Option Nat)) : List (α × Option Nat) :=
  bs.foldl (fun cells b => substituteMarked [b] cells) cells

/-- Positions as they stand in an original: one after the other, none missing. -/
def consecutive : List (Option Nat) → Bool
  | some i :: more => some i :: more == (List.range' i (more.length + 1)).map some
  | _ => false

/-- The positions of the characters in each place where the token stands. -/
def found (token : List α) (cells : List (α × Option Nat)) : List (List (Option Nat)) :=
  (cells.tails.filter fun s => token.isPrefixOf (s.map Prod.fst)).map fun s => (s.take token.length).map Prod.snd

/-- The positions of the characters in each place where a pass replaces the token. -/
def replaced (token : List α) : Nat → List (α × Option Nat) → List (List (Option Nat))
  | _, [] => []
  | skip + 1, _ :: cells => replaced token skip cells
  | 0, cell :: cells =>
    if token.isPrefixOf ((cell :: cells).map Prod.fst) then
      ((cell :: cells).take token.length).map Prod.snd :: replaced token (token.length - 1) cells
    else replaced token 0 cells

omit [DecidableEq α] in
@[simp] theorem length_mark (i : Nat) (text : List α) : (mark i text).length = text.length := by
  induction text generalizing i with
  | nil => rfl
  | cons c text ih => simp [mark, ih]

omit [DecidableEq α] in
@[simp] theorem map_fst_mark (i : Nat) (text : List α) : (mark i text).map Prod.fst = text := by
  induction text generalizing i with
  | nil => rfl
  | cons c text ih => simp [mark, ih]

omit [DecidableEq α] in
theorem drop_mark (i n : Nat) (text : List α) : (mark i text).drop n = mark (i + n) (text.drop n) := by
  induction text generalizing i n with
  | nil => simp [mark]
  | cons c text ih =>
    cases n with
    | zero => rfl
    | succ n => rw [mark, List.drop_succ_cons, List.drop_succ_cons, ih, Nat.add_right_comm, Nat.add_assoc]

omit [DecidableEq α] in
theorem getElem?_mark (i k : Nat) (text : List α) : (mark i text)[k]? = text[k]?.map fun c => (c, some (i + k)) := by
  induction text generalizing i k with
  | nil => simp [mark]
  | cons c text ih =>
    cases k with
    | zero => rfl
    | succ k => rw [mark, List.getElem?_cons_succ, List.getElem?_cons_succ, ih, Nat.add_right_comm, Nat.add_assoc]

omit [DecidableEq α] in
@[simp] theorem map_fst_unmarked (value : List α) : (unmarked value).map Prod.fst = value := by
  simp [unmarked, Function.comp_def]

theorem map_fst_substituteMarked (bs : List (Binding α)) (cells : List (α × Option Nat)) :
    (substituteMarked bs cells).map Prod.fst = substitute bs (cells.map Prod.fst) :=
  map_scan map_fst_unmarked 0 cells

theorem substituteMarked_nil (cells : List (α × Option Nat)) : substituteMarked [] cells = cells := by
  rw [substituteMarked, scan_past cells.length fun _ _ => rfl, List.take_length, List.drop_length]
  exact List.append_nil cells

/-- Whatever has a position comes from the text. -/
theorem mem_of_mem_substituteMarked {bs : List (Binding α)} {cells : List (α × Option Nat)} {cell : α × Option Nat}
    (h : cell ∈ substituteMarked bs cells) (marked : cell.2 ≠ none) : cell ∈ cells := by
  suffices ∀ skip, cell ∈ scan Prod.fst unmarked bs skip cells → cell ∈ cells from this 0 h
  clear h
  intro skip h
  induction cells generalizing skip with
  | nil => cases skip <;> exact h
  | cons c cells ih =>
    cases skip with
    | succ skip => exact List.mem_cons_of_mem _ (ih skip h)
    | zero =>
      cases standing : hit bs ((c :: cells).map Prod.fst) with
      | some b =>
        rw [scan_hit_cons standing, List.mem_append] at h
        rcases h with written | later
        · obtain ⟨x, -, rfl⟩ := List.mem_map.1 written
          exact absurd rfl marked
        · exact List.mem_cons_of_mem _ (ih _ later)
      | none =>
        rw [scan_miss standing, List.mem_cons] at h
        rcases h with rfl | later
        · exact List.mem_cons_self
        · exact List.mem_cons_of_mem _ (ih _ later)

/-- A text is gone through either past a token that stands there or past a character where none does. -/
theorem scan_induction {motive : Nat → List α → Prop} (bs : List (Binding α)) (nil : ∀ i, motive i [])
    (hit : ∀ i text b, hit bs text = some b → motive (i + b.token.length) (text.drop b.token.length) → motive i text)
    (miss : ∀ i c text, Substitution.hit bs (c :: text) = none → motive (i + 1) text → motive i (c :: text))
    (i : Nat) (text : List α) : motive i text := by
  induction size : text.length using Nat.strong_induction_on generalizing i text with
  | _ n ih =>
    subst size
    cases text with
    | nil => exact nil i
    | cons c text =>
      cases standing : Substitution.hit bs (c :: text) with
      | none => exact miss i c text standing (ih text.length (Nat.lt_succ_self _) _ _ rfl)
      | some b =>
        refine hit i (c :: text) b standing (ih _ ?_ _ _ rfl)
        have := b.token_pos
        rw [List.length_drop, List.length_cons]
        omega

theorem substituteMarked_hit {bs : List (Binding α)} {i : Nat} {text : List α} {b : Binding α}
    (h : hit bs text = some b) :
    substituteMarked bs (mark i text) =
      unmarked b.value ++ substituteMarked bs (mark (i + b.token.length) (text.drop b.token.length)) := by
  rw [substituteMarked, scan_hit (by rwa [map_fst_mark]), drop_mark]
  rfl

theorem substituteMarked_miss {bs : List (Binding α)} {i : Nat} {c : α} {text : List α}
    (h : hit bs (c :: text) = none) :
    substituteMarked bs (mark i (c :: text)) = (c, some i) :: substituteMarked bs (mark (i + 1) text) := by
  rw [substituteMarked, mark, scan_miss (by rwa [List.map_cons, map_fst_mark])]
  rfl

/-! ## Where a token stands -/

theorem mem_found {token : List α} {cells : List (α × Option Nat)} (d : Nat)
    (h : token <+: (cells.drop d).map Prod.fst) :
    ((cells.drop d).take token.length).map Prod.snd ∈ found token cells := by
  refine List.mem_map.2 ⟨cells.drop d, List.mem_filter.2 ⟨?_, List.isPrefixOf_iff_prefix.2 h⟩, rfl⟩
  exact (List.mem_tails _ _).2 (List.drop_suffix d cells)

theorem found_cons (token : List α) (cell : α × Option Nat) (cells : List (α × Option Nat)) :
    found token (cell :: cells) =
      (if token <+: (cell :: cells).map Prod.fst then [((cell :: cells).take token.length).map Prod.snd] else []) ++
        found token cells := by
  by_cases h : token <+: (cell :: cells).map Prod.fst
  · have stands := List.isPrefixOf_iff_prefix.2 h
    rw [if_pos h]
    simp only [found, List.tails_cons, List.filter_cons]
    rw [if_pos stands]
    rfl
  · have away : ¬ token.isPrefixOf ((cell :: cells).map Prod.fst) = true := by
      rwa [List.isPrefixOf_iff_prefix]
    rw [if_neg h]
    simp only [found, List.tails_cons, List.filter_cons]
    rw [if_neg away]
    rfl

theorem found_nil {token : List α} (h : token ≠ []) : found token ([] : List (α × Option Nat)) = [] := by
  cases token with
  | nil => exact absurd rfl h
  | cons t token => rfl

theorem occurrences_nil {token : List α} (h : token ≠ []) : occurrences token [] = 0 := by
  cases token with
  | nil => exact absurd rfl h
  | cons t token => rfl

theorem occurrences_cons (token : List α) (c : α) (text : List α) :
    occurrences token (c :: text) = occurrences token text + if token <+: c :: text then 1 else 0 := by
  simp only [occurrences, List.tails_cons, List.countP_cons, List.isPrefixOf_iff_prefix]

/-- Where the token does not stand in the first `n` places. -/
theorem occurrences_drop (n : Nat) {token text : List α} (h : ∀ d < n, ¬ token <+: text.drop d) :
    occurrences token text = occurrences token (text.drop n) := by
  induction n generalizing text with
  | zero => rfl
  | succ n ih =>
    cases text with
    | nil => rfl
    | cons c text =>
      have away : ¬ token <+: c :: text := h 0 (Nat.succ_pos n)
      rw [occurrences_cons, if_neg away, ih fun d hd => h (d + 1) (Nat.succ_lt_succ hd)]
      rfl

/-- Where the token does not stand in the first `n` places of marked cells. -/
theorem found_drop (n : Nat) {token : List α} {cells : List (α × Option Nat)}
    (h : ∀ d < n, ¬ token <+: (cells.drop d).map Prod.fst) : found token cells = found token (cells.drop n) := by
  induction n generalizing cells with
  | zero => rfl
  | succ n ih =>
    cases cells with
    | nil => rfl
    | cons cell cells =>
      have away : ¬ token <+: (cell :: cells).map Prod.fst := h 0 (Nat.succ_pos n)
      rw [found_cons, if_neg away, ih fun d hd => h (d + 1) (Nat.succ_lt_succ hd)]
      rfl

theorem found_append {token : List α} {o : List (Option Nat)} (value cells : List (α × Option Nat))
    (h : o ∈ found token cells) : o ∈ found token (value ++ cells) := by
  induction value with
  | nil => exact h
  | cons v value ih =>
    rw [List.cons_append, found_cons]
    exact List.mem_append_right _ ih

theorem length_found {token : List α} (ne : token ≠ []) (cells : List (α × Option Nat)) :
    (found token cells).length = occurrences token (cells.map Prod.fst) := by
  induction cells with
  | nil =>
    rw [found_nil ne, List.map_nil, occurrences_nil ne, List.length_nil]
  | cons cell cells ih =>
    rw [found_cons, List.length_append, ih, List.map_cons, occurrences_cons, Nat.add_comm]
    split <;> rfl

/-- A token that never overlaps itself is replaced wherever it stands. -/
theorem replaced_eq_found {token : List α} (ne : token ≠ []) (apart : Apart token token) (skip : Nat)
    (cells : List (α × Option Nat)) : replaced token skip cells = found token (cells.drop skip) := by
  induction cells generalizing skip with
  | nil =>
    rw [List.drop_nil, found_nil ne]
    cases skip <;> rfl
  | cons cell cells ih =>
    cases skip with
    | succ skip => exact ih skip
    | zero =>
      rw [List.drop_zero, found_cons, replaced]
      by_cases h : token <+: (cell :: cells).map Prod.fst
      · have within : ∀ d < token.length - 1, ¬ token <+: (cells.drop d).map Prod.fst := by
          intro d hd again
          have here := apart _ (d + 1) (by omega) h (by simpa [List.map_drop] using again)
          exact absurd here.1 (Nat.succ_ne_zero d)
        rw [if_pos h, if_pos (List.isPrefixOf_iff_prefix.2 h), ih, ← found_drop _ within]
        rfl
      · rw [if_neg h, if_neg fun hp => h (List.isPrefixOf_iff_prefix.1 hp), ih]
        rfl

theorem consecutive_iff {i : Nat} {more : List (Option Nat)} :
    consecutive (some i :: more) = true ↔ some i :: more = (List.range' i (more.length + 1)).map some := by
  rw [consecutive, beq_iff_eq]

omit [DecidableEq α] in
theorem positions_mark {n i : Nat} {text : List α} (len : n ≤ text.length) :
    ((mark i text).take n).map Prod.snd = (List.range' i n).map some := by
  induction n generalizing i text with
  | zero => rfl
  | succ n ih =>
    cases text with
    | nil => exact absurd len (Nat.not_succ_le_zero n)
    | cons c text =>
      rw [mark, List.take_succ_cons, List.map_cons, ih (Nat.le_of_succ_le_succ len), List.range'_succ, List.map_cons]

omit [DecidableEq α] in
theorem consecutive_mark {n i : Nat} {text : List α} (pos : 0 < n) (len : n ≤ text.length) :
    consecutive (((mark i text).take n).map Prod.snd) = true := by
  obtain ⟨m, rfl⟩ : ∃ m, n = m + 1 := ⟨n - 1, by omega⟩
  rw [positions_mark len, List.range'_succ, List.map_cons, consecutive_iff, List.length_map, List.length_range',
    List.range'_succ, List.map_cons]

omit [DecidableEq α] in
/-- Nothing that begins in a value is an original occurrence. -/
theorem consecutive_unmarked {n d : Nat} {value : List α} {cells : List (α × Option Nat)} (h : d < value.length) :
    consecutive ((((unmarked value ++ cells).drop d).take n).map Prod.snd) = false := by
  have inside : d < (unmarked value).length := by rwa [unmarked, List.length_map]
  rw [List.drop_append_of_le_length (Nat.le_of_lt inside), List.drop_eq_getElem_cons inside]
  cases n with
  | zero => rfl
  | succ n => simp [unmarked, consecutive]

/-- A value adds no original occurrence. -/
theorem countP_found_unmarked {token : List α} (value : List α) (cells : List (α × Option Nat)) :
    (found token (unmarked value ++ cells)).countP consecutive = (found token cells).countP consecutive := by
  induction value with
  | nil => rfl
  | cons v value ih =>
    have first : consecutive ((((unmarked (v :: value) ++ cells).drop 0).take token.length).map Prod.snd) = false :=
      consecutive_unmarked (Nat.succ_pos value.length)
    have cons : unmarked (v :: value) ++ cells = (v, none) :: (unmarked value ++ cells) := rfl
    rw [List.drop_zero, cons] at first
    rw [cons, found_cons, List.countP_append, ih]
    split
    · rw [List.countP_singleton, if_neg (by rw [first]; exact Bool.false_ne_true), Nat.zero_add]
    · rw [List.countP_nil, Nat.zero_add]

/-- Where all places are original, none begins in a value. -/
theorem not_stands_unmarked {token value : List α} {cells : List (α × Option Nat)}
    (original : ∀ o ∈ found token (unmarked value ++ cells), consecutive o = true) {d : Nat} (hd : d < value.length) :
    ¬ token <+: ((unmarked value ++ cells).drop d).map Prod.fst := by
  intro stands
  have wrong := original _ (mem_found d stands)
  rw [consecutive_unmarked hd] at wrong
  exact Bool.false_ne_true wrong

omit [DecidableEq α] in
theorem mem_mark {i k : Nat} {text : List α} {c : α} (h : (c, some (i + k)) ∈ mark i text) : text[k]? = some c := by
  obtain ⟨j, here⟩ := List.mem_iff_getElem?.1 h
  rw [getElem?_mark, Option.map_eq_some_iff] at here
  obtain ⟨x, at_j, same⟩ := here
  simp only [Prod.mk.injEq, Option.some.injEq] at same
  obtain ⟨rfl, place⟩ := same
  rwa [← Nat.add_left_cancel place]

omit [DecidableEq α] in
/-- An occurrence whose characters all come from the text, one after the other, stands in the text. -/
theorem prefix_of_consecutive {i : Nat} {text token : List α} {c : α} {cells : List (α × Option Nat)}
    (from_text : ∀ cell ∈ (c, some i) :: cells, cell.2 ≠ none → cell ∈ mark i text)
    (stands : token <+: ((c, some i) :: cells).map Prod.fst)
    (original : consecutive ((((c, some i) :: cells).take token.length).map Prod.snd) = true) : token <+: text := by
  have positions : (((c, some i) :: cells).take token.length).map Prod.snd =
      (List.range' i token.length).map some := by
    have room := stands.length_le
    cases token with
    | nil => rfl
    | cons t token =>
      rw [List.length_cons, List.take_succ_cons, List.map_cons, consecutive_iff] at original
      rw [List.length_cons, List.take_succ_cons, List.map_cons, original]
      rw [List.length_map, List.length_cons, List.length_cons] at room
      rw [List.length_map, List.length_take, Nat.min_eq_left (Nat.le_of_succ_le_succ room)]
  rw [List.prefix_iff_getElem?] at stands ⊢
  intro k hk
  have char := stands k hk
  rw [List.getElem?_map, Option.map_eq_some_iff] at char
  obtain ⟨cell, at_k, reads⟩ := char
  have place : cell.2 = some (i + k) := by
    have same := congrArg (fun tags => tags[k]?) positions
    simp only [List.getElem?_map, List.getElem?_take_of_lt hk, at_k, Option.map_some, List.getElem?_range' hk,
      Nat.one_mul] at same
    exact Option.some.inj same
  have inside := from_text cell (List.mem_of_getElem? at_k) (by rw [place]; exact Option.some_ne_none _)
  rw [← reads]
  refine mem_mark (i := i) ?_
  rwa [← place]

/-! ## The passes -/

section passes

variable {done : List (Binding α)} {b : Binding α} {i : Nat} {text : List α}

omit [DecidableEq α] in
theorem Separate.last (h : Separate (done ++ [b])) : Apart b.token b.token :=
  h.apart b (List.mem_append_right _ List.mem_cons_self) b (List.mem_append_right _ List.mem_cons_self)

omit [DecidableEq α] in
theorem Separate.ne_last (h : Separate (done ++ [b])) {c : Binding α} (hc : c ∈ done) : c.token ≠ b.token := by
  have distinct := h.nodup
  rw [List.map_append, List.nodup_append] at distinct
  exact distinct.2.2 c.token (List.mem_map_of_mem hc) b.token List.mem_cons_self

/-- Where the new token stands, no other begins. -/
theorem Separate.alone (h : Separate (done ++ [b])) (stands : b.token <+: text) (d : Nat) (hd : d < b.token.length) :
    hit done (text.drop d) = none := by
  refine hit_eq_none.2 ?_
  intro c hc other
  have same := h.apart b (List.mem_append_right _ List.mem_cons_self) c (List.mem_append_left _ hc) text d hd stands other
  exact h.ne_last hc same.2

/-- Where another token stands, the new one does not begin. -/
theorem Separate.away (h : Separate (done ++ [b])) {c : Binding α} (standing : hit done text = some c) (d : Nat)
    (hd : d < c.token.length) : ¬ b.token <+: text.drop d := by
  intro new
  have hc := hit_mem standing
  have same := h.apart c (List.mem_append_left _ hc) b (List.mem_append_right _ List.mem_cons_self) text d hd
    (hit_stands standing) new
  exact h.ne_last hc same.2.symm

omit [DecidableEq α] in
theorem length_take_mark {token : List α} (stands : token <+: text) :
    ((mark i text).take token.length).length = token.length := by
  rw [List.length_take, length_mark, Nat.min_eq_left stands.length_le]

/-- The new token in the text comes through the bindings before it. -/
theorem substituteMarked_own (h : Separate (done ++ [b])) (stands : b.token <+: text) :
    substituteMarked done (mark i text) = (mark i text).take b.token.length ++
      substituteMarked done (mark (i + b.token.length) (text.drop b.token.length)) := by
  rw [substituteMarked, scan_past b.token.length, drop_mark]
  · rfl
  · intro d hd
    rw [List.map_drop, map_fst_mark]
    exact h.alone stands d hd

theorem own_stands (h : Separate (done ++ [b])) (stands : b.token <+: text) :
    b.token <+: (substituteMarked done (mark i text)).map Prod.fst := by
  rw [substituteMarked_own h stands, List.map_append, List.map_take, map_fst_mark, ← List.prefix_iff_eq_take.1 stands]
  exact List.prefix_append _ _

/-- Where none of the bindings before it stands, the new token stands in the original exactly if it
does in what they make of it, with the original's characters. -/
theorem stands_iff (h : Separate (done ++ [b])) {c : α} (none : hit done (c :: text) = none) :
    (b.token <+: (substituteMarked done (mark i (c :: text))).map Prod.fst ∧
      consecutive (((substituteMarked done (mark i (c :: text))).take b.token.length).map Prod.snd) = true) ↔
      b.token <+: c :: text := by
  constructor
  · rintro ⟨stands, original⟩
    have from_text : ∀ cell ∈ substituteMarked done (mark i (c :: text)), cell.2 ≠ Option.none →
        cell ∈ mark i (c :: text) := by
      intro cell hc marked
      exact mem_of_mem_substituteMarked hc marked
    rw [substituteMarked_miss none] at stands original from_text
    exact prefix_of_consecutive from_text stands original
  · intro stands
    refine ⟨own_stands h stands, ?_⟩
    rw [substituteMarked_own h stands, List.take_left' (length_take_mark stands)]
    exact consecutive_mark b.token_pos stands.length_le

/-- Of the places where the new token stands in what the bindings before it make of the text, as many are
original as there are places in the text. -/
theorem countP_found (h : Separate (done ++ [b])) (i : Nat) (text : List α) :
    (found b.token (substituteMarked done (mark i text))).countP consecutive = occurrences b.token text := by
  induction i, text using scan_induction done with
  | nil i =>
    have empty : found b.token (substituteMarked done (mark i ([] : List α))) = [] := found_nil b.token_ne
    rw [empty, List.countP_nil, occurrences_nil b.token_ne]
  | hit i text c standing ih =>
    rw [substituteMarked_hit standing, occurrences_drop _ (h.away standing), ← ih]
    exact countP_found_unmarked c.value _
  | miss i c text none ih =>
    have head := stands_iff (i := i) h none
    rw [substituteMarked_miss none] at head ⊢
    rw [occurrences_cons, ← ih, found_cons, List.countP_append, Nat.add_comm]
    congr 1
    by_cases there : b.token <+: ((c, some i) :: substituteMarked done (mark (i + 1) text)).map Prod.fst
    · rw [if_pos there, List.countP_singleton]
      exact if_congr (by rw [← head]; exact ⟨fun original => ⟨there, original⟩, And.right⟩) rfl rfl
    · rw [if_neg there, if_neg fun stands => there (head.2 stands).1, List.countP_nil]

/-- **One more pass.** If each place the pass replaces is original, it comes to the scan with the new
binding among the others. -/
theorem pass_after (h : Separate (done ++ [b])) (i : Nat) (text : List α)
    (original : ∀ o ∈ found b.token (substituteMarked done (mark i text)), consecutive o = true) :
    substituteMarked [b] (substituteMarked done (mark i text)) = substituteMarked (done ++ [b]) (mark i text) := by
  induction i, text using scan_induction (done ++ [b]) with
  | nil i => rfl
  | hit i text c standing ih =>
    rw [substituteMarked_hit standing]
    rw [hit_append] at standing
    cases before : hit done text with
    | some c' =>
      rw [before, Option.some_or, Option.some.injEq] at standing
      subst standing
      rw [substituteMarked_hit before] at original ⊢
      -- the pass finds nothing that begins in the value put in
      have past : ∀ d < (unmarked c'.value).length, hit [b] (((unmarked c'.value ++ substituteMarked done
          (mark (i + c'.token.length) (text.drop c'.token.length))).drop d).map Prod.fst) = none := by
        intro d hd
        rw [unmarked, List.length_map] at hd
        rw [hit_single, if_neg (not_stands_unmarked original hd)]
      rw [← ih fun o ho => original o (found_append _ _ ho), substituteMarked, scan_past _ past, List.take_left,
        List.drop_left]
      rfl
    | none =>
      rw [before, Option.none_or] at standing
      obtain rfl := List.mem_singleton.1 (hit_mem standing)
      have stands := hit_stands standing
      have own := substituteMarked_own (i := i) h stands
      have here : hit [c] ((substituteMarked done (mark i text)).map Prod.fst) = some c := by
        rw [hit_single, if_pos (own_stands h stands)]
      rw [own] at original
      rw [← ih fun o ho => original o (found_append _ _ ho), substituteMarked, scan_hit here, own,
        List.drop_left' (length_take_mark stands)]
      rfl
  | miss i c text none ih =>
    rw [substituteMarked_miss none]
    rw [hit_append, Option.or_eq_none_iff] at none
    have head := stands_iff (i := i) h none.1
    rw [substituteMarked_miss none.1] at original head ⊢
    have away : hit [b] (((c, some i) :: substituteMarked done (mark (i + 1) text)).map Prod.fst) = Option.none := by
      rw [hit_single, if_neg]
      intro new
      have stands := head.1 ⟨new, original _ (mem_found 0 new)⟩
      exact hit_eq_none.1 none.2 b List.mem_cons_self stands
    rw [← ih fun o ho => original o (found_append [_] _ ho), substituteMarked, scan_miss away]
    rfl

/-- The pass replaces only what is original exactly if the token stands as often as it did. -/
theorem original_iff (h : Separate (done ++ [b])) (i : Nat) (text : List α) :
    (∀ o ∈ replaced b.token 0 (substituteMarked done (mark i text)), consecutive o = true) ↔
      occurrences b.token (substitute done text) = occurrences b.token text := by
  rw [replaced_eq_found b.token_ne h.last, List.drop_zero, ← countP_found h i text]
  have all := length_found b.token_ne (substituteMarked done (mark i text))
  rw [map_fst_substituteMarked, map_fst_mark] at all
  rw [← all, eq_comm, List.countP_eq_length]

end passes

/-- Every pass replaces only places where its token stood in the original text. -/
def OnlyOriginal (bs : List (Binding α)) (text : List α) : Prop :=
  ∀ done b later, bs = done ++ b :: later →
    ∀ o ∈ replaced b.token 0 (passes done (mark 0 text)), consecutive o = true

/-- Put in at once, the values of the bindings before it make no further place for any token. -/
def NoneArises (bs : List (Binding α)) (text : List α) : Prop :=
  ∀ done b later, bs = done ++ b :: later → occurrences b.token (substitute done text) = occurrences b.token text

omit [DecidableEq α] in
theorem forall_split_concat {P : List (Binding α) → Binding α → Prop} {bs : List (Binding α)} {b : Binding α} :
    (∀ done c later, bs ++ [b] = done ++ c :: later → P done c) ↔
      (∀ done c later, bs = done ++ c :: later → P done c) ∧ P bs b := by
  constructor
  · intro h
    refine ⟨?_, h bs b [] rfl⟩
    rintro done c later rfl
    exact h done c (later ++ [b]) (by rw [List.append_assoc, List.cons_append])
  · rintro ⟨before, last⟩ done c later split
    rcases List.eq_nil_or_concat later with rfl | ⟨later, x, rfl⟩
    · obtain ⟨rfl, same⟩ := List.append_inj' split rfl
      rwa [← List.head_eq_of_cons_eq same]
    · rw [List.concat_eq_append, ← List.cons_append, ← List.append_assoc] at split
      exact before done c later (List.append_inj' split rfl).1

theorem passes_concat (bs : List (Binding α)) (b : Binding α) (cells : List (α × Option Nat)) :
    passes (bs ++ [b]) cells = substituteMarked [b] (passes bs cells) := by
  rw [passes, List.foldl_append]
  rfl

/-- The characters the passes leave are those of the passes of the plain text. -/
theorem map_fst_passes (bs : List (Binding α)) (cells : List (α × Option Nat)) :
    (passes bs cells).map Prod.fst = bs.foldl (fun text b => substitute [b] text) (cells.map Prod.fst) := by
  induction bs generalizing cells with
  | nil => rfl
  | cons b bs ih =>
    rw [List.foldl_cons, ← map_fst_substituteMarked]
    exact ih _

theorem passes_onlyOriginal_iff {bs : List (Binding α)} (h : Separate bs) (text : List α) :
    (OnlyOriginal bs text ↔ NoneArises bs text) ∧
      (NoneArises bs text → passes bs (mark 0 text) = substituteMarked bs (mark 0 text)) := by
  induction bs using List.reverseRecOn with
  | nil =>
    have empty : ∀ {done later} {b : Binding α}, [] ≠ done ++ b :: later := by simp
    refine ⟨⟨?_, ?_⟩, fun _ => (substituteMarked_nil _).symm⟩
    · rintro - done b later split
      exact absurd split empty
    · rintro - done b later split
      exact absurd split empty
  | append_singleton bs b ih =>
    obtain ⟨same, together⟩ := ih h.of_append
    have split : OnlyOriginal (bs ++ [b]) text ↔ OnlyOriginal bs text ∧
        ∀ o ∈ replaced b.token 0 (passes bs (mark 0 text)), consecutive o = true := forall_split_concat
    have split' : NoneArises (bs ++ [b]) text ↔ NoneArises bs text ∧
        occurrences b.token (substitute bs text) = occurrences b.token text := forall_split_concat
    have step : NoneArises bs text → ((∀ o ∈ replaced b.token 0 (passes bs (mark 0 text)), consecutive o = true) ↔
        occurrences b.token (substitute bs text) = occurrences b.token text) := by
      intro none
      rw [together none]
      exact original_iff h 0 text
    rw [split, split', same]
    refine ⟨and_congr_right step, ?_⟩
    rintro ⟨none, last⟩
    have original := (original_iff h 0 text).2 last
    rw [replaced_eq_found b.token_ne h.last, List.drop_zero] at original
    rw [passes_concat, together none, pass_after h 0 text original]

/-- **The passes as one scan.** Each pass replaces only what is original, and all come to the bindings put in
at once, exactly if none arises. -/
theorem passes_iff {bs : List (Binding α)} (h : Separate bs) (text : List α) :
    (OnlyOriginal bs text ∧ (passes bs (mark 0 text)).map Prod.fst = substitute bs text) ↔ NoneArises bs text := by
  obtain ⟨same, together⟩ := passes_onlyOriginal_iff h text
  rw [same]
  refine ⟨And.left, fun none => ⟨none, ?_⟩⟩
  rw [together none, map_fst_substituteMarked, map_fst_mark]

end Substitution
