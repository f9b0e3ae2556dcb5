import Mathlib.Data.Char
import Mathlib.Data.List.Lex
import Mathlib.Data.List.Sort
import Mathlib.Data.Prod.Lex
import SstCam.Lib.Decimal

/-!
# Names in the order of versions

A list of names is sorted by some total order, the highest first, and the first that passes a test is
the highest of those that do (`highest_eq_iff`). An order of versions compares digits that stand
behind the same text by their value (`Numeric`); `natural` is one.
-/

set_option autoImplicit false

/-- A total order of names. -/
structure VersionOrder where
  le : List Char → List Char → Bool
  trans : ∀ {a b c}, le a b = true → le b c = true → le a c = true
  total : ∀ a b, le a b = true ∨ le b a = true
  antisymm : ∀ {a b}, le a b = true → le b a = true → a = b

namespace VersionOrder

variable {o : VersionOrder} {p : List Char → Bool} {names : List (List Char)} {a b name : List Char}

/-- The first name is below the second. -/
def lt (o : VersionOrder) (a b : List Char) : Prop := o.le b a = false

instance (o : VersionOrder) (a b : List Char) : Decidable (o.lt a b) := inferInstanceAs (Decidable (_ = _))

theorem refl (o : VersionOrder) (a : List Char) : o.le a a = true := (o.total a a).elim id id

theorem not_le_iff : ¬ o.le b a = true ↔ o.lt a b := Bool.not_eq_true (o.le b a) ▸ Iff.rfl

theorem le_of_lt (h : o.lt a b) : o.le a b = true := by
  rcases o.total a b with le | ge
  · exact le
  · exact absurd ge (not_le_iff.2 h)

theorem lt_irrefl (a : List Char) : ¬ o.lt a a := fun below => not_le_iff.2 below (o.refl a)

/-! ## The highest name -/

/-- The names, the highest first. -/
def descending (o : VersionOrder) (names : List (List Char)) : List (List Char) :=
  names.insertionSort fun a b => o.le b a

theorem mem_descending : name ∈ o.descending names ↔ name ∈ names := List.mem_insertionSort _

theorem descending_pairwise (o : VersionOrder) (names : List (List Char)) :
    (o.descending names).Pairwise fun a b => o.le b a = true := by
  have total : Std.Total fun a b : List Char => o.le b a = true := ⟨fun a b => o.total b a⟩
  have trans : IsTrans (List Char) fun a b => o.le b a = true := ⟨fun _ _ _ ab bc => o.trans bc ab⟩
  exact List.pairwise_insertionSort _ names

/-- The first of the sorted names that passes. -/
def highest (o : VersionOrder) (p : List Char → Bool) (names : List (List Char)) : Option (List Char) :=
  (o.descending names).find? p

theorem highest_eq_none_iff : o.highest p names = none ↔ ∀ name ∈ names, p name = false := by
  simp only [highest, List.find?_eq_none, mem_descending, Bool.not_eq_true]

theorem mem_of_highest (first : o.highest p names = some name) : name ∈ names ∧ p name = true :=
  ⟨mem_descending.1 (List.mem_of_find?_eq_some first), List.find?_some first⟩

/-- Nothing that passes is above it. -/
theorem le_highest (first : o.highest p names = some name) (mem : a ∈ names) (pass : p a = true) : o.le a name = true := by
  obtain ⟨-, before, after, split, others⟩ := List.find?_eq_some_iff_append.1 first
  have sorted := o.descending_pairwise names
  have place : a ∈ o.descending names := mem_descending.2 mem
  rw [split] at sorted place
  rcases List.mem_append.1 place with early | late
  · exact absurd pass (by simpa using others a early)
  · rcases List.mem_cons.1 late with rfl | later
    · exact o.refl a
    · exact List.rel_of_pairwise_cons (List.pairwise_append.1 sorted).2.1 later

/-- Which of the names that pass is above the others; `none` where none passes. -/
inductive IsHighest (o : VersionOrder) (p : List Char → Bool) (names : List (List Char)) : Option (List Char) → Prop where
  | none (others : ∀ name ∈ names, p name = false) : IsHighest o p names none
  | some (name : List Char) (mem : name ∈ names) (pass : p name = true) (top : ∀ a ∈ names, p a = true → o.le a name = true) :
      IsHighest o p names (some name)

theorem highest_isHighest (o : VersionOrder) (p : List Char → Bool) (names : List (List Char)) :
    o.IsHighest p names (o.highest p names) := by
  cases first : o.highest p names with
  | none => exact .none (highest_eq_none_iff.1 first)
  | some name =>
    obtain ⟨mem, pass⟩ := mem_of_highest first
    exact .some name mem pass fun a mem pass => le_highest first mem pass

theorem IsHighest.unique {found other : Option (List Char)} (h : o.IsHighest p names found) (h' : o.IsHighest p names other) :
    found = other := by
  cases h with
  | none others =>
    cases h' with
    | none => rfl
    | some name mem pass => exact absurd pass (by simp [others name mem])
  | some name mem pass top =>
    cases h' with
    | none others => exact absurd pass (by simp [others name mem])
    | some other mem' pass' top' => rw [o.antisymm (top' name mem pass) (top other mem' pass')]

theorem highest_eq_iff {found : Option (List Char)} : o.highest p names = found ↔ o.IsHighest p names found :=
  ⟨fun same => same ▸ o.highest_isHighest p names, fun h => (o.highest_isHighest p names).unique h⟩

/-- What is kept of the names may be less, if it has all that pass. -/
theorem highest_filter {q : List Char → Bool} (kept : ∀ name, p name = true → q name = true) :
    o.highest p (names.filter q) = o.highest p names := by
  have mem_iff : ∀ name, p name = true → (name ∈ names.filter q ↔ name ∈ names) := fun name pass =>
    List.mem_filter.trans (and_iff_left (kept name pass))
  rw [highest_eq_iff]
  generalize o.highest p names = found, o.highest_isHighest p names = h
  cases h with
  | none others => exact .none fun name mem => others name (List.mem_of_mem_filter mem)
  | some name mem pass top =>
    exact .some name ((mem_iff name pass).2 mem) pass fun a mem pass => top a (List.mem_of_mem_filter mem) pass

theorem isHighest_cons_fails {found : Option (List Char)} (h : o.IsHighest p names found) (fails : p a = false) :
    o.IsHighest p (a :: names) found := by
  cases h with
  | none others => exact .none (List.forall_mem_cons.2 ⟨fails, others⟩)
  | some name mem pass top =>
    exact .some name (List.mem_cons_of_mem _ mem) pass (List.forall_mem_cons.2 ⟨fun holds => absurd holds (by simp [fails]), top⟩)

theorem isHighest_cons_below (h : o.IsHighest p names (some name)) (below : o.le a name = true) :
    o.IsHighest p (a :: names) (some name) := by
  cases h with
  | some _ mem pass top =>
    exact .some name (List.mem_cons_of_mem _ mem) pass (List.forall_mem_cons.2 ⟨fun _ => below, top⟩)

theorem isHighest_cons_above (pass : p a = true) (above : ∀ name ∈ names, p name = true → o.le name a = true) :
    o.IsHighest p (a :: names) (some a) :=
  .some a List.mem_cons_self pass (List.forall_mem_cons.2 ⟨fun _ => o.refl a, above⟩)

/-! ## Versions -/

/-- Behind the same text, digits count by their value. -/
def Numeric (o : VersionOrder) : Prop :=
  ∀ front d e, (∀ c ∈ front.getLast?, ¬ c.isDigit) → Decimal.IsNumeral d → Decimal.IsNumeral e →
    Decimal.value d < Decimal.value e → o.lt (front ++ d) (front ++ e)

/-- Two numbers for a run of digits, of which the second is its value. -/
def runToken : Option Nat → List Nat
  | none => []
  | some n => ['0'.toNat, n]

/-- The name with two numbers for each run of digits and each other character. `run` is the value of
the digits read last. -/
def tokens : List Char → Option Nat → List Nat
  | [], run => runToken run
  | c :: cs, run =>
    if c.isDigit then tokens cs (some (10 * run.getD 0 + Decimal.digit c))
    else runToken run ++ c.toNat :: 0 :: tokens cs none

theorem tokens_digits {digits : List Char} (h : ∀ c ∈ digits, c.isDigit) (n : Nat) :
    tokens digits (some n) = ['0'.toNat, Nat.ofDigitChars 10 digits n] := by
  induction digits generalizing n with
  | nil => rfl
  | cons c cs ih =>
    rw [List.forall_mem_cons] at h
    rw [tokens, if_pos h.1, ih h.2, Nat.ofDigitChars_cons]
    rfl

theorem tokens_numeral {digits : List Char} (h : Decimal.IsNumeral digits) :
    tokens digits none = ['0'.toNat, Decimal.value digits] := by
  obtain ⟨nonempty, isDigit⟩ := h
  cases digits with
  | nil => exact absurd rfl nonempty
  | cons c cs =>
    rw [List.forall_mem_cons] at isDigit
    rw [tokens, if_pos isDigit.1, tokens_digits isDigit.2, Decimal.value, Nat.ofDigitChars_cons]
    rfl

/-- Behind a text that does not end in a digit a numeral stands for itself. -/
theorem tokens_append {front : List Char} (last : ∀ c ∈ front.getLast?, ¬ c.isDigit) (run : Option Nat)
    (ends : front = [] → run = none) : ∃ before, ∀ digits, Decimal.IsNumeral digits →
      tokens (front ++ digits) run = before ++ ['0'.toNat, Decimal.value digits] := by
  induction front generalizing run with
  | nil =>
    obtain rfl := ends rfl
    exact ⟨[], fun digits h => tokens_numeral h⟩
  | cons c cs ih =>
    have rest : ∀ c ∈ cs.getLast?, ¬ c.isDigit := by
      intro d mem
      apply last
      rw [List.getLast?_cons, Option.mem_def.1 mem]
      rfl
    by_cases isDigit : c.isDigit
    · have more : cs ≠ [] := by
        rintro rfl
        exact last c rfl isDigit
      obtain ⟨before, same⟩ := ih rest (some (10 * run.getD 0 + Decimal.digit c)) (fun none => absurd none more)
      refine ⟨before, fun digits h => ?_⟩
      rw [List.cons_append, tokens, if_pos isDigit, same digits h]
    · obtain ⟨before, same⟩ := ih rest none (fun _ => rfl)
      refine ⟨runToken run ++ c.toNat :: 0 :: before, fun digits h => ?_⟩
      rw [List.cons_append, tokens, if_neg isDigit, same digits h]
      simp

/-- Names by their tokens, and names of the same tokens character by character. -/
def rank (name : List Char) : List Nat ×ₗ List Char := toLex (tokens name none, name)

/-- The order of versions. -/
def natural : VersionOrder where
  le a b := decide (rank a ≤ rank b)
  trans ab bc := decide_eq_true ((of_decide_eq_true ab).trans (of_decide_eq_true bc))
  total a b := (le_total (rank a) (rank b)).imp decide_eq_true decide_eq_true
  antisymm ab ba := by
    have same := le_antisymm (of_decide_eq_true ab) (of_decide_eq_true ba)
    exact congrArg (fun r => (ofLex r).2) same

theorem natural_numeric : natural.Numeric := by
  intro front d e last hd he below
  obtain ⟨before, same⟩ := tokens_append last none (fun _ => rfl)
  have tokens_lt : tokens (front ++ d) none < tokens (front ++ e) none := by
    rw [same d hd, same e he]
    exact List.Lex.append_left _ (.cons (.rel below)) _
  have rank_lt : rank (front ++ d) < rank (front ++ e) := Prod.Lex.toLex_lt_toLex.2 (.inl tokens_lt)
  exact decide_eq_false rank_lt.not_ge

example : natural.descending ["v1.9".toList, "v1.10".toList, "v1.10-beta".toList, "v1.10-alpha".toList] =
    ["v1.10-beta".toList, "v1.10-alpha".toList, "v1.10".toList, "v1.9".toList] := by
  decide +kernel

end VersionOrder
