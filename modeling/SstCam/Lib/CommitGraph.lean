import Mathlib.Data.List.Basic
import Mathlib.Logic.Relation

/-!
# Commits and their ancestors

A history is a list of commits, the newest first. A commit is named by the number of those older than
it, and its parents are older ones. What is reached from some commits is collected in a single pass and
is their ancestors (`mem_reach_iff`); commits that come later change nothing about the older ones
(`reach_append`, `log_append`).
-/

namespace CommitGraph
set_option autoImplicit false

structure Node (α : Type) where
  parents : List Nat
  value : α

variable {α : Type} {node : Node α} {newer older h : List (Node α)} {wanted w excluded tips : List Nat} {i j : Nat}

/-- The second commit is a parent of the first. A name of no older commit is none. -/
inductive Parent : List (Node α) → Nat → Nat → Prop where
  | newest {node : Node α} {older : List (Node α)} {j : Nat} (mem : j ∈ node.parents) (lt : j < older.length) :
      Parent (node :: older) older.length j
  | older {node : Node α} {older : List (Node α)} {i j : Nat} (parent : Parent older i j) : Parent (node :: older) i j

/-- The second commit is the first or reached over parents. -/
def Ancestor (h : List (Node α)) : Nat → Nat → Prop := Relation.ReflTransGen (Parent h)

/-- The commits reached from the wanted ones, the newest first. -/
def reach : List (Node α) → List Nat → List Nat
  | [], _ => []
  | node :: older, wanted =>
    if older.length ∈ wanted then older.length :: reach older (node.parents ++ wanted) else reach older wanted

/-- The commit of a name. -/
def value? (h : List (Node α)) (i : Nat) : Option α := h.reverse[i]?.map Node.value

/-- The commits reached from the tips and not from the excluded ones. -/
def log (h : List (Node α)) (excluded tips : List Nat) : List α :=
  ((reach h tips).filter fun i => i ∉ reach h excluded).filterMap (value? h)

/-! ## Ancestors -/

theorem Parent.lt (parent : Parent h i j) : j < i ∧ i < h.length := by
  induction parent with
  | newest _ lt => exact ⟨lt, Nat.lt_add_one _⟩
  | older _ ih => exact ⟨ih.1, Nat.lt_succ_of_lt ih.2⟩

theorem parent_older (below : i < older.length) : Parent (node :: older) i j ↔ Parent older i j := by
  refine ⟨fun parent => ?_, .older⟩
  cases parent with
  | newest => exact absurd below (Nat.lt_irrefl _)
  | older parent => exact parent

theorem parent_newest : Parent (node :: older) older.length j ↔ j ∈ node.parents ∧ j < older.length := by
  refine ⟨fun parent => ?_, fun ⟨mem, lt⟩ => .newest mem lt⟩
  cases parent with
  | newest mem lt => exact ⟨mem, lt⟩
  | older parent => exact absurd parent.lt.2 (Nat.lt_irrefl _)

/-- An ancestor of an older commit is one among the older commits. -/
theorem ancestor_older (below : i < older.length) : Ancestor (node :: older) i j ↔ Ancestor older i j := by
  constructor
  · intro path
    induction path using Relation.ReflTransGen.head_induction_on with
    | refl => exact .refl
    | head parent _ ih =>
      have inner := (parent_older below).1 parent
      exact .head inner (ih (Nat.lt_trans inner.lt.1 below))
  · intro path
    induction path with
    | refl => exact .refl
    | tail _ parent ih => exact .tail ih (.older parent)

theorem ancestor_newest :
    Ancestor (node :: older) older.length j ↔
      j = older.length ∨ ∃ i ∈ node.parents, i < older.length ∧ Ancestor older i j := by
  constructor
  · intro path
    rcases Relation.ReflTransGen.cases_head path with same | ⟨i, parent, rest⟩
    · exact .inl same.symm
    · obtain ⟨mem, lt⟩ := parent_newest.1 parent
      exact .inr ⟨i, mem, lt, (ancestor_older lt).1 rest⟩
  · rintro (rfl | ⟨i, mem, lt, rest⟩)
    · exact .refl
    · exact .head (.newest mem lt) ((ancestor_older lt).2 rest)

/-! ## What is reached -/

theorem reach_lt (mem : i ∈ reach h w) : i < h.length := by
  induction h generalizing w with
  | nil => cases mem
  | cons node older ih =>
    rw [reach] at mem
    split at mem
    · rcases List.mem_cons.1 mem with rfl | rest
      · exact Nat.lt_add_one _
      · exact Nat.lt_succ_of_lt (ih rest)
    · exact Nat.lt_succ_of_lt (ih mem)

/-- **What is reached are the ancestors.** -/
theorem mem_reach_iff : i ∈ reach h w ↔ ∃ j ∈ w, j < h.length ∧ Ancestor h j i := by
  induction h generalizing w with
  | nil => simp [reach]
  | cons node older ih =>
    have split : (∃ j ∈ w, j < (node :: older).length ∧ Ancestor (node :: older) j i) ↔
        (older.length ∈ w ∧ Ancestor (node :: older) older.length i) ∨
          ∃ j ∈ w, j < older.length ∧ Ancestor older j i := by
      constructor
      · rintro ⟨j, mem, lt, path⟩
        rcases Nat.lt_succ_iff_lt_or_eq.1 lt with below | rfl
        · exact .inr ⟨j, mem, below, (ancestor_older below).1 path⟩
        · exact .inl ⟨mem, path⟩
      · rintro (⟨mem, path⟩ | ⟨j, mem, lt, path⟩)
        · exact ⟨_, mem, Nat.lt_add_one _, path⟩
        · exact ⟨j, mem, Nat.lt_succ_of_lt lt, (ancestor_older lt).2 path⟩
    rw [split, reach]
    by_cases here : older.length ∈ w
    · rw [if_pos here, List.mem_cons, ih, ancestor_newest]
      simp only [List.mem_append, or_and_right, exists_or, here, true_and, or_assoc]
    · rw [if_neg here, ih]
      simp only [here, false_and, false_or]

/-- What is reached from commits that are reached is reached. -/
theorem reach_subset (below : ∀ j ∈ w, j ∈ reach h tips) : reach h w ⊆ reach h tips := by
  intro i mem
  obtain ⟨j, from_w, _, rest⟩ := mem_reach_iff.1 mem
  obtain ⟨tip, mem_tips, lt, first⟩ := mem_reach_iff.1 (below j from_w)
  exact mem_reach_iff.2 ⟨tip, mem_tips, lt, first.trans rest⟩

/-! ## Later commits -/

theorem reach_append (below : ∀ j ∈ w, j < h.length) : reach (newer ++ h) w = reach h w := by
  induction newer with
  | nil => rfl
  | cons node newer ih =>
    have absent : (newer ++ h).length ∉ w := by
      intro mem
      have lt := below _ mem
      rw [List.length_append] at lt
      omega
    rw [List.cons_append, reach, if_neg absent, ih]

theorem value?_append (below : i < h.length) : value? (newer ++ h) i = value? h i := by
  rw [value?, value?, List.reverse_append, List.getElem?_append_left (by simpa using below)]

theorem mem_log {a : α} :
    a ∈ log h excluded tips ↔ ∃ i, (i ∈ reach h tips ∧ i ∉ reach h excluded) ∧ value? h i = some a := by
  simp only [log, List.mem_filterMap, List.mem_filter, decide_eq_true_eq]

theorem log_append (from_old : ∀ j ∈ excluded, j < h.length) (to_old : ∀ j ∈ tips, j < h.length) :
    log (newer ++ h) excluded tips = log h excluded tips := by
  rw [log, log, reach_append from_old, reach_append to_old]
  apply List.filterMap_congr
  intro i mem
  exact value?_append (reach_lt (List.mem_of_mem_filter mem))

theorem log_self : log h tips tips = [] := by
  rw [log, List.filter_eq_nil_iff.2 fun i mem => by simpa using mem, List.filterMap_nil]

/-- A log is in two parts, of what is reached from a commit and what is not. -/
theorem mem_log_split {a : α} (i : Nat) (mem : a ∈ log h excluded tips) : a ∈ log h excluded [i] ∨ a ∈ log h [i] tips := by
  obtain ⟨k, ⟨reached, out⟩, at_k⟩ := mem_log.1 mem
  by_cases early : k ∈ reach h [i]
  · exact .inl (mem_log.2 ⟨k, ⟨early, out⟩, at_k⟩)
  · exact .inr (mem_log.2 ⟨k, ⟨reached, early⟩, at_k⟩)

/-- A log grows with its tips. -/
theorem log_subset (below : ∀ j ∈ w, j ∈ reach h tips) : log h excluded w ⊆ log h excluded tips := by
  intro a mem
  obtain ⟨k, ⟨reached, out⟩, at_k⟩ := mem_log.1 mem
  exact mem_log.2 ⟨k, ⟨reach_subset below reached, out⟩, at_k⟩

end CommitGraph
