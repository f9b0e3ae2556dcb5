import Mathlib.Data.Finset.Max
import Mathlib.Data.Set.BooleanAlgebra
import Mathlib.Order.CompletePartialOrder
import Mathlib.Order.Interval.Set.Disjoint

/-!
# Tilings by their starts

Intervals given by where each starts: an interval ends at the next higher start, and the last one at
the end of all (`next`). Whatever the order of the starts, and however often one occurs, the intervals
are not empty (`lt_next`), those of different starts are disjoint (`disjoint_of_ne`), and together they
cover everything from the lowest start on (`iUnion_eq`).
-/

namespace Tiling
set_option autoImplicit false

variable {α : Type} [LinearOrder α] {last a b x : α} {starts : List α}

/-- The lowest of the starts above, or the end. -/
def next (last : α) (starts : List α) (a : α) : α :=
  starts.foldl (fun low b => if a < b ∧ b < low then b else low) last

@[simp] theorem next_nil : next last [] a = last := rfl

theorem next_cons : next last (b :: starts) a = next (if a < b ∧ b < last then b else last) starts a := rfl

theorem next_le : next last starts a ≤ last := by
  induction starts generalizing last with
  | nil => exact le_refl _
  | cons b starts ih =>
    rw [next_cons]
    split
    case isTrue lower => exact ih.trans lower.2.le
    case isFalse => exact ih

theorem lt_next (h : a < last) : a < next last starts a := by
  induction starts generalizing last with
  | nil => exact h
  | cons b starts ih =>
    rw [next_cons]
    split
    case isTrue lower => exact ih lower.1
    case isFalse => exact ih h

theorem next_le_of_lt (mem : b ∈ starts) (h : a < b) : next last starts a ≤ b := by
  induction starts generalizing last with
  | nil => cases mem
  | cons c starts ih =>
    rw [next_cons]
    rcases List.mem_cons.1 mem with rfl | mem
    · split
      case isTrue => exact next_le
      case isFalse other => exact next_le.trans (not_lt.1 fun low => other ⟨h, low⟩)
    · exact ih mem

theorem next_mem : next last starts a = last ∨ next last starts a ∈ starts := by
  induction starts generalizing last with
  | nil => exact .inl rfl
  | cons b starts ih =>
    rw [next_cons]
    split
    · rcases @ih b with same | mem
      · rw [same]
        exact .inr List.mem_cons_self
      · exact .inr (List.mem_cons_of_mem _ mem)
    · rcases @ih last with same | mem
      · exact .inl same
      · exact .inr (List.mem_cons_of_mem _ mem)

/-- Where a start is higher the next one is the least that is. -/
theorem next_isLeast (mem : b ∈ starts) (h : a < b) (below : b < last) :
    IsLeast {c | c ∈ starts ∧ a < c} (next last starts a) := by
  constructor
  · refine ⟨?_, lt_next (h.trans below)⟩
    rcases @next_mem _ _ last a starts with same | start
    · exact absurd same ((next_le_of_lt mem h).trans_lt below).ne
    · exact start
  · intro c hc
    exact next_le_of_lt hc.1 hc.2

theorem next_eq_last (h : a < last) (highest : ∀ b ∈ starts, b ≤ a) : next last starts a = last := by
  rcases @next_mem _ _ last a starts with same | start
  · exact same
  · exact absurd (lt_next h) (highest _ start).not_gt

/-- The interval that begins at a start. -/
def tile (last : α) (starts : List α) (a : α) : Set α := Set.Ico a (next last starts a)

theorem tile_subset : tile last starts a ⊆ Set.Ico a last := fun _ h => ⟨h.1, h.2.trans_le next_le⟩

theorem tile_disjoint_of_lt (mem : b ∈ starts) (h : a < b) : Disjoint (tile last starts a) (tile last starts b) := by
  rw [Set.disjoint_left]
  intro x first second
  exact (first.2.trans_le (next_le_of_lt mem h)).not_ge second.1

/-- Intervals of different starts. -/
theorem disjoint_of_ne (ha : a ∈ starts) (hb : b ∈ starts) (ne : a ≠ b) :
    Disjoint (tile last starts a) (tile last starts b) := by
  rcases lt_or_gt_of_ne ne with below | above
  · exact tile_disjoint_of_lt hb below
  · exact (tile_disjoint_of_lt ha above).symm

/-- What lies behind a start lies in the interval of the last start before it. -/
theorem exists_mem_tile (mem : a ∈ starts) (above : a ≤ x) (h : x < last) : ∃ b ∈ starts, x ∈ tile last starts b := by
  obtain ⟨b, hb, highest⟩ := Finset.exists_max_image (starts.filter (· ≤ x)).toFinset id ⟨a, by simp [mem, above]⟩
  simp only [List.mem_toFinset, List.mem_filter, decide_eq_true_eq, id] at hb highest
  refine ⟨b, hb.1, hb.2, ?_⟩
  by_contra passed
  rw [not_lt] at passed
  have beyond : b < next last starts b := lt_next (hb.2.trans_lt h)
  rcases @next_mem _ _ last b starts with same | start
  · exact (passed.trans_lt h).ne same
  · exact (highest _ ⟨start, passed⟩).not_gt beyond

/-- The intervals cover everything from the lowest start to the end. -/
theorem iUnion_eq (mem : a ∈ starts) (lowest : ∀ b ∈ starts, a ≤ b) :
    ⋃ b ∈ starts, tile last starts b = Set.Ico a last := by
  ext x
  simp only [Set.mem_iUnion, exists_prop]
  constructor
  · rintro ⟨b, hb, within⟩
    exact ⟨(lowest b hb).trans within.1, (tile_subset within).2⟩
  · rintro ⟨above, below⟩
    exact exists_mem_tile mem above below

end Tiling
