import Mathlib.Data.List.Sort

/-!
# Stable sorts

A stable sort by a key orders a list by the key and leaves elements of one key as they stood. A
list has one stable sort only (`IsStableSort.unique`); it is a permutation of the list
(`IsStableSort.perm`), and the insertion sort computes it.
-/

namespace StableSort
set_option autoImplicit false

variable {α κ : Type} [LinearOrder κ] {key : α → κ} {input output other : List α}

/-- The output stands in the order of the key, and within a key in the order of the input. -/
structure IsStableSort (key : α → κ) (input output : List α) : Prop where
  sorted : output.Pairwise fun a b => key a ≤ key b
  stable : ∀ k, (output.filter fun a => key a = k) = input.filter fun a => key a = k

/-- Nothing is lost, and nothing duplicated. -/
theorem IsStableSort.perm (h : IsStableSort key input output) : output.Perm input := by
  classical
  rw [List.perm_iff_count]
  intro a
  have here := congrArg (List.count a) (h.stable (key a))
  rwa [List.count_filter (by simp), List.count_filter (by simp)] at here

theorem insertionSort_isStableSort (key : α → κ) (input : List α) :
    IsStableSort key input (input.insertionSort fun a b => key a ≤ key b) := by
  have total : Std.Total fun a b : α => key a ≤ key b := ⟨fun a b => le_total (key a) (key b)⟩
  have trans : IsTrans α fun a b => key a ≤ key b := ⟨fun _ _ _ => le_trans⟩
  have perm := List.perm_insertionSort (fun a b => key a ≤ key b) input
  constructor
  · exact List.pairwise_insertionSort _ input
  · intro k
    have same : (input.filter fun a => key a = k).Pairwise fun a b => key a ≤ key b := by
      apply List.pairwise_of_forall_mem_list
      intro a ha b hb
      rw [List.mem_filter, decide_eq_true_eq] at ha hb
      rw [ha.2, hb.2]
    -- the elements of the key stand sorted already, so the sort keeps their order
    have sublist := (List.sublist_insertionSort same List.filter_sublist).filter fun a => key a = k
    rw [List.filter_filter] at sublist
    simp only [Bool.and_self] at sublist
    exact (sublist.eq_of_length (perm.filter _).length_eq.symm).symm

/-- The least key comes first. -/
theorem IsStableSort.head_eq {a b : α} {as bs : List α} (ha : IsStableSort key input (a :: as))
    (hb : IsStableSort key input (b :: bs)) : a = b := by
  have least : ∀ {x : α} {xs : List α}, IsStableSort key input (x :: xs) → ∀ y ∈ input, key x ≤ key y := by
    intro x xs h y hy
    obtain rfl | later := List.mem_cons.1 (h.perm.mem_iff.2 hy)
    · exact le_rfl
    · exact List.rel_of_pairwise_cons h.sorted later
  have same : key a = key b := by
    apply le_antisymm
    · exact least ha b (hb.perm.mem_iff.1 List.mem_cons_self)
    · exact least hb a (ha.perm.mem_iff.1 List.mem_cons_self)
  have first := (ha.stable (key a)).trans (hb.stable (key a)).symm
  simp only [List.filter_cons, same, decide_true, if_true] at first
  exact (List.cons.inj first).1

theorem IsStableSort.unique (h : IsStableSort key input output) (h' : IsStableSort key input other) : output = other := by
  induction output generalizing input other with
  | nil => exact (List.Perm.nil_eq (h.perm.trans h'.perm.symm))
  | cons a as ih =>
    cases other with
    | nil => exact (List.Perm.nil_eq (h'.perm.trans h.perm.symm)).symm
    | cons b bs =>
      obtain rfl := h.head_eq h'
      have rest : IsStableSort key as as := ⟨h.sorted.of_cons, fun _ => rfl⟩
      have rest' : IsStableSort key as bs := by
        refine ⟨h'.sorted.of_cons, fun k => ?_⟩
        have both := (h'.stable k).trans (h.stable k).symm
        rw [List.filter_cons, List.filter_cons] at both
        split at both
        · exact (List.cons.inj both).2
        · exact both
      rw [ih rest rest']

end StableSort
