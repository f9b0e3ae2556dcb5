import Mathlib.Data.List.Basic

/-!
# Local updates of a list

An update is `Local` to a region of indexes if it changes the entries there, each by a function of
its own, and no others. Updates of regions that lie apart, one after the other, are one update of
all of them (`Local.foldl`). A fold whose every step stays within bounds is what it is with every
step checked (`foldlM_eq_some`).
-/

namespace LocalUpdates
set_option autoImplicit false

variable {α ι : Type}

/-- The update changes the entries of the region by their functions, and no others. -/
structure Local (f : List α → List α) (region : Nat → Prop) (value : Nat → α → α) : Prop where
  inside : ∀ xs k, region k → (f xs)[k]? = xs[k]?.map (value k)
  outside : ∀ xs k, ¬ region k → (f xs)[k]? = xs[k]?

/-- One entry, changed by a function of what it is. -/
theorem Local.set {i : Nat} {g : α → α} {default : α} :
    Local (fun xs => xs.set i (g (xs.getD i default))) (· = i) (fun _ => g) where
  inside xs k h := by
    subst h
    rw [List.getElem?_set_self', List.getD_eq_getElem?_getD]
    cases xs[k]? <;> rfl
  outside xs k h := List.getElem?_set_ne (Ne.symm h)

theorem Local.length {f : List α → List α} {region : Nat → Prop} {value : Nat → α → α} (h : Local f region value)
    (xs : List α) : (f xs).length = xs.length := by
  have bounds : ∀ k, (f xs).length ≤ k ↔ xs.length ≤ k := by
    intro k
    rw [← List.getElem?_eq_none_iff, ← List.getElem?_eq_none_iff]
    by_cases here : region k
    · rw [h.inside xs k here, Option.map_eq_none_iff]
    · rw [h.outside xs k here]
  exact Nat.le_antisymm ((bounds _).2 (Nat.le_refl _)) ((bounds _).1 (Nat.le_refl _))

/-- The same update, with its region and its functions said otherwise. -/
theorem Local.congr {f : List α → List α} {region region' : Nat → Prop} {value value' : Nat → α → α}
    (h : Local f region value) (regions : ∀ k, region' k ↔ region k) (values : ∀ k, region k → value' k = value k) :
    Local f region' value' where
  inside xs k here := by rw [h.inside xs k ((regions k).1 here), values k ((regions k).1 here)]
  outside xs k away := h.outside xs k fun here => away ((regions k).2 here)

/-- **Updates apart.** Local updates of regions that do not meet come to one local update. -/
theorem Local.foldl {f : ι → List α → List α} {region : ι → Nat → Prop} {value : Nat → α → α} {is : List ι}
    (each : ∀ i ∈ is, Local (f i) (region i) value) (apart : is.Pairwise fun i j => ∀ k, region i k → ¬ region j k) :
    Local (fun xs => is.foldl (fun xs i => f i xs) xs) (fun k => ∃ i ∈ is, region i k) value := by
  induction is with
  | nil => exact ⟨fun xs k ⟨i, hi, _⟩ => absurd hi List.not_mem_nil, fun xs k _ => rfl⟩
  | cons i is ih =>
    rw [List.pairwise_cons] at apart
    have first := each i List.mem_cons_self
    have rest := ih (fun j hj => each j (List.mem_cons_of_mem _ hj)) apart.2
    constructor
    · rintro xs k ⟨j, hj, here⟩
      rw [List.foldl_cons]
      obtain rfl | later := List.mem_cons.1 hj
      · have away : ¬ ∃ l ∈ is, region l k := fun ⟨l, hl, there⟩ => apart.1 l hl k here there
        exact (rest.outside _ k away).trans (first.inside xs k here)
      · have untouched := first.outside xs k fun there => apart.1 j later k there here
        exact (rest.inside _ k ⟨j, later, here⟩).trans (congrArg _ untouched)
    · intro xs k away
      rw [List.foldl_cons]
      have here : ¬ region i k := fun there => away ⟨i, List.mem_cons_self, there⟩
      have later : ¬ ∃ j ∈ is, region j k := fun ⟨j, hj, there⟩ => away ⟨j, List.mem_cons_of_mem _ hj, there⟩
      exact (rest.outside _ k later).trans (first.outside xs k here)

/-- A fold of checked steps, none of which fails from a state that keeps an invariant. -/
theorem foldlM_eq_some {σ : Type} {I : σ → Prop} {f : ι → σ → σ} {checked : ι → σ → Option σ} {is : List ι}
    (each : ∀ i ∈ is, ∀ s, I s → checked i s = some (f i s) ∧ I (f i s)) {s : σ} (start : I s) :
    is.foldlM (fun s i => checked i s) s = some (is.foldl (fun s i => f i s) s) ∧
      I (is.foldl (fun s i => f i s) s) := by
  induction is generalizing s with
  | nil => exact ⟨rfl, start⟩
  | cons i is ih =>
    obtain ⟨passes, kept⟩ := each i List.mem_cons_self s start
    rw [List.foldlM_cons, passes, List.foldl_cons]
    exact ih (fun j hj => each j (List.mem_cons_of_mem _ hj)) kept

end LocalUpdates
