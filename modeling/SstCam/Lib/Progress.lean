import Mathlib.Data.List.Count
import SstCam.Lib.Runs

/-!
# Progress under a fair scheduler

An event is of a kind, one for each thread, or of none. A `Progress` argument names in each state the kind that is
needed and a rank that an event of this kind lowers; an event of another kind lowers the rank too or
leaves it, and what is needed, as it was. Under a scheduler whose every round has an event of each
kind the goal is then reached within as many rounds as the rank says (`Progress.rounds`); where one
kind is needed throughout, within as many events of that kind (`Progress.events`).
-/

namespace Runs
set_option autoImplicit false

variable {σ ε κ : Type} {step : σ → ε → σ} {kind : ε → Option κ} {guard : ε → Prop} {I Goal : σ → Prop}
  {need : σ → κ} {rank : σ → Nat} {s : σ}

/-- The goal is met after some of the events. -/
def Reaches (step : σ → ε → σ) (Goal : σ → Prop) (s : σ) (es : List ε) : Prop :=
  ∃ first, first <+: es ∧ Goal (first.foldl step s)

theorem Reaches.cons {e : ε} {es : List ε} (h : Reaches step Goal (step s e) es) : Reaches step Goal s (e :: es) := by
  obtain ⟨first, within, goal⟩ := h
  exact ⟨e :: first, (List.prefix_cons_inj e).2 within, goal⟩

theorem Reaches.append {es fs : List ε} (h : Reaches step Goal (es.foldl step s) fs) : Reaches step Goal s (es ++ fs) := by
  obtain ⟨first, within, goal⟩ := h
  exact ⟨es ++ first, (List.prefix_append_right_inj es).2 within, by rwa [List.foldl_append]⟩

theorem Reaches.of_prefix {es fs : List ε} (h : Reaches step Goal s es) : Reaches step Goal s (es ++ fs) := by
  obtain ⟨first, within, goal⟩ := h
  exact ⟨first, within.trans (List.prefix_append es fs), goal⟩

/-- The invariant, what it needs next, and how far it is from the goal. -/
structure Progress (step : σ → ε → σ) (kind : ε → Option κ) (guard : ε → Prop) (I Goal : σ → Prop) (need : σ → κ)
    (rank : σ → Nat) : Prop where
  pos : ∀ s, I s → 0 < rank s
  moves : ∀ s e, I s → guard e → Goal (step s e) ∨ I (step s e) ∧
    (rank (step s e) < rank s ∨ rank (step s e) = rank s ∧ need (step s e) = need s ∧ kind e ≠ some (need s))

variable (p : Progress step kind guard I Goal need rank)
include p

/-- Along any events the goal is reached or the rank does not rise. -/
theorem Progress.run (es : List ε) (ok : ∀ e ∈ es, guard e) (inv : I s) :
    Reaches step Goal s es ∨ I (es.foldl step s) ∧ rank (es.foldl step s) ≤ rank s := by
  induction es generalizing s with
  | nil => exact .inr ⟨inv, Nat.le_refl _⟩
  | cons e es ih =>
    rw [List.forall_mem_cons] at ok
    obtain goal | ⟨inv, moved⟩ := p.moves s e inv ok.1
    · exact .inl ⟨[e], by simp, goal⟩
    · exact (ih ok.2 inv).imp Reaches.cons fun ⟨inv, le⟩ => ⟨inv, by rw [List.foldl_cons]; omega⟩

/-- A round with an event of the needed kind reaches the goal or lowers the rank. -/
theorem Progress.round (es : List ε) (ok : ∀ e ∈ es, guard e) (inv : I s) (needed : ∃ e ∈ es, kind e = some (need s)) :
    Reaches step Goal s es ∨ I (es.foldl step s) ∧ rank (es.foldl step s) < rank s := by
  induction es generalizing s with
  | nil => simp at needed
  | cons e es ih =>
    rw [List.forall_mem_cons] at ok
    simp only [List.mem_cons, exists_eq_or_imp] at needed
    obtain goal | ⟨inv, less | ⟨same, still, other⟩⟩ := p.moves s e inv ok.1
    · exact .inl ⟨[e], by simp, goal⟩
    · exact (p.run es ok.2 inv).imp Reaches.cons fun ⟨inv, le⟩ => ⟨inv, Nat.lt_of_le_of_lt le less⟩
    · have rest := ih ok.2 inv (by rw [still]; exact needed.resolve_left other)
      exact rest.imp Reaches.cons fun ⟨inv, less⟩ => ⟨inv, by rw [List.foldl_cons]; omega⟩

/-- **The fair scheduler.** -/
theorem Progress.rounds (rounds : List (List ε)) (ok : ∀ round ∈ rounds, ∀ e ∈ round, guard e)
    (fair : ∀ round ∈ rounds, ∀ k, ∃ e ∈ round, kind e = some k) (inv : I s) (enough : rank s ≤ rounds.length) :
    Reaches step Goal s rounds.flatten := by
  induction rounds generalizing s with
  | nil => exact absurd (Nat.lt_of_lt_of_le (p.pos s inv) enough) (Nat.lt_irrefl _)
  | cons round rounds ih =>
    rw [List.forall_mem_cons] at ok fair
    rw [List.flatten_cons]
    obtain reached | ⟨inv, less⟩ := p.round round ok.1 inv (fair.1 (need s))
    · exact reached.of_prefix
    · exact (ih ok.2 fair.2 inv (by rw [List.length_cons] at enough; omega)).append

/-- **One thread by itself.** -/
theorem Progress.events [DecidableEq κ] {k : κ} (only : ∀ s, need s = k) (es : List ε) (ok : ∀ e ∈ es, guard e) (inv : I s)
    (enough : rank s ≤ es.countP fun e => kind e = some k) : Reaches step Goal s es := by
  induction es generalizing s with
  | nil => exact absurd (Nat.lt_of_lt_of_le (p.pos s inv) enough) (Nat.lt_irrefl _)
  | cons e es ih =>
    rw [List.forall_mem_cons] at ok
    rw [List.countP_cons] at enough
    obtain goal | ⟨inv, moved⟩ := p.moves s e inv ok.1
    · exact ⟨[e], by simp, goal⟩
    · refine (ih ok.2 inv ?_).cons
      by_cases now : kind e = some k
      · have less : rank (step s e) < rank s := by
          obtain less | ⟨-, -, other⟩ := moved
          · exact less
          · exact absurd (by rw [now, only s]) other
        simp [now] at enough
        omega
      · simp [now] at enough
        omega

end Runs
