import SstCam.Lib.Runs

/-!
# Ports

A component takes events, and some of them make a call take effect. Its port takes the calls alone, one
after the other. Where each event makes a call take effect as the port does, with the port's answer, or
is none that callers can tell, the component is along every run the port that has taken the calls in
this order (`Refinement.run`).
-/

namespace Runs
set_option autoImplicit false

variable {σ ε π κ β : Type}

/-- The calls that take effect along a run, each with the component's answer. -/
def answers (step : σ → ε → σ) (effect : σ → ε → Option κ) (answered : σ → κ → β) : σ → List ε → List (κ × β)
  | _, [] => []
  | s, e :: es =>
    ((effect s e).toList.map fun c => (c, answered (step s e) c)) ++ answers step effect answered (step s e) es

/-- The calls, each with the port's answer. -/
def portAnswers (apply : π → κ → π) (answer : π → κ → β) : π → List κ → List (κ × β)
  | _, [] => []
  | p, c :: calls => (c, answer p c) :: portAnswers apply answer (apply p c) calls

/-- What one event is for the port, in the states that the invariant has. -/
structure Refinement (step : σ → ε → σ) (effect : σ → ε → Option κ) (answered : σ → κ → β) (apply : π → κ → π)
    (answer : π → κ → β) (port : σ → π) (I : σ → Prop) : Prop where
  keeps : ∀ s e, I s → I (step s e)
  port_step : ∀ s e, I s → port (step s e) = (effect s e).elim (port s) (apply (port s))
  answers_step : ∀ s e, I s → ∀ c, effect s e = some c → answered (step s e) c = answer (port s) c

variable {step : σ → ε → σ} {effect : σ → ε → Option κ} {answered : σ → κ → β} {apply : π → κ → π}
  {answer : π → κ → β} {port : σ → π} {I : σ → Prop}

theorem Refinement.run (r : Refinement step effect answered apply answer port I) {s : σ} (start : I s) (es : List ε) :
    port (es.foldl step s) = ((answers step effect answered s es).map Prod.fst).foldl apply (port s) ∧
      answers step effect answered s es =
        portAnswers apply answer (port s) ((answers step effect answered s es).map Prod.fst) := by
  induction es generalizing s with
  | nil => exact ⟨rfl, rfl⟩
  | cons e es ih =>
    have after := r.port_step s e start
    obtain ⟨same, rest⟩ := ih (r.keeps s e start)
    rw [List.foldl_cons, same, answers]
    cases called : effect s e with
    | none =>
      rw [called, Option.elim_none] at after
      rw [after] at rest ⊢
      exact ⟨rfl, rest⟩
    | some c =>
      rw [called, Option.elim_some] at after
      rw [after] at rest ⊢
      refine ⟨rfl, ?_⟩
      rw [Option.toList_some, List.map_singleton, List.singleton_append, List.map_cons, portAnswers,
        r.answers_step s e start c called, ← rest]

end Runs
