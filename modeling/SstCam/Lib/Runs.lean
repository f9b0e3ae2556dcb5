import Mathlib.Logic.Basic

/-!
# Runs of a deterministic system

A system is a step function over events. `Along step P s es` says that `P` holds of every
step of the run of `es` from `s`: of the state the step finds and of the event it takes.
An invariant of the guarded steps then holds at the end of every run whose steps all meet
the guard (`foldl_inv`); and where the guard is exactly what keeps a property at one step,
it is exactly what keeps it along a run (`along_iff`). Two runs of the same events are compared
step by step, through a relation between their states (`foldl_rel`, `outputs_eq`), also where two
systems take them (`outputs_map_eq`).
-/

namespace Runs
set_option autoImplicit false

variable {σ ε : Type} {step : σ → ε → σ} {P Q : σ → ε → Prop} {I : σ → Prop}

/-- `P` holds at each step of the run of the events from the state. -/
def Along (step : σ → ε → σ) (P : σ → ε → Prop) : σ → List ε → Prop
  | _, [] => True
  | s, e :: es => P s e ∧ Along step P (step s e) es

@[simp] theorem along_nil {s : σ} : Along step P s [] := trivial

@[simp] theorem along_cons {s : σ} {e : ε} {es : List ε} :
    Along step P s (e :: es) ↔ P s e ∧ Along step P (step s e) es := Iff.rfl

instance decidableAlong [∀ s e, Decidable (P s e)] :
    (s : σ) → (es : List ε) → Decidable (Along step P s es)
  | _, [] => .isTrue trivial
  | s, e :: es => @instDecidableAnd _ _ _ (decidableAlong (step s e) es)

theorem along_append {s : σ} {es fs : List ε} :
    Along step P s (es ++ fs) ↔ Along step P s es ∧ Along step P (es.foldl step s) fs := by
  induction es generalizing s with
  | nil => simp
  | cons e es ih => simp only [List.cons_append, along_cons, ih, List.foldl_cons, and_assoc]

theorem Along.mono {s : σ} {es : List ε} (h : Along step P s es) (imp : ∀ s e, P s e → Q s e) :
    Along step Q s es := by
  induction es generalizing s with
  | nil => trivial
  | cons e es ih => exact ⟨imp s e h.1, ih h.2⟩

/-- A guard of the events alone. -/
theorem along_of_forall {G : ε → Prop} {s : σ} {es : List ε} (h : ∀ e ∈ es, G e) : Along step (fun _ => G) s es := by
  induction es generalizing s with
  | nil => trivial
  | cons e es ih =>
    rw [List.forall_mem_cons] at h
    exact ⟨h.1, ih h.2⟩

/-- **The invariant rule.** What every guarded step keeps holds after every guarded run. -/
theorem foldl_inv (keep : ∀ s e, I s → P s e → I (step s e)) {s : σ} {es : List ε} (start : I s)
    (guarded : Along step P s es) : I (es.foldl step s) := by
  induction es generalizing s with
  | nil => exact start
  | cons e es ih => exact ih (keep s e start guarded.1) guarded.2

/-- An invariant every step keeps holds after every run. -/
theorem foldl_inv' (keep : ∀ s e, I s → I (step s e)) {s : σ} (es : List ε) (start : I s) :
    I (es.foldl step s) := by
  induction es generalizing s with
  | nil => exact start
  | cons e es ih => exact ih (keep s e start)

/-- What holds of each step out of an invariant state holds along every run. -/
theorem along_of_inv (keep : ∀ s e, I s → I (step s e)) (each : ∀ s e, I s → P s e) {s : σ}
    (start : I s) (es : List ε) : Along step P s es := by
  induction es generalizing s with
  | nil => trivial
  | cons e es ih => exact ⟨each s e start, ih (keep s e start)⟩

/-- What holds of each guarded step out of an invariant state holds along every guarded run. -/
theorem along_of_guarded (keep : ∀ s e, I s → P s e → I (step s e)) (each : ∀ s e, I s → P s e → Q s e) {s : σ}
    {es : List ε} (start : I s) (guarded : Along step P s es) : Along step Q s es := by
  induction es generalizing s with
  | nil => trivial
  | cons e es ih => exact ⟨each s e start guarded.1, ih (keep s e start guarded.1) guarded.2⟩

/-- The exact guard along runs that meet `G`. -/
theorem along_iff_of_guarded {G : σ → ε → Prop} (exact : ∀ s e, I s → G s e → (P s e ↔ Q s e))
    (keep : ∀ s e, I s → G s e → Q s e → I (step s e)) {s : σ} {es : List ε} (start : I s) (guarded : Along step G s es) :
    Along step P s es ↔ Along step Q s es := by
  induction es generalizing s with
  | nil => exact Iff.rfl
  | cons e es ih =>
    rw [along_cons, along_cons, exact s e start guarded.1]
    exact and_congr_right fun h => ih (keep s e start guarded.1 h) guarded.2

/-- **The exact guard.** From the invariant, a step meets `P` exactly when it meets the guard
`Q`, and then keeps the invariant: so a run meets `P` throughout exactly when it is guarded
throughout. -/
theorem along_iff (exact : ∀ s e, I s → (P s e ↔ Q s e)) (keep : ∀ s e, I s → Q s e → I (step s e))
    {s : σ} (start : I s) (es : List ε) : Along step P s es ↔ Along step Q s es :=
  along_iff_of_guarded (G := fun _ _ => True) (fun s e h _ => exact s e h) (fun s e h _ => keep s e h) start
    (along_of_forall (fun _ _ => trivial))

/-! ## Two runs -/

variable {ω : Type} {R : σ → σ → Prop}

/-- Related states lead to related states along the same events. -/
theorem foldl_rel (keep : ∀ s t e, R s t → R (step s e) (step t e)) {s t : σ} (start : R s t) (es : List ε) :
    R (es.foldl step s) (es.foldl step t) := by
  induction es generalizing s t with
  | nil => exact start
  | cons e es ih => exact ih (keep s t e start)

/-- What an observer notes at each step of the run of the events from the state. -/
def outputs (step : σ → ε → σ) (out : σ → ε → ω) : σ → List ε → List ω
  | _, [] => []
  | s, e :: es => out s e :: outputs step out (step s e) es

/-- **The simulation rule.** An observer cannot tell two related states apart if no step can and
each step keeps them related. -/
theorem outputs_eq {out : σ → ε → ω} (keep : ∀ s t e, R s t → R (step s e) (step t e))
    (same : ∀ s t e, R s t → out s e = out t e) {s t : σ} (start : R s t) (es : List ε) :
    outputs step out s es = outputs step out t es := by
  induction es generalizing s t with
  | nil => rfl
  | cons e es ih => exact List.cons_eq_cons.2 ⟨same s t e start, ih (keep s t e start)⟩

/-- Two systems whose states are related, one of them seen through `f`. -/
theorem outputs_map_eq {τ ω' : Type} {step' : τ → ε → τ} {R : σ → τ → Prop} {out : σ → ε → ω} {out' : τ → ε → ω'}
    {f : ω → ω'} (keep : ∀ s t e, R s t → R (step s e) (step' t e)) (same : ∀ s t e, R s t → f (out s e) = out' t e)
    {s : σ} {t : τ} (start : R s t) (es : List ε) : (outputs step out s es).map f = outputs step' out' t es := by
  induction es generalizing s t with
  | nil => rfl
  | cons e es ih => exact List.cons_eq_cons.2 ⟨same s t e start, ih (keep s t e start)⟩

end Runs
