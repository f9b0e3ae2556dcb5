import Mathlib.Logic.Function.Basic
import SstCam.Lib.Runs

/-!
# Programs made of atomic calls

A method of a thread-safe object runs under the object's lock, so a thread that uses several
such objects is a sequence of atomic calls with local computation between them. `Prog` is such
a program over one shared state. `exec` runs a program with nobody in between; a `Pool` holds
one program per thread and `Pool.run` interleaves their calls along a schedule.

Three rules reason about programs call by call:
* `Within R`: each call takes any state to an `R`-related one, whatever ran in between. It is
  the frame rule of both readings (`exec_within`).
* `Agrees R`: run by itself from two `R`-related states, the program ends in related states and
  returns the same.
* `Outlined`: a proof outline in the manner of Owicki and Gries. Each thread carries a ghost
  mark that its own calls move; a call may assume the pool's invariant and a guard, and has to
  restore the invariant (`Outline.run_inv`).
-/

namespace Atomic
set_option autoImplicit false

variable {ℓ σ τ α β : Type}

/-- A program over the shared state `σ`: a value, or one atomic call. The call updates the
state; the rest of the program depends on the state the call found. -/
inductive Prog (ℓ σ α : Type) : Type where
  | done (a : α)
  | call (name : ℓ) (upd : σ → σ) (next : σ → Prog ℓ σ α)

namespace Prog

protected def bind : Prog ℓ σ α → (α → Prog ℓ σ β) → Prog ℓ σ β
  | done a, k => k a
  | call n upd next, k => call n upd fun s => (next s).bind k

instance : Monad (Prog ℓ σ) where
  pure := done
  bind := Prog.bind

@[simp] theorem done_bind (a : α) (k : α → Prog ℓ σ β) : (done a : Prog ℓ σ α) >>= k = k a := rfl

@[simp] theorem call_bind (n : ℓ) (upd : σ → σ) (next : σ → Prog ℓ σ α) (k : α → Prog ℓ σ β) :
    call n upd next >>= k = call n upd fun s => next s >>= k := rfl

theorem bind_done (p : Prog ℓ σ α) : p.bind done = p := by
  induction p with
  | done a => rfl
  | call n upd next ih => exact congrArg (call n upd) (funext ih)

theorem bind_bind {γ : Type} (p : Prog ℓ σ α) (f : α → Prog ℓ σ β) (g : β → Prog ℓ σ γ) :
    (p.bind f).bind g = p.bind fun a => (f a).bind g := by
  induction p with
  | done a => rfl
  | call n upd next ih => exact congrArg (call n upd) (funext ih)

instance : LawfulMonad (Prog ℓ σ) :=
  LawfulMonad.mk' (Prog ℓ σ) bind_done (fun _ _ => rfl) bind_bind

/-- One atomic call of `f` that returns its result. -/
def atomically (name : ℓ) (f : σ → σ × α) : Prog ℓ σ α :=
  call name (fun s => (f s).1) fun s => done (f s).2

/-- The program run by itself. -/
def exec : Prog ℓ σ α → σ → σ × α
  | done a, s => (s, a)
  | call _ upd next, s => (next s).exec (upd s)

@[simp] theorem exec_done (a : α) (s : σ) : (done a : Prog ℓ σ α).exec s = (s, a) := rfl

@[simp] theorem exec_pure (a : α) (s : σ) : (pure a : Prog ℓ σ α).exec s = (s, a) := rfl

@[simp] theorem exec_call (n : ℓ) (upd : σ → σ) (next : σ → Prog ℓ σ α) (s : σ) :
    (call n upd next).exec s = (next s).exec (upd s) := rfl

@[simp] theorem exec_atomically (n : ℓ) (f : σ → σ × α) (s : σ) : (atomically n f).exec s = f s := rfl

@[simp] theorem exec_bind (p : Prog ℓ σ α) (k : α → Prog ℓ σ β) (s : σ) :
    (p >>= k).exec s = (k (p.exec s).2).exec (p.exec s).1 := by
  induction p generalizing s with
  | done a => rfl
  | call n upd next ih => exact ih s (upd s)

@[simp] theorem exec_map (f : α → β) (p : Prog ℓ σ α) (s : σ) :
    (f <$> p).exec s = ((p.exec s).1, f (p.exec s).2) := by
  rw [map_eq_pure_bind, exec_bind, exec_pure]

/-- A program over a part of the state, run inside the whole. -/
def zoom (get : σ → τ) (put : τ → σ → σ) : Prog ℓ τ α → Prog ℓ σ α
  | done a => done a
  | call n upd next => call n (fun s => put (upd (get s)) s) fun s => (next (get s)).zoom get put

/-- A program zoomed into a part changes that part as it would by itself. -/
theorem exec_zoom {get : σ → τ} {put : τ → σ → σ} (get_put : ∀ t s, get (put t s) = t)
    (put_put : ∀ t t' s, put t' (put t s) = put t' s) (put_get : ∀ s, put (get s) s = s)
    (p : Prog ℓ τ α) (s : σ) :
    (p.zoom get put).exec s = (put (p.exec (get s)).1 s, (p.exec (get s)).2) := by
  induction p generalizing s with
  | done a => simp [zoom, put_get]
  | call n upd next ih => simp [zoom, ih, get_put, put_put]

theorem zoom_bind (get : σ → τ) (put : τ → σ → σ) (p : Prog ℓ τ α) (k : α → Prog ℓ τ β) :
    (p >>= k).zoom get put = p.zoom get put >>= fun a => (k a).zoom get put := by
  induction p with
  | done a => rfl
  | call n upd next ih => exact congrArg (call n _) (funext fun s => ih (get s))

/-! ### Frames -/

/-- Every call of the program takes a state to an `R`-related one, for its name. -/
def Within (R : ℓ → σ → σ → Prop) : Prog ℓ σ α → Prop
  | done _ => True
  | call n upd next => ∀ s, R n s (upd s) ∧ (next s).Within R

variable {R : ℓ → σ → σ → Prop}

@[simp] theorem within_done (a : α) : (done a : Prog ℓ σ α).Within R := trivial

@[simp] theorem within_pure (a : α) : (pure a : Prog ℓ σ α).Within R := trivial

theorem within_atomically {n : ℓ} {f : σ → σ × α} : (atomically n f).Within R ↔ ∀ s, R n s (f s).1 :=
  forall_congr' fun _ => and_iff_left trivial

theorem Within.bind {p : Prog ℓ σ α} {k : α → Prog ℓ σ β} (hp : p.Within R) (hk : ∀ a, (k a).Within R) :
    (p >>= k).Within R := by
  induction p with
  | done a => exact hk a
  | call n upd next ih => exact fun s => ⟨(hp s).1, ih s (hp s).2⟩

theorem Within.map {p : Prog ℓ σ α} (hp : p.Within R) (f : α → β) : (f <$> p).Within R := by
  rw [map_eq_pure_bind]
  exact hp.bind fun _ => trivial

/-- A frame that every call keeps is kept by the whole program. -/
theorem exec_within {R : σ → σ → Prop} (refl : ∀ s, R s s) (trans : ∀ s t u, R s t → R t u → R s u) {p : Prog ℓ σ α}
    (hp : p.Within fun _ => R) (s : σ) : R s (p.exec s).1 := by
  induction p generalizing s with
  | done a => exact refl s
  | call n upd next ih => exact trans _ _ _ (hp s).1 (ih s (hp s).2 (upd s))

/-- The calls of a program zoomed into a part. -/
theorem Within.zoom {get : σ → τ} {put : τ → σ → σ} {R : ℓ → τ → τ → Prop} {R' : ℓ → σ → σ → Prop} {p : Prog ℓ τ α}
    (hp : p.Within R) (lift : ∀ n s t, R n (get s) t → R' n s (put t s)) : (p.zoom get put).Within R' := by
  induction p with
  | done a => trivial
  | call n upd next ih => exact fun s => ⟨lift _ _ _ (hp (get s)).1, ih (get s) (hp (get s)).2⟩

/-! ### Two runs -/

/-- From related states the program leads to related states, with the same result. -/
def Agrees (R : σ → σ → Prop) (p : Prog ℓ σ α) : Prop :=
  ∀ s t, R s t → R (p.exec s).1 (p.exec t).1 ∧ (p.exec s).2 = (p.exec t).2

section
variable {R : σ → σ → Prop}

@[simp] theorem agrees_pure (a : α) : (pure a : Prog ℓ σ α).Agrees R := fun _ _ h => ⟨h, rfl⟩

theorem Agrees.bind {p : Prog ℓ σ α} {k : α → Prog ℓ σ β} (hp : p.Agrees R) (hk : ∀ a, (k a).Agrees R) :
    (p >>= k).Agrees R := by
  intro s t h
  obtain ⟨related, same⟩ := hp s t h
  rw [exec_bind, exec_bind, same]
  exact hk _ _ _ related

theorem Agrees.map {p : Prog ℓ σ α} (hp : p.Agrees R) (f : α → β) : (f <$> p).Agrees R := by
  rw [map_eq_pure_bind]
  exact hp.bind fun a => agrees_pure (f a)

end

end Prog

/-! ### Interleaving -/

variable {ι : Type} [DecidableEq ι]

/-- Threads over one shared state. -/
structure Pool (ι ℓ σ α : Type) where
  shared : σ
  threads : ι → Prog ℓ σ α

namespace Pool

/-- Thread `i` makes its next call, if it has one. -/
def step (p : Pool ι ℓ σ α) (i : ι) : Pool ι ℓ σ α :=
  match p.threads i with
  | .done _ => p
  | .call _ upd next => ⟨upd p.shared, Function.update p.threads i (next p.shared)⟩

/-- The threads take turns as the schedule says. -/
def run (p : Pool ι ℓ σ α) (schedule : List ι) : Pool ι ℓ σ α :=
  schedule.foldl step p

/-- The thread has returned. -/
def isDone : Prog ℓ σ α → Bool
  | .done _ => true
  | .call .. => false

/-- Every thread has returned. -/
def Returned (p : Pool ι ℓ σ α) : Prop :=
  ∀ i, isDone (p.threads i) = true

end Pool

/-! ### Proof outlines -/

/-- A proof outline for a pool. At a call, between the state before and the state after, `mark`
moves the ghost mark of the calling thread and `note` the ghost they share; `Inv` ties both to the
state. `Guard` is what a schedule is assumed to meet at each call. -/
structure Outline (ι ℓ σ V G : Type) where
  mark : ι → ℓ → σ → σ → V → V
  note : ι → ℓ → σ → σ → V → G → G
  Inv : σ → (ι → V) → G → Prop
  Guard : ι → ℓ → σ → σ → (ι → V) → G → Prop

variable {V G : Type}

/-- A pool together with the ghosts of an outline. -/
structure Marked (ι ℓ σ V G α : Type) where
  pool : Pool ι ℓ σ α
  marks : ι → V
  notes : G

namespace Outline

variable (O : Outline ι ℓ σ V G)

/-- A call of thread `i`, with the ghosts moved along. -/
def step (m : Marked ι ℓ σ V G α) (i : ι) : Marked ι ℓ σ V G α :=
  match m.pool.threads i with
  | .done _ => m
  | .call n upd next =>
    { pool := ⟨upd m.pool.shared, Function.update m.pool.threads i (next m.pool.shared)⟩
      marks := Function.update m.marks i (O.mark i n m.pool.shared (upd m.pool.shared) (m.marks i))
      notes := O.note i n m.pool.shared (upd m.pool.shared) (m.marks i) m.notes }

/-- The guard at the next call of thread `i`; a returned thread makes no call. -/
def Guarded (m : Marked ι ℓ σ V G α) (i : ι) : Prop :=
  match m.pool.threads i with
  | .done _ => True
  | .call n upd _ => O.Guard i n m.pool.shared (upd m.pool.shared) m.marks m.notes

instance [∀ i n s t vs g, Decidable (O.Guard i n s t vs g)] (m : Marked ι ℓ σ V G α) (i : ι) :
    Decidable (O.Guarded m i) := by
  unfold Guarded
  cases m.pool.threads i with
  | done a => exact .isTrue trivial
  | call n upd next => exact inferInstanceAs (Decidable (O.Guard ..))

/-- Program `p` of thread `i`, marked `v`, restores the invariant at each call it makes under
the guard, and returns only with a mark that meets `Post`. -/
def Outlined (i : ι) (Post : V → α → Prop) : V → Prog ℓ σ α → Prop
  | v, .done a => Post v a
  | v, .call n upd next => ∀ s vs g, vs i = v → O.Inv s vs g → O.Guard i n s (upd s) vs g →
      O.Inv (upd s) (Function.update vs i (O.mark i n s (upd s) v)) (O.note i n s (upd s) v g) ∧
        Outlined i Post (O.mark i n s (upd s) v) (next s)

variable {O}

@[simp] theorem outlined_done {i : ι} {Post : V → α → Prop} {v : V} {a : α} :
    O.Outlined i Post v (.done a) ↔ Post v a := Iff.rfl

@[simp] theorem outlined_pure {i : ι} {Post : V → α → Prop} {v : V} {a : α} :
    O.Outlined i Post v (pure a) ↔ Post v a := Iff.rfl

theorem outlined_atomically {i : ι} {Post : V → α → Prop} {v : V} {n : ℓ} {f : σ → σ × α} :
    O.Outlined i Post v (.atomically n f) ↔ ∀ s vs g, vs i = v → O.Inv s vs g → O.Guard i n s (f s).1 vs g →
      O.Inv (f s).1 (Function.update vs i (O.mark i n s (f s).1 v)) (O.note i n s (f s).1 v g) ∧
        Post (O.mark i n s (f s).1 v) (f s).2 := Iff.rfl

theorem Outlined.bind {i : ι} {Mid : V → α → Prop} {Post : V → β → Prop} {v : V} {p : Prog ℓ σ α}
    {k : α → Prog ℓ σ β} (hp : O.Outlined i Mid v p) (hk : ∀ v a, Mid v a → O.Outlined i Post v (k a)) :
    O.Outlined i Post v (p >>= k) := by
  induction p generalizing v with
  | done a => exact hk v a hp
  | call n upd next ih =>
    intro s vs g hv inv guard
    obtain ⟨inv', rest⟩ := hp s vs g hv inv guard
    exact ⟨inv', ih s rest⟩

/-- A program of calls that keep the invariant and the thread's mark. -/
theorem Outlined.of_within {i : ι} {v : V} {R : ℓ → σ → σ → Prop} {p : Prog ℓ σ α} (hp : p.Within R)
    (keep : ∀ n s t vs g, R n s t → vs i = v → O.Inv s vs g → O.Guard i n s t vs g →
      O.mark i n s t v = v ∧ O.Inv t vs (O.note i n s t v g)) :
    O.Outlined i (fun v' _ => v' = v) v p := by
  induction p with
  | done a => exact rfl
  | call n upd next ih =>
    intro s vs g hv inv guard
    obtain ⟨same, inv'⟩ := keep n s (upd s) vs g (hp s).1 hv inv guard
    refine ⟨?_, by rw [same]; exact ih s (hp s).2⟩
    rw [same, ← hv, Function.update_eq_self, hv]
    exact inv'

/-- A program whose result is mapped makes the same calls. -/
theorem Outlined.map {i : ι} {Post : V → β → Prop} {v : V} {p : Prog ℓ σ α} {f : α → β}
    (hp : O.Outlined i (fun v a => Post v (f a)) v p) : O.Outlined i Post v (f <$> p) := by
  rw [map_eq_pure_bind]
  exact hp.bind fun v a post => post

/-- Forgetting the ghosts of a marked step leaves the pool's step. -/
theorem step_pool (m : Marked ι ℓ σ V G α) (i : ι) : (O.step m i).pool = m.pool.step i := by
  unfold step Pool.step
  split <;> simp_all

theorem run_pool (m : Marked ι ℓ σ V G α) (schedule : List ι) :
    (schedule.foldl O.step m).pool = m.pool.run schedule := by
  induction schedule generalizing m with
  | nil => rfl
  | cons i schedule ih => rw [List.foldl_cons, ih, step_pool]; rfl

/-- The invariant holds and each thread's program is outlined from its mark. -/
structure Holds (O : Outline ι ℓ σ V G) (Post : ι → V → α → Prop) (m : Marked ι ℓ σ V G α) : Prop where
  inv : O.Inv m.pool.shared m.marks m.notes
  outlined : ∀ i, O.Outlined i (Post i) (m.marks i) (m.pool.threads i)

theorem Holds.step {Post : ι → V → α → Prop} {m : Marked ι ℓ σ V G α} (h : O.Holds Post m) (i : ι)
    (guard : O.Guarded m i) : O.Holds Post (O.step m i) := by
  have own := h.outlined i
  unfold Outline.step
  unfold Guarded at guard
  cases hp : m.pool.threads i with
  | done a => exact h
  | call n upd next =>
    rw [hp] at own guard
    obtain ⟨inv, rest⟩ := own m.pool.shared m.marks m.notes rfl h.inv guard
    refine ⟨inv, fun j => ?_⟩
    by_cases hj : j = i
    · subst hj
      simpa using rest
    · simpa [Function.update_of_ne hj] using h.outlined j

/-- **The outline rule.** The invariant survives every interleaving whose calls meet the guard. -/
theorem Holds.run {Post : ι → V → α → Prop} {m : Marked ι ℓ σ V G α} (h : O.Holds Post m)
    {schedule : List ι} (guarded : Runs.Along O.step O.Guarded m schedule) :
    O.Holds Post (schedule.foldl O.step m) :=
  Runs.foldl_inv (fun _ i h guard => h.step i guard) h guarded

/-- A returned thread's mark meets its postcondition. -/
theorem Holds.post {Post : ι → V → α → Prop} {m : Marked ι ℓ σ V G α} (h : O.Holds Post m) {i : ι} {a : α}
    (hi : m.pool.threads i = .done a) : Post i (m.marks i) a := by
  have own := h.outlined i
  rw [hi] at own
  exact own

theorem Holds.post_of_returned {Post : ι → V → α → Prop} {m : Marked ι ℓ σ V G α} (h : O.Holds Post m)
    (returned : m.pool.Returned) (i : ι) : ∃ a, Post i (m.marks i) a := by
  have done := returned i
  cases hi : m.pool.threads i with
  | done a => exact ⟨a, h.post hi⟩
  | call => simp [hi, Pool.isDone] at done

/-! The rules above are all that a proof of an outline needs; unfolding would run the program. -/

attribute [irreducible] Outlined

end Outline

end Atomic
