import Mathlib.Data.List.Count
import Mathlib.Data.List.Perm.Basic

/-!
# Reference ledgers

Counted references to shared objects. A `Ledger` keeps how many references to each object are held
and whether one was ever given back that was not held. It is `Balanced` by a list of owners when
the owners' references are exactly the ones held; who takes or gives back a reference moves the
list by one entry.
-/

set_option autoImplicit false

variable {ο : Type} [DecidableEq ο]

structure Ledger (ο : Type) where
  held : ο → Nat := fun _ => 0
  overdrawn : Bool := false

namespace Ledger

def take (o : ο) (l : Ledger ο) : Ledger ο :=
  { l with held := fun x => if x = o then l.held x + 1 else l.held x }

def give (o : ο) (l : Ledger ο) : Ledger ο :=
  if l.held o = 0 then { l with overdrawn := true }
  else { l with held := fun x => if x = o then l.held x - 1 else l.held x }

/-- The references held are the owners', one each, and none was given back twice. -/
structure Balanced (l : Ledger ο) (owners : List ο) : Prop where
  sound : l.overdrawn = false
  counts : ∀ o, l.held o = owners.count o

variable {l : Ledger ο} {o : ο} {owners owners' : List ο}

theorem balanced_new : Balanced ({} : Ledger ο) [] := ⟨rfl, fun _ => rfl⟩

theorem Balanced.perm (h : Balanced l owners) (same : owners'.Perm owners) : Balanced l owners' :=
  ⟨h.sound, fun o => (h.counts o).trans (same.count_eq o).symm⟩

theorem Balanced.take (h : Balanced l owners) : Balanced (l.take o) (o :: owners) := by
  refine ⟨h.sound, fun x => ?_⟩
  have before := h.counts x
  simp only [Ledger.take, List.count_cons, beq_iff_eq]
  grind

theorem Balanced.give (h : Balanced l (o :: owners)) : Balanced (l.give o) owners := by
  have own := h.counts o
  rw [List.count_cons_self] at own
  rw [Ledger.give, if_neg (by omega)]
  refine ⟨h.sound, fun x => ?_⟩
  have before := h.counts x
  simp only [List.count_cons, beq_iff_eq] at before ⊢
  grind

/-- An owned object is alive. -/
theorem Balanced.held_pos (h : Balanced l owners) (own : o ∈ owners) : 0 < l.held o :=
  (h.counts o).symm ▸ List.count_pos_iff.2 own

theorem Balanced.held_eq_zero (h : Balanced l owners) (none : o ∉ owners) : l.held o = 0 :=
  (h.counts o).trans (List.count_eq_zero_of_not_mem none)

end Ledger
