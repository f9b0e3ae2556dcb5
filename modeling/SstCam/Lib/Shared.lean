import SstCam.Lib.Ledger
import Mathlib.Algebra.GroupWithZero.Nat
import Mathlib.Data.List.Dedup

/-!
# Shared owners

Owners that are copied, as a counted pointer is. An owner holds resources, and the last of its copies
gives them back. A heap is `Owned` by a list of copies and a list of loose resources when the ledgers hold
exactly these; what a program does to the heap moves the two lists.
-/

set_option autoImplicit false

variable {κ ρ : Type} [DecidableEq κ] [DecidableEq ρ]

structure Shared (κ ρ : Type) where
  copies : Ledger κ := {}
  resources : Ledger ρ := {}
  /-- Something was used that was not held. -/
  dangled : Bool := false

namespace Shared

def take (r : ρ) (s : Shared κ ρ) : Shared κ ρ := { s with resources := s.resources.take r }

def give (r : ρ) (s : Shared κ ρ) : Shared κ ρ := { s with resources := s.resources.give r }

/-- One more copy; the first of an owner makes resources that were loose its own. -/
def copy (k : κ) (s : Shared κ ρ) : Shared κ ρ := { s with copies := s.copies.take k }

/-- One copy less; the last gives back what the owner holds. -/
def drop (owns : κ → List ρ) (k : κ) (s : Shared κ ρ) : Shared κ ρ :=
  if (s.copies.give k).held k = 0 then
    { s with copies := s.copies.give k, resources := (owns k).foldl (fun resources r => resources.give r) s.resources }
  else { s with copies := s.copies.give k }

def use (r : ρ) (s : Shared κ ρ) : Shared κ ρ := if s.resources.held r = 0 then { s with dangled := true } else s

structure Owned (owns : κ → List ρ) (s : Shared κ ρ) (handles : List κ) (loose : List ρ) : Prop where
  copies : s.copies.Balanced handles
  resources : s.resources.Balanced (loose ++ handles.dedup.flatMap owns)
  sound : s.dangled = false

variable {owns : κ → List ρ} {s : Shared κ ρ} {handles handles' : List κ} {loose : List ρ} {k : κ} {r : ρ}

theorem owned_new : Owned owns ({} : Shared κ ρ) [] [] := ⟨Ledger.balanced_new, Ledger.balanced_new, rfl⟩

theorem Owned.perm (h : Owned owns s handles loose) (same : handles'.Perm handles) : Owned owns s handles' loose :=
  ⟨h.copies.perm same, h.resources.perm ((same.dedup.flatMap_right owns).append_left loose), h.sound⟩

theorem Owned.take (h : Owned owns s handles loose) : Owned owns (s.take r) handles (r :: loose) :=
  ⟨h.copies, h.resources.take, h.sound⟩

theorem Owned.give (h : Owned owns s handles (r :: loose)) : Owned owns (s.give r) handles loose :=
  ⟨h.copies, Ledger.Balanced.give h.resources, h.sound⟩

/-- A new owner. -/
theorem Owned.make (h : Owned owns s handles (owns k ++ loose)) (fresh : k ∉ handles) :
    Owned owns (s.copy k) (k :: handles) loose := by
  refine ⟨h.copies.take, h.resources.perm ?_, h.sound⟩
  rw [List.dedup_cons_of_notMem fresh, List.flatMap_cons, List.append_assoc]
  exact List.perm_append_comm_assoc _ _ _

theorem Owned.copy (h : Owned owns s handles loose) (there : k ∈ handles) : Owned owns (s.copy k) (k :: handles) loose := by
  refine ⟨h.copies.take, ?_, h.sound⟩
  rw [List.dedup_cons_of_mem there]
  exact h.resources

theorem balanced_giveAll {l : Ledger ρ} {rs owners : List ρ} (h : l.Balanced (rs ++ owners)) :
    (rs.foldl (fun l r => l.give r) l).Balanced owners := by
  induction rs generalizing l with
  | nil => exact h
  | cons r rs ih => exact ih (Ledger.Balanced.give h)

theorem Owned.drop (h : Owned owns s (k :: handles) loose) : Owned owns (s.drop owns k) handles loose := by
  obtain ⟨copies, resources, sound⟩ := h
  have after := copies.give
  rw [Shared.drop, after.counts k]
  by_cases shared : k ∈ handles
  · rw [List.dedup_cons_of_mem shared] at resources
    rw [if_neg (by rw [List.count_eq_zero]; exact not_not_intro shared)]
    exact ⟨after, resources, sound⟩
  · rw [List.dedup_cons_of_notMem shared, List.flatMap_cons] at resources
    rw [if_pos (List.count_eq_zero.2 shared)]
    exact ⟨after, balanced_giveAll (resources.perm (List.perm_append_comm_assoc _ _ _)), sound⟩

theorem Owned.dropAll (h : Owned owns s (handles' ++ handles) loose) :
    Owned owns (handles'.foldl (fun s k => s.drop owns k) s) handles loose := by
  induction handles' generalizing s with
  | nil => exact h
  | cons k handles' ih => exact ih (Owned.drop h)

/-- What a copy is there for can be used. -/
theorem Owned.use (h : Owned owns s handles loose) (there : k ∈ handles) (own : r ∈ owns k) : s.use r = s := by
  have held := h.resources.held_pos (o := r)
    (List.mem_append_right _ (List.mem_flatMap.2 ⟨k, List.mem_dedup.2 there, own⟩))
  rw [Shared.use, if_neg (by omega)]

/-- How often a resource is held, where each of it is an owner's. -/
theorem Owned.held (h : Owned owns s handles loose) (r : ρ) :
    s.resources.held r = loose.count r + (handles.dedup.map fun k => (owns k).count r).sum := by
  rw [h.resources.counts, List.count_append, List.count_flatMap]
  rfl

end Shared
