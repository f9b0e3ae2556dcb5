import Mathlib.Data.List.AList

/-!
# The values of a map, all at once

`mapValues` applies a function to every value of a map and leaves the keys. It commutes with the
operations on single keys, so a map seen through the function is used as the map itself is. What
holds of all values is kept by an operation on one key, if it holds of the value put there
(`forall_lookup_insert`).
-/

namespace AList
set_option autoImplicit false

variable {κ β γ : Type} {f : β → γ} {m : AList fun _ : κ => β} {k : κ} {v : β} {w : γ}

/-- Every value through the function. -/
def mapValues (f : β → γ) (m : AList fun _ : κ => β) : AList fun _ : κ => γ where
  entries := m.entries.map fun e => ⟨e.1, f e.2⟩
  nodupKeys := by
    have keys := m.nodupKeys
    rw [List.NodupKeys, List.keys] at keys ⊢
    rwa [List.map_map]

@[simp] theorem mapValues_empty : mapValues f (∅ : AList fun _ : κ => β) = ∅ := rfl

@[simp] theorem mem_mapValues : k ∈ m.mapValues f ↔ k ∈ m := by
  simp [mapValues, mem_keys, keys, List.keys]

section
variable [DecidableEq κ]

theorem lookup_mapValues_eq_some : (m.mapValues f).lookup k = some w ↔ ∃ v, m.lookup k = some v ∧ f v = w := by
  simp only [← Option.mem_def, mem_lookup_iff]
  simp only [mapValues, List.mem_map, Sigma.mk.injEq, Sigma.exists]
  constructor
  · rintro ⟨k', v, mem, rfl, same⟩
    exact ⟨v, mem, eq_of_heq same⟩
  · rintro ⟨v, mem, rfl⟩
    exact ⟨k, v, mem, rfl, HEq.rfl⟩

theorem mapValues_erase : (m.erase k).mapValues f = (m.mapValues f).erase k := by
  apply ext
  show (m.entries.kerase k).map _ = (m.entries.map _).kerase k
  rw [List.kerase, List.kerase, List.eraseP_map]
  rfl

theorem mapValues_insert : (m.insert k v).mapValues f = (m.mapValues f).insert k (f v) := by
  apply ext
  rw [entries_insert]
  exact congrArg (_ :: ·) (congrArg entries (mapValues_erase (m := m) (k := k)))

/-! ## What holds of every value -/

variable {P : β → Prop}

theorem forall_lookup_insert (all : ∀ k' v', m.lookup k' = some v' → P v') (new : P v) :
    ∀ k' v', (m.insert k v).lookup k' = some v' → P v' := by
  intro k' v' found
  by_cases same : k' = k
  · subst same
    rw [lookup_insert, Option.some.injEq] at found
    exact found ▸ new
  · rw [lookup_insert_ne same] at found
    exact all k' v' found

theorem forall_lookup_erase (all : ∀ k' v', m.lookup k' = some v' → P v') :
    ∀ k' v', (m.erase k).lookup k' = some v' → P v' := by
  intro k' v' found
  by_cases same : k' = k
  · subst same
    rw [lookup_erase] at found
    cases found
  · rw [lookup_erase_ne same] at found
    exact all k' v' found

end

end AList
