import Mathlib.Algebra.Group.Nat.Defs
import Mathlib.Data.List.Range

/-!
# Hexadecimal numerals of a fixed width

A number below `16 ^ width`, padded with zeros. Numbers of one width have different numerals, also where
several stand one behind the other.
-/

namespace Hex
set_option autoImplicit false

/-- The last digits of the number, the most significant first. -/
def fixed : Nat → Nat → List Char
  | 0, _ => []
  | width + 1, n => fixed width (n / 16) ++ [(n % 16).digitChar]

@[simp] theorem length_fixed (width n : Nat) : (fixed width n).length = width := by
  induction width generalizing n with
  | zero => rfl
  | succ width ih => rw [fixed, List.length_append, ih, List.length_singleton]

theorem digitChar_inj {m n : Nat} (hm : m < 16) (hn : n < 16) (same : m.digitChar = n.digitChar) : m = n := by
  have all : ∀ i j : Fin 16, i.val.digitChar = j.val.digitChar → i = j := by decide
  exact congrArg Fin.val (all ⟨m, hm⟩ ⟨n, hn⟩ same)

theorem fixed_inj {width m n : Nat} (hm : m < 16 ^ width) (hn : n < 16 ^ width) (same : fixed width m = fixed width n) :
    m = n := by
  induction width generalizing m n with
  | zero =>
    rw [Nat.pow_zero, Nat.lt_one_iff] at hm hn
    rw [hm, hn]
  | succ width ih =>
    obtain ⟨front, last⟩ := List.append_inj same (by simp)
    rw [Nat.pow_succ, Nat.mul_comm] at hm hn
    have high := ih (Nat.div_lt_of_lt_mul hm) (Nat.div_lt_of_lt_mul hn) front
    have low := digitChar_inj (Nat.mod_lt m (by decide)) (Nat.mod_lt n (by decide)) (List.singleton_inj.1 last)
    omega

/-- Numerals of one width, one behind the other. -/
theorem flatMap_fixed_inj {width : Nat} {ms ns : List Nat} (hm : ∀ m ∈ ms, m < 16 ^ width) (hn : ∀ n ∈ ns, n < 16 ^ width)
    (length : ms.length = ns.length) (same : ms.flatMap (fixed width) = ns.flatMap (fixed width)) : ms = ns := by
  induction ms generalizing ns with
  | nil => exact (List.length_eq_zero_iff.1 length.symm).symm
  | cons m ms ih =>
    cases ns with
    | nil => cases length
    | cons n ns =>
      rw [List.forall_mem_cons] at hm hn
      obtain ⟨first, rest⟩ := List.append_inj same (by simp)
      rw [fixed_inj hm.1 hn.1 first, ih hm.2 hn.2 (Nat.succ.inj length) rest]

end Hex
