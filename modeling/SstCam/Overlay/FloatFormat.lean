import Mathlib.Data.Rat.Init
import Mathlib.Algebra.Field.Rat
import SstCam.Lib.Delimited

/-!
# The texts of numbers

What `fmt` makes of a `float` and what a cast to `int` makes of it are not the repository's: they are
the parameter `FloatFormat`, with what the overlay's signature relies on. Whole numbers are written in
decimal, so a text gives its number back (`nat_inj`, `int_inj`).
-/

namespace SstCam
set_option autoImplicit false

open Delimited

/-- The texts of `float` values and their casts. -/
class FloatFormat where
  /-- `fmt`'s `{}` of a value. -/
  text : ℚ → String
  /-- The `static_cast<int>` of a value; where that does not fit an `int` the language leaves it open. -/
  toInt : ℚ → Int
  /-- The text gives the value back. -/
  text_inj : ∀ {p q}, text p = text q → p = q
  /-- It carries none of the separators of a signature. -/
  text_plain : ∀ {q c}, c ∈ (text q).toList → c ≠ ';' ∧ c ≠ ',' ∧ c ≠ '|'
  /-- The fraction is dropped. -/
  toInt_eq : ∀ {q}, -(2 ^ 31) - 1 < q → q < 2 ^ 31 → toInt q = q.num.tdiv q.den

namespace FloatFormat

theorem nat_digits {c : Char} {n : Nat} (h : c ∈ (toString n).toList) : c.isDigit = true := by
  apply Nat.isDigit_of_mem_toDigits (b := 10) (n := n) (by decide) (by decide)
  simpa using h

theorem int_digits {c : Char} {i : Int} (h : c ∈ (toString i).toList) : c.isDigit = true ∨ c = '-' := by
  rw [Int.toString_eq_repr, Int.repr_eq_if] at h
  split at h
  · exact .inl (nat_digits h)
  · rw [String.toList_append, List.mem_append] at h
    obtain sign | digit := h
    · exact .inr (by simpa using sign)
    · exact .inl (nat_digits digit)

theorem nat_inj {m n : Nat} : toString m = toString n ↔ m = n := by
  constructor
  · intro same
    have digits : Nat.toDigits 10 m = Nat.toDigits 10 n := by simpa using congrArg String.toList same
    have value := congrArg (Nat.ofDigitChars 10 · 0) digits
    simpa only [Nat.ofDigitChars_ten_toDigits] using value
  · rintro rfl
    rfl

/-- A negative number starts with a sign, which no other number has. -/
theorem sign_ne {m n : Nat} : "-" ++ toString m ≠ toString n := by
  intro same
  have sign : '-' ∈ (toString n).toList := by
    rw [← same]
    simp
  exact absurd (nat_digits sign) (by decide)

theorem int_inj {i j : Int} : toString i = toString j ↔ i = j := by
  constructor
  · intro same
    rw [Int.toString_eq_repr, Int.toString_eq_repr, Int.repr_eq_if, Int.repr_eq_if] at same
    split at same <;> split at same
    · have abs := nat_inj.1 same
      omega
    · exact absurd same.symm sign_ne
    · exact absurd same sign_ne
    · rw [← String.toList_inj, String.toList_append, String.toList_append, List.append_cancel_left_eq,
        String.toList_inj] at same
      have abs := nat_inj.1 same
      omega
  · rintro rfl
    rfl

/-- A fraction in lowest terms, whole numbers without a denominator. -/
def fractionText (q : ℚ) : String := if q.den = 1 then toString q.num else toString q.num ++ "/" ++ toString q.den

theorem fractionText_inj {p q : ℚ} (same : fractionText p = fractionText q) : p = q := by
  have slash : ∀ i : Int, '/' ∉ (toString i).toList := by
    intro i h
    exact absurd (int_digits h) (by decide)
  have whole : ∀ (i j : Int) (n : Nat), toString i ≠ toString j ++ "/" ++ toString n := by
    intro i j n same
    apply slash i
    rw [same]
    simp
  unfold fractionText at same
  split at same <;> split at same
  case isTrue.isTrue p1 q1 => exact Rat.ext (int_inj.1 same) (p1.trans q1.symm)
  case isTrue.isFalse => exact absurd same (whole _ _ _)
  case isFalse.isTrue => exact absurd same.symm (whole _ _ _)
  case isFalse.isFalse =>
    have fields : (toString p.num).toList ++ '/' :: (toString p.den).toList =
        (toString q.num).toList ++ '/' :: (toString q.den).toList := by
      simpa using congrArg String.toList same
    obtain ⟨num, den⟩ := (field_inj (slash _) (slash _)).1 fields
    exact Rat.ext (int_inj.1 (String.toList_inj.1 num)) (nat_inj.1 (String.toList_inj.1 den))

theorem fractionText_plain {q : ℚ} {c : Char} (h : c ∈ (fractionText q).toList) : c ≠ ';' ∧ c ≠ ',' ∧ c ≠ '|' := by
  have numeral : c.isDigit = true ∨ c = '-' ∨ c = '/' := by
    unfold fractionText at h
    split at h
    · exact (int_digits h).imp_right .inl
    · rw [String.toList_append, String.toList_append, List.mem_append, List.mem_append] at h
      obtain (num | slash) | den := h
      · exact (int_digits num).imp_right .inl
      · exact .inr (.inr (by simpa using slash))
      · exact .inl (nat_digits den)
  refine ⟨?_, ?_, ?_⟩ <;>
    · rintro rfl
      exact absurd numeral (by decide)

/-- Whole numbers as `fmt` writes them, and the least `int` where a cast does not fit, as on x86-64. The
device and the runs on concrete scenes have this format; no result about them looks into a text. -/
instance (priority := low) fractions : FloatFormat where
  text := fractionText
  toInt q := if -(2 ^ 31) - 1 < q ∧ q < 2 ^ 31 then q.num.tdiv q.den else -(2 ^ 31)
  text_inj := fractionText_inj
  text_plain := fractionText_plain
  toInt_eq above below := if_pos ⟨above, below⟩

end FloatFormat

end SstCam
