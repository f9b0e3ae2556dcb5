import Mathlib.Algebra.Group.Nat.Defs
import Mathlib.Data.List.Basic

/-!
# Decimal numerals

The value of a run of decimal digits. A number is written without a zero in front, and of all runs
exactly those are written back from their value (`toDigits_value_iff`). A loop may read a run digit by
digit under a modulus (`mul_add_mod`). A numeral padded with zeros shows one digit for each power of
ten (`leftpad_toDigits`).
-/

namespace Decimal
set_option autoImplicit false

/-- A run of digits, at least one. -/
structure IsNumeral (digits : List Char) : Prop where
  nonempty : digits ≠ []
  isDigit : ∀ c ∈ digits, c.isDigit

instance (digits : List Char) : Decidable (IsNumeral digits) :=
  decidable_of_iff (digits ≠ [] ∧ digits.all Char.isDigit)
    ⟨fun ⟨one, all⟩ => ⟨one, List.all_eq_true.1 all⟩, fun ⟨one, all⟩ => ⟨one, List.all_eq_true.2 all⟩⟩

def digit (c : Char) : Nat := c.toNat - '0'.toNat

/-- The value of the digits, the most significant first. -/
def value (digits : List Char) : Nat := Nat.ofDigitChars 10 digits 0

/-- No zero stands in front of another digit. -/
def NoLeadingZero (digits : List Char) : Prop := digits.head? = some '0' → digits = ['0']

instance (digits : List Char) : Decidable (NoLeadingZero digits) :=
  inferInstanceAs (Decidable (_ → _))

theorem isDigit_iff {c : Char} : c.isDigit ↔ '0' ≤ c ∧ c ≤ '9' :=
  Char.isDigit_iff_toNat

theorem digit_lt {c : Char} (h : c.isDigit) : digit c < 10 := by
  have bounds := Char.isDigit_iff_toNat.1 h
  simp only [Char.reduceToNat] at bounds
  simp only [digit, Char.reduceToNat]
  omega

theorem digit_pos {c : Char} (h : c.isDigit) (ne : c ≠ '0') : 0 < digit c := by
  have bounds := Char.isDigit_iff_toNat.1 h
  have away : c.toNat ≠ '0'.toNat := fun same => ne (Char.toNat_inj.1 same)
  simp only [Char.reduceToNat] at bounds away
  simp only [digit, Char.reduceToNat]
  omega

theorem digitChar_digit {c : Char} (h : c.isDigit) : (digit c).digitChar = c := by
  have bounds := Char.isDigit_iff_toNat.1 h
  simp only [Char.reduceToNat] at bounds
  apply Char.toNat_inj.1
  rw [Nat.toNat_digitChar_of_lt_ten (digit_lt h), digit]
  simp only [Char.reduceToNat]
  omega

theorem toDigits_digit {c : Char} (h : c.isDigit) : Nat.toDigits 10 (digit c) = [c] := by
  rw [Nat.toDigits_of_lt_base (digit_lt h), digitChar_digit h]

@[simp] theorem value_nil : value [] = 0 := rfl

theorem value_toDigits (n : Nat) : value (Nat.toDigits 10 n) = n :=
  Nat.ofDigitChars_ten_toDigits

theorem isNumeral_toDigits (n : Nat) : IsNumeral (Nat.toDigits 10 n) where
  nonempty := Nat.toDigits_ne_nil
  isDigit _ mem := Nat.isDigit_of_mem_toDigits (by decide) (by decide) mem

/-- More digits behind a number that is not 0. -/
theorem toDigits_append {digits : List Char} (h : ∀ c ∈ digits, c.isDigit) {n : Nat} (pos : 0 < n) :
    Nat.toDigits 10 n ++ digits = Nat.toDigits 10 (Nat.ofDigitChars 10 digits n) := by
  induction digits generalizing n with
  | nil => simp
  | cons c cs ih =>
    rw [List.forall_mem_cons] at h
    have one := Nat.toDigits_append_toDigits (b := 10) (by decide) pos (digit_lt h.1)
    rw [toDigits_digit h.1] at one
    have rest := ih h.2 (n := 10 * n + digit c) (by omega)
    rw [Nat.ofDigitChars_cons]
    calc Nat.toDigits 10 n ++ c :: cs = (Nat.toDigits 10 n ++ [c]) ++ cs := by simp
      _ = Nat.toDigits 10 (10 * n + digit c) ++ cs := by rw [one]
      _ = _ := rest

theorem value_lt {digits : List Char} (h : ∀ c ∈ digits, c.isDigit) : value digits < 10 ^ digits.length := by
  induction digits with
  | nil => simp
  | cons c cs ih =>
    rw [List.forall_mem_cons] at h
    have first := digit_lt h.1
    have rest := ih h.2
    have split : value (c :: cs) = 10 ^ cs.length * digit c + value cs := by
      rw [value, Nat.ofDigitChars_cons, Nat.ofDigitChars_eq_ofDigitChars_zero, Nat.mul_zero, Nat.zero_add]
      rfl
    rw [split, List.length_cons, Nat.pow_succ]
    have top : 10 ^ cs.length * digit c ≤ 10 ^ cs.length * 9 := Nat.mul_le_mul_left _ (by omega)
    omega

/-- The runs that are written back from their value. -/
theorem toDigits_value_iff {digits : List Char} (h : IsNumeral digits) :
    Nat.toDigits 10 (value digits) = digits ↔ NoLeadingZero digits := by
  obtain ⟨nonempty, isDigit⟩ := h
  cases digits with
  | nil => exact absurd rfl nonempty
  | cons c cs =>
    rw [List.forall_mem_cons] at isDigit
    have value_cons : value (c :: cs) = Nat.ofDigitChars 10 cs (digit c) := by
      rw [value, Nat.ofDigitChars_cons, Nat.mul_zero, Nat.zero_add]
      rfl
    by_cases zero : c = '0'
    · subst zero
      have rest : value ('0' :: cs) = value cs := value_cons
      constructor
      · intro same _
        -- the value of the digits behind the zero has no more digits than they are
        by_contra longer
        have pos : 0 < cs.length := List.length_pos_iff.2 fun nil => longer (nil ▸ rfl)
        have short := (Nat.length_toDigits_le_iff (b := 10) (by decide) pos).2 (value_lt isDigit.2)
        have lengths := congrArg List.length (rest ▸ same)
        rw [List.length_cons] at lengths
        omega
      · intro alone
        rw [alone rfl]
        rfl
    · have written := toDigits_append isDigit.2 (digit_pos isDigit.1 zero)
      rw [toDigits_digit isDigit.1, List.singleton_append] at written
      have head : NoLeadingZero (c :: cs) := fun front => absurd (Option.some.inj front) zero
      rw [value_cons]
      exact iff_of_true written.symm head

/-- One more digit under a modulus. -/
theorem mul_add_mod (m n d : Nat) : (n % m * 10 + d) % m = (10 * n + d) % m := by
  rw [Nat.add_mod, Nat.mod_mul_mod, ← Nat.add_mod, Nat.mul_comm n]

/-! ## A fixed width -/

/-- The last digits of a number, one for each power of ten below the width. -/
def fixedWidth (width n : Nat) : List Char :=
  (List.range width).reverse.map fun i => (n / 10 ^ i % 10).digitChar

theorem fixedWidth_succ (width n : Nat) :
    fixedWidth (width + 1) n = fixedWidth width (n / 10) ++ [(n % 10).digitChar] := by
  simp [fixedWidth, List.range_succ_eq_map, Nat.pow_succ', Nat.div_div_eq_div_mul]

theorem fixedWidth_zero (width : Nat) : fixedWidth width 0 = List.replicate width '0' := by
  induction width with
  | zero => rfl
  | succ width ih => rw [fixedWidth_succ, Nat.zero_div, ih, List.replicate_succ']; rfl

@[simp] theorem fixedWidth_length (width n : Nat) : (fixedWidth width n).length = width := by
  simp [fixedWidth]

theorem leftpad_toDigits {width n : Nat} (pos : 0 < width) (fits : n < 10 ^ width) :
    List.leftpad width '0' (Nat.toDigits 10 n) = fixedWidth width n := by
  induction width generalizing n with
  | zero => omega
  | succ width ih =>
    rw [fixedWidth_succ]
    by_cases small : n < 10
    · rw [Nat.toDigits_of_lt_base small, Nat.div_eq_of_lt small, Nat.mod_eq_of_lt small, fixedWidth_zero]
      rfl
    · have two : 0 < width := by
        by_contra none
        obtain rfl : width = 0 := by omega
        omega
      have rest := ih two (n := n / 10) (by rw [Nat.pow_succ] at fits; omega)
      rw [← rest, Nat.toDigits_of_base_le (by decide) (by omega)]
      simp [List.leftpad]

end Decimal
