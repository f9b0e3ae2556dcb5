import Mathlib.Algebra.Group.Nat.Defs
import Mathlib.Data.Int.Basic
import SstCam.Lib.Decimal

/-!
# Shell arithmetic on numerals

What `$((x + 1))` makes of a variable that holds a numeral: a constant with a zero in front is octal,
and refused if it has a digit 8 or 9; numbers are signed ones of 64 bits and wrap. The shell counts on
from a numeral exactly if it has no zero in front, or no more than one digit behind the zeros, and is
below the greatest number (`plain_iff`).
-/

namespace Shell
set_option autoImplicit false

open Decimal

/-- A signed number of 64 bits. -/
def wrap (n : Int) : Int := n.bmod (2 ^ 64)

theorem wrap_natCast {n : Nat} (below : n < 2 ^ 63) : wrap n = n :=
  Int.bmod_eq_of_le (by omega) (by omega)

theorem wrap_lt (n : Int) : wrap n < (2 ^ 63 : Nat) := by
  have top := Int.bmod_lt (x := n) (m := 2 ^ 64) (by decide)
  unfold wrap
  omega

/-- The number a constant stands for; `none` is the error for a digit that is too great. -/
def constant (digits : List Char) : Option Int :=
  if digits.head? = some '0' then
    if digits.all fun c => digit c < 8 then some (wrap (Nat.ofDigitChars 8 digits 0)) else none
  else some (wrap (value digits))

/-- `$((x + 1))`. -/
def succ (digits : List Char) : Option Int := (constant digits).map fun n => wrap (n + 1)

/-- A number as it is printed. -/
def text : Int → List Char
  | .ofNat n => Nat.toDigits 10 n
  | .negSucc n => '-' :: Nat.toDigits 10 (n + 1)

@[simp] theorem text_natCast (n : Nat) : text n = Nat.toDigits 10 n := rfl

theorem text_injective : Function.Injective text := by
  have sign : ∀ m n : Nat, Nat.toDigits 10 m ≠ '-' :: Nat.toDigits 10 (n + 1) := by
    intro m n same
    have first : '-' ∈ Nat.toDigits 10 m := same ▸ List.mem_cons_self
    exact absurd ((isNumeral_toDigits m).isDigit _ first) (by decide)
  have read : ∀ m n : Nat, Nat.toDigits 10 m = Nat.toDigits 10 n → m = n := by
    intro m n same
    have values := congrArg value same
    rwa [value_toDigits, value_toDigits] at values
  rintro (m | m) (n | n) same
  · rw [read m n same]
  · exact absurd same (sign m n)
  · exact absurd same.symm (sign n m)
  · rw [Nat.succ_injective (read _ _ (List.cons.inj same).2)]

/-- A numeral the shell counts on from. -/
def Plain (digits : List Char) : Prop := value digits + 1 < 2 ^ 63 ∧ (digits.head? = some '0' → value digits < 8)

instance (digits : List Char) : Decidable (Plain digits) := inferInstanceAs (Decidable (_ ∧ (_ → _)))

/-! ## Octal and decimal -/

variable {digits : List Char}

/-- Behind a gap the octal reading stays below the decimal one. -/
theorem octal_gap {m n : Nat} (gap : m + 2 ≤ n) : Nat.ofDigitChars 8 digits m + 2 ≤ Nat.ofDigitChars 10 digits n := by
  induction digits generalizing m n with
  | nil => exact gap
  | cons c cs ih =>
    rw [Nat.ofDigitChars_cons, Nat.ofDigitChars_cons]
    apply ih
    omega

theorem le_ofDigitChars (n : Nat) : n ≤ Nat.ofDigitChars 10 digits n := by
  rw [Nat.ofDigitChars_eq_ofDigitChars_zero]
  have one := Nat.one_le_pow digits.length 10 (by decide)
  exact Nat.le_add_right_of_le (Nat.le_mul_of_pos_left n one)

/-- Read as octal, a run of octal digits is a single digit behind zeros, or at least two less. -/
theorem octal_cases (small : ∀ c ∈ digits, digit c < 8) :
    (value digits < 8 ∧ Nat.ofDigitChars 8 digits 0 = value digits) ∨
      (8 ≤ value digits ∧ Nat.ofDigitChars 8 digits 0 + 2 ≤ value digits) := by
  induction digits with
  | nil => exact .inl ⟨by decide, rfl⟩
  | cons c cs ih =>
    rw [List.forall_mem_cons] at small
    have ten : value (c :: cs) = Nat.ofDigitChars 10 cs (digit c) := by
      rw [value, Nat.ofDigitChars_cons, Nat.mul_zero, Nat.zero_add]
      rfl
    have eight : Nat.ofDigitChars 8 (c :: cs) 0 = Nat.ofDigitChars 8 cs (digit c) := by
      rw [Nat.ofDigitChars_cons, Nat.mul_zero, Nat.zero_add]
      rfl
    rw [ten, eight]
    rcases Nat.eq_zero_or_pos (digit c) with zero | pos
    · rw [zero]
      exact ih small.2
    · cases cs with
      | nil => exact .inl ⟨small.1, rfl⟩
      | cons d ds =>
        -- from a first digit that is not zero the next one opens the gap
        rw [Nat.ofDigitChars_cons, Nat.ofDigitChars_cons]
        have grown := @le_ofDigitChars ds (10 * digit c + (d.toNat - '0'.toNat))
        exact .inr ⟨by omega, octal_gap (by omega)⟩

/-- No digit is greater than the number. -/
theorem digit_le_value {c : Char} (mem : c ∈ digits) : digit c ≤ value digits := by
  have run : ∀ n, digit c ≤ Nat.ofDigitChars 10 digits n := by
    induction digits with
    | nil => cases mem
    | cons d ds ih =>
      intro n
      rw [Nat.ofDigitChars_cons]
      rcases List.mem_cons.1 mem with rfl | later
      · exact Nat.le_trans (Nat.le_add_left _ _) (le_ofDigitChars _)
      · exact ih later _
  exact run 0

/-! ## Counting on -/

theorem constant_plain (plain : Plain digits) : constant digits = some (value digits : Int) := by
  obtain ⟨below, single⟩ := plain
  unfold constant
  split
  case isTrue zero =>
    have low := single zero
    have small : ∀ c ∈ digits, digit c < 8 := fun c mem => Nat.lt_of_le_of_lt (digit_le_value mem) low
    rw [if_pos (List.all_eq_true.2 fun c mem => decide_eq_true (small c mem))]
    rcases octal_cases small with ⟨-, same⟩ | ⟨high, -⟩
    · rw [same, wrap_natCast (by omega)]
    · omega
  case isFalse => rw [wrap_natCast (by omega)]

theorem succ_plain (plain : Plain digits) : succ digits = some ((value digits + 1 : Nat) : Int) := by
  have below := plain.1
  rw [succ, constant_plain plain, Option.map_some, ← Int.natCast_succ, wrap_natCast below]

/-- **A numeral is counted on from exactly if it is plain.** -/
theorem plain_iff : Plain digits ↔ ∃ n, succ digits = some n ∧ (value digits : Int) < n := by
  constructor
  · intro plain
    exact ⟨_, succ_plain plain, by omega⟩
  · rintro ⟨n, counted, above⟩
    obtain ⟨m, read, rfl⟩ := Option.map_eq_some_iff.1 counted
    have top := wrap_lt (m + 1)
    refine ⟨by omega, fun zero => ?_⟩
    rw [constant, if_pos zero] at read
    split at read
    case isTrue octal =>
      obtain rfl := Option.some.inj read
      have small : ∀ c ∈ digits, digit c < 8 := fun c mem => of_decide_eq_true (List.all_eq_true.1 octal c mem)
      rcases octal_cases small with ⟨low, -⟩ | ⟨-, gap⟩
      · exact low
      · -- the octal number is too small for a wrap, and one more does not reach the decimal one
        have low : Nat.ofDigitChars 8 digits 0 + 1 < 2 ^ 63 := by omega
        rw [wrap_natCast (Nat.lt_of_succ_lt low), ← Int.natCast_succ, wrap_natCast low] at above
        omega
    case isFalse => cases read

example : succ "08".toList = none ∧ succ "010".toList = some 9 ∧
    succ "9223372036854775807".toList = some (-9223372036854775808) := by
  decide

end Shell
