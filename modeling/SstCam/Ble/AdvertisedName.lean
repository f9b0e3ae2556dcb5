import Mathlib.Data.List.TakeWhile
import SstCam.Lib.Decimal

/-!
# The advertised name

The name a unit advertises over BLE, made from the digits of its serial number
(`domain/control/utils/advertised-name.hpp`). The value is read under the parse bound, which the
name's four digits do not notice: ten thousand divides it. Every number on the way fits its type
(`deriveUnitNumberChecked_eq`).
-/

namespace SstCam
set_option autoImplicit false

open Decimal

namespace AdvertisedName

def kUnitNumberWrap : Nat := 10000

def kDecimalBase : Nat := 10

def kSerialParseBound : Nat := 1000000000

def kBleNamePrefix : List Char := "sst-cam-".toList

/-- `{:04}` writes the number in decimal, with zeros in front up to four characters. -/
def makeAdvertisedName (unitNumber : Nat) : List Char :=
  kBleNamePrefix ++ List.leftpad 4 '0' (Nat.toDigits 10 (unitNumber % kUnitNumberWrap))

/-- The running value is a `uint64`, the digit a `uint32`. -/
def appendDigit (value : Nat) (character : Char) : Nat :=
  (value * kDecimalBase % 2 ^ 64 + (character.toNat - '0'.toNat) % 2 ^ 32) % 2 ^ 64 % kSerialParseBound

/-- The loop over the characters; at the first one behind a run of digits it stops. -/
def readSerial (value : Nat) (sawDigit : Bool) : List Char → Nat
  | [] => value
  | character :: rest =>
    if '0' ≤ character ∧ character ≤ '9' then readSerial (appendDigit value character) true rest
    else if sawDigit then value
    else readSerial value sawDigit rest

def deriveUnitNumber (serialNumber : List Char) : Nat := readSerial 0 false serialNumber % 2 ^ 32

/-! ## The same with every overflow refused -/

/-- A number that an unsigned type of this width holds. -/
def checked (width n : Nat) : Option Nat := if n < 2 ^ width then some n else none

theorem checked_eq {width n : Nat} (h : n < 2 ^ width) : checked width n = some n := if_pos h

def appendDigitChecked (value : Nat) (character : Char) : Option Nat := do
  let scaled ← checked 64 (value * kDecimalBase)
  let digit ← checked 32 (character.toNat - '0'.toNat)
  let sum ← checked 64 (scaled + digit)
  some (sum % kSerialParseBound)

def readSerialChecked (value : Nat) (sawDigit : Bool) : List Char → Option Nat
  | [] => some value
  | character :: rest =>
    if '0' ≤ character ∧ character ≤ '9' then
      (appendDigitChecked value character).bind fun next => readSerialChecked next true rest
    else if sawDigit then some value
    else readSerialChecked value sawDigit rest

def deriveUnitNumberChecked (serialNumber : List Char) : Option Nat :=
  (readSerialChecked 0 false serialNumber).bind (checked 32)

/-! ## One digit -/

variable {value : Nat} {character : Char}

theorem appendDigit_eq (bounded : value < kSerialParseBound) (isDigit : character.isDigit) :
    appendDigit value character = (value * 10 + digit character) % kSerialParseBound := by
  have small := digit_lt isDigit
  simp only [kSerialParseBound] at bounded
  rw [appendDigit, kDecimalBase, ← digit, Nat.mod_eq_of_lt (by omega : value * 10 < 2 ^ 64),
    Nat.mod_eq_of_lt (by omega : digit character < 2 ^ 32), Nat.mod_eq_of_lt (by omega : value * 10 + digit character < 2 ^ 64)]

theorem appendDigitChecked_eq (bounded : value < kSerialParseBound) (isDigit : character.isDigit) :
    appendDigitChecked value character = some (appendDigit value character) := by
  rw [appendDigit_eq bounded isDigit]
  have small := digit_lt isDigit
  simp only [kSerialParseBound] at bounded
  rw [appendDigitChecked, kDecimalBase, ← digit, checked_eq (by omega), checked_eq (by omega), Option.bind_eq_bind,
    Option.bind_some]
  simp only [Option.bind_some]
  rw [checked_eq (by omega), Option.bind_some]

theorem appendDigit_lt (value : Nat) (character : Char) : appendDigit value character < kSerialParseBound :=
  Nat.mod_lt _ (by decide)

/-! ## The whole serial -/

/-- The first run of digits, up to where it ends. -/
def firstRun (serialNumber : List Char) : List Char :=
  (serialNumber.dropWhile (!·.isDigit)).takeWhile (·.isDigit)

/-- No digit stands before the run, and none right behind it; it is empty only where there is none. -/
theorem firstRun_spec (serialNumber : List Char) :
    ∃ before rest, serialNumber = before ++ firstRun serialNumber ++ rest ∧ (∀ c ∈ before, ¬ c.isDigit) ∧
      (∀ c ∈ firstRun serialNumber, c.isDigit) ∧ (∀ c ∈ rest.head?, ¬ c.isDigit) ∧ (firstRun serialNumber = [] → rest = []) := by
  refine ⟨serialNumber.takeWhile (!·.isDigit), (serialNumber.dropWhile (!·.isDigit)).dropWhile (·.isDigit), ?_, ?_, ?_, ?_, ?_⟩
  · rw [firstRun, List.append_assoc, List.takeWhile_append_dropWhile, List.takeWhile_append_dropWhile]
  · intro c mem
    simpa using List.mem_takeWhile_imp mem
  · intro c mem
    exact List.mem_takeWhile_imp mem
  · intro c front
    have away := List.head?_dropWhile_not (·.isDigit) (serialNumber.dropWhile (!·.isDigit))
    rw [Option.mem_def.1 front] at away
    simpa using away
  · intro empty
    cases found : serialNumber.dropWhile (!·.isDigit) with
    | nil => rfl
    | cons c cs =>
      have isDigit := List.head?_dropWhile_not (!·.isDigit) serialNumber
      rw [found, List.head?_cons] at isDigit
      rw [firstRun, found, List.takeWhile_cons_of_pos (by simpa using isDigit)] at empty
      exact absurd empty (by simp)

theorem readSerial_true (n : Nat) (serialNumber : List Char) :
    readSerial (n % kSerialParseBound) true serialNumber =
      Nat.ofDigitChars 10 (serialNumber.takeWhile (·.isDigit)) n % kSerialParseBound := by
  induction serialNumber generalizing n with
  | nil => rfl
  | cons c cs ih =>
    rw [readSerial]
    by_cases isDigit : c.isDigit
    · rw [if_pos (isDigit_iff.1 isDigit), appendDigit_eq (Nat.mod_lt n (by decide)) isDigit, mul_add_mod, ih,
        List.takeWhile_cons_of_pos isDigit, Nat.ofDigitChars_cons]
      rfl
    · rw [if_neg (mt isDigit_iff.2 isDigit), if_pos rfl, List.takeWhile_cons_of_neg isDigit, Nat.ofDigitChars_nil]

theorem readSerial_false (serialNumber : List Char) :
    readSerial 0 false serialNumber = Decimal.value (firstRun serialNumber) % kSerialParseBound := by
  induction serialNumber with
  | nil => rfl
  | cons c cs ih =>
    by_cases isDigit : c.isDigit
    · -- the run begins here
      have same : readSerial 0 false (c :: cs) = readSerial (0 % kSerialParseBound) true (c :: cs) := by
        rw [readSerial, readSerial, if_pos (isDigit_iff.1 isDigit), if_pos (isDigit_iff.1 isDigit)]
        rfl
      rw [same, readSerial_true, firstRun, List.dropWhile_cons_of_neg (by simp [isDigit])]
      rfl
    · rw [readSerial, if_neg (mt isDigit_iff.2 isDigit), if_neg Bool.false_ne_true, ih, firstRun, firstRun,
        List.dropWhile_cons_of_pos (by simp [isDigit])]

theorem readSerial_lt (bounded : value < kSerialParseBound) (sawDigit : Bool) (serialNumber : List Char) :
    readSerial value sawDigit serialNumber < kSerialParseBound := by
  induction serialNumber generalizing value sawDigit with
  | nil => exact bounded
  | cons c cs ih =>
    rw [readSerial]
    split_ifs
    · exact ih (appendDigit_lt value c) true
    · exact bounded
    · exact ih bounded sawDigit

theorem readSerialChecked_eq (bounded : value < kSerialParseBound) (sawDigit : Bool) (serialNumber : List Char) :
    readSerialChecked value sawDigit serialNumber = some (readSerial value sawDigit serialNumber) := by
  induction serialNumber generalizing value sawDigit with
  | nil => rfl
  | cons c cs ih =>
    rw [readSerialChecked, readSerial]
    split_ifs with isDigit saw
    · rw [appendDigitChecked_eq bounded (isDigit_iff.2 isDigit), Option.bind_some, ih (appendDigit_lt value c)]
    · rfl
    · exact ih bounded sawDigit

/-- Nothing overflows. -/
theorem deriveUnitNumberChecked_eq (serialNumber : List Char) :
    deriveUnitNumberChecked serialNumber = some (deriveUnitNumber serialNumber) := by
  have bounded : (0 : Nat) < kSerialParseBound := by decide
  have fits : readSerial 0 false serialNumber < 2 ^ 32 :=
    Nat.lt_trans (readSerial_lt bounded false serialNumber) (by decide)
  rw [deriveUnitNumberChecked, readSerialChecked_eq bounded, Option.bind_some, checked_eq fits, deriveUnitNumber,
    Nat.mod_eq_of_lt fits]

theorem deriveUnitNumber_eq (serialNumber : List Char) :
    deriveUnitNumber serialNumber = Decimal.value (firstRun serialNumber) % kSerialParseBound := by
  have bounded : Decimal.value (firstRun serialNumber) % kSerialParseBound < 2 ^ 32 :=
    Nat.lt_trans (Nat.mod_lt _ (by decide)) (by decide : kSerialParseBound < 2 ^ 32)
  rw [deriveUnitNumber, readSerial_false, Nat.mod_eq_of_lt bounded]

theorem makeAdvertisedName_eq (unitNumber : Nat) :
    makeAdvertisedName unitNumber = kBleNamePrefix ++ fixedWidth 4 (unitNumber % 10000) := by
  have fits : unitNumber % 10000 < 10 ^ 4 := Nat.mod_lt _ (by decide)
  rw [makeAdvertisedName, kUnitNumberWrap, leftpad_toDigits (by decide) fits]

/-- The name shows the value of the first run of digits modulo ten thousand, in four digits, and no
number on the way to it overflows. -/
theorem advertisedName_exact (serialNumber : List Char) :
    makeAdvertisedName (deriveUnitNumber serialNumber) =
        kBleNamePrefix ++ fixedWidth 4 (Decimal.value (firstRun serialNumber) % 10000) ∧
      deriveUnitNumberChecked serialNumber = some (deriveUnitNumber serialNumber) := by
  refine ⟨?_, deriveUnitNumberChecked_eq serialNumber⟩
  have divides : 10000 ∣ kSerialParseBound := by decide
  rw [makeAdvertisedName_eq, deriveUnitNumber_eq, Nat.mod_mod_of_dvd _ divides]

example : makeAdvertisedName (deriveUnitNumber "SN-12345678901234567890x9".toList) = "sst-cam-7890".toList := by
  decide +kernel

end AdvertisedName

end SstCam
