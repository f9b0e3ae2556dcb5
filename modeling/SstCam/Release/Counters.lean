import SstCam.Release.ResolveVersion

/-!
# The counter of a new tag

Which tags of a base and a rung count: those that end in a numeral. The script counts on from the one
git lists first. It gives a new tag with a greater counter than all of them exactly if the shell counts
on from that numeral (`resolve_mints_iff`): a numeral like `08` ends the script, one like `010` is
read as eight, and the greatest number of the shell wraps.
-/

namespace SstCam
set_option autoImplicit false

open Decimal

namespace ResolveVersion

variable {o : VersionOrder} {env : Env} {repo : Repo} {mode : Mode} {base rung counter digits other : List Char} {n : Int}

/-- A tag of this base and rung with this counter. -/
structure Tagged (repo : Repo) (base rung digits : List Char) : Prop where
  numeral : IsNumeral digits
  mem : counterTag base rung digits ∈ repo.names

/-- The counter that is listed first. -/
structure Leads (o : VersionOrder) (repo : Repo) (base rung digits : List Char) : Prop where
  tagged : Tagged repo base rung digits
  le {other : List Char} : Tagged repo base rung other → o.le (counterTag base rung other) (counterTag base rung digits)

/-- The calls for a counter of this base and rung. -/
inductive Asks (o : VersionOrder) (env : Env) (repo : Repo) : Mode → List Char → List Char → Prop where
  | beta (base : List Char) : Asks o env repo (.beta base) base betaRung
  | forced (base : List Char) (given : env.inVersion = 'v' :: base) : Asks o env repo .alpha base alphaRung
  | bumped (base : List Char) (unset : env.inVersion = []) (next : bumpBase env repo (latestStable o repo) = .ok (some base))
      (new : env.inBump ≠ [] ∨ highestBump (gitLog repo (rangeSince repo (latestAnyTag o repo))) ≠ none) :
      Asks o env repo .alpha base alphaRung

/-- The call gives a tag that is not there, with a counter above all of the base and rung. -/
def Mints (o : VersionOrder) (env : Env) (repo : Repo) (mode : Mode) (base rung : List Char) : Prop :=
  ∃ n : Int, resolve o env repo mode = .ok (emit (counterTag base rung (Shell.text n)) true) ∧
    counterTag base rung (Shell.text n) ∉ repo.names ∧ ∀ digits, Tagged repo base rung digits → (value digits : Int) < n

/-! ## The counters of a base and a rung -/

theorem counterTag_injective (base rung : List Char) : Function.Injective (counterTag base rung) := by
  intro a b same
  rw [counterTag_append base rung a, counterTag_append base rung b] at same
  exact List.append_cancel_left same

theorem isCounter_fronted (name : List Char) (counts : isCounter base rung name) : counterTag base rung [] <+: name := by
  obtain ⟨digits, -, rfl⟩ := isCounter_iff.1 counts
  rw [counterTag_append base rung digits]
  exact List.prefix_append _ _

theorem behindLastDot_counterTag (numeral : IsNumeral digits) : behindLastDot (counterTag base rung digits) = digits := by
  have split : counterTag base rung digits = ('v' :: (base ++ '-' :: rung)) ++ '.' :: digits := by simp [counterTag]
  rw [split, behindLastDot_append (dot_notMem numeral)]

theorem isHighest_counter_iff :
    o.IsHighest (isCounter base rung) repo.names (some (counterTag base rung digits)) ↔ Leads o repo base rung digits := by
  constructor
  · intro highest
    cases highest with
    | some _ mem counts top =>
      obtain ⟨d, numeral, same⟩ := isCounter_iff.1 counts
      obtain rfl := counterTag_injective base rung same
      exact ⟨⟨numeral, mem⟩, fun other => top _ other.mem (isCounter_iff.2 ⟨_, other.numeral, rfl⟩)⟩
  · intro leads
    refine .some _ leads.tagged.mem (isCounter_iff.2 ⟨_, leads.tagged.numeral, rfl⟩) ?_
    intro name mem counts
    obtain ⟨d, numeral, rfl⟩ := isCounter_iff.1 counts
    exact leads.le ⟨numeral, mem⟩

theorem isHighest_counter_none_iff :
    o.IsHighest (isCounter base rung) repo.names none ↔ ∀ digits, ¬ Tagged repo base rung digits := by
  constructor
  · rintro ⟨others⟩ digits tagged
    have counts : isCounter base rung (counterTag base rung digits) := isCounter_iff.2 ⟨digits, tagged.numeral, rfl⟩
    rw [others _ tagged.mem] at counts
    cases counts
  · intro none
    refine .none fun name mem => Bool.eq_false_iff.2 fun counts => ?_
    obtain ⟨digits, numeral, rfl⟩ := isCounter_iff.1 counts
    exact none digits ⟨numeral, mem⟩

theorem maxCounter_leads (leads : Leads o repo base rung digits) : maxCounter o repo base rung = digits := by
  rw [maxCounter, find_gitTag isCounter_fronted, VersionOrder.highest_eq_iff.2 (isHighest_counter_iff.2 leads)]
  exact behindLastDot_counterTag leads.tagged.numeral

/-- With no counter it is 0. -/
theorem maxCounter_none (none : ∀ digits, ¬ Tagged repo base rung digits) : maxCounter o repo base rung = ['0'] := by
  rw [maxCounter, find_gitTag isCounter_fronted, VersionOrder.highest_eq_iff.2 (isHighest_counter_none_iff.2 none)]

theorem leads_or_none (o : VersionOrder) (repo : Repo) (base rung : List Char) :
    (∃ digits, Leads o repo base rung digits) ∨ ∀ digits, ¬ Tagged repo base rung digits := by
  have highest := o.highest_isHighest (isCounter base rung) repo.names
  cases found : o.highest (isCounter base rung) repo.names with
  | none => exact .inr (isHighest_counter_none_iff.1 (found ▸ highest))
  | some name =>
    obtain ⟨digits, -, rfl⟩ := isCounter_iff.1 (List.find?_some found)
    exact .inl ⟨digits, isHighest_counter_iff.1 (found ▸ highest)⟩

/-- The counter listed first is one of the greatest. -/
theorem value_le_leads (numeric : o.Numeric) (leads : Leads o repo base rung digits) (tagged : Tagged repo base rung other) :
    value other ≤ value digits := by
  by_contra above
  have last : ∀ c ∈ (counterTag base rung []).getLast?, ¬ c.isDigit := by
    have dot : counterTag base rung [] = ('v' :: (base ++ '-' :: rung)) ++ ['.'] := by simp [counterTag]
    rw [dot, List.getLast?_concat]
    rintro c ⟨⟩
    decide
  have below := numeric (counterTag base rung []) digits other last leads.tagged.numeral tagged.numeral (Nat.lt_of_not_le above)
  rw [← counterTag_append, ← counterTag_append] at below
  exact VersionOrder.not_le_iff.2 below (leads.le tagged)

/-! ## Minting -/

theorem mint_eq_ok_iff :
    mint o repo base rung = .ok (emit (counterTag base rung (Shell.text n)) true) ↔
      Shell.succ (maxCounter o repo base rung) = some n := by
  rw [mint, plusOne]
  cases Shell.succ (maxCounter o repo base rung) with
  | none => exact iff_of_false nofun nofun
  | some m =>
    constructor
    · intro minted
      have tags := congrArg Output.tag (Except.ok.inj minted)
      rw [Shell.text_injective (counterTag_injective base rung tags)]
    · rintro ⟨⟩
      rfl

theorem resolve_asks (valid : validBase base) (asks : Asks o env repo mode base rung) :
    resolve o env repo mode = mint o repo base rung := by
  cases asks with
  | beta => exact if_pos valid
  | forced _ given =>
    have version : validVersion env.inVersion := validVersion_iff.2 ⟨base, given, valid⟩
    have set : env.inVersion ≠ [] := given ▸ List.cons_ne_nil _ _
    rw [resolve, if_pos set, if_pos version, given]
    rfl
  | bumped _ unset next new =>
    have open_gate : ¬ (env.inBump = [] ∧ highestBump (gitLog repo (rangeSince repo (latestAnyTag o repo))) = none) :=
      fun ⟨forced, nothing⟩ => new.elim (absurd forced) (absurd nothing)
    rw [resolve, if_neg (not_not_intro unset), next]
    exact if_neg open_gate

/-- What the shell counts on to is new if it is above the counters that are there. -/
theorem fresh_of_above (above : ∀ digits, Tagged repo base rung digits → (value digits : Int) < n) (pos : 0 ≤ n) :
    counterTag base rung (Shell.text n) ∉ repo.names := by
  intro mem
  obtain ⟨k, rfl⟩ := Int.eq_ofNat_of_zero_le pos
  have same := above _ ⟨isNumeral_toDigits k, mem⟩
  rw [value_toDigits] at same
  exact absurd same (Int.lt_irrefl _)

/-- **A call gives a new tag with a greater counter than all if and only if the shell counts on from the
one listed first.** -/
theorem resolve_mints_iff (numeric : o.Numeric) (valid : validBase base) (asks : Asks o env repo mode base rung) :
    Mints o env repo mode base rung ↔ ∀ digits, Leads o repo base rung digits → Shell.Plain digits := by
  rw [Mints, resolve_asks valid asks]
  simp only [mint_eq_ok_iff]
  constructor
  · rintro ⟨n, counted, -, above⟩ digits leads
    rw [maxCounter_leads leads] at counted
    exact Shell.plain_iff.2 ⟨n, counted, above digits leads.tagged⟩
  · intro plain
    rcases leads_or_none o repo base rung with ⟨digits, leads⟩ | none
    · have counted := Shell.succ_plain (plain digits leads)
      have above : ∀ other, Tagged repo base rung other → (value other : Int) < (value digits + 1 : Nat) := by
        intro other tagged
        have le := value_le_leads numeric leads tagged
        omega
      rw [maxCounter_leads leads]
      exact ⟨_, counted, fresh_of_above above (Int.natCast_nonneg _), above⟩
    · have above : ∀ other, Tagged repo base rung other → (value other : Int) < 1 :=
        fun other tagged => absurd tagged (none other)
      rw [maxCounter_none none]
      exact ⟨1, by decide, fresh_of_above above (by decide), above⟩

/-- Counters on both sides of ten, and one that is no numeral. -/
def tenAlphas : Repo where
  history := [⟨[], "feat: a".toList, []⟩]
  head := 0
  head_lt := by decide
  tags := [("v0.1.0-alpha.9".toList, 0), ("v0.1.0-alpha.10".toList, 0), ("v0.1.0-alpha.x".toList, 0)]
  tags_lt := by decide
  names_nodup := by decide

theorem resolve_mints_behind_ten :
    Mints .natural ⟨"v0.1.0".toList, []⟩ tenAlphas .alpha "0.1.0".toList alphaRung := by
  refine (resolve_mints_iff VersionOrder.natural_numeric (by decide) (.forced _ rfl)).2 ?_
  intro digits leads
  rw [← maxCounter_leads leads]
  decide +kernel

/-- A counter written with a zero in front. -/
def zeroEight : Repo where
  history := [⟨[], "feat: b".toList, []⟩]
  head := 0
  head_lt := by decide
  tags := [("v0.1.0-alpha.08".toList, 0)]
  tags_lt := by decide
  names_nodup := by decide

/-- Behind the tag `v0.1.0-alpha.08` no alpha of this base is made. -/
theorem resolve_stops_behind_zero_eight :
    VersionOrder.natural.Numeric ∧ validBase "0.1.0".toList ∧
      Asks .natural ⟨"v0.1.0".toList, []⟩ zeroEight .alpha "0.1.0".toList alphaRung ∧
      resolve .natural ⟨"v0.1.0".toList, []⟩ zeroEight .alpha = .error (.valueTooGreat "08".toList) ∧
      ¬ Mints .natural ⟨"v0.1.0".toList, []⟩ zeroEight .alpha "0.1.0".toList alphaRung := by
  have stops : resolve .natural ⟨"v0.1.0".toList, []⟩ zeroEight .alpha = .error (.valueTooGreat "08".toList) := by
    rfl
  refine ⟨VersionOrder.natural_numeric, by decide, .forced _ rfl, stops, ?_⟩
  rintro ⟨n, minted, -⟩
  rw [stops] at minted
  cases minted

end ResolveVersion
end SstCam
