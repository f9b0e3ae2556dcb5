import Mathlib.Data.List.Infix
import Mathlib.Data.List.TakeWhile
import SstCam.Lib.CommitGraph
import SstCam.Lib.ShellInteger
import SstCam.Lib.VersionOrder

/-!
# The next version tag

The script that resolves it (`scripts/ci/resolve-version.sh`). Git lists the tags in an order of
versions; the commits are those reached from the head and not from a tag; a counter is counted on by
shell arithmetic. A run prints a tag or fails, with its exit status.
-/

namespace SstCam
set_option autoImplicit false

open Decimal CommitGraph

namespace ResolveVersion

/-- A message as `%s` and `%b` print it. -/
structure Commit where
  subject : List Char
  body : List (List Char)

def Commit.lines (commit : Commit) : List (List Char) := commit.subject :: commit.body

/-- The commits, the one checked out, and the tags with the commits they are on. -/
structure Repo where
  history : List (Node Commit)
  head : Nat
  head_lt : head < history.length
  tags : List (List Char × Nat)
  tags_lt : ∀ tag ∈ tags, tag.2 < history.length
  names_nodup : (tags.map Prod.fst).Nodup

def Repo.names (repo : Repo) : List (List Char) := repo.tags.map Prod.fst

/-- `IN_VERSION` and `IN_BUMP`; one that is not set reads as empty. -/
structure Env where
  inVersion : List Char
  inBump : List Char

/-- The arguments, but for `--help`. -/
inductive Mode where
  | alpha
  | beta (base : List Char)
  | stable (base : List Char)
  | other (word : List Char)

structure Output where
  tag : List Char
  released : Bool
  deriving DecidableEq

inductive Failure where
  | invalidInVersion (value : List Char)
  | invalidInBump (value : List Char)
  | invalidBase (mode value : List Char)
  | unknownMode (word : List Char)
  | valueTooGreat (digits : List Char)
  deriving DecidableEq

def Failure.status : Failure → Nat
  | .invalidInVersion _ | .invalidBase _ _ | .valueTooGreat _ => 1
  | .invalidInBump _ | .unknownMode _ => 2

/-- The message; for the arithmetic it is the shell's own. -/
def Failure.message : Failure → Option (List Char)
  | .invalidInVersion value => some ("::error::invalid IN_VERSION '".toList ++ value ++ "' (want vX.Y.Z)".toList)
  | .invalidInBump value => some ("::error::invalid IN_BUMP '".toList ++ value ++ "' (want major|minor|patch)".toList)
  | .invalidBase mode value =>
    some ("::error::".toList ++ mode ++ " needs a valid X.Y.Z base (got '".toList ++ value ++ "')".toList)
  | .unknownMode word => some ("::error::unknown mode '".toList ++ word ++ "'".toList)
  | .valueTooGreat _ => none

def emit (tag : List Char) (released : Bool) : Output := { tag, released }

/-! ## Text -/

/-- `^[0-9]+\.[0-9]+\.[0-9]+$` -/
def validBase (text : List Char) : Bool :=
  match text.splitOn '.' with
  | [major, minor, patch] => decide (IsNumeral major ∧ IsNumeral minor ∧ IsNumeral patch)
  | _ => false

/-- `^v[0-9]+\.[0-9]+\.[0-9]+$` -/
def validVersion : List Char → Bool
  | 'v' :: base => validBase base
  | _ => false

/-- `${text%%.*}` -/
def beforeDot (text : List Char) : List Char := text.takeWhile (· ≠ '.')

/-- `${text#*.}` -/
def behindDot (text : List Char) : List Char := if '.' ∈ text then (text.dropWhile (· ≠ '.')).tail else text

/-- `${text##*.}` -/
def behindLastDot (text : List Char) : List Char := (text.reverse.takeWhile (· ≠ '.')).reverse

/-- The text with dots between. -/
def dotted (major minor patch : List Char) : List Char := major ++ '.' :: (minor ++ '.' :: patch)

/-- The text of the tag `v<base>-<rung>.<counter>`. -/
def counterTag (base rung counter : List Char) : List Char := 'v' :: (base ++ '-' :: (rung ++ '.' :: counter))

/-- `^v<base>-<rung>\.[0-9]+$` -/
def isCounter (base rung name : List Char) : Bool :=
  (counterTag base rung []).isPrefixOf name && decide (IsNumeral (name.drop (counterTag base rung []).length))

/-! ## Tags -/

/-- `git tag -l '<front>*' --sort=-v:refname` -/
def gitTag (o : VersionOrder) (repo : Repo) (front : List Char) : List (List Char) :=
  o.descending (repo.names.filter fun name => front.isPrefixOf name)

def latestStable (o : VersionOrder) (repo : Repo) : Option (List Char) := (gitTag o repo ['v']).find? validVersion

def maxCounter (o : VersionOrder) (repo : Repo) (base rung : List Char) : List Char :=
  match (gitTag o repo (counterTag base rung [])).find? (isCounter base rung) with
  | none => ['0']
  | some top => behindLastDot top

def latestAnyTag (o : VersionOrder) (repo : Repo) : Option (List Char) := (gitTag o repo ['v']).head?

/-! ## Commits -/

/-- The commit of the tag, behind which the range begins, if there is one. -/
def rangeSince (repo : Repo) (tag : Option (List Char)) : List Nat :=
  (tag.bind fun name => repo.tags.lookup name).toList

/-- `git log`, from the range to the head. -/
def gitLog (repo : Repo) (range : List Nat) : List Commit := log repo.history range [repo.head]

/-- `(\(.+\))?` and a mark behind it. -/
def behindScope (mark text : List Char) : Bool :=
  mark.isPrefixOf text ||
    match text with
    | '(' :: _ :: inner => inner.tails.any fun rest => (')' :: mark).isPrefixOf rest
    | _ => false

/-- `^<kind>(\(.+\))?:` -/
def ofKind (kind line : List Char) : Bool := kind.isPrefixOf line && behindScope [':'] (line.drop kind.length)

/-- `^BREAKING[ -]CHANGE` in any case. -/
def breakingNote (line : List Char) : Bool :=
  "BREAKING CHANGE".toList.isPrefixOf (line.map Char.toUpper) ||
    "BREAKING-CHANGE".toList.isPrefixOf (line.map Char.toUpper)

/-- `^[a-z]+(\(.+\))?!:` -/
def breakingMark (line : List Char) : Bool :=
  line.takeWhile Char.isLower ≠ [] && behindScope "!:".toList (line.dropWhile Char.isLower)

def breaking (line : List Char) : Bool := breakingNote line || breakingMark line

def feature (line : List Char) : Bool := ofKind "feat".toList line

def repair (line : List Char) : Bool := ofKind "fix".toList line || ofKind "perf".toList line

inductive Bump where
  | major
  | minor
  | patch
  deriving DecidableEq

def highestBump (commits : List Commit) : Option Bump :=
  let log := commits.flatMap Commit.lines
  if log.any breaking then some .major
  else if log.any feature then some .minor
  else if log.any repair then some .patch
  else none

/-! ## The modes -/

/-- `$((x + 1))`, printed. -/
def plusOne (digits : List Char) : Except Failure (List Char) :=
  match Shell.succ digits with
  | none => .error (.valueTooGreat digits)
  | some n => .ok (Shell.text n)

def forcedBump (word : List Char) : Except Failure Bump :=
  if word = "major".toList then .ok .major
  else if word = "minor".toList then .ok .minor
  else if word = "patch".toList then .ok .patch
  else .error (.invalidInBump word)

/-- The fields of a version counted up. -/
def applyBump (MA MI PA : List Char) : Bump → Except Failure (List Char)
  | .major => (plusOne MA).map fun next => dotted next ['0'] ['0']
  | .minor => (plusOne MI).map fun next => dotted MA next ['0']
  | .patch => (plusOne PA).map fun next => dotted MA MI next

/-- The next base; `none` where there is nothing to release. -/
def bumpBase (env : Env) (repo : Repo) (latest : Option (List Char)) : Except Failure (Option (List Char)) := do
  let lv := match latest with
    | none => "0.0.0".toList
    | some tag => tag.drop 1
  let rest := behindDot lv
  let bump ← if env.inBump = [] then .ok (highestBump (gitLog repo (rangeSince repo latest)))
    else (forcedBump env.inBump).map some
  match bump with
  | none => .ok none
  | some bump => (applyBump (beforeDot lv) (beforeDot rest) (behindLastDot rest) bump).map some

/-- The tag of the next counter. -/
def mint (o : VersionOrder) (repo : Repo) (base rung : List Char) : Except Failure Output :=
  (plusOne (maxCounter o repo base rung)).map fun n => emit (counterTag base rung n) true

def alphaRung : List Char := "alpha".toList

def betaRung : List Char := "beta".toList

def resolve (o : VersionOrder) (env : Env) (repo : Repo) : Mode → Except Failure Output
  | .alpha =>
    if env.inVersion ≠ [] then
      if validVersion env.inVersion then mint o repo (env.inVersion.drop 1) alphaRung
      else .error (.invalidInVersion env.inVersion)
    else do
      match ← bumpBase env repo (latestStable o repo) with
      | none => .ok (emit [] false)
      | some base =>
        if env.inBump = [] ∧ highestBump (gitLog repo (rangeSince repo (latestAnyTag o repo))) = none then
          .ok (emit [] false)
        else mint o repo base alphaRung
  | .beta base => if validBase base then mint o repo base betaRung else .error (.invalidBase betaRung base)
  | .stable base =>
    if validBase base then .ok (emit ('v' :: base) true) else .error (.invalidBase "stable".toList base)
  | .other word => .error (.unknownMode word)

/-! ## What the text functions do -/

variable {base rung name text : List Char}

theorem counterTag_append (base rung counter : List Char) :
    counterTag base rung counter = counterTag base rung [] ++ counter := by
  simp [counterTag]

theorem isCounter_iff : isCounter base rung name ↔ ∃ digits, IsNumeral digits ∧ name = counterTag base rung digits := by
  rw [isCounter, Bool.and_eq_true, List.isPrefixOf_iff_prefix, decide_eq_true_iff]
  constructor
  · rintro ⟨⟨counter, rfl⟩, digits⟩
    rw [List.drop_left] at digits
    exact ⟨counter, digits, (counterTag_append base rung counter).symm⟩
  · rintro ⟨digits, numeral, rfl⟩
    rw [counterTag_append base rung digits]
    exact ⟨List.prefix_append _ _, by rwa [List.drop_left]⟩

theorem dot_notMem {digits : List Char} (numeral : IsNumeral digits) : '.' ∉ digits :=
  fun mem => absurd (numeral.isDigit _ mem) (by decide)

theorem validBase_iff :
    validBase text ↔
      ∃ major minor patch, (IsNumeral major ∧ IsNumeral minor ∧ IsNumeral patch) ∧ text = dotted major minor patch := by
  constructor
  · intro valid
    have whole : ['.'].intercalate (text.splitOn '.') = text := List.intercalate_splitOn '.'
    rw [validBase] at valid
    split at valid
    case h_1 major minor patch fields =>
      refine ⟨major, minor, patch, of_decide_eq_true valid, ?_⟩
      rw [fields] at whole
      simpa [dotted, List.intercalate, List.intersperse] using whole.symm
    case h_2 => cases valid
  · rintro ⟨major, minor, patch, numerals, rfl⟩
    have plain : ∀ field ∈ [major, minor, patch], '.' ∉ field := by
      simp [dot_notMem numerals.1, dot_notMem numerals.2.1, dot_notMem numerals.2.2]
    have fields := List.splitOn_intercalate '.' plain (by simp)
    have whole : dotted major minor patch = ['.'].intercalate [major, minor, patch] := by
      simp [dotted, List.intercalate, List.intersperse]
    rw [validBase, whole, fields]
    exact decide_eq_true numerals

theorem validVersion_iff : validVersion name ↔ ∃ base, name = 'v' :: base ∧ validBase base := by
  constructor
  · intro valid
    rw [validVersion.eq_def] at valid
    split at valid
    case h_1 base => exact ⟨base, rfl, valid⟩
    case h_2 => cases valid
  · rintro ⟨base, rfl, valid⟩
    exact valid

theorem takeWhile_dot {front rest : List Char} (plain : '.' ∉ front) :
    (front ++ '.' :: rest).takeWhile (· ≠ '.') = front := by
  rw [List.takeWhile_append_of_pos, List.takeWhile_cons_of_neg (by simp), List.append_nil]
  intro c mem
  simpa using fun same : c = '.' => plain (same ▸ mem)

theorem beforeDot_append {front rest : List Char} (plain : '.' ∉ front) : beforeDot (front ++ '.' :: rest) = front :=
  takeWhile_dot plain

theorem behindDot_append {front rest : List Char} (plain : '.' ∉ front) : behindDot (front ++ '.' :: rest) = rest := by
  have pass : ∀ c ∈ front, (c ≠ '.' : Bool) = true := by
    intro c mem
    simpa using fun same : c = '.' => plain (same ▸ mem)
  rw [behindDot, if_pos (by simp), List.dropWhile_append_of_pos pass, List.dropWhile_cons_of_neg (by simp)]
  rfl

theorem behindLastDot_append {front rest : List Char} (plain : '.' ∉ rest) :
    behindLastDot (front ++ '.' :: rest) = rest := by
  have back : '.' ∉ rest.reverse := by simpa using plain
  have turned : (front ++ '.' :: rest).reverse = rest.reverse ++ '.' :: front.reverse := by simp
  rw [behindLastDot, turned, takeWhile_dot back, List.reverse_reverse]

/-! ## What the patterns match -/

/-- Nothing, or a text in parentheses. -/
inductive Scope : List Char → Prop where
  | none : Scope []
  | parens (first : Char) (inner : List Char) : Scope ('(' :: first :: (inner ++ [')']))

variable {mark kind line : List Char}

theorem behindScope_iff : behindScope mark text ↔ ∃ scope rest, Scope scope ∧ text = scope ++ (mark ++ rest) := by
  rw [behindScope.eq_def, Bool.or_eq_true, List.isPrefixOf_iff_prefix]
  constructor
  · rintro (⟨rest, rfl⟩ | inside)
    · exact ⟨[], rest, .none, rfl⟩
    · split at inside
      case h_1 first inner =>
        obtain ⟨tail, suffix, front⟩ := List.any_eq_true.1 inside
        obtain ⟨before, rfl⟩ := (List.mem_tails _ _).1 suffix
        obtain ⟨rest, rfl⟩ := List.isPrefixOf_iff_prefix.1 front
        exact ⟨'(' :: first :: (before ++ [')']), rest, .parens first before, by simp⟩
      case h_2 => cases inside
  · rintro ⟨scope, rest, none | ⟨first, inner⟩, rfl⟩
    · exact .inl ⟨rest, rfl⟩
    · have suffix : ')' :: (mark ++ rest) <:+ inner ++ [')'] ++ (mark ++ rest) := ⟨inner, by simp⟩
      have front : (')' :: mark).isPrefixOf (')' :: (mark ++ rest)) := List.isPrefixOf_iff_prefix.2 ⟨rest, rfl⟩
      exact .inr (List.any_eq_true.2 ⟨_, (List.mem_tails _ _).2 suffix, front⟩)

theorem ofKind_iff : ofKind kind line ↔ ∃ scope rest, Scope scope ∧ line = kind ++ (scope ++ ':' :: rest) := by
  rw [ofKind, Bool.and_eq_true, List.isPrefixOf_iff_prefix, behindScope_iff]
  constructor
  · rintro ⟨⟨behind, rfl⟩, scope, rest, shape, same⟩
    rw [List.drop_left] at same
    exact ⟨scope, rest, shape, by rw [same]; rfl⟩
  · rintro ⟨scope, rest, shape, rfl⟩
    exact ⟨List.prefix_append _ _, scope, rest, shape, by rw [List.drop_left]; rfl⟩

/-- The letters in front are as many as there are: neither a parenthesis nor the mark begins with one. -/
theorem breakingMark_iff :
    breakingMark line ↔ ∃ word scope rest, (word ≠ [] ∧ ∀ c ∈ word, c.isLower) ∧ Scope scope ∧
      line = word ++ (scope ++ ("!:".toList ++ rest)) := by
  rw [breakingMark, Bool.and_eq_true, behindScope_iff]
  constructor
  · rintro ⟨some, scope, rest, shape, same⟩
    refine ⟨line.takeWhile Char.isLower, scope, rest, ⟨of_decide_eq_true some, ?_⟩, shape, ?_⟩
    · exact fun c mem => List.mem_takeWhile_imp mem
    · rw [← same, List.takeWhile_append_dropWhile]
  · rintro ⟨word, scope, rest, ⟨nonempty, lower⟩, shape, rfl⟩
    have stops : (scope ++ ("!:".toList ++ rest)).takeWhile Char.isLower = [] ∧
        (scope ++ ("!:".toList ++ rest)).dropWhile Char.isLower = scope ++ ("!:".toList ++ rest) := by
      cases shape with
      | none => exact ⟨rfl, rfl⟩
      | parens => exact ⟨rfl, rfl⟩
    rw [List.takeWhile_append_of_pos lower, List.dropWhile_append_of_pos lower, stops.1, stops.2, List.append_nil]
    exact ⟨decide_eq_true nonempty, scope, rest, shape, rfl⟩

/-! ## What git lists first -/

variable {o : VersionOrder} {repo : Repo} {front : List Char} {p : List Char → Bool}

theorem find_gitTag (fronted : ∀ name, p name → front <+: name) :
    (gitTag o repo front).find? p = o.highest p repo.names :=
  VersionOrder.highest_filter fun name pass => List.isPrefixOf_iff_prefix.2 (fronted name pass)

theorem latestStable_eq : latestStable o repo = o.highest validVersion repo.names := by
  apply find_gitTag
  intro name valid
  obtain ⟨base, rfl, -⟩ := validVersion_iff.1 valid
  exact ⟨base, rfl⟩

/-- A tag the pattern `v*` lists. -/
def versionTag (name : List Char) : Bool := ['v'].isPrefixOf name

theorem latestAnyTag_eq : latestAnyTag o repo = o.highest versionTag repo.names := by
  have all : ∀ name ∈ gitTag o repo ['v'], versionTag name := fun name mem =>
    (List.mem_filter.1 (VersionOrder.mem_descending.1 mem)).2
  have fronted : ∀ name, versionTag name → ['v'] <+: name := fun _ => List.isPrefixOf_iff_prefix.1
  rw [latestAnyTag, ← find_gitTag fronted, ← List.head?_filter, List.filter_eq_self.2 all]

end ResolveVersion
end SstCam
