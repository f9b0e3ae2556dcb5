import SstCam.Release.Counters

/-!
# The gate before an alpha

An alpha is made only if something to release has come since the last tag. Its tag goes onto the head;
a run that follows is to find nothing, and so is one behind commits that release nothing (`Idempotent`).
The last tag is the highest one in the order of versions, so the new tag has to be above all others
(`idempotent_iff_settles`): a beta of the same base stays above every alpha, and the head is tagged
again and again.
-/

namespace SstCam
set_option autoImplicit false

open Decimal CommitGraph

namespace ResolveVersion

/-- Neither variable is set. -/
def automatic : Env := ⟨[], []⟩

/-- A run that releases nothing. -/
def Quiet (o : VersionOrder) (repo : Repo) : Prop := resolve o automatic repo .alpha = .ok (emit [] false)

/-- `git tag`, which refuses a name that is there. -/
def Repo.tagHead (repo : Repo) (name : List Char) : Repo :=
  if known : name ∈ repo.names then repo
  else
    { repo with
      tags := (name, repo.head) :: repo.tags
      tags_lt := List.forall_mem_cons.2 ⟨repo.head_lt, repo.tags_lt⟩
      names_nodup := List.nodup_cons.2 ⟨known, repo.names_nodup⟩ }

/-- A run, and its tag on the head if it makes one. -/
def runAndTag (o : VersionOrder) (repo : Repo) : Repo :=
  match resolve o automatic repo .alpha with
  | .ok out => if out.released then repo.tagHead out.tag else repo
  | .error _ => repo

/-- A line of a commit that is released. -/
def releasable (line : List Char) : Bool := breaking line || feature line || repair line

/-- The head moved on, over commits that release nothing. -/
structure Later (repo later : Repo) : Prop where
  grown : ∃ newer, later.history = newer ++ repo.history
  tags : later.tags = repo.tags
  descends : Ancestor later.history later.head repo.head
  calm : ∀ commit ∈ log later.history [repo.head] [later.head], ∀ line ∈ commit.lines, ¬ releasable line

/-- Behind a run and its tag no run releases anything, on the same head and later. -/
def Idempotent (o : VersionOrder) (repo : Repo) : Prop :=
  Quiet o (runAndTag o repo) ∧ ∀ later, Later (runAndTag o repo) later → Quiet o later

/-! ## When it holds -/

/-- A commit with such a line has come since the tag. -/
def Since (repo : Repo) (tag : Option (List Char)) (kind : List Char → Bool) : Prop :=
  ∃ commit ∈ gitLog repo (rangeSince repo tag), ∃ line ∈ commit.lines, kind line

/-- The fields of a stable tag; with none they are zeros. -/
inductive Baseline : Option (List Char) → List Char → List Char → List Char → Prop where
  | none : Baseline none ['0'] ['0'] ['0']
  | some {major minor patch : List Char} (first : IsNumeral major) (second : IsNumeral minor) (third : IsNumeral patch) :
      Baseline (some ('v' :: dotted major minor patch)) major minor patch

/-- The field that is counted up. -/
def Level (repo : Repo) (tag : Option (List Char)) : Bump → Prop
  | .major => Since repo tag breaking
  | .minor => ¬ Since repo tag breaking ∧ Since repo tag feature
  | .patch => ¬ Since repo tag breaking ∧ ¬ Since repo tag feature ∧ Since repo tag repair

/-- The base behind a stable tag, if the shell can count up its field. -/
def NextBase (repo : Repo) (stable : Option (List Char)) (base : List Char) : Prop :=
  ∃ major minor patch bump, Baseline stable major minor patch ∧ Level repo stable bump ∧
    applyBump major minor patch bump = .ok base

/-- The counter behind those of the base, if the shell can count up the first. -/
def NextCounter (o : VersionOrder) (repo : Repo) (base : List Char) (n : Int) : Prop :=
  (∃ digits, Leads o repo base alphaRung digits ∧ Shell.succ digits = some n) ∨
    (∀ digits, ¬ Tagged repo base alphaRung digits) ∧ n = 1

/-- Every version tag is below this one. -/
def Tops (o : VersionOrder) (repo : Repo) (tag : List Char) : Prop := ∀ name ∈ repo.names, versionTag name → o.lt name tag

/-- Nothing is new, or the next tag comes above all. -/
inductive Settles (o : VersionOrder) (repo : Repo) : Prop where
  | nothingSinceStable {stable : Option (List Char)} (highest : o.IsHighest validVersion repo.names stable)
      (nothing : ¬ Since repo stable releasable)
  | nothingSinceAny {stable any : Option (List Char)} {base : List Char}
      (highest : o.IsHighest validVersion repo.names stable) (next : NextBase repo stable base)
      (last : o.IsHighest versionTag repo.names any) (nothing : ¬ Since repo any releasable)
  | above {stable : Option (List Char)} {base : List Char} {n : Int}
      (highest : o.IsHighest validVersion repo.names stable) (next : NextBase repo stable base)
      (counter : NextCounter o repo base n)
      (tops : Tops o repo (counterTag base alphaRung (Shell.text n)))

variable {o : VersionOrder} {repo later : Repo} {stable any tag : Option (List Char)} {kind : List Char → Bool}
  {base name major minor patch : List Char} {bump : Bump} {n : Int}

/-! ## One run -/

theorem any_lines_iff : ((gitLog repo (rangeSince repo tag)).flatMap Commit.lines).any kind ↔ Since repo tag kind := by
  simp only [List.any_eq_true, List.mem_flatMap]
  constructor
  · rintro ⟨line, ⟨commit, mem, here⟩, holds⟩
    exact ⟨commit, mem, line, here, holds⟩
  · rintro ⟨commit, mem, line, here, holds⟩
    exact ⟨line, ⟨commit, mem, here⟩, holds⟩

theorem since_releasable_iff :
    Since repo tag releasable ↔ Since repo tag breaking ∨ Since repo tag feature ∨ Since repo tag repair := by
  simp only [Since, releasable, Bool.or_eq_true, or_assoc, and_or_left, exists_or]

theorem highestBump_eq_some_iff : highestBump (gitLog repo (rangeSince repo tag)) = some bump ↔ Level repo tag bump := by
  simp only [highestBump]
  by_cases first : Since repo tag breaking
  · rw [if_pos (any_lines_iff.2 first)]
    cases bump <;> simp [Level, first]
  rw [if_neg (mt any_lines_iff.1 first)]
  by_cases second : Since repo tag feature
  · rw [if_pos (any_lines_iff.2 second)]
    cases bump <;> simp [Level, first, second]
  rw [if_neg (mt any_lines_iff.1 second)]
  by_cases third : Since repo tag repair
  · rw [if_pos (any_lines_iff.2 third)]
    cases bump <;> simp [Level, first, second, third]
  · rw [if_neg (mt any_lines_iff.1 third)]
    cases bump <;> simp [Level, first, second, third]

theorem exists_level_iff : (∃ bump, Level repo tag bump) ↔ Since repo tag releasable := by
  rw [since_releasable_iff]
  constructor
  · rintro ⟨bump | bump | bump, level⟩
    · exact .inl level
    · exact .inr (.inl level.2)
    · exact .inr (.inr level.2.2)
  · intro new
    by_cases first : Since repo tag breaking
    · exact ⟨.major, first⟩
    by_cases second : Since repo tag feature
    · exact ⟨.minor, first, second⟩
    · exact ⟨.patch, first, second, (new.resolve_left first).resolve_left second⟩

theorem highestBump_eq_none_iff :
    highestBump (gitLog repo (rangeSince repo tag)) = none ↔ ¬ Since repo tag releasable := by
  rw [← exists_level_iff, Option.eq_none_iff_forall_ne_some]
  simp only [ne_eq, highestBump_eq_some_iff, not_exists]

theorem exists_baseline (highest : o.IsHighest validVersion repo.names stable) :
    ∃ major minor patch, Baseline stable major minor patch := by
  cases highest with
  | none => exact ⟨_, _, _, .none⟩
  | some name _ valid =>
    obtain ⟨base, rfl, fields⟩ := validVersion_iff.1 valid
    obtain ⟨major, minor, patch, ⟨first, second, third⟩, rfl⟩ := validBase_iff.1 fields
    exact ⟨major, minor, patch, .some first second third⟩

/-- The cuts find the fields. -/
theorem bumpBase_automatic (baseline : Baseline stable major minor patch) :
    bumpBase automatic repo stable =
      match highestBump (gitLog repo (rangeSince repo stable)) with
      | none => .ok none
      | some bump => (applyBump major minor patch bump).map some := by
  cases baseline with
  | none => rfl
  | some first second third =>
    have front : beforeDot (major ++ '.' :: (minor ++ '.' :: patch)) = major := beforeDot_append (dot_notMem first)
    have behind : behindDot (major ++ '.' :: (minor ++ '.' :: patch)) = minor ++ '.' :: patch :=
      behindDot_append (dot_notMem first)
    have middle : beforeDot (minor ++ '.' :: patch) = minor := beforeDot_append (dot_notMem second)
    have back : behindLastDot (minor ++ '.' :: patch) = patch := behindLastDot_append (dot_notMem third)
    simp only [bumpBase, dotted, List.drop_succ_cons, List.drop_zero, front, behind, middle, back]
    rfl

theorem bumpBase_nothing (highest : o.IsHighest validVersion repo.names stable) (nothing : ¬ Since repo stable releasable) :
    bumpBase automatic repo stable = .ok none := by
  obtain ⟨major, minor, patch, baseline⟩ := exists_baseline highest
  rw [bumpBase_automatic baseline, highestBump_eq_none_iff.2 nothing]

theorem bumpBase_level (baseline : Baseline stable major minor patch) (level : Level repo stable bump) :
    bumpBase automatic repo stable = (applyBump major minor patch bump).map some := by
  rw [bumpBase_automatic baseline, highestBump_eq_some_iff.2 level]

theorem bumpBase_nextBase (next : NextBase repo stable base) : bumpBase automatic repo stable = .ok (some base) := by
  obtain ⟨major, minor, patch, bump, baseline, level, applied⟩ := next
  rw [bumpBase_level baseline level, applied]
  rfl

theorem NextBase.since (next : NextBase repo stable base) : Since repo stable releasable := by
  obtain ⟨_, _, _, bump, _, level, _⟩ := next
  exact exists_level_iff.1 ⟨bump, level⟩

theorem exists_nextBase_or_failure (highest : o.IsHighest validVersion repo.names stable) (new : Since repo stable releasable) :
    (∃ base, NextBase repo stable base) ∨ ∃ failure, bumpBase automatic repo stable = .error failure := by
  obtain ⟨major, minor, patch, baseline⟩ := exists_baseline highest
  obtain ⟨bump, level⟩ := exists_level_iff.2 new
  cases applied : applyBump major minor patch bump with
  | ok base => exact .inl ⟨base, major, minor, patch, bump, baseline, level, applied⟩
  | error failure =>
    refine .inr ⟨failure, ?_⟩
    rw [bumpBase_level baseline level, applied]
    rfl

theorem nextCounter_iff : NextCounter o repo base n ↔ Shell.succ (maxCounter o repo base alphaRung) = some n := by
  constructor
  · rintro (⟨digits, leads, counted⟩ | ⟨none, rfl⟩)
    · rwa [maxCounter_leads leads]
    · rw [maxCounter_none none]
      decide
  · intro counted
    rcases leads_or_none o repo base alphaRung with ⟨digits, leads⟩ | none
    · rw [maxCounter_leads leads] at counted
      exact .inl ⟨digits, leads, counted⟩
    · rw [maxCounter_none none] at counted
      have one : Shell.succ ['0'] = some 1 := by decide
      exact .inr ⟨none, Option.some.inj (counted.symm.trans one)⟩

theorem resolve_automatic (highest : o.IsHighest validVersion repo.names stable) :
    resolve o automatic repo .alpha =
      (bumpBase automatic repo stable).bind fun
        | none => .ok (emit [] false)
        | some base =>
          if highestBump (gitLog repo (rangeSince repo (latestAnyTag o repo))) = none then .ok (emit [] false)
          else mint o repo base alphaRung := by
  have latest : latestStable o repo = stable := latestStable_eq.trans (VersionOrder.highest_eq_iff.2 highest)
  rw [resolve, if_neg (by decide), latest]
  simp only [automatic, true_and]
  rfl

/-- What a run does, by what is new and what the shell can count up. -/
inductive Outcome (o : VersionOrder) (repo : Repo) (stable any : Option (List Char)) : Except Failure Output → Prop where
  | nothingSinceStable (nothing : ¬ Since repo stable releasable) : Outcome o repo stable any (.ok (emit [] false))
  | noBase (failure : Failure) (new : Since repo stable releasable) (none : ∀ base, ¬ NextBase repo stable base) :
      Outcome o repo stable any (.error failure)
  | nothingSinceAny (base : List Char) (next : NextBase repo stable base) (nothing : ¬ Since repo any releasable) :
      Outcome o repo stable any (.ok (emit [] false))
  | noCounter (base : List Char) (failure : Failure) (next : NextBase repo stable base) (new : Since repo any releasable)
      (none : ∀ n, ¬ NextCounter o repo base n) : Outcome o repo stable any (.error failure)
  | minted (base : List Char) (n : Int) (next : NextBase repo stable base) (new : Since repo any releasable)
      (counter : NextCounter o repo base n) :
      Outcome o repo stable any (.ok (emit (counterTag base alphaRung (Shell.text n)) true))

theorem resolve_outcome (highest : o.IsHighest validVersion repo.names stable)
    (last : o.IsHighest versionTag repo.names any) : Outcome o repo stable any (resolve o automatic repo .alpha) := by
  have latest : latestAnyTag o repo = any := latestAnyTag_eq.trans (VersionOrder.highest_eq_iff.2 last)
  rw [resolve_automatic highest, latest]
  by_cases new : Since repo stable releasable
  case neg =>
    rw [bumpBase_nothing highest new]
    exact .nothingSinceStable new
  rcases exists_nextBase_or_failure highest new with ⟨base, next⟩ | ⟨failure, failed⟩
  case inr =>
    rw [failed]
    refine .noBase failure new fun base next => ?_
    rw [bumpBase_nextBase next] at failed
    cases failed
  rw [bumpBase_nextBase next]
  dsimp only [Except.bind]
  by_cases open_gate : Since repo any releasable
  case neg =>
    rw [if_pos (highestBump_eq_none_iff.2 open_gate)]
    exact .nothingSinceAny base next open_gate
  rw [if_neg fun none => highestBump_eq_none_iff.1 none open_gate]
  cases counted : Shell.succ (maxCounter o repo base alphaRung) with
  | some n =>
    rw [mint_eq_ok_iff.2 counted]
    exact .minted base n next open_gate (nextCounter_iff.2 counted)
  | none =>
    rw [mint, plusOne, counted]
    refine .noCounter base _ next open_gate fun n counter => ?_
    rw [nextCounter_iff.1 counter] at counted
    cases counted

theorem quiet_iff (highest : o.IsHighest validVersion repo.names stable) (last : o.IsHighest versionTag repo.names any) :
    Quiet o repo ↔ ¬ Since repo stable releasable ∨ ∃ base, NextBase repo stable base ∧ ¬ Since repo any releasable := by
  have outcome := resolve_outcome highest last
  rw [Quiet]
  generalize resolve o automatic repo .alpha = result at outcome ⊢
  cases outcome with
  | nothingSinceStable nothing => exact iff_of_true rfl (.inl nothing)
  | nothingSinceAny base next nothing => exact iff_of_true rfl (.inr ⟨base, next, nothing⟩)
  | noBase failure new none => exact iff_of_false nofun (not_or.2 ⟨not_not_intro new, fun ⟨base, next, _⟩ => none base next⟩)
  | noCounter base failure next new none =>
    exact iff_of_false nofun (not_or.2 ⟨not_not_intro next.since, fun ⟨_, _, nothing⟩ => nothing new⟩)
  | minted base n next new counter =>
    exact iff_of_false nofun (not_or.2 ⟨not_not_intro next.since, fun ⟨_, _, nothing⟩ => nothing new⟩)

/-! ## Later heads -/

theorem rangeSince_lt : ∀ i ∈ rangeSince repo tag, i < repo.history.length := by
  intro i mem
  obtain ⟨name, -, found⟩ := Option.bind_eq_some_iff.1 (Option.mem_toList.1 mem)
  obtain ⟨before, after, split, -⟩ := List.lookup_eq_some_iff.1 found
  exact repo.tags_lt (name, i) (split ▸ List.mem_append_right _ List.mem_cons_self)

namespace Later

variable (h : Later repo later)
include h

theorem names_eq : later.names = repo.names := congrArg (List.map Prod.fst) h.tags

theorem rangeSince_eq (tag : Option (List Char)) : rangeSince later tag = rangeSince repo tag := by
  rw [rangeSince, rangeSince, h.tags]

theorem log_eq (tag : Option (List Char)) :
    log later.history (rangeSince repo tag) [repo.head] = gitLog repo (rangeSince repo tag) := by
  obtain ⟨newer, grown⟩ := h.grown
  rw [grown, gitLog]
  exact log_append rangeSince_lt (by simpa using repo.head_lt)

/-- What has come since a tag is the same at a later head. -/
theorem since_iff (released : ∀ line, kind line → releasable line) : Since later tag kind ↔ Since repo tag kind := by
  unfold Since
  rw [h.rangeSince_eq, ← h.log_eq tag]
  constructor
  · rintro ⟨commit, mem, line, here, holds⟩
    rcases mem_log_split repo.head mem with before | behind
    · exact ⟨commit, before, line, here, holds⟩
    · exact absurd (released line holds) (h.calm commit behind line here)
  · rintro ⟨commit, mem, line, here, holds⟩
    have reached : repo.head ∈ reach later.history [later.head] :=
      mem_reach_iff.2 ⟨later.head, List.mem_singleton_self _, later.head_lt, h.descends⟩
    exact ⟨commit, log_subset (by simpa using reached) mem, line, here, holds⟩

theorem level_iff : Level later tag bump ↔ Level repo tag bump := by
  have first : Since later tag breaking ↔ Since repo tag breaking := h.since_iff fun line holds => by simp [releasable, holds]
  have second : Since later tag feature ↔ Since repo tag feature := h.since_iff fun line holds => by simp [releasable, holds]
  have third : Since later tag repair ↔ Since repo tag repair := h.since_iff fun line holds => by simp [releasable, holds]
  cases bump <;> simp only [Level, first, second, third]

theorem quiet (still : Quiet o repo) : Quiet o later := by
  obtain ⟨stable, highest⟩ : ∃ stable, o.IsHighest validVersion repo.names stable := ⟨_, o.highest_isHighest _ _⟩
  obtain ⟨any, last⟩ : ∃ any, o.IsHighest versionTag repo.names any := ⟨_, o.highest_isHighest _ _⟩
  have all (tag : Option (List Char)) : Since later tag releasable ↔ Since repo tag releasable := h.since_iff fun _ => id
  have cases := (quiet_iff highest last).1 still
  rw [← h.names_eq] at highest last
  rw [quiet_iff highest last, all, all]
  refine cases.imp_right ?_
  rintro ⟨base, ⟨major, minor, patch, bump, baseline, level, applied⟩, nothing⟩
  exact ⟨base, ⟨major, minor, patch, bump, baseline, h.level_iff.2 level, applied⟩, nothing⟩

end Later

/-! ## The new tag -/

theorem validVersion_counterTag (base rung counter : List Char) : ¬ validVersion (counterTag base rung counter) := by
  intro valid
  obtain ⟨major, minor, patch, ⟨first, second, third⟩, fields⟩ := validBase_iff.1 valid
  have dash : '-' ∈ dotted major minor patch := fields ▸ List.mem_append_right _ List.mem_cons_self
  have plain : ∀ {digits}, IsNumeral digits → '-' ∉ digits := fun numeral mem => absurd (numeral.isDigit _ mem) (by decide)
  simp [dotted, plain first, plain second, plain third] at dash

section Tagging

variable (fresh : name ∉ repo.names)
include fresh

theorem tagHead_tags : (repo.tagHead name).tags = (name, repo.head) :: repo.tags := by
  rw [Repo.tagHead, dif_neg fresh]

theorem tagHead_names : (repo.tagHead name).names = name :: repo.names :=
  congrArg (List.map Prod.fst) (tagHead_tags fresh)

theorem gitLog_tagHead (range : List Nat) : gitLog (repo.tagHead name) range = gitLog repo range := by
  rw [Repo.tagHead, dif_neg fresh]
  rfl

theorem since_tagHead (other : tag ≠ some name) : Since (repo.tagHead name) tag kind ↔ Since repo tag kind := by
  have range : rangeSince (repo.tagHead name) tag = rangeSince repo tag := by
    cases tag with
    | none => rfl
    | some first =>
      have ne : (first == name) = false := by simpa using other
      simp only [rangeSince, tagHead_tags fresh, Option.bind_some, List.lookup_cons, ne]
  rw [Since, Since, range, gitLog_tagHead fresh]

/-- The tag is on the head. -/
theorem not_since_tagHead : ¬ Since (repo.tagHead name) (some name) kind := by
  have range : rangeSince (repo.tagHead name) (some name) = [repo.head] := by
    simp [rangeSince, tagHead_tags fresh]
  rw [Since, range, gitLog_tagHead fresh, gitLog, log_self]
  simp

theorem nextBase_tagHead (other : stable ≠ some name) :
    NextBase (repo.tagHead name) stable base ↔ NextBase repo stable base := by
  have level : ∀ bump, Level (repo.tagHead name) stable bump ↔ Level repo stable bump := by
    intro bump
    cases bump <;> simp only [Level, since_tagHead fresh other]
  simp only [NextBase, level]

end Tagging

/-- Behind a new tag a run is quiet if and only if it is the highest. -/
theorem quiet_tagHead_iff (highest : o.IsHighest validVersion repo.names stable) (next : NextBase repo stable base)
    (last : o.IsHighest versionTag repo.names any) (new : Since repo any releasable)
    (fresh : name ∉ repo.names) (listed : versionTag name) (unstable : ¬ validVersion name) :
    Quiet o (repo.tagHead name) ↔ Tops o repo name := by
  have ne_stable : stable ≠ some name := by
    rintro rfl
    cases highest with
    | some _ mem => exact fresh mem
  have highest' : o.IsHighest validVersion (repo.tagHead name).names stable := by
    rw [tagHead_names fresh]
    exact VersionOrder.isHighest_cons_fails highest (Bool.eq_false_iff.2 unstable)
  constructor
  · intro quiet other mem version
    by_contra above
    -- a tag that is not below leaves the highest one where it is, and behind that one something is new
    cases last with
    | none others => exact absurd version (by simp [others other mem])
    | some top mem_top pass le_top =>
      have ne_top : some top ≠ some name := by
        rintro ⟨⟩
        exact fresh mem_top
      have below : o.le name top := o.trans (not_not.1 (mt VersionOrder.not_le_iff.1 above)) (le_top other mem version)
      have last' : o.IsHighest versionTag (repo.tagHead name).names (some top) := by
        rw [tagHead_names fresh]
        exact VersionOrder.isHighest_cons_below (.some top mem_top pass le_top) below
      rcases (quiet_iff highest' last').1 quiet with nothing | ⟨_, _, nothing⟩
      · exact nothing ((since_tagHead fresh ne_stable).2 next.since)
      · exact nothing ((since_tagHead fresh ne_top).2 new)
  · intro above
    have last' : o.IsHighest versionTag (repo.tagHead name).names (some name) := by
      rw [tagHead_names fresh]
      exact VersionOrder.isHighest_cons_above listed fun other mem version => VersionOrder.le_of_lt (above other mem version)
    exact (quiet_iff highest' last').2 (.inr ⟨base, (nextBase_tagHead fresh ne_stable).2 next, not_since_tagHead fresh⟩)

/-! ## A run and the one behind it -/

theorem settles_iff (highest : o.IsHighest validVersion repo.names stable) (last : o.IsHighest versionTag repo.names any) :
    Settles o repo ↔ Quiet o repo ∨ ∃ base n, NextBase repo stable base ∧ NextCounter o repo base n ∧
      Tops o repo (counterTag base alphaRung (Shell.text n)) := by
  rw [quiet_iff highest last]
  constructor
  · rintro (⟨highest', nothing⟩ | ⟨highest', next, last', nothing⟩ | ⟨highest', next, counter, tops⟩)
    · obtain rfl := highest.unique highest'
      exact .inl (.inl nothing)
    · obtain rfl := highest.unique highest'
      obtain rfl := last.unique last'
      exact .inl (.inr ⟨_, next, nothing⟩)
    · obtain rfl := highest.unique highest'
      exact .inr ⟨_, _, next, counter, tops⟩
  · rintro ((nothing | ⟨base, next, nothing⟩) | ⟨base, n, next, counter, tops⟩)
    · exact .nothingSinceStable highest nothing
    · exact .nothingSinceAny highest next last nothing
    · exact .above highest next counter tops

theorem NextBase.unique {other : List Char} (next : NextBase repo stable base) (next' : NextBase repo stable other) :
    base = other := by
  have same := (bumpBase_nextBase next).symm.trans (bumpBase_nextBase next')
  exact Option.some.inj (Except.ok.inj same)

theorem NextCounter.unique {m : Int} (counter : NextCounter o repo base n) (counter' : NextCounter o repo base m) : n = m :=
  Option.some.inj ((nextCounter_iff.1 counter).symm.trans (nextCounter_iff.1 counter'))

theorem runAndTag_quiet (still : Quiet o repo) : runAndTag o repo = repo := by
  rw [runAndTag, show resolve o automatic repo .alpha = _ from still]
  rfl

theorem runAndTag_failure {failure : Failure} (fails : resolve o automatic repo .alpha = .error failure) :
    runAndTag o repo = repo := by
  rw [runAndTag, fails]

theorem runAndTag_minted (minted : resolve o automatic repo .alpha = .ok (emit name true)) :
    runAndTag o repo = repo.tagHead name := by
  rw [runAndTag, minted]
  rfl

/-- The second run. -/
theorem quiet_runAndTag_iff : Quiet o (runAndTag o repo) ↔ Settles o repo := by
  obtain ⟨stable, highest⟩ : ∃ stable, o.IsHighest validVersion repo.names stable := ⟨_, o.highest_isHighest _ _⟩
  obtain ⟨any, last⟩ : ∃ any, o.IsHighest versionTag repo.names any := ⟨_, o.highest_isHighest _ _⟩
  rw [settles_iff highest last]
  have outcome := resolve_outcome highest last
  generalize result_eq : resolve o automatic repo .alpha = result at outcome
  cases outcome with
  | nothingSinceStable | nothingSinceAny =>
    rw [runAndTag_quiet result_eq]
    exact iff_of_true result_eq (.inl result_eq)
  | noBase failure new none =>
    have loud : ¬ Quiet o repo := fun still => nomatch result_eq.symm.trans still
    rw [runAndTag_failure result_eq]
    exact iff_of_false loud (not_or.2 ⟨loud, fun ⟨base, _, next, _⟩ => none base next⟩)
  | noCounter base failure next new none =>
    have loud : ¬ Quiet o repo := fun still => nomatch result_eq.symm.trans still
    rw [runAndTag_failure result_eq]
    refine iff_of_false loud (not_or.2 ⟨loud, ?_⟩)
    rintro ⟨_, n, next', counter, -⟩
    obtain rfl := next.unique next'
    exact none n counter
  | minted base n next new counter =>
    have loud : ¬ Quiet o repo := fun still => nomatch result_eq.symm.trans still
    have same : (∃ base n, NextBase repo stable base ∧ NextCounter o repo base n ∧
        Tops o repo (counterTag base alphaRung (Shell.text n))) ↔ Tops o repo (counterTag base alphaRung (Shell.text n)) := by
      constructor
      · rintro ⟨_, _, next', counter', tops⟩
        obtain rfl := next.unique next'
        obtain rfl := counter.unique counter'
        exact tops
      · exact fun tops => ⟨base, n, next, counter, tops⟩
    rw [runAndTag_minted result_eq, or_iff_right loud, same]
    by_cases known : counterTag base alphaRung (Shell.text n) ∈ repo.names
    · -- the tag is there already, so nothing changes and it is not above itself
      rw [Repo.tagHead, dif_pos known]
      exact iff_of_false loud fun tops => VersionOrder.lt_irrefl _ (tops _ known rfl)
    · exact quiet_tagHead_iff highest next last new known rfl (validVersion_counterTag _ _ _)

/-- **The gate is idempotent if and only if nothing is new or the next tag comes above all others.** -/
theorem idempotent_iff_settles (o : VersionOrder) (repo : Repo) : Idempotent o repo ↔ Settles o repo := by
  rw [← quiet_runAndTag_iff]
  constructor
  · exact And.left
  · exact fun again => ⟨again, fun _ later => later.quiet again⟩

/-- A beta of the base that the commits ask for, and one more feature. -/
def betaBelow : Repo where
  history := [⟨[0], "feat: b".toList, []⟩, ⟨[], "feat: a".toList, []⟩]
  head := 1
  head_lt := by decide
  tags := [("v0.1.0-beta.1".toList, 0)]
  tags_lt := by decide
  names_nodup := by decide

/-- The head gets a first alpha and a second. -/
theorem alpha_below_beta_again :
    resolve .natural automatic betaBelow .alpha = .ok (emit "v0.1.0-alpha.1".toList true) ∧
      resolve .natural automatic (runAndTag .natural betaBelow) .alpha = .ok (emit "v0.1.0-alpha.2".toList true) ∧
      ¬ Idempotent .natural betaBelow := by
  have again : resolve .natural automatic (runAndTag .natural betaBelow) .alpha = .ok (emit "v0.1.0-alpha.2".toList true) := by
    decide +kernel
  refine ⟨by decide +kernel, again, fun ⟨quiet, _⟩ => ?_⟩
  rw [Quiet, again] at quiet
  cases quiet

end ResolveVersion
end SstCam
