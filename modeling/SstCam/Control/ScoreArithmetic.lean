import Mathlib.Algebra.Group.Nat.Defs
import SstCam.Control.LiveSession
import SstCam.Control.RecorderPhase

/-!
# Score arithmetic

What a ScoreUpdate computes, in the integers. The handler negates a negative delta in `int32_t` to
compare it with the score, and casts the sum back to `uint32_t`. `addScore_eq_iff` says when the
result is the clamped sum; along a run the scores stay `uint32_t` values.
-/

namespace SstCam
set_option autoImplicit false

open Atomic Device

namespace MatchHandler

/-- The score after a delta, clamped at zero. -/
def clampedSum (score : Nat) (delta : Int) : Int := max 0 (score + delta)

/-- The negation of a negative delta is an `int32_t`, and the sum of the other branch an `int64_t`. -/
structure NoOverflow (score : Nat) (delta : Int) : Prop where
  negation : delta < 0 → -delta < 2 ^ 31
  sum : -2 ^ 63 ≤ score + delta ∧ score + delta < 2 ^ 63

/-- The delta can be negated, and the sum fits the score. -/
structure InRange (score : Nat) (delta : Int) : Prop where
  negatable : -2 ^ 31 < delta
  fits : score + delta < 2 ^ 32

theorem addScore_lt (delta : Int) (score : Nat) : addScore delta score < 2 ^ 32 := by
  unfold addScore
  split_ifs <;> omega

/-- **One update.** -/
theorem addScore_eq_iff {score : Nat} (fits : score < 2 ^ 32) (delta : Int) :
    NoOverflow score delta ∧ (addScore delta score : Int) = clampedSum score delta ↔ InRange score delta := by
  constructor
  · rintro ⟨⟨negation, sum⟩, exact'⟩
    have lt := addScore_lt delta score
    unfold clampedSum at exact'
    exact ⟨by omega, by omega⟩
  · rintro ⟨low, high⟩
    refine ⟨⟨fun _ => by omega, by omega, by omega⟩, ?_⟩
    unfold addScore clampedSum
    split_ifs with below
    · omega
    · omega

end MatchHandler

/-- The score of a team: of team A, or of the other. -/
def LiveMatch.score (isHome : Bool) (m : LiveMatch) : Nat := if isHome then m.scoreA else m.scoreB

/-- The scores are `uint32_t` values. -/
def LiveMatch.Scores (m : LiveMatch) : Prop := ∀ isHome, m.score isHome < 2 ^ 32

namespace MatchHandler

@[simp] theorem scoreUpdate_score (isHome : Bool) (delta : Int) (m : LiveMatch) :
    (scoreUpdate isHome delta m).score isHome = addScore delta (m.score isHome) := by
  cases isHome <;> rfl

@[simp] theorem scoreUpdate_other (isHome : Bool) (delta : Int) (m : LiveMatch) :
    (scoreUpdate isHome delta m).score (!isHome) = m.score (!isHome) := by
  cases isHome <;> rfl

@[simp] theorem matchControl_score (action : MatchAction) (period : Nat) (m : LiveMatch) (isHome : Bool) :
    (matchControl action period m).score isHome = m.score isHome := by
  cases action <;> rfl

@[simp] theorem advanceClock_score (m : LiveMatch) (isHome : Bool) : (advanceClock m).score isHome = m.score isHome := by
  unfold advanceClock
  split <;> rfl

end MatchHandler

namespace LiveMatch.Scores

variable {m : LiveMatch}

theorem start : LiveMatch.Scores {} := fun isHome => by cases isHome <;> decide

theorem scoreUpdate (h : m.Scores) (isHome : Bool) (delta : Int) : (MatchHandler.scoreUpdate isHome delta m).Scores := by
  intro team
  by_cases own : team = isHome
  · rw [own, MatchHandler.scoreUpdate_score]
    exact MatchHandler.addScore_lt delta _
  · obtain rfl : team = !isHome := Bool.eq_not_of_ne own
    rw [MatchHandler.scoreUpdate_other]
    exact h _

end LiveMatch.Scores

namespace Device

variable {ρ γ : Type} [IContinuousRecorder ρ] [IPlatformStreamer γ]

/-- An accepted ScoreUpdate computes without overflow and stores the clamped sum for its team, and
leaves the other's score. -/
def ExactScore (d : Device ρ γ) : DeviceEvent γ → Prop
  | .command p cmd => ∀ msg, cmd.payload = some (.scoreUpdate msg) → (d.response p cmd).status = .ok →
    ∃ isHome, d.session.scored msg = some isHome ∧
      MatchHandler.NoOverflow (d.session.liveMatch.score isHome) msg.delta ∧
      ((d.command p cmd).session.liveMatch.score isHome : Int) =
        MatchHandler.clampedSum (d.session.liveMatch.score isHome) msg.delta ∧
      (d.command p cmd).session.liveMatch.score (!isHome) = d.session.liveMatch.score (!isHome)
  | _ => True

/-- A ScoreUpdate that the session takes is in range. -/
def ScoreInRange (d : Device ρ γ) : DeviceEvent γ → Prop
  | .command _ cmd => ∀ msg isHome, cmd.payload = some (.scoreUpdate msg) → d.session.scored msg = some isHome →
    MatchHandler.InRange (d.session.liveMatch.score isHome) msg.delta
  | _ => True

theorem step_scores (d : Device ρ γ) (e : DeviceEvent γ) (h : d.session.liveMatch.Scores) :
    (d.step e).session.liveMatch.Scores := by
  rw [step_liveMatch]
  unfold SessionState.liveMatchStep
  cases e with
  | connect | frame => exact h
  | disconnect p =>
    dsimp only
    split
    · exact h
    · exact .start
  | tick p =>
    dsimp only
    split
    · exact h
    · exact fun isHome => by rw [MatchHandler.advanceClock_score]; exact h isHome
  | command p cmd =>
    cases payload : cmd.payload with
    | none => simpa [payload] using h
    | some payload' =>
      simp only [payload, Option.map_some, Option.getD_some]
      unfold SessionState.liveMatchAfter
      cases payload' with
      | stopWifiDirect =>
        dsimp only
        split
        · exact h
        · exact .start
      | matchControl msg =>
        dsimp only
        split
        · exact h
        · exact fun isHome => by rw [MatchHandler.matchControl_score]; exact h isHome
      | scoreUpdate msg =>
        dsimp only
        split
        · exact h
        · exact h.scoreUpdate _ msg.delta
      | _ => exact h

/-- **One command.** -/
theorem exactScore_iff (d : Device ρ γ) (e : DeviceEvent γ) (h : d.session.liveMatch.Scores) :
    d.ExactScore e ↔ d.ScoreInRange e := by
  cases e with
  | command p cmd =>
    -- What the command answers and stores, where it is a ScoreUpdate.
    have outcome : ∀ msg, cmd.payload = some (.scoreUpdate msg) →
        (d.session.scored msg = none ∧ (d.response p cmd).status = .error) ∨
          ∃ isHome, d.session.scored msg = some isHome ∧ (d.response p cmd).status = .ok ∧
            (d.command p cmd).session.liveMatch = MatchHandler.scoreUpdate isHome msg.delta d.session.liveMatch := by
      intro msg payload
      rw [command_eq p cmd d payload, response_eq p cmd d payload]
      rcases (scoreUpdated p msg d).scored with ⟨no, -, error⟩ | ⟨isHome, yes, okay, session⟩
      · exact .inl ⟨no, error⟩
      · exact .inr ⟨isHome, yes, congrArg CommandResponse.status okay, congrArg SessionState.liveMatch session⟩
    constructor
    · intro exact' msg isHome payload taken
      rcases outcome msg payload with ⟨no, -⟩ | ⟨team, yes, okay, stored⟩
      · cases no.symm.trans taken
      · obtain ⟨team', taken', safe, sum, -⟩ := exact' msg payload okay
        obtain rfl := Option.some_inj.1 (taken'.symm.trans taken)
        obtain rfl := Option.some_inj.1 (yes.symm.trans taken)
        rw [stored, MatchHandler.scoreUpdate_score] at sum
        exact (MatchHandler.addScore_eq_iff (h team) msg.delta).1 ⟨safe, sum⟩
    · intro inRange msg payload okay
      rcases outcome msg payload with ⟨-, error⟩ | ⟨team, yes, -, stored⟩
      · cases error.symm.trans okay
      · obtain ⟨safe, sum⟩ := (MatchHandler.addScore_eq_iff (h team) msg.delta).2 (inRange msg team payload yes)
        refine ⟨team, yes, safe, ?_, ?_⟩
        · rw [stored, MatchHandler.scoreUpdate_score, sum]
        · rw [stored, MatchHandler.scoreUpdate_other]
  | connect | disconnect | tick | frame => exact Iff.rfl

/-- **Score arithmetic.** Along every run of the device the scores are exact exactly when every delta
that is taken can be negated and every sum fits. -/
theorem scores_exact_iff (recorder : ρ) (es : List (DeviceEvent γ)) :
    Runs.Along step ExactScore (start recorder) es ↔ Runs.Along step ScoreInRange (start recorder) es :=
  Runs.along_iff (I := fun d : Device ρ γ => d.session.liveMatch.Scores) exactScore_iff
    (fun d e h _ => step_scores d e h) LiveMatch.Scores.start es

/-- A session of two teams. -/
def scoredSession : List (DeviceEvent StreamerPort) :=
  [.connect,
    .command fieldPorts { payload := some .startWifiDirect },
    .command fieldPorts { payload := some (.pushSessionConfig { teamAId := "home", teamBId := "away" }) }]

def scoreEvent (delta : Int) : DeviceEvent StreamerPort :=
  .command fieldPorts { payload := some (.scoreUpdate { teamId := "home", delta }) }

/-- The most negative delta is negated; and of three of the largest the third wraps the score. -/
theorem scores_inexact :
    ¬Runs.Along step ExactScore (start ({} : RecorderPort)) (scoredSession ++ [scoreEvent (-2 ^ 31)]) ∧
      ¬Runs.Along step ExactScore (start ({} : RecorderPort))
        (scoredSession ++ [scoreEvent (2 ^ 31 - 1), scoreEvent (2 ^ 31 - 1), scoreEvent (2 ^ 31 - 1)]) := by
  refine ⟨fun run => ?_, fun run => ?_⟩
  · obtain ⟨-, -, -, exact', -⟩ := run
    obtain ⟨isHome, -, safe, -⟩ := exact' _ rfl (by decide)
    exact absurd (safe.negation (by decide)) (by decide)
  · obtain ⟨-, -, -, -, -, exact', -⟩ := run
    obtain ⟨isHome, team, -, sum, -⟩ := exact' _ rfl (by decide)
    revert sum
    cases isHome
    · exact absurd team (by decide)
    · decide

end Device

end SstCam
