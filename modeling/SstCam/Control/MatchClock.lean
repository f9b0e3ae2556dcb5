import Mathlib.Algebra.Group.Nat.Defs
import SstCam.Control.LiveSession
import SstCam.Control.RecorderPhase

/-!
# The match clock

Runs of MatchControl commands and clock ticks in a configured session, with the number of ticks
that fell on a running clock since the current period began. A KICKOFF sets the clock to zero and a
PERIOD_START does not, and a CLOCK_RESUME runs the clock whatever the segment is: `ClockEvent.Keeps`
says which steps the report survives.
-/

namespace SstCam
set_option autoImplicit false

open Atomic Device

/-- A MatchControl command, with its correlation id, or a tick of the clock thread. -/
inductive ClockEvent (γ : Type) where
  | control (p : Ports γ) (correlationId : String) (msg : MatchControlCommand)
  | tick (p : Ports γ)

namespace ClockEvent

variable {γ : Type}

def toDevice : ClockEvent γ → DeviceEvent γ
  | .control p correlationId msg => .command p { correlationId, payload := some (.matchControl msg) }
  | .tick p => .tick p

/-- What an event does to the match of an active session. -/
def update : ClockEvent γ → LiveMatch → LiveMatch
  | .control _ _ msg => MatchHandler.matchControl msg.action msg.period
  | .tick _ => MatchHandler.advanceClock

/-- The ticks on a running clock since the current period began. -/
def count (m : LiveMatch) (elapsed : Nat) : ClockEvent γ → Nat
  | .control _ _ msg =>
    match msg.action with
    | .kickoff => 0
    | .periodStart => 0
    | _ => elapsed
  | .tick _ => if m.clockRunning then elapsed + 1 else elapsed

/-- A PERIOD_START finds the clock at zero, and a period set or to be set; a CLOCK_RESUME finds a period
in play; a tick does not find the running clock at its largest value. -/
def Keeps (m : LiveMatch) : ClockEvent γ → Prop
  | .control _ _ msg =>
    match msg.action with
    | .periodStart => m.clockSeconds = 0 ∧ (0 < msg.period ∨ m.period ≠ 0)
    | .clockResume => m.segment = .inPlay ∧ m.period ≠ 0
    | _ => True
  | .tick _ => m.clockRunning = true → m.clockSeconds + 1 < 2 ^ 32

end ClockEvent

/-! ## One event -/

/-- The clock runs in play only, in a period that has a number. -/
def LiveMatch.RunsInPlay (m : LiveMatch) : Prop := m.clockRunning = true → m.segment = .inPlay ∧ m.period ≠ 0

/-- The clock shows the ticks of the period. -/
structure LiveMatch.OnTime (m : LiveMatch) (elapsed : Nat) : Prop where
  clock : m.clockSeconds = elapsed
  small : elapsed < 2 ^ 32
  running : m.RunsInPlay

namespace LiveMatch.OnTime

variable {γ : Type} {m : LiveMatch} {elapsed : Nat}

theorem start : LiveMatch.OnTime {} 0 := ⟨rfl, by decide, nofun⟩

theorem update_small (h : m.OnTime elapsed) (e : ClockEvent γ) : (e.update m).clockSeconds < 2 ^ 32 := by
  have bound : m.clockSeconds < 2 ^ 32 := h.clock ▸ h.small
  cases e with
  | control p correlationId msg =>
    show (MatchHandler.matchControl msg.action msg.period m).clockSeconds < 2 ^ 32
    cases msg.action with
    | kickoff => exact Nat.two_pow_pos 32
    | _ => exact bound
  | tick p =>
    show (MatchHandler.advanceClock m).clockSeconds < 2 ^ 32
    unfold MatchHandler.advanceClock
    split
    · exact Nat.mod_lt _ (Nat.two_pow_pos 32)
    · exact bound

/-- An event that keeps the report keeps the clock on time. -/
theorem update (h : m.OnTime elapsed) {e : ClockEvent γ} (keeps : e.Keeps m) : (e.update m).OnTime (e.count m elapsed) := by
  obtain ⟨clock, small, running⟩ := h
  cases e with
  | control p correlationId msg =>
    obtain ⟨action, period⟩ := msg
    cases action with
    | kickoff =>
      refine ⟨rfl, Nat.two_pow_pos 32, fun _ => ⟨rfl, ?_⟩⟩
      show (if period > 0 then period else 1) ≠ 0
      split <;> omega
    | periodStart =>
      obtain ⟨zero, set⟩ : m.clockSeconds = 0 ∧ (0 < period ∨ m.period ≠ 0) := keeps
      refine ⟨zero, Nat.two_pow_pos 32, fun _ => ⟨rfl, ?_⟩⟩
      show (if period > 0 then period else m.period) ≠ 0
      split <;> omega
    | clockResume => exact ⟨clock, small, fun _ => keeps⟩
    | periodEnd | finalWhistle | clockPause => exact ⟨clock, small, nofun⟩
    | unrecognized n => exact ⟨clock, small, running⟩
  | tick p =>
    show (MatchHandler.advanceClock m).OnTime (if m.clockRunning then elapsed + 1 else elapsed)
    unfold MatchHandler.advanceClock
    cases runs : m.clockRunning with
    | false => exact ⟨clock, small, running⟩
    | true =>
      have room : m.clockSeconds + 1 < 2 ^ 32 := keeps runs
      refine ⟨?_, clock ▸ room, fun _ => running runs⟩
      show (m.clockSeconds + 1) % 2 ^ 32 = elapsed + 1
      omega

/-- **One event.** The time left is that of the period, and the clock runs in play only, exactly after
the events that keep the report. -/
theorem keeps_iff (h : m.OnTime elapsed) {length : Nat} (pos : 0 < length) (e : ClockEvent γ) :
    (length - (e.update m).clockSeconds = length - e.count m elapsed ∧ (e.update m).RunsInPlay) ↔ e.Keeps m := by
  constructor
  · rintro ⟨time, inPlay⟩
    obtain ⟨clock, _, running⟩ := h
    cases e with
    | control p correlationId msg =>
      obtain ⟨action, period⟩ := msg
      cases action with
      | periodStart =>
        obtain ⟨-, set⟩ := inPlay rfl
        have left : length - m.clockSeconds = length - 0 := time
        refine ⟨by omega, show 0 < period ∨ m.period ≠ 0 from ?_⟩
        by_contra unset
        have none : (if period > 0 then period else m.period) ≠ 0 := set
        split at none <;> omega
      | clockResume => exact inPlay rfl
      | kickoff | periodEnd | finalWhistle | clockPause | unrecognized => trivial
    | tick p =>
      intro runs
      have left : length - (MatchHandler.advanceClock m).clockSeconds =
          length - if m.clockRunning then elapsed + 1 else elapsed := time
      rw [MatchHandler.advanceClock, if_pos runs, if_pos runs] at left
      dsimp only at left
      omega
  · intro keeps
    have after := h.update keeps
    exact ⟨congrArg (length - ·) after.clock, after.running⟩

end LiveMatch.OnTime

/-! ## Runs -/

/-- A device, and the ticks since the current period began on which its clock ran. -/
structure Timed (ρ γ : Type) where
  device : Device ρ γ
  elapsed : Nat := 0

namespace Timed

variable {ρ γ : Type} [IContinuousRecorder ρ] [IPlatformStreamer γ]

def step (s : Timed ρ γ) (e : ClockEvent γ) : Timed ρ γ where
  device := s.device.step e.toDevice
  elapsed := e.count s.device.session.liveMatch s.elapsed

/-- The answer to a GetMatchState. -/
def matchState (p : Ports γ) (d : Device ρ γ) : Option ResponsePayload :=
  (d.response p { payload := some .getMatchState }).payload

/-- A tick would advance the clock. -/
def Advances (d : Device ρ γ) : Prop := ∀ p, (d.tick p).session.liveMatch.clockSeconds ≠ d.session.liveMatch.clockSeconds

/-- The report is that of a period of `length` seconds, and is of status ACTIVE exactly when a tick
would advance the clock. -/
def Coherent (length : Nat) (s : Timed ρ γ) : Prop :=
  ∀ p, ∃ msg, matchState p s.device = some (.matchState msg) ∧ msg.timeRemainingS = length - s.elapsed ∧
    (msg.status = .active ↔ Advances s.device)

/-- A session under a configuration with a period length. -/
structure Configured (length : Nat) (d : Device ρ γ) : Prop where
  active : ¬d.session.phase < .configured
  config : ∃ config, d.session.config = some config ∧ config.periodLengthSeconds = length

theorem step_session (s : Timed ρ γ) (e : ClockEvent γ) (active : ¬s.device.session.phase < .configured) :
    (s.step e).device.session = { s.device.session with liveMatch := e.update s.device.session.liveMatch } := by
  cases e with
  | tick p => exact (tick_active p active).1
  | control p correlationId msg =>
    show (s.device.command p _).session = _
    rw [command_eq p _ s.device rfl]
    have updated := matchControl_updated p msg s.device
    show ((MatchHandler.handleMatchControl p msg).exec s.device).1.session = _
    generalize (MatchHandler.handleMatchControl p msg).exec s.device = out at updated
    cases updated with
    | refused message early => exact absurd early active
    | applied after _ session shown => exact session

theorem Configured.step {s : Timed ρ γ} {length : Nat} (h : Configured length s.device) (e : ClockEvent γ) :
    Configured length (s.step e).device := by
  constructor
  · rw [step_session s e h.active]
    exact h.active
  · rw [step_session s e h.active]
    exact h.config

/-! ### The report -/

theorem matchState_eq (p : Ports γ) (d : Device ρ γ) : matchState p d = some (.matchState
    { status := MatchStateHandler.deriveStatus d.session
      currentPeriod := d.session.liveMatch.period
      timeRemainingS := MatchStateHandler.deriveTimeRemaining d.session
      scoreA := d.session.liveMatch.scoreA
      scoreB := d.session.liveMatch.scoreB
      teamAId := (d.session.config.map (·.teamAId)).getD ""
      teamBId := (d.session.config.map (·.teamBId)).getD ""
      updatedAt := p.nowEpochMs }) := by
  rw [matchState, response_eq p _ d rfl]
  rfl

omit [IContinuousRecorder ρ] [IPlatformStreamer γ] in
theorem advances_iff {d : Device ρ γ} (active : ¬d.session.phase < .configured)
    (small : d.session.liveMatch.clockSeconds < 2 ^ 32) : Advances d ↔ d.session.liveMatch.clockRunning = true := by
  have ticked : ∀ p, (d.tick p).session.liveMatch = MatchHandler.advanceClock d.session.liveMatch := fun p => by
    rw [(tick_active p active).1]
  unfold Advances
  simp only [ticked, MatchHandler.advanceClock]
  cases d.session.liveMatch.clockRunning with
  | false => exact ⟨fun moves => absurd rfl (moves {}), nofun⟩
  | true =>
    refine ⟨fun _ => rfl, fun _ _ => ?_⟩
    have bound := small
    show (d.session.liveMatch.clockSeconds + 1) % 2 ^ 32 ≠ d.session.liveMatch.clockSeconds
    omega

theorem status_active_iff {state : SessionState} {config : SessionConfig} (found : state.config = some config) :
    MatchStateHandler.deriveStatus state = .active ↔
      state.liveMatch.segment = .inPlay ∧ state.liveMatch.period ≠ 0 ∧ state.liveMatch.clockRunning = true := by
  unfold MatchStateHandler.deriveStatus
  rw [found, if_neg (by simp)]
  cases state.liveMatch.segment with
  | halfTime | fullTime => simp
  | inPlay => by_cases period : state.liveMatch.period = 0 <;> simp [period]

theorem timeRemaining_eq {state : SessionState} {config : SessionConfig} {length : Nat} (found : state.config = some config)
    (set : config.periodLengthSeconds = length) (pos : 0 < length) (int32 : length < 2 ^ 31) :
    MatchStateHandler.deriveTimeRemaining state = length - state.liveMatch.clockSeconds := by
  have whole : (config.periodLengthSeconds % 2 ^ 32).toNat = length := by omega
  unfold MatchStateHandler.deriveTimeRemaining
  rw [found]
  dsimp only
  rw [if_neg (by omega), whole]
  split_ifs <;> omega

/-- The report of a configured session, by its match. -/
theorem coherent_iff {s : Timed ρ γ} {length : Nat} (configured : Configured length s.device)
    (small : s.device.session.liveMatch.clockSeconds < 2 ^ 32) (pos : 0 < length) (int32 : length < 2 ^ 31) :
    Coherent length s ↔ length - s.device.session.liveMatch.clockSeconds = length - s.elapsed ∧
      s.device.session.liveMatch.RunsInPlay := by
  obtain ⟨active, config, found, set⟩ := configured
  have status := status_active_iff found
  have remaining := timeRemaining_eq found set pos int32
  have moves := advances_iff active small
  constructor
  · intro coherent
    obtain ⟨msg, shown, time, active'⟩ := coherent {}
    obtain rfl := ResponsePayload.matchState.inj (Option.some_inj.1 ((matchState_eq {} s.device).symm.trans shown))
    refine ⟨remaining.symm.trans time, fun running => ?_⟩
    obtain ⟨inPlay, period, -⟩ := status.1 (active'.2 (moves.2 running))
    exact ⟨inPlay, period⟩
  · rintro ⟨time, running⟩ p
    refine ⟨_, matchState_eq p s.device, remaining.trans time, ?_⟩
    rw [moves]
    exact status.trans ⟨fun h => h.2.2, fun h => ⟨(running h).1, (running h).2, h⟩⟩

/-- **The match clock.** From a session just configured the report is coherent, and it stays so along
exactly the runs whose steps all keep it. -/
theorem clock_coherent_iff {d : Device ρ γ} {length : Nat} (configured : Configured length d)
    (blank : d.session.liveMatch = {}) (pos : 0 < length) (int32 : length < 2 ^ 31) (es : List (ClockEvent γ)) :
    Coherent length { device := d } ∧
      (Runs.Along step (fun s e => Coherent length (s.step e)) { device := d } es ↔
        Runs.Along step (fun s e => e.Keeps s.device.session.liveMatch) { device := d } es) := by
  have start : d.session.liveMatch.OnTime 0 := blank ▸ .start
  refine ⟨(coherent_iff configured (start.clock ▸ start.small) pos int32).2 ⟨congrArg (length - ·) start.clock, start.running⟩,
    Runs.along_iff (I := fun s : Timed ρ γ => Configured length s.device ∧ s.device.session.liveMatch.OnTime s.elapsed)
      (fun s e h => ?_) (fun s e h keeps => ⟨h.1.step e, ?_⟩) ⟨configured, start⟩ es⟩
  · have session := step_session s e h.1.active
    rw [coherent_iff (h.1.step e) (by rw [session]; exact h.2.update_small e) pos int32, session]
    exact h.2.keeps_iff pos e
  · rw [step_session s e h.1.active]
    exact h.2.update keeps

/-- A session of periods of 2700 seconds, just configured. -/
def configuredMatch : Device RecorderPort StreamerPort where
  session := { phase := .configured, config := some { numPeriods := 2, periodLengthSeconds := 2700 } }
  recording := { recorder := {} }

def controlEvent (action : MatchAction) (period : Nat) : ClockEvent StreamerPort :=
  .control fieldPorts "clock" { action, period }

theorem configuredMatch_configured : Configured 2700 configuredMatch := ⟨by decide, _, rfl, rfl⟩

/-- A kickoff, a pause, a tick while paused, and a resume. -/
theorem clock_coherent_first_half :
    Coherent 2700 { device := configuredMatch } ∧
      Runs.Along step (fun s e => Coherent 2700 (s.step e)) { device := configuredMatch }
        [controlEvent .kickoff 1, .tick {}, controlEvent .clockPause 0, .tick {}, controlEvent .clockResume 0, .tick {}] := by
  have coherent := clock_coherent_iff configuredMatch_configured rfl (by decide) (by decide)
    [controlEvent .kickoff 1, .tick {}, controlEvent .clockPause 0, .tick {}, controlEvent .clockResume 0, .tick {}]
  refine ⟨coherent.1, coherent.2.2 ⟨trivial, fun _ => ?_, trivial, fun _ => ?_, ⟨rfl, ?_⟩, fun _ => ?_, trivial⟩⟩
  all_goals decide

/-- The second period starts where the first one ended: one second in, 2699 seconds are left of it
though no tick has fallen in it. -/
theorem clock_incoherent_second_half :
    ¬Runs.Along step (fun s e => Coherent 2700 (s.step e)) { device := configuredMatch }
      [controlEvent .kickoff 1, .tick {}, controlEvent .periodEnd 0, controlEvent .periodStart 2] := by
  rintro ⟨-, -, -, coherent, -⟩
  obtain ⟨msg, shown, time, -⟩ := coherent {}
  have left : msg.timeRemainingS = 2699 := by
    rw [matchState_eq] at shown
    obtain rfl := ResponsePayload.matchState.inj (Option.some_inj.1 shown)
    decide
  exact absurd (left.symm.trans time) (by decide)

end Timed

end SstCam
