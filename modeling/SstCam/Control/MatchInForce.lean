import SstCam.Control.MatchClock
import SstCam.Control.ScoreArithmetic

/-!
# The match of a session

The live match belongs to the session, not to the match its configuration names: a pushed
configuration replaces the one there and leaves scores, clock, period and segment as they are. Only
the first one of a session always finds them at their defaults (`step_blank`).
-/

namespace SstCam
set_option autoImplicit false

open Atomic Device

variable {ρ γ : Type}

/-! ## Before a configuration -/

/-- A session that is not configured has no match yet. -/
def SessionState.Blank (s : SessionState) : Prop := s.phase < .configured → s.liveMatch = {}

theorem SessionState.liveMatchStep_early {s : SessionState} (early : s.phase < .configured) (blank : s.liveMatch = {})
    (e : DeviceEvent γ) : s.liveMatchStep e = {} := by
  unfold liveMatchStep
  cases e with
  | connect | frame => exact blank
  | disconnect p => simp [blank]
  | tick p => simp [early, blank]
  | command p cmd =>
    dsimp only
    cases cmd.payload with
    | none => exact blank
    | some payload =>
      show s.liveMatchAfter payload = {}
      unfold liveMatchAfter
      cases payload with
      | stopWifiDirect => simp [blank]
      | matchControl msg => simp [early, blank]
      | scoreUpdate msg =>
        have refused : s.scored msg = none := by
          unfold scored
          cases s.config with
          | none => rfl
          | some config => exact if_neg fun taken => taken.2 early
        simp [refused, blank]
      | _ => exact blank

section
variable [IContinuousRecorder ρ] [IPlatformStreamer γ]

/-- A session is left for an unconfigured one by a disconnect or a group stop only. -/
theorem Device.step_early {d : Device ρ γ} (active : ¬d.session.phase < .configured) (e : DeviceEvent γ)
    (early : (d.step e).session.phase < .configured) : (d.step e).session.liveMatch = {} := by
  have awake : d.session.phase ≠ .idle := fun idle => active (by simp [idle])
  cases e with
  | connect =>
    have same : (d.connect).session.phase = d.session.phase := by
      simp [connect, awake]
    exact absurd (same ▸ early) active
  | disconnect p =>
    rw [step_liveMatch]
    exact if_neg awake
  | tick p =>
    have same : (d.tick p).session.phase = d.session.phase := congrArg Stage.phase (tick_stage p d)
    exact absurd (same ▸ early) active
  | frame f => exact absurd early active
  | command p cmd =>
    have moves := command_moves p cmd d
    have after : (d.command p cmd).stage.phase < .configured := early
    have before : ¬d.stage.phase < .configured := active
    rw [step_liveMatch]
    show (cmd.payload.map d.session.liveMatchAfter).getD d.session.liveMatch = {}
    generalize d.stage = a at moves before
    generalize (d.command p cmd).stage = b at moves after
    generalize cmd.payload = payload at moves
    cases moves with
    | stay => exact absurd after before
    | groupUp recording => exact absurd (show SessionPhase.connected < .configured by decide) before
    | groupDown _ _ => exact if_neg awake
    | configured msg recording => exact absurd after (show ¬SessionPhase.configured < .configured by decide)
    | overlayReady layout recording => exact absurd after (show ¬SessionPhase.ready < .configured by decide)
    | recordingStart => exact absurd after (show ¬SessionPhase.recording < .configured by decide)
    | recordingStop =>
      refine absurd ?_ before
      by_cases recording : a.phase = .recording
      · simp [recording] at after
      · simpa [recording] using after

theorem Device.step_blank (d : Device ρ γ) (e : DeviceEvent γ) (blank : d.session.Blank) : (d.step e).session.Blank := by
  intro early
  by_cases before : d.session.phase < .configured
  · rw [step_liveMatch]
    exact SessionState.liveMatchStep_early before (blank before) e
  · exact step_early before e early

theorem Device.run_blank (recorder : ρ) (es : List (DeviceEvent γ)) : (es.foldl step (start recorder)).session.Blank :=
  Runs.foldl_inv' (I := fun d : Device ρ γ => d.session.Blank) step_blank es fun _ => rfl

/-! ## A configuration is pushed -/

theorem SessionManager.applySessionConfig_accepted {mkdir : String → Bool} {config : SessionConfig} {s : SessionState}
    (accepted : (applySessionConfig mkdir config s).2 = true) :
    (applySessionConfig mkdir config s).1.config = some config ∧
      ¬(applySessionConfig mkdir config s).1.phase < .configured := by
  unfold applySessionConfig at accepted ⊢
  split at accepted
  · cases accepted
  · split at accepted
    · cases accepted
    case isFalse.isFalse order dirs =>
      rw [if_neg order, if_neg dirs]
      refine ⟨rfl, ?_⟩
      cases phase : s.phase <;> simp [phase] at order ⊢

/-- The bindings before and after a tick tell a match from the default one. -/
theorem liveMatch_default {m : LiveMatch} {phase : SessionPhase} {config : Option SessionConfig}
    (first : buildBindingData ⟨phase, config, m⟩ = buildBindingData ⟨phase, config, {}⟩)
    (second : buildBindingData ⟨phase, config, MatchHandler.advanceClock m⟩ =
      buildBindingData ⟨phase, config, MatchHandler.advanceClock {}⟩) : m = {} := by
  obtain ⟨scoreA, scoreB, period, clockSeconds, clockRunning, segment⟩ := m
  simp only [buildBindingData, BindingData.mk.injEq, true_and] at first
  obtain ⟨rfl, rfl, rfl, rfl, shown⟩ := first
  obtain rfl : segment = .inPlay := by cases segment <;> simp at shown ⊢
  have clock : (MatchHandler.advanceClock ⟨0, 0, 0, 0, clockRunning, .inPlay⟩).clockSeconds = 0 :=
    congrArg BindingData.clockSeconds second
  cases clockRunning with
  | false => rfl
  | true => exact absurd clock (by decide)

namespace Device

/-- What of the match is to be seen: the report and the data of the overlay's bindings. -/
def matchSeen (p : Ports γ) (d : Device ρ γ) : Option ResponsePayload × BindingData :=
  (Timed.matchState p d, d.overlay.bindingData)

/-- The device with its match at the defaults. -/
def clearMatch (d : Device ρ γ) : Device ρ γ := { d with session := { d.session with liveMatch := {} } }

/-- An accepted configuration is the session's; nothing else changes but the phase. -/
theorem pushSessionConfig_accepted (p : Ports γ) (cmd : Command) {msg : PushSessionConfigCommand} (d : Device ρ γ)
    (payload : cmd.payload = some (.pushSessionConfig msg)) (accepted : (d.response p cmd).status = .ok) :
    (d.command p cmd).session.config = some (sessionConfigOf msg) ∧
      ¬(d.command p cmd).session.phase < .configured ∧ (d.command p cmd).overlay = d.overlay := by
  have overlay : (d.command p cmd).overlay = d.overlay :=
    command_touches p cmd d .overlay (by simp [Command.parts, payload, CommandPayload.parts])
  have named : cmd.pushSessionConfig = msg := by rw [Command.pushSessionConfig, payload]
  rw [response_eq p cmd d payload] at accepted
  rw [overlay, command_eq p cmd d payload]
  have session : ((handlerFor p cmd (.pushSessionConfig msg)).exec d).1.session =
      (SessionManager.applySessionConfig p.mkdir (sessionConfigOf msg) d.session).1 := by
    rw [← named]
    rfl
  have answer : ((handlerFor p cmd (.pushSessionConfig msg)).exec d).2 =
      if (SessionManager.applySessionConfig p.mkdir (sessionConfigOf msg) d.session).2 then .okay
      else .error "session config rejected: WiFi Direct group must be up first (out of order)" := by
    rw [← named]
    rfl
  rw [echo, answer] at accepted
  rw [session]
  cases applied : (SessionManager.applySessionConfig p.mkdir (sessionConfigOf msg) d.session).2 with
  | false => simp [applied] at accepted
  | true =>
    obtain ⟨config, active⟩ := SessionManager.applySessionConfig_accepted applied
    exact ⟨config, active, rfl⟩

/-- A match command that changes nothing. -/
def ignoredControl : Command where
  payload := some (.matchControl { action := .unrecognized 0 })

/-- It makes the overlay show the session. -/
theorem ignoredControl_shown (p : Ports γ) {d : Device ρ γ} (active : ¬d.session.phase < .configured) :
    (d.command p ignoredControl).overlay.bindingData = buildBindingData d.session := by
  rw [command_eq p ignoredControl d rfl]
  have updated := matchControl_updated p { action := .unrecognized 0 } d
  show ((MatchHandler.handleMatchControl p { action := .unrecognized 0 }).exec d).1.overlay.bindingData = _
  generalize (MatchHandler.handleMatchControl p { action := .unrecognized 0 }).exec d = out at updated
  cases updated with
  | refused message early => exact absurd early active
  | applied after _ session shown => exact shown.trans (congrArg buildBindingData session)

/-- What is seen after that command and after a tick tells the match from the default one. -/
theorem clear_of_seen {d : Device ρ γ} (active : ¬d.session.phase < .configured)
    (same : ∀ (later : List (DeviceEvent γ)) p, matchSeen p (later.foldl step d) = matchSeen p (later.foldl step d.clearMatch)) :
    d.session.liveMatch = {} := by
  have active' : ¬d.clearMatch.session.phase < .configured := active
  have first := same [.command {} ignoredControl] {}
  have second := same [.tick {}] {}
  simp only [List.foldl_cons, List.foldl_nil, matchSeen, Prod.mk.injEq, step] at first second
  have first := first.2
  have second := second.2
  rw [ignoredControl_shown {} active, ignoredControl_shown {} active'] at first
  rw [(tick_active {} active).2, (tick_active {} active).1, (tick_active {} active').2, (tick_active {} active').1] at second
  exact liveMatch_default first second

/-- **A configuration is pushed.** In every reachable state an accepted PushSessionConfig takes the place
of the configuration and leaves the match and the overlay's bindings as they are; the first one of a
session finds the match at its defaults. What is seen of the match afterwards, along every later run,
is what would be seen had the match been cleared, exactly when it was at its defaults. -/
theorem pushSessionConfig_keeps_match (recorder : ρ) (history : List (DeviceEvent γ)) (p : Ports γ) (cmd : Command)
    (msg : PushSessionConfigCommand) (payload : cmd.payload = some (.pushSessionConfig msg))
    (accepted : ((history.foldl step (start recorder)).response p cmd).status = .ok) :
    let before := history.foldl step (start recorder)
    let after := before.command p cmd
    after.session.config = some (sessionConfigOf msg) ∧ after.session.liveMatch = before.session.liveMatch ∧
      after.overlay = before.overlay ∧ (before.session.phase = .wifiReady → after.session.liveMatch = {}) ∧
      ((∀ (later : List (DeviceEvent γ)) q,
          matchSeen q (later.foldl step after) = matchSeen q (later.foldl step after.clearMatch)) ↔
        after.session.liveMatch = {}) := by
  intro before after
  obtain ⟨config, active, overlay⟩ := pushSessionConfig_accepted p cmd before payload accepted
  have kept : after.session.liveMatch = before.session.liveMatch := by
    rw [command_liveMatch, payload]
    rfl
  refine ⟨config, kept, overlay, fun ready => ?_, clear_of_seen active, fun blank later q => ?_⟩
  · rw [kept]
    exact run_blank recorder history (by show before.session.phase < _; simp [ready])
  · have same : after.clearMatch = after := by
      rw [clearMatch, ← blank]
    rw [same]

end Device

end

/-! ## A second match in one session -/

namespace Device

def pushMatch (matchUuid : String) : Command where
  payload := some (.pushSessionConfig { matchUuid, teamAId := "home", teamBId := "away" })

/-- A session configured for a first match. -/
def firstMatch : List (DeviceEvent StreamerPort) :=
  [.connect, .command fieldPorts { payload := some .startWifiDirect }, .command fieldPorts (pushMatch "first")]

/-- A goal of the first match is reported for the second. -/
theorem pushSessionConfig_carries_score :
    ¬∀ (h₁ h₂ : List (DeviceEvent StreamerPort)) (cmd : Command) (msg : PushSessionConfigCommand),
      cmd.payload = some (.pushSessionConfig msg) →
      (∀ h ∈ [h₁, h₂], ((h.foldl step (start ({} : RecorderPort))).response fieldPorts cmd).status = .ok ∧
        ∃ config, (h.foldl step (start ({} : RecorderPort))).session.config = some config ∧ config.matchUuid ≠ msg.matchUuid) →
      ∀ (later : List (DeviceEvent StreamerPort)) q,
        matchSeen q (later.foldl step ((h₁.foldl step (start ({} : RecorderPort))).command fieldPorts cmd)) =
          matchSeen q (later.foldl step ((h₂.foldl step (start ({} : RecorderPort))).command fieldPorts cmd)) := by
  intro all
  have same := all firstMatch (firstMatch ++ [scoreEvent 1]) (pushMatch "second") _ rfl
    (by simp only [List.forall_mem_cons, List.not_mem_nil, false_implies, implies_true, and_true]
        exact ⟨⟨by decide, _, rfl, by decide⟩, by decide, _, rfl, by decide⟩) [] {}
  exact absurd same (by decide)

/-- The goal of the first match stays when the second one is configured, and goes on to be seen. -/
theorem pushSessionConfig_keeps_goal :
    let before := (firstMatch ++ [scoreEvent 1]).foldl step (start ({} : RecorderPort))
    let after := before.command fieldPorts (pushMatch "second")
    after.session.liveMatch = before.session.liveMatch ∧
      ¬∀ (later : List (DeviceEvent StreamerPort)) q,
        matchSeen q (later.foldl step after) = matchSeen q (later.foldl step after.clearMatch) := by
  have kept := pushSessionConfig_keeps_match ({} : RecorderPort) (firstMatch ++ [scoreEvent 1]) fieldPorts
    (pushMatch "second") _ rfl (by decide)
  exact ⟨kept.2.1, fun same => absurd (kept.2.2.2.2.1 same) (by decide)⟩

end Device

end SstCam
