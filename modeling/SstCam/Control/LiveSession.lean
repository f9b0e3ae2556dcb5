import SstCam.Control.Stage

/-!
# The live match through a run

What an event of the device does to the match and the configuration, as a function of the session
it finds: `liveMatchAfter` and `configAfter`. Each match command is summed up once.
-/

namespace SstCam
set_option autoImplicit false

open Atomic Device

variable {ρ γ : Type}

namespace SessionManager

theorem applyMatchUpdate_active (mutate : LiveMatch → LiveMatch) {s : SessionState} (active : ¬s.phase < .configured) :
    applyMatchUpdate mutate s = ({ s with liveMatch := mutate s.liveMatch }, true) := if_neg active

theorem applyMatchUpdate_early (mutate : LiveMatch → LiveMatch) {s : SessionState} (early : s.phase < .configured) :
    applyMatchUpdate mutate s = (s, false) := if_pos early

end SessionManager

/-! ## Match commands -/

/-- What a handler that updates the match comes to: it is refused, or the session takes the update
and the bindings are those of the new session. -/
inductive MatchUpdated (update : LiveMatch → LiveMatch) (d : Device ρ γ) : Device ρ γ × CommandResponse → Prop
  | refused (message : String) (early : d.session.phase < .configured) : MatchUpdated update d (d, .error message)
  | applied (after : Device ρ γ) (active : ¬d.session.phase < .configured)
    (session : after.session = { d.session with liveMatch := update d.session.liveMatch })
    (shown : after.overlay.bindingData = buildBindingData after.session) : MatchUpdated update d (after, .okay)

theorem syncOverlay_shown (p : Ports γ) (d : Device ρ γ) :
    ((MatchHandler.syncOverlay p).exec d).1.overlay.bindingData = buildBindingData d.session := by
  simp [MatchHandler.syncOverlay]

/-- The update that both match commands end in, and the overlay after it. -/
theorem matchUpdated (update : LiveMatch → LiveMatch) (message : String) (p : Ports γ) (d : Device ρ γ) :
    MatchUpdated update d ((do
      let applied ← callSession .applyMatchUpdate (SessionManager.applyMatchUpdate update)
      if !applied then return .error message
      else do
        MatchHandler.syncOverlay p
        return .okay : Prog Call (Device ρ γ) CommandResponse).exec d) := by
  rw [Prog.exec_bind, exec_callSession]
  by_cases early : d.session.phase < .configured
  · rw [SessionManager.applyMatchUpdate_early _ early]
    exact .refused _ early
  · rw [SessionManager.applyMatchUpdate_active _ early]
    have shown := syncOverlay_shown p { d with session := { d.session with liveMatch := update d.session.liveMatch } }
    have session := syncOverlay_session p { d with session := { d.session with liveMatch := update d.session.liveMatch } }
    exact .applied _ early session (shown.trans (congrArg buildBindingData session).symm)

theorem matchControl_updated (p : Ports γ) (msg : MatchControlCommand) (d : Device ρ γ) :
    MatchUpdated (MatchHandler.matchControl msg.action msg.period) d ((MatchHandler.handleMatchControl p msg).exec d) :=
  matchUpdated _ _ p d

/-- What a ScoreUpdate comes to: without a configuration or for another team it is refused. -/
inductive ScoreUpdated (msg : ScoreUpdateCommand) (d : Device ρ γ) : Device ρ γ × CommandResponse → Prop
  | unknown (message : String)
    (no : ∀ config, d.session.config = some config → msg.teamId ≠ config.teamAId ∧ msg.teamId ≠ config.teamBId) :
    ScoreUpdated msg d (d, .error message)
  | known (config : SessionConfig) (found : d.session.config = some config)
    (team : msg.teamId = config.teamAId ∨ msg.teamId = config.teamBId) (out : Device ρ γ × CommandResponse)
    (updated : MatchUpdated (MatchHandler.scoreUpdate (msg.teamId = config.teamAId) msg.delta) d out) :
    ScoreUpdated msg d out

theorem scoreUpdated (p : Ports γ) (msg : ScoreUpdateCommand) (d : Device ρ γ) :
    ScoreUpdated msg d ((MatchHandler.handleScoreUpdate p msg).exec d) := by
  unfold MatchHandler.handleScoreUpdate
  rw [Prog.exec_bind, exec_snapshot]
  dsimp only
  cases found : d.session.config with
  | none => exact .unknown _ (by simp [found])
  | some config =>
    by_cases team : msg.teamId = config.teamAId ∨ msg.teamId = config.teamBId
    · have known : (!decide (msg.teamId = config.teamAId) && !decide (msg.teamId = config.teamBId)) = false := by
        rcases team with a | b
        · simp [a]
        · simp [b]
      dsimp only
      rw [known, if_neg Bool.false_ne_true]
      exact .known config found team _ (matchUpdated _ _ p d)
    · have other : (!decide (msg.teamId = config.teamAId) && !decide (msg.teamId = config.teamBId)) = true := by
        simpa using team
      dsimp only
      rw [other, if_pos rfl]
      refine .unknown _ fun config' found' => ?_
      obtain rfl := Option.some_inj.1 (found.symm.trans found')
      exact not_or.1 team

/-- A tick advances the running clock of an active session, and shows it. -/
theorem tick_active (p : Ports γ) {d : Device ρ γ} (active : ¬d.session.phase < .configured) :
    (d.tick p).session = { d.session with liveMatch := MatchHandler.advanceClock d.session.liveMatch } ∧
      (d.tick p).overlay.bindingData = buildBindingData (d.tick p).session := by
  have ticked : d.tick p = ((MatchHandler.syncOverlay p).exec
      { d with session := { d.session with liveMatch := MatchHandler.advanceClock d.session.liveMatch } }).1 := by
    unfold tick MatchHandler.tickClock
    rw [Prog.exec_bind, exec_callSession, SessionManager.applyMatchUpdate_active _ active]
    rfl
  rw [ticked, syncOverlay_shown, syncOverlay_session]
  exact ⟨rfl, rfl⟩

/-! ## The session after an event -/

namespace SessionState

/-- The team a ScoreUpdate is for, where the session takes it: whether it is team A. -/
def scored (s : SessionState) (msg : ScoreUpdateCommand) : Option Bool :=
  match s.config with
  | none => none
  | some config =>
    if (msg.teamId = config.teamAId ∨ msg.teamId = config.teamBId) ∧ ¬s.phase < .configured then
      some (msg.teamId = config.teamAId)
    else none

/-- The live match a payload leaves. -/
def liveMatchAfter (s : SessionState) : CommandPayload → LiveMatch
  | .stopWifiDirect => if s.phase = .idle then s.liveMatch else {}
  | .matchControl msg =>
    if s.phase < .configured then s.liveMatch else MatchHandler.matchControl msg.action msg.period s.liveMatch
  | .scoreUpdate msg =>
    match s.scored msg with
    | none => s.liveMatch
    | some isHome => MatchHandler.scoreUpdate isHome msg.delta s.liveMatch
  | _ => s.liveMatch

/-- The live match an event leaves. -/
def liveMatchStep (s : SessionState) : DeviceEvent γ → LiveMatch
  | .connect => s.liveMatch
  | .disconnect _ => if s.phase = .idle then s.liveMatch else {}
  | .command _ cmd => (cmd.payload.map s.liveMatchAfter).getD s.liveMatch
  | .tick _ => if s.phase < .configured then s.liveMatch else MatchHandler.advanceClock s.liveMatch
  | .frame _ => s.liveMatch

end SessionState

namespace SessionManager

@[simp] theorem onConnect_liveMatch (s : SessionState) : (onConnect s).1.liveMatch = s.liveMatch := by
  unfold onConnect
  split <;> rfl

@[simp] theorem onWifiReady_liveMatch (s : SessionState) : (onWifiReady s).1.liveMatch = s.liveMatch := by
  unfold onWifiReady
  repeat' split
  all_goals rfl

@[simp] theorem applySessionConfig_liveMatch (mkdir : String → Bool) (config : SessionConfig) (s : SessionState) :
    (applySessionConfig mkdir config s).1.liveMatch = s.liveMatch := by
  unfold applySessionConfig
  repeat' split
  all_goals rfl

@[simp] theorem onOverlayConfigured_liveMatch (s : SessionState) : (onOverlayConfigured s).1.liveMatch = s.liveMatch := by
  unfold onOverlayConfigured
  repeat' split
  all_goals rfl

@[simp] theorem onRecordingStop_liveMatch (s : SessionState) : (onRecordingStop s).1.liveMatch = s.liveMatch := by
  unfold onRecordingStop
  split <;> rfl

end SessionManager

/-- A taken ScoreUpdate. -/
theorem ScoreUpdated.scored {msg : ScoreUpdateCommand} {d : Device ρ γ} {out : Device ρ γ × CommandResponse}
    (h : ScoreUpdated msg d out) :
    (d.session.scored msg = none ∧ out.1 = d ∧ out.2.status = .error) ∨
      ∃ isHome, d.session.scored msg = some isHome ∧ out.2 = .okay ∧
        out.1.session = { d.session with liveMatch := MatchHandler.scoreUpdate isHome msg.delta d.session.liveMatch } := by
  unfold SessionState.scored
  cases h with
  | unknown message no =>
    refine .inl ⟨?_, rfl, rfl⟩
    cases found : d.session.config with
    | none => rfl
    | some config => exact if_neg fun known => known.1.elim (no config found).1 (no config found).2
  | known config found team out updated =>
    rw [found]
    dsimp only
    cases updated with
    | refused message early => exact .inl ⟨if_neg fun known => known.2 early, rfl, rfl⟩
    | applied after active session shown => exact .inr ⟨_, if_pos ⟨team, active⟩, rfl, session⟩

section
variable [IContinuousRecorder ρ] [IPlatformStreamer γ]

/-- **The match after a command.** -/
theorem command_liveMatch (p : Ports γ) (cmd : Command) (d : Device ρ γ) :
    (d.command p cmd).session.liveMatch = (cmd.payload.map d.session.liveMatchAfter).getD d.session.liveMatch := by
  cases h : cmd.payload with
  | none => rw [command_none p cmd d h]; rfl
  | some payload =>
    have touched := exec_touches (handlerFor_touches p cmd payload) d
    rw [command_eq p cmd d h]
    show _ = d.session.liveMatchAfter payload
    cases payload with
    | startWifiDirect =>
      have started := wifiStarted p d
      show ((WifiDirectHandler.handleStart p).exec d).1.session.liveMatch = _
      generalize (WifiDirectHandler.handleStart p).exec d = out at started
      cases started with
      | notFormed | noDhcp | notReady => rfl
      | up group => exact SessionManager.onWifiReady_liveMatch _
    | stopWifiDirect =>
      show (WifiDirectHandler.handleStop.exec d).1.session.liveMatch = _
      rw [wifiStop_exec]
      unfold SessionManager.onWifiStopped SessionState.liveMatchAfter
      dsimp only
      split <;> rfl
    | pushSessionConfig msg => exact SessionManager.applySessionConfig_liveMatch _ _ _
    | pushOverlayLayout layout =>
      show ((OverlayHandler.handle p cmd).exec d).1.session.liveMatch = _
      rw [overlayLayout_session]
      exact SessionManager.onOverlayConfigured_liveMatch _
    | matchControl msg =>
      have updated := matchControl_updated p msg d
      show ((MatchHandler.handleMatchControl p msg).exec d).1.session.liveMatch = _
      unfold SessionState.liveMatchAfter
      generalize (MatchHandler.handleMatchControl p msg).exec d = out at updated
      cases updated with
      | refused message early => exact (if_pos early).symm
      | applied after active session shown => exact (congrArg _ session).trans (if_neg active).symm
    | scoreUpdate msg =>
      have updated := (scoreUpdated p msg d).scored
      show ((MatchHandler.handleScoreUpdate p msg).exec d).1.session.liveMatch = _
      unfold SessionState.liveMatchAfter
      dsimp only
      rcases updated with ⟨no, same, -⟩ | ⟨isHome, yes, -, session⟩
      · rw [no, same]
      · rw [yes, session]
    | recordingControl action =>
      have run := recordingControlled p cmd d
      show ((RecordingHandler.handle p cmd).exec d).1.session.liveMatch = _
      generalize (RecordingHandler.handle p cmd).exec d = out at run
      cases run with
      | stopped => exact SessionManager.onRecordingStop_liveMatch _
      | _ => rfl
    | _ => exact congrArg SessionState.liveMatch (touched .session (by simp [CommandPayload.parts]))

/-- **The match after an event.** -/
theorem step_liveMatch (d : Device ρ γ) (e : DeviceEvent γ) : (d.step e).session.liveMatch = d.session.liveMatchStep e := by
  cases e with
  | connect => exact SessionManager.onConnect_liveMatch d.session
  | disconnect p =>
    show (d.disconnect p).session.liveMatch = _
    rw [disconnect_eq]
    unfold SessionState.liveMatchStep
    dsimp only
    split <;> rfl
  | command p cmd => exact command_liveMatch p cmd d
  | tick p =>
    show (d.tick p).session.liveMatch = _
    unfold SessionState.liveMatchStep
    dsimp only
    by_cases early : d.session.phase < .configured
    · rw [tick_unconfigured p early, if_pos early]
    · rw [(tick_active p early).1, if_neg early]
  | frame f => rfl

end

end SstCam
