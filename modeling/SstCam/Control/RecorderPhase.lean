import SstCam.Control.Stage
import SstCam.Lib.Runs

/-!
# The phase and the recorder

The session is in the phase Recording exactly while the recording service holds the recorder.
Every step of the device keeps this except one: a StopWifiDirect during a recording drops the
phase to Connected and leaves the recorder running.
-/

namespace SstCam
set_option autoImplicit false

variable {ρ γ : Type}

namespace Device

/-- The phase is Recording exactly while a recording is active (recording or paused). -/
def PhaseAgrees (d : Device ρ γ) : Prop :=
  d.session.phase = .recording ↔ d.recording.state ≠ .idle

/-- The event stops the WiFi Direct group of a session that is recording. -/
def StopsGroupOfRecording (d : Device ρ γ) : DeviceEvent γ → Prop
  | .command _ cmd => cmd.payload = some .stopWifiDirect ∧ d.session.phase = .recording
  | _ => False

instance (d : Device ρ γ) : Decidable d.PhaseAgrees :=
  inferInstanceAs (Decidable (_ ↔ _))

theorem connect_stage (d : Device ρ γ) :
    d.connect.stage = if d.session.phase = .idle then ⟨.connected, d.stage.active⟩ else d.stage := by
  split <;> simp [connect, stage, *]

theorem disconnect_stage [IContinuousRecorder ρ] (p : Ports γ) (d : Device ρ γ) :
    (d.disconnect p).stage = if d.session.phase = .idle then d.stage else ⟨.idle, false⟩ := by
  rw [disconnect_eq]
  split
  · rfl
  · simp [stage, SessionCleanup.teardownWifiDirect, SessionCleanup.stopStreaming,
      SessionCleanup.finalizeRecording]

theorem wifiStop_stage [IContinuousRecorder ρ] [IPlatformStreamer γ] (p : Ports γ) {cmd : Command}
    (h : cmd.payload = some .stopWifiDirect)
    (d : Device ρ γ) :
    (d.command p cmd).stage = if d.session.phase = .idle then d.stage else ⟨.connected, d.stage.active⟩ := by
  rw [command_eq p cmd d h]
  show (WifiDirectHandler.handleStop.exec d).1.stage = _
  rw [wifiStop_exec]
  split <;> simp [stage, *]

theorem phaseAgrees_iff_stage (d : Device ρ γ) :
    d.PhaseAgrees ↔ (d.stage.phase = .recording ↔ d.stage.active = true) := by
  simp [PhaseAgrees, stage]

end Device

/-- From agreement, a move leads to agreement unless it takes the group from a recording. -/
theorem Moves.agrees {payload : Option CommandPayload} {a b : Stage} (move : Moves payload a b)
    (agrees : a.phase = .recording ↔ a.active = true)
    (kept : ¬(payload = some .stopWifiDirect ∧ a.phase = .recording)) :
    b.phase = .recording ↔ b.active = true := by
  cases move with
  | stay => exact agrees
  | groupUp | configured | overlayReady => simpa using agrees
  | recordingStart => simp
  | groupDown awake =>
    have notRecording : a.phase ≠ .recording := fun h => kept ⟨rfl, h⟩
    simpa [notRecording] using agrees
  | recordingStop =>
    by_cases h : a.phase = .recording <;> simp [h]

namespace Device

theorem start_phaseAgrees (recorder : ρ) : (start (γ := γ) recorder).PhaseAgrees := by
  simp [PhaseAgrees, start]

variable [IContinuousRecorder ρ] [IPlatformStreamer γ]

/-- From agreement, a step keeps it exactly when it does not take the group from a recording. -/
theorem phaseAgrees_step_iff (d : Device ρ γ) (e : DeviceEvent γ) (agrees : d.PhaseAgrees) :
    (d.step e).PhaseAgrees ↔ ¬d.StopsGroupOfRecording e := by
  rw [phaseAgrees_iff_stage] at agrees ⊢
  cases e with
  | connect =>
    rw [step, connect_stage]
    split
    case isTrue idle =>
      have notRecording : d.stage.phase ≠ .recording := by simp [stage, idle]
      simpa [StopsGroupOfRecording, notRecording] using agrees
    case isFalse => simpa [StopsGroupOfRecording] using agrees
  | disconnect p =>
    rw [step, disconnect_stage]
    split
    · simpa [StopsGroupOfRecording] using agrees
    · simp [StopsGroupOfRecording]
  | tick p => simpa [step, tick_stage, StopsGroupOfRecording] using agrees
  | frame f => simpa [step, pushFrame, stage, StopsGroupOfRecording] using agrees
  | command p cmd =>
    refine ⟨fun after taken => ?_, (command_moves p cmd d).agrees agrees⟩
    obtain ⟨stop, recording⟩ := taken
    have active : d.stage.active = true := agrees.1 recording
    rw [step, wifiStop_stage p stop, recording] at after
    simp [active] at after

/-- **Phase and recorder.** Along every run the phase is Recording exactly while the recorder is
held, provided no step stops the WiFi Direct group of a recording session; and only then. -/
theorem phase_agrees_along_iff (recorder : ρ) (es : List (DeviceEvent γ)) :
    Runs.Along step (fun d e => (d.step e).PhaseAgrees) (start recorder) es ↔
      Runs.Along step (fun d e => ¬d.StopsGroupOfRecording e) (start recorder) es :=
  Runs.along_iff phaseAgrees_step_iff (fun d e agrees kept => (phaseAgrees_step_iff d e agrees).2 kept)
    (start_phaseAgrees recorder) es

/-- Ports on which everything succeeds. -/
def fieldPorts : Ports StreamerPort where
  group := some { ssid := "DIRECT-sst", psk := "12345678", groupInterface := "p2p-wlan0-0",
                  groupOwnerIp := "192.168.49.1", role := "GO" }
  dhcpLaunched := some 4242
  made := some {}

/-- A central that connects and brings the session to Ready. -/
def readySession : List (DeviceEvent StreamerPort) :=
  [.connect,
    .command fieldPorts { payload := some .startWifiDirect },
    .command fieldPorts { payload := some (.pushSessionConfig { videoOutputPath := "match.mp4" }) },
    .command fieldPorts { payload := some (.pushOverlayLayout {}) }]

/-- Start a recording, then stop the group: the phase is Connected and the recorder runs on. -/
theorem phase_disagrees_after_group_stop :
    ¬∀ es : List (DeviceEvent StreamerPort),
      Runs.Along step (fun d e => (d.step e).PhaseAgrees) (start ({} : RecorderPort)) es := by
  intro all
  have run := all (readySession ++
    [.command fieldPorts { payload := some (.recordingControl .start) },
      .command fieldPorts { payload := some .stopWifiDirect }])
  exact absurd run (by decide)

end Device

end SstCam
