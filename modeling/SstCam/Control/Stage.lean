import SstCam.Control.Footprint

/-!
# The stage of the session

The phase together with whether the recorder is held: the two state machines the handlers keep
in step by the order of their calls. `Moves` says what a command may do to the stage, and
`command_moves` that this is all the handlers do.
-/

namespace SstCam
set_option autoImplicit false

open Atomic Device

/-- The session's phase, and whether a recording is active (recording or paused). -/
structure Stage where
  phase : SessionPhase
  active : Bool
  deriving DecidableEq, Repr

/-- The moves of the stage, by the payload of the command. -/
inductive Moves : Option CommandPayload → Stage → Stage → Prop
  | stay (payload : Option CommandPayload) (a : Stage) : Moves payload a a
  | groupUp (active : Bool) : Moves (some .startWifiDirect) ⟨.connected, active⟩ ⟨.wifiReady, active⟩
  | groupDown (a : Stage) (awake : a.phase ≠ .idle) : Moves (some .stopWifiDirect) a ⟨.connected, a.active⟩
  | configured (msg : PushSessionConfigCommand) (active : Bool) :
    Moves (some (.pushSessionConfig msg)) ⟨.wifiReady, active⟩ ⟨.configured, active⟩
  | overlayReady (layout : Proto.OverlayLayout) (active : Bool) :
    Moves (some (.pushOverlayLayout layout)) ⟨.configured, active⟩ ⟨.ready, active⟩
  | recordingStart : Moves (some (.recordingControl .start)) ⟨.ready, false⟩ ⟨.recording, true⟩
  | recordingStop (a : Stage) :
    Moves (some (.recordingControl .stop)) a ⟨if a.phase = .recording then .ready else a.phase, false⟩

variable {ρ γ : Type}

/-- Where the device stands. -/
def Device.stage (d : Device ρ γ) : Stage where
  phase := d.session.phase
  active := d.recording.state.isActive

theorem stage_eq {a b : Device ρ γ} (phase : b.session.phase = a.session.phase) (recording : b.recording = a.recording) :
    b.stage = a.stage := by
  rw [stage, phase, recording]
  rfl

/-- What touches neither the session nor the recorder leaves the stage. -/
theorem Touches.stage_eq {parts : List Part} {a b : Device ρ γ} (h : Touches parts a b)
    (session : Part.session ∉ parts) (recording : Part.recording ∉ parts) : b.stage = a.stage :=
  SstCam.stage_eq (congrArg SessionState.phase (h .session session)) (h .recording recording)

theorem Moves.of_eq {payload : Option CommandPayload} {a b : Stage} (h : b = a) : Moves payload a b :=
  h ▸ .stay payload a

/-! ## Handlers that move the phase -/

theorem syncOverlay_session (p : Ports γ) (d : Device ρ γ) :
    ((MatchHandler.syncOverlay p).exec d).1.session = d.session := by
  simp [MatchHandler.syncOverlay]

theorem tick_stage (p : Ports γ) (d : Device ρ γ) : (d.tick p).stage = d.stage := by
  have recording : (d.tick p).recording = d.recording := tick_touches p d .recording (by decide)
  have phase : (d.tick p).session.phase = d.session.phase := by
    unfold tick MatchHandler.tickClock
    rw [Prog.exec_bind]
    split
    · rw [syncOverlay_session]
      simp
    · simp
  exact stage_eq phase recording

/-- Before a configuration the clock does not tick. -/
theorem tick_unconfigured (p : Ports γ) {d : Device ρ γ} (early : d.session.phase < .configured) : d.tick p = d := by
  have rejected : SessionManager.applyMatchUpdate MatchHandler.advanceClock d.session = (d.session, false) :=
    if_pos early
  simp [tick, MatchHandler.tickClock, rejected]

theorem matchControl_phase (p : Ports γ) (msg : MatchControlCommand) (d : Device ρ γ) :
    ((MatchHandler.handleMatchControl p msg).exec d).1.session.phase = d.session.phase := by
  unfold MatchHandler.handleMatchControl
  rw [Prog.exec_bind]
  split
  · simp
  · rw [Prog.exec_bind, Prog.exec_pure, syncOverlay_session]
    simp

theorem scoreUpdate_phase (p : Ports γ) (msg : ScoreUpdateCommand) (d : Device ρ γ) :
    ((MatchHandler.handleScoreUpdate p msg).exec d).1.session.phase = d.session.phase := by
  unfold MatchHandler.handleScoreUpdate
  rw [Prog.exec_bind]
  split
  · rfl
  · dsimp only
    split
    · rfl
    · rw [Prog.exec_bind]
      split
      · simp
      · rw [Prog.exec_bind, Prog.exec_pure, syncOverlay_session]
        simp

/-- What a StartWifiDirect comes to: one case for each point at which the handler returns. -/
inductive WifiStarted (p : Ports γ) (d : Device ρ γ) : Device ρ γ × CommandResponse → Prop
  | notFormed (no : p.group = none) :
    WifiStarted p d (d, .error "failed to form WiFi Direct group owner")
  | noDhcp (group : WifiDirectGroup) (formed : p.group = some group)
    (refused : (DnsmasqDhcpServer.start group.groupInterface p.dhcpLaunched d.dhcp).2 = false) :
    WifiStarted p d
      ({ d with
          wifi := {}
          dhcp := (DnsmasqDhcpServer.start group.groupInterface p.dhcpLaunched d.dhcp).1 },
        .error "failed to start DHCP on the WiFi Direct group")
  | notReady (group : WifiDirectGroup) (formed : p.group = some group)
    (serving : (DnsmasqDhcpServer.start group.groupInterface p.dhcpLaunched d.dhcp).2 = true)
    (idle : d.session.phase = .idle) :
    WifiStarted p d
      ({ d with wifi := {}, dhcp := {} }, .error "WiFi Direct group up but session not ready to accept it")
  | up (group : WifiDirectGroup) (formed : p.group = some group)
    (serving : (DnsmasqDhcpServer.start group.groupInterface p.dhcpLaunched d.dhcp).2 = true)
    (awake : d.session.phase ≠ .idle) :
    WifiStarted p d
      ({ d with
          wifi := { group := some group }
          dhcp := (DnsmasqDhcpServer.start group.groupInterface p.dhcpLaunched d.dhcp).1
          session := (SessionManager.onWifiReady d.session).1
          streaming := (StreamingService.startAppStream
            { address := group.groupOwnerIp, port := previewPort % 2 ^ 16 } p.attaches d.streaming).1 },
        WifiDirectHandler.groupResponse group)

theorem wifiStarted (p : Ports γ) (d : Device ρ γ) :
    WifiStarted p d ((WifiDirectHandler.handleStart p).exec d) := by
  unfold WifiDirectHandler.handleStart
  cases formed : p.group with
  | none =>
    have out := WifiStarted.notFormed (d := d) formed
    simpa [WpaWifiManager.startP2pGroupOwner] using out
  | some group =>
    cases serving : (DnsmasqDhcpServer.start group.groupInterface p.dhcpLaunched d.dhcp).2 with
    | false =>
      have out := WifiStarted.noDhcp group formed serving
      simpa [WpaWifiManager.startP2pGroupOwner, WpaWifiManager.stop, serving] using out
    | true =>
      by_cases idle : d.session.phase = .idle
      · have out := WifiStarted.notReady group formed serving idle
        have same : (SessionManager.onWifiReady d.session).1 = d.session := by
          simp [SessionManager.onWifiReady, idle]
        simpa [WpaWifiManager.startP2pGroupOwner, WpaWifiManager.stop, DnsmasqDhcpServer.stop, serving, idle,
          SessionManager.onWifiReady_snd, same] using out
      · have out := WifiStarted.up group formed serving idle
        simpa [WpaWifiManager.startP2pGroupOwner, serving, idle, SessionManager.onWifiReady_snd] using out

theorem wifiStop_exec (d : Device ρ γ) :
    WifiDirectHandler.handleStop.exec d =
      ({ d with dhcp := {}, wifi := {}, session := (SessionManager.onWifiStopped d.session).1 }, .okay) := by
  simp [WifiDirectHandler.handleStop, WpaWifiManager.stop, DnsmasqDhcpServer.stop]

/-- What a RecordingControl comes to. Between the check of the phase and the transition nothing
moves the phase, so a started recorder is never rolled back here. -/
inductive RecordingControlled [IContinuousRecorder ρ] (p : Ports γ) (action : RecordingAction) (d : Device ρ γ) :
    Device ρ γ × CommandResponse → Prop
  | refused (resp : CommandResponse) (bad : resp.status = .error) : RecordingControlled p action d (d, resp)
  | notStarted (config : SessionConfig) (start : action = .start)
    (no : (RecordingService.startRecording config.videoOutputPath config.thumbnailOutputPath
      p.enoughSpace p.recorderStarts d.recording).2 = false) :
    RecordingControlled p action d
      ({ d with recording := (RecordingService.startRecording config.videoOutputPath config.thumbnailOutputPath
          p.enoughSpace p.recorderStarts d.recording).1 },
        .error "recorder failed to start (disk full or already running)")
  | started (config : SessionConfig) (start : action = .start) (ready : d.session.phase = .ready)
    (yes : (RecordingService.startRecording config.videoOutputPath config.thumbnailOutputPath
      p.enoughSpace p.recorderStarts d.recording).2 = true) :
    RecordingControlled p action d
      ({ d with
          session := { d.session with phase := .recording }
          recording := (RecordingService.startRecording config.videoOutputPath config.thumbnailOutputPath
            p.enoughSpace p.recorderStarts d.recording).1 }, .okay)
  | stopped (resp : CommandResponse) (stop : action = .stop) :
    RecordingControlled p action d
      ({ d with
          session := (SessionManager.onRecordingStop d.session).1
          recording := (RecordingService.stop p.thumbnailWritten d.recording).1 }, resp)
  | paused (resp : CommandResponse) (pause : action = .pause) :
    RecordingControlled p action d ({ d with recording := (RecordingService.pause d.recording).1 }, resp)
  | resumed (resp : CommandResponse) (resume : action = .resume) :
    RecordingControlled p action d ({ d with recording := (RecordingService.resume d.recording).1 }, resp)

theorem recordingControlled [IContinuousRecorder ρ] (p : Ports γ) (cmd : Command) (d : Device ρ γ) :
    RecordingControlled p cmd.recordingControl d ((RecordingHandler.handle p cmd).exec d) := by
  unfold RecordingHandler.handle
  cases action : cmd.recordingControl with
  | start =>
    rw [Prog.exec_bind, exec_snapshot]
    dsimp only
    cases d.session.config with
    | none => exact .refused _ rfl
    | some config =>
      by_cases ready : d.session.phase = .ready
      · cases yes : (RecordingService.startRecording config.videoOutputPath config.thumbnailOutputPath
            p.enoughSpace p.recorderStarts d.recording).2 with
        | false =>
          have out : RecordingControlled p .start d _ := .notStarted config rfl yes
          simpa [ready, yes] using out
        | true =>
          have out : RecordingControlled p .start d _ := .started config rfl ready yes
          simpa [ready, yes, SessionManager.onRecordingStart] using out
      · have out : RecordingControlled p .start d
            (d, .error "recording start rejected: session not ready") := .refused _ rfl
        simpa [ready] using out
  | stop =>
    exact .stopped _ rfl
  | pause =>
    exact .paused _ rfl
  | resume =>
    exact .resumed _ rfl
  | unrecognized n => exact .refused _ rfl

/-! ## Moves -/

theorem wifiStart_moves (p : Ports γ) (d : Device ρ γ) :
    Moves (some .startWifiDirect) d.stage ((WifiDirectHandler.handleStart p).exec d).1.stage := by
  have started := wifiStarted p d
  generalize (WifiDirectHandler.handleStart p).exec d = run at started
  cases started with
  | notFormed | noDhcp | notReady => exact .of_eq rfl
  | up group formed serving awake =>
    by_cases connected : d.session.phase = .connected
    · have moved := Moves.groupUp d.stage.active
      simpa [stage, connected] using moved
    · exact .of_eq (stage_eq (by simp [connected]) rfl)

theorem wifiStop_moves (d : Device ρ γ) :
    Moves (some .stopWifiDirect) d.stage (WifiDirectHandler.handleStop.exec d).1.stage := by
  rw [wifiStop_exec]
  by_cases idle : d.session.phase = .idle
  · exact .of_eq (stage_eq (by simp [idle]) rfl)
  · have moved := Moves.groupDown d.stage idle
    simpa [stage, idle] using moved

theorem sessionConfig_moves (p : Ports γ) (cmd : Command) (msg : PushSessionConfigCommand) (d : Device ρ γ) :
    Moves (some (.pushSessionConfig msg)) d.stage ((SessionHandler.handle p cmd).exec d).1.stage := by
  simp only [SessionHandler.handle, Prog.exec_bind, exec_callSession, Prog.exec_pure]
  rcases SessionManager.applySessionConfig_phase p.mkdir (sessionConfigOf cmd.pushSessionConfig) d.session with
    same | ⟨before, after⟩
  · exact .of_eq (stage_eq same rfl)
  · have moved := Moves.configured msg d.stage.active
    simpa [stage, before, after] using moved

theorem overlayLayout_session (p : Ports γ) (cmd : Command) (d : Device ρ γ) :
    ((OverlayHandler.handle p cmd).exec d).1.session = (SessionManager.onOverlayConfigured d.session).1 := by
  unfold OverlayHandler.handle
  rw [Prog.exec_bind]
  split <;> simp

theorem overlayLayout_moves (p : Ports γ) (cmd : Command) (layout : Proto.OverlayLayout) (d : Device ρ γ) :
    Moves (some (.pushOverlayLayout layout)) d.stage ((OverlayHandler.handle p cmd).exec d).1.stage := by
  have recording : ((OverlayHandler.handle p cmd).exec d).1.recording = d.recording :=
    exec_touches (overlayHandler_touches p cmd) d .recording (by decide)
  have session := overlayLayout_session p cmd d
  rcases SessionManager.onOverlayConfigured_phase d.session with same | ⟨before, after⟩
  · exact .of_eq (stage_eq (by rw [session, same]) recording)
  · have moved := Moves.overlayReady layout d.stage.active
    simpa [stage, session, recording, before, after] using moved

theorem recordingControl_moves [IContinuousRecorder ρ] (p : Ports γ) (cmd : Command) (d : Device ρ γ) :
    Moves (some (.recordingControl cmd.recordingControl)) d.stage ((RecordingHandler.handle p cmd).exec d).1.stage := by
  have controlled := recordingControlled p cmd d
  generalize (RecordingHandler.handle p cmd).exec d = run at controlled
  cases controlled with
  | refused resp bad => exact .of_eq rfl
  | notStarted config start no =>
    rcases RecordingService.startRecording_state config.videoOutputPath config.thumbnailOutputPath p.enoughSpace
      p.recorderStarts d.recording with ⟨yes, -, -⟩ | ⟨-, same⟩
    · exact absurd yes (by simp [no])
    · exact .of_eq (by simp [stage, same])
  | started config start ready yes =>
    rcases RecordingService.startRecording_state config.videoOutputPath config.thumbnailOutputPath p.enoughSpace
      p.recorderStarts d.recording with ⟨-, before, after⟩ | ⟨no, -⟩
    · rw [start]
      simpa [stage, ready, before, after, RecordingState.isActive] using Moves.recordingStart
    · exact absurd yes (by simp [no])
  | stopped resp stop =>
    rw [stop]
    have moved := Moves.recordingStop d.stage
    by_cases recording : d.session.phase = .recording <;> simpa [stage, recording, RecordingState.isActive] using moved
  | paused resp pause => exact .of_eq (by simp only [stage, RecordingService.pause_isActive])
  | resumed resp resume => exact .of_eq (by simp only [stage, RecordingService.resume_isActive])

section
variable [IContinuousRecorder ρ] [IPlatformStreamer γ]

theorem command_none (p : Ports γ) (cmd : Command) (d : Device ρ γ) (h : cmd.payload = none) :
    d.command p cmd = d := by
  rw [command, dispatch_none p cmd h, Prog.exec_pure]

theorem command_eq (p : Ports γ) (cmd : Command) (d : Device ρ γ) {payload : CommandPayload}
    (h : cmd.payload = some payload) : d.command p cmd = ((handlerFor p cmd payload).exec d).1 := by
  rw [command, dispatch_eq p cmd h, Prog.exec_map]

theorem response_eq (p : Ports γ) (cmd : Command) (d : Device ρ γ) {payload : CommandPayload}
    (h : cmd.payload = some payload) :
    d.response p cmd = echo cmd ((handlerFor p cmd payload).exec d).2 := by
  rw [response, dispatch_eq p cmd h, Prog.exec_map]

/-- **A command moves the stage only as the machine allows.** -/
theorem command_moves (p : Ports γ) (cmd : Command) (d : Device ρ γ) :
    Moves cmd.payload d.stage (d.command p cmd).stage := by
  cases h : cmd.payload with
  | none =>
    rw [command_none p cmd d h]
    exact .stay _ _
  | some payload =>
    have touched := exec_touches (handlerFor_touches p cmd payload) d
    rw [command_eq p cmd d h]
    cases payload with
    | startWifiDirect => exact wifiStart_moves p d
    | stopWifiDirect => exact wifiStop_moves d
    | pushSessionConfig msg => exact sessionConfig_moves p cmd msg d
    | pushOverlayLayout layout => exact overlayLayout_moves p cmd layout d
    | matchControl msg =>
      exact .of_eq (stage_eq (matchControl_phase p msg d) (touched .recording (by simp [CommandPayload.parts])))
    | scoreUpdate msg =>
      exact .of_eq (stage_eq (scoreUpdate_phase p msg d) (touched .recording (by simp [CommandPayload.parts])))
    | recordingControl action =>
      have named : cmd.recordingControl = action := by rw [Command.recordingControl, h]
      exact named ▸ recordingControl_moves p cmd d
    | _ => exact .of_eq (touched.stage_eq (by simp [CommandPayload.parts]) (by simp [CommandPayload.parts]))

end

/-! ## The streams -/

/-- The moves of the streaming service, by the payload of the command. -/
inductive StreamingMoves [IPlatformStreamer γ] (p : Ports γ) (s : StreamingService AppStreamPort γ) :
    Option CommandPayload → StreamingService AppStreamPort γ → Prop
  | stay (payload : Option CommandPayload) : StreamingMoves p s payload s
  | preview (config : AppStreamConfig) :
    StreamingMoves p s (some .startWifiDirect) (StreamingService.startAppStream config p.attaches s).1
  | start (msg : StreamingControlCommand) (destination : String) :
    StreamingMoves p s (some (.streamingControl msg))
      (StreamingService.startPlatformStream (StreamingHandler.egressConfig destination) p.made p.accepts s).1
  | stop (msg : StreamingControlCommand) :
    StreamingMoves p s (some (.streamingControl msg))
      (StreamingService.stopPlatformStream StreamingHandler.egressStreamId s).1

theorem streamingControl_streaming [IPlatformStreamer γ] (p : Ports γ) (msg : StreamingControlCommand) (d : Device ρ γ) :
    StreamingMoves p d.streaming (some (.streamingControl msg))
      ((StreamingHandler.handleControl p msg).exec d).1.streaming := by
  have start : ∀ destination, StreamingMoves p d.streaming (some (.streamingControl msg))
      ((StreamingHandler.startStream p destination).exec d).1.streaming := by
    intro destination
    unfold StreamingHandler.startStream
    split
    · exact .stay _
    · exact .start msg destination
  unfold StreamingHandler.handleControl
  split
  · split
    · exact start _
    · exact start _
  · exact .stop msg
  · exact .stay _

/-- **A command moves the streams only so.** -/
theorem command_streaming [IContinuousRecorder ρ] [IPlatformStreamer γ] (p : Ports γ) (cmd : Command) (d : Device ρ γ) :
    StreamingMoves p d.streaming cmd.payload (d.command p cmd).streaming := by
  cases h : cmd.payload with
  | none =>
    rw [command_none p cmd d h]
    exact .stay _
  | some payload =>
    have touched := exec_touches (handlerFor_touches p cmd payload) d
    rw [command_eq p cmd d h]
    cases payload with
    | startWifiDirect =>
      have started := wifiStarted p d
      show StreamingMoves p _ _ ((WifiDirectHandler.handleStart p).exec d).1.streaming
      generalize (WifiDirectHandler.handleStart p).exec d = run at started
      cases started with
      | notFormed | noDhcp | notReady => exact .stay _
      | up group => exact .preview _
    | streamingControl msg => exact streamingControl_streaming p msg d
    | _ =>
      have same : ((handlerFor p cmd _).exec d).1.streaming = d.streaming :=
        touched .streaming (by simp [CommandPayload.parts])
      rw [same]
      exact .stay _

end SstCam
