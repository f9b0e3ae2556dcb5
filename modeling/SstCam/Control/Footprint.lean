import SstCam.Control.Firmware

/-!
# What a command can touch

The parts of the device each handler works on. A part outside the footprint of a payload is the
same before and after the command, and at every call in between.
-/

namespace SstCam
set_option autoImplicit false

open Atomic Device

variable {ρ γ α : Type}

/-- The separately locked parts of the device. -/
inductive Part where
  | session
  | recording
  | streaming
  | wifi
  | dhcp
  | overlay
  | url
  | rawCapture
  deriving DecidableEq, Repr

/-- The part is the same in both devices. -/
def Part.Same : Part → Device ρ γ → Device ρ γ → Prop
  | .session, a, b => b.session = a.session
  | .recording, a, b => b.recording = a.recording
  | .streaming, a, b => b.streaming = a.streaming
  | .wifi, a, b => b.wifi = a.wifi
  | .dhcp, a, b => b.dhcp = a.dhcp
  | .overlay, a, b => b.overlay = a.overlay
  | .url, a, b => b.configuredRtmpUrl = a.configuredRtmpUrl
  | .rawCapture, a, b => b.rawCapture = a.rawCapture

/-- Only the listed parts differ. -/
def Touches (parts : List Part) (a b : Device ρ γ) : Prop :=
  ∀ part, part ∉ parts → part.Same a b

theorem Touches.refl (parts : List Part) (a : Device ρ γ) : Touches parts a a := by
  intro part _
  cases part <;> rfl

theorem Touches.trans {parts : List Part} {a b c : Device ρ γ} (ab : Touches parts a b) (bc : Touches parts b c) :
    Touches parts a c := by
  intro part h
  have first := ab part h
  have second := bc part h
  cases part <;> exact second.trans first

/-- A program that touches the listed parts only leaves the others as it finds them. -/
theorem exec_touches {parts : List Part} {prog : Prog Call (Device ρ γ) α} (h : prog.Within fun _ => Touches parts)
    (d : Device ρ γ) : Touches parts d (prog.exec d).1 :=
  Prog.exec_within (Touches.refl parts) (fun _ _ _ => Touches.trans) h d

/-! ## Calls -/

section
variable {parts : List Part} {name : Call}

theorem callSession_touches {f : SessionState → SessionState × α} (h : .session ∈ parts) :
    (callSession (ρ := ρ) (γ := γ) name f).Within fun _ => Touches parts := by
  refine Prog.within_atomically.2 fun d part away => ?_
  cases part <;> first | rfl | exact absurd h away

/-- A call that leaves the session as it is. -/
theorem snapshot_touches : (snapshot (ρ := ρ) (γ := γ)).Within fun _ => Touches parts := by
  refine Prog.within_atomically.2 fun d part _ => ?_
  cases part <;> rfl

theorem callRecording_touches {f : RecordingService ρ → RecordingService ρ × α} (h : .recording ∈ parts) :
    (callRecording (γ := γ) name f).Within fun _ => Touches parts := by
  refine Prog.within_atomically.2 fun d part away => ?_
  cases part <;> first | rfl | exact absurd h away

theorem callStreaming_touches {f : StreamingService AppStreamPort γ → StreamingService AppStreamPort γ × α}
    (h : .streaming ∈ parts) : (callStreaming (ρ := ρ) name f).Within fun _ => Touches parts := by
  refine Prog.within_atomically.2 fun d part away => ?_
  cases part <;> first | rfl | exact absurd h away

theorem callWifi_touches {f : WpaWifiManager → WpaWifiManager × α} (h : .wifi ∈ parts) :
    (callWifi (ρ := ρ) (γ := γ) name f).Within fun _ => Touches parts := by
  refine Prog.within_atomically.2 fun d part away => ?_
  cases part <;> first | rfl | exact absurd h away

theorem callDhcp_touches {f : DnsmasqDhcpServer → DnsmasqDhcpServer × α} (h : .dhcp ∈ parts) :
    (callDhcp (ρ := ρ) (γ := γ) name f).Within fun _ => Touches parts := by
  refine Prog.within_atomically.2 fun d part away => ?_
  cases part <;> first | rfl | exact absurd h away

theorem callOverlay_touches {f : OverlayController → OverlayController × α} (h : .overlay ∈ parts) :
    (callOverlay (ρ := ρ) (γ := γ) name f).Within fun _ => Touches parts := by
  refine Prog.within_atomically.2 fun d part away => ?_
  cases part <;> first | rfl | exact absurd h away

theorem callUrl_touches {f : String → String × α} (h : .url ∈ parts) :
    (callUrl (ρ := ρ) (γ := γ) name f).Within fun _ => Touches parts := by
  refine Prog.within_atomically.2 fun d part away => ?_
  cases part <;> first | rfl | exact absurd h away

theorem callRawCapture_touches {f : RawCaptureSink → RawCaptureSink × α} (h : .rawCapture ∈ parts) :
    (callRawCapture (ρ := ρ) (γ := γ) name f).Within fun _ => Touches parts := by
  refine Prog.within_atomically.2 fun d part away => ?_
  cases part <;> first | rfl | exact absurd h away

end

/-! ## Handlers -/

/-- The parts a payload's handler may change. -/
def CommandPayload.parts : CommandPayload → List Part
  | .startWifiDirect => [.session, .streaming, .wifi, .dhcp]
  | .stopWifiDirect => [.session, .wifi, .dhcp]
  | .pushSessionConfig _ => [.session]
  | .pushOverlayLayout _ => [.session, .overlay]
  | .matchControl _ => [.session, .overlay]
  | .scoreUpdate _ => [.session, .overlay]
  | .bannerEvent _ => [.overlay]
  | .recordingControl _ => [.session, .recording]
  | .streamingControl _ => [.streaming]
  | .setStreamingConfig _ => [.url]
  | .rawCapture _ => [.rawCapture]
  | _ => []

theorem syncOverlay_touches {parts : List Part} (p : Ports γ) (h : .overlay ∈ parts) :
    (MatchHandler.syncOverlay (ρ := ρ) p).Within fun _ => Touches parts :=
  snapshot_touches.bind fun _ => (callOverlay_touches h).bind fun _ => (callOverlay_touches h).bind fun _ => trivial

theorem recordingHandler_touches [IContinuousRecorder ρ] (p : Ports γ) (cmd : Command) :
    (RecordingHandler.handle (ρ := ρ) p cmd).Within fun _ => Touches [.session, .recording] := by
  have session : Part.session ∈ [Part.session, .recording] := by decide
  have recording : Part.recording ∈ [Part.session, .recording] := by decide
  unfold RecordingHandler.handle
  split
  · refine snapshot_touches.bind fun state => ?_
    split
    · trivial
    · split
      · trivial
      · refine (callRecording_touches recording).bind fun started => ?_
        split
        · trivial
        · refine (callSession_touches session).bind fun accepted => ?_
          split
          · exact (callRecording_touches recording).bind fun _ => trivial
          · trivial
  · exact (callRecording_touches recording).bind fun _ => (callSession_touches session).bind fun _ => trivial
  · exact (callRecording_touches recording).bind fun _ => trivial
  · exact (callRecording_touches recording).bind fun _ => trivial
  · trivial

theorem wifiStart_touches (p : Ports γ) :
    (WifiDirectHandler.handleStart (ρ := ρ) p).Within fun _ => Touches [.session, .streaming, .wifi, .dhcp] := by
  unfold WifiDirectHandler.handleStart
  refine (callWifi_touches (by decide)).bind fun formed => ?_
  split
  · trivial
  · refine (callDhcp_touches (by decide)).bind fun serving => ?_
    split
    · exact (callWifi_touches (by decide)).bind fun _ => trivial
    · refine (callSession_touches (by decide)).bind fun ready => ?_
      split
      · exact (callDhcp_touches (by decide)).bind fun _ => (callWifi_touches (by decide)).bind fun _ => trivial
      · exact (callStreaming_touches (by decide)).bind fun _ => trivial

theorem wifiStop_touches :
    (WifiDirectHandler.handleStop (ρ := ρ) (γ := γ)).Within fun _ => Touches [.session, .wifi, .dhcp] :=
  (callDhcp_touches (by decide)).bind fun _ => (callWifi_touches (by decide)).bind fun _ =>
    (callSession_touches (by decide)).bind fun _ => trivial

theorem overlayHandler_touches (p : Ports γ) (cmd : Command) :
    (OverlayHandler.handle (ρ := ρ) p cmd).Within fun _ => Touches [.session, .overlay] := by
  have overlay : Part.overlay ∈ [Part.session, .overlay] := by decide
  unfold OverlayHandler.handle
  refine (callSession_touches (by decide)).bind fun accepted => ?_
  split
  · trivial
  · exact (callOverlay_touches overlay).bind fun _ => snapshot_touches.bind fun _ =>
      (callOverlay_touches overlay).bind fun _ => (callOverlay_touches overlay).bind fun _ => trivial

theorem matchControl_touches (p : Ports γ) (msg : MatchControlCommand) :
    (MatchHandler.handleMatchControl (ρ := ρ) p msg).Within fun _ => Touches [.session, .overlay] := by
  unfold MatchHandler.handleMatchControl
  refine (callSession_touches (by decide)).bind fun applied => ?_
  split
  · trivial
  · exact (syncOverlay_touches p (by decide)).bind fun _ => trivial

theorem scoreUpdate_touches (p : Ports γ) (msg : ScoreUpdateCommand) :
    (MatchHandler.handleScoreUpdate (ρ := ρ) p msg).Within fun _ => Touches [.session, .overlay] := by
  unfold MatchHandler.handleScoreUpdate
  refine snapshot_touches.bind fun state => ?_
  split
  · trivial
  · dsimp only
    split
    · trivial
    · refine (callSession_touches (by decide)).bind fun applied => ?_
      split
      · trivial
      · exact (syncOverlay_touches p (by decide)).bind fun _ => trivial

theorem tickClock_touches (p : Ports γ) :
    (MatchHandler.tickClock (ρ := ρ) p).Within fun _ => Touches [.session, .overlay] := by
  unfold MatchHandler.tickClock
  refine (callSession_touches (by decide)).bind fun advanced => ?_
  split
  · exact syncOverlay_touches p (by decide)
  · trivial

theorem streamingControl_touches [IPlatformStreamer γ] (p : Ports γ) (msg : StreamingControlCommand) :
    (StreamingHandler.handleControl (ρ := ρ) p msg).Within fun _ => Touches [.streaming] := by
  have start : ∀ destination, (StreamingHandler.startStream (ρ := ρ) p destination).Within fun _ => Touches [.streaming] := by
    intro destination
    unfold StreamingHandler.startStream
    split
    · trivial
    · exact (callStreaming_touches (by decide)).bind fun _ => trivial
  unfold StreamingHandler.handleControl
  split
  · split
    · refine Prog.Within.bind (Prog.within_atomically.2 fun d part _ => ?_) fun configured => start configured
      cases part <;> rfl
    · exact start _
  · exact (callStreaming_touches (by decide)).bind fun _ => trivial
  · trivial

theorem rawCapture_touches (p : Ports γ) (cmd : Command) :
    (RawCaptureHandler.handle (ρ := ρ) p cmd).Within fun _ => Touches [.rawCapture] := by
  unfold RawCaptureHandler.handle
  split
  · trivial
  · split
    · trivial
    · split
      · trivial
      · exact (callRawCapture_touches (by decide)).bind fun _ => trivial
  · exact (callRawCapture_touches (by decide)).bind fun _ => trivial
  · trivial
  · trivial
  · trivial

/-- The telemetry only reads. -/
theorem telemetry_touches (p : Ports γ) : (DeviceHandler.handleTelemetry (ρ := ρ) p).Within fun _ => Touches [] := by
  refine Prog.Within.bind (Prog.within_atomically.2 fun d part _ => ?_) fun _ =>
    Prog.Within.bind (Prog.within_atomically.2 fun d part _ => ?_) fun _ =>
    Prog.Within.bind (Prog.within_atomically.2 fun d part _ => ?_) fun _ => trivial
  all_goals cases part <;> rfl

section
variable [IContinuousRecorder ρ] [IPlatformStreamer γ]

theorem handlerFor_touches (p : Ports γ) (cmd : Command) (payload : CommandPayload) :
    (handlerFor (ρ := ρ) p cmd payload).Within fun _ => Touches payload.parts := by
  cases payload with
  | getDeviceInfo | getTelemetry =>
    show (DeviceHandler.handle p cmd).Within _
    unfold DeviceHandler.handle
    split
    · trivial
    · exact telemetry_touches p
  | startWifiDirect => exact wifiStart_touches p
  | stopWifiDirect => exact wifiStop_touches
  | pushSessionConfig msg => exact (callSession_touches (List.mem_singleton_self _)).bind fun _ => trivial
  | pushOverlayLayout layout => exact overlayHandler_touches p cmd
  | matchControl msg => exact matchControl_touches p msg
  | scoreUpdate msg => exact scoreUpdate_touches p msg
  | bannerEvent msg =>
    have overlay : Part.overlay ∈ (CommandPayload.bannerEvent msg).parts := List.mem_singleton_self _
    exact (callOverlay_touches overlay).bind fun _ => (callOverlay_touches overlay).bind fun _ => trivial
  | getMatchState => exact snapshot_touches.bind fun _ => trivial
  | recordingControl action => exact recordingHandler_touches p cmd
  | streamingControl msg => exact streamingControl_touches p msg
  | setStreamingConfig url => exact (callUrl_touches (List.mem_singleton_self _)).bind fun _ => trivial
  | rawCapture msg => exact rawCapture_touches p cmd
  | listRecordings | downloadRequest id | thumbnail msg | unwired n => trivial

/-- The parts a command may change: none without a payload. -/
def Command.parts (cmd : Command) : List Part := (cmd.payload.map CommandPayload.parts).getD []

theorem dispatch_touches (p : Ports γ) (cmd : Command) : (dispatch (ρ := ρ) p cmd).Within fun _ => Touches cmd.parts := by
  cases h : cmd.payload with
  | none => simp [dispatch_none p cmd h]
  | some payload =>
    rw [dispatch_eq p cmd h, Command.parts, h]
    exact (handlerFor_touches p cmd payload).map _

/-- **The frame of a command.** -/
theorem command_touches (p : Ports γ) (cmd : Command) (d : Device ρ γ) : Touches cmd.parts d (d.command p cmd) :=
  exec_touches (dispatch_touches p cmd) d

end

theorem tick_touches (p : Ports γ) (d : Device ρ γ) : Touches [.session, .overlay] d (d.tick p) :=
  exec_touches (tickClock_touches p) d

end SstCam
