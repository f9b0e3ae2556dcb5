import SstCam.Control.RecorderPhase
import SstCam.Control.Teardown
import SstCam.Overlay.OverlayLook

/-!
# From one session to the next

A disconnect clears the session and stops what runs. Three things it leaves as they are: the
custom RTMP URL, the overlay and a raw capture (`Link.stop_leaves`). A later session answers and
does the same after two histories if these three are alike (`Link.sessions_isolated`): the device
is then `Matched`, and no handler tells matched devices apart.
-/

namespace SstCam
set_option autoImplicit false

open Atomic Device

variable {ρ γ : Type}

/-- The same device, but for what the overlay may come to and the group a raw capture belongs to. -/
structure Device.Matched (a b : Device ρ γ) : Prop where
  session : a.session = b.session
  recording : a.recording = b.recording
  streaming : a.streaming = b.streaming
  wifi : a.wifi = b.wifi
  dhcp : a.dhcp = b.dhcp
  url : a.configuredRtmpUrl = b.configuredRtmpUrl
  overlay : a.overlay.Matched b.overlay
  rawCapture : a.rawCapture.capturing.isSome = b.rawCapture.capturing.isSome

/-! ## Calls -/

section
variable {name : Call} {α : Type}

theorem callSession_agrees {f : SessionState → SessionState × α} :
    (callSession (ρ := ρ) (γ := γ) name f).Agrees Matched :=
  fun _ _ h => ⟨{ h with session := congrArg (fun s => (f s).1) h.session }, congrArg (fun s => (f s).2) h.session⟩

theorem callRecording_agrees {f : RecordingService ρ → RecordingService ρ × α} :
    (callRecording (γ := γ) name f).Agrees Matched :=
  fun _ _ h => ⟨{ h with recording := congrArg (fun s => (f s).1) h.recording }, congrArg (fun s => (f s).2) h.recording⟩

theorem callStreaming_agrees {f : StreamingService AppStreamPort γ → StreamingService AppStreamPort γ × α} :
    (callStreaming (ρ := ρ) name f).Agrees Matched :=
  fun _ _ h => ⟨{ h with streaming := congrArg (fun s => (f s).1) h.streaming }, congrArg (fun s => (f s).2) h.streaming⟩

theorem callWifi_agrees {f : WpaWifiManager → WpaWifiManager × α} :
    (callWifi (ρ := ρ) (γ := γ) name f).Agrees Matched :=
  fun _ _ h => ⟨{ h with wifi := congrArg (fun s => (f s).1) h.wifi }, congrArg (fun s => (f s).2) h.wifi⟩

theorem callDhcp_agrees {f : DnsmasqDhcpServer → DnsmasqDhcpServer × α} :
    (callDhcp (ρ := ρ) (γ := γ) name f).Agrees Matched :=
  fun _ _ h => ⟨{ h with dhcp := congrArg (fun s => (f s).1) h.dhcp }, congrArg (fun s => (f s).2) h.dhcp⟩

theorem callUrl_agrees {f : String → String × α} : (callUrl (ρ := ρ) (γ := γ) name f).Agrees Matched :=
  fun _ _ h => ⟨{ h with url := congrArg (fun s => (f s).1) h.url }, congrArg (fun s => (f s).2) h.url⟩

/-- A call that sees of a raw capture only whether one runs. -/
theorem callRawCapture_agrees {f : RawCaptureSink → RawCaptureSink × α}
    (blind : ∀ r s : RawCaptureSink, r.capturing.isSome = s.capturing.isSome →
      (f r).1.capturing.isSome = (f s).1.capturing.isSome ∧ (f r).2 = (f s).2) :
    (callRawCapture (ρ := ρ) (γ := γ) name f).Agrees Matched :=
  fun _ _ h => ⟨{ h with rawCapture := (blind _ _ h.rawCapture).1 }, (blind _ _ h.rawCapture).2⟩

end

theorem snapshot_agrees : (snapshot (ρ := ρ) (γ := γ)).Agrees Matched := callSession_agrees

/-! ## Handlers -/

theorem syncOverlay_agrees (p : Ports γ) : (MatchHandler.syncOverlay (ρ := ρ) p).Agrees Matched := by
  intro a b h
  simp only [MatchHandler.syncOverlay, Prog.exec_bind, Prog.exec_pure, exec_snapshot, exec_callOverlay, h.session]
  exact ⟨{ h with session := rfl, overlay := (h.overlay.setBindingData _).refresh p.nowMs }, trivial⟩

theorem bannerEvent_agrees (p : Ports γ) (msg : BannerEventCommand) :
    (MatchHandler.handleBannerEvent (ρ := ρ) p msg).Agrees Matched :=
  fun _ _ h => ⟨{ h with overlay := (h.overlay.activateBanner _ _ _ p.nowMs).refresh p.nowMs }, rfl⟩

/-- The layout, its data and the refresh, taken together. -/
theorem overlayHandler_agrees (p : Ports γ) (cmd : Command) : (OverlayHandler.handle (ρ := ρ) p cmd).Agrees Matched := by
  unfold OverlayHandler.handle
  refine callSession_agrees.bind fun accepted => ?_
  split
  · exact Prog.agrees_pure _
  · intro a b h
    simp only [Prog.exec_bind, Prog.exec_pure, exec_snapshot, exec_callOverlay, h.session]
    exact ⟨{ h with session := rfl, overlay := (h.overlay.setLayout _ _).refresh p.nowMs }, trivial⟩

theorem matchControl_agrees (p : Ports γ) (msg : MatchControlCommand) :
    (MatchHandler.handleMatchControl (ρ := ρ) p msg).Agrees Matched := by
  unfold MatchHandler.handleMatchControl
  refine callSession_agrees.bind fun applied => ?_
  split
  · exact Prog.agrees_pure _
  · exact (syncOverlay_agrees p).bind fun _ => Prog.agrees_pure _

theorem scoreUpdate_agrees (p : Ports γ) (msg : ScoreUpdateCommand) :
    (MatchHandler.handleScoreUpdate (ρ := ρ) p msg).Agrees Matched := by
  unfold MatchHandler.handleScoreUpdate
  refine snapshot_agrees.bind fun state => ?_
  split
  · exact Prog.agrees_pure _
  · dsimp only
    split
    · exact Prog.agrees_pure _
    · refine callSession_agrees.bind fun applied => ?_
      split
      · exact Prog.agrees_pure _
      · exact (syncOverlay_agrees p).bind fun _ => Prog.agrees_pure _

theorem tickClock_agrees (p : Ports γ) : (MatchHandler.tickClock (ρ := ρ) p).Agrees Matched := by
  unfold MatchHandler.tickClock
  refine callSession_agrees.bind fun advanced => ?_
  split
  · exact syncOverlay_agrees p
  · exact Prog.agrees_pure _

theorem recordingHandler_agrees [IContinuousRecorder ρ] (p : Ports γ) (cmd : Command) :
    (RecordingHandler.handle (ρ := ρ) p cmd).Agrees Matched := by
  unfold RecordingHandler.handle
  split
  · refine snapshot_agrees.bind fun state => ?_
    split
    · exact Prog.agrees_pure _
    · split
      · exact Prog.agrees_pure _
      · refine callRecording_agrees.bind fun started => ?_
        split
        · exact Prog.agrees_pure _
        · refine callSession_agrees.bind fun accepted => ?_
          split
          · exact callRecording_agrees.bind fun _ => Prog.agrees_pure _
          · exact Prog.agrees_pure _
  · exact callRecording_agrees.bind fun _ => callSession_agrees.bind fun _ => Prog.agrees_pure _
  · exact callRecording_agrees.bind fun _ => Prog.agrees_pure _
  · exact callRecording_agrees.bind fun _ => Prog.agrees_pure _
  · exact Prog.agrees_pure _

theorem wifiStart_agrees (p : Ports γ) : (WifiDirectHandler.handleStart (ρ := ρ) p).Agrees Matched := by
  unfold WifiDirectHandler.handleStart
  refine callWifi_agrees.bind fun formed => ?_
  split
  · exact Prog.agrees_pure _
  · refine callDhcp_agrees.bind fun serving => ?_
    split
    · exact callWifi_agrees.bind fun _ => Prog.agrees_pure _
    · refine callSession_agrees.bind fun ready => ?_
      split
      · exact callDhcp_agrees.bind fun _ => callWifi_agrees.bind fun _ => Prog.agrees_pure _
      · exact callStreaming_agrees.bind fun _ => Prog.agrees_pure _

theorem wifiStop_agrees : (WifiDirectHandler.handleStop (ρ := ρ) (γ := γ)).Agrees Matched :=
  callDhcp_agrees.bind fun _ => callWifi_agrees.bind fun _ => callSession_agrees.bind fun _ => Prog.agrees_pure _

theorem streamingControl_agrees [IPlatformStreamer γ] (p : Ports γ) (msg : StreamingControlCommand) :
    (StreamingHandler.handleControl (ρ := ρ) p msg).Agrees Matched := by
  have start : ∀ destination, (StreamingHandler.startStream (ρ := ρ) p destination).Agrees Matched := by
    intro destination
    unfold StreamingHandler.startStream
    split
    · exact Prog.agrees_pure _
    · exact callStreaming_agrees.bind fun _ => Prog.agrees_pure _
  unfold StreamingHandler.handleControl
  split
  · split
    · exact callUrl_agrees.bind fun configured => start configured
    · exact start _
  · exact callStreaming_agrees.bind fun _ => Prog.agrees_pure _
  · exact Prog.agrees_pure _

theorem rawCapture_agrees (p : Ports γ) (cmd : Command) : (RawCaptureHandler.handle (ρ := ρ) p cmd).Agrees Matched := by
  have start : ∀ captureGroupId opens (r s : RawCaptureSink), r.capturing.isSome = s.capturing.isSome →
      (RawCaptureSink.start captureGroupId opens r).1.capturing.isSome =
          (RawCaptureSink.start captureGroupId opens s).1.capturing.isSome ∧
        (RawCaptureSink.start captureGroupId opens r).2 = (RawCaptureSink.start captureGroupId opens s).2 := by
    intro captureGroupId opens r s same
    unfold RawCaptureSink.start
    rw [same]
    split_ifs <;> exact ⟨by simp [same], rfl⟩
  have stop : ∀ r s : RawCaptureSink, r.capturing.isSome = s.capturing.isSome →
      r.stop.1.capturing.isSome = s.stop.1.capturing.isSome ∧ r.stop.2 = s.stop.2 := by
    intro r s same
    unfold RawCaptureSink.stop
    rw [← Option.not_isSome, ← Option.not_isSome, same]
    split_ifs <;> exact ⟨by simp [same], rfl⟩
  unfold RawCaptureHandler.handle
  split
  · exact Prog.agrees_pure _
  · split
    · exact Prog.agrees_pure _
    · split
      · exact Prog.agrees_pure _
      · exact (callRawCapture_agrees (start _ _)).bind fun _ => Prog.agrees_pure _
  · exact (callRawCapture_agrees stop).bind fun _ => Prog.agrees_pure _
  · exact Prog.agrees_pure _
  · exact Prog.agrees_pure _
  · exact Prog.agrees_pure _

/-- The telemetry sees of a raw capture only whether one runs. -/
theorem telemetry_agrees (p : Ports γ) : (DeviceHandler.handleTelemetry (ρ := ρ) p).Agrees Matched :=
  callRecording_agrees.bind fun _ => callStreaming_agrees.bind fun _ =>
    (callRawCapture_agrees fun _ _ same => ⟨same, same⟩).bind fun _ => Prog.agrees_pure _

section
variable [IContinuousRecorder ρ] [IPlatformStreamer γ]

theorem handlerFor_agrees (p : Ports γ) (cmd : Command) (payload : CommandPayload) :
    (handlerFor (ρ := ρ) p cmd payload).Agrees Matched := by
  cases payload with
  | getDeviceInfo | getTelemetry =>
    show (DeviceHandler.handle p cmd).Agrees _
    unfold DeviceHandler.handle
    split
    · exact Prog.agrees_pure _
    · exact telemetry_agrees p
  | startWifiDirect => exact wifiStart_agrees p
  | stopWifiDirect => exact wifiStop_agrees
  | pushSessionConfig msg => exact callSession_agrees.bind fun _ => Prog.agrees_pure _
  | pushOverlayLayout layout => exact overlayHandler_agrees p cmd
  | matchControl msg => exact matchControl_agrees p msg
  | scoreUpdate msg => exact scoreUpdate_agrees p msg
  | bannerEvent msg => exact bannerEvent_agrees p msg
  | getMatchState => exact snapshot_agrees.bind fun _ => Prog.agrees_pure _
  | recordingControl action => exact recordingHandler_agrees p cmd
  | streamingControl msg => exact streamingControl_agrees p msg
  | setStreamingConfig url => exact callUrl_agrees.bind fun _ => Prog.agrees_pure _
  | rawCapture msg => exact rawCapture_agrees p cmd
  | listRecordings | downloadRequest id | thumbnail msg | unwired n => exact Prog.agrees_pure _

/-- **No command tells matched devices apart.** -/
theorem dispatch_agrees (p : Ports γ) (cmd : Command) : (dispatch (ρ := ρ) p cmd).Agrees Matched := by
  cases h : cmd.payload with
  | none =>
    rw [dispatch_none p cmd h]
    exact Prog.agrees_pure _
  | some payload =>
    rw [dispatch_eq p cmd h]
    exact (handlerFor_agrees p cmd payload).map _

end

/-! ## Steps -/

namespace Device

theorem Matched.connect {a b : Device ρ γ} (h : a.Matched b) : a.connect.Matched b.connect :=
  { h with session := congrArg (fun s => (SessionManager.onConnect s).1) h.session }

theorem Matched.tick {a b : Device ρ γ} (h : a.Matched b) (p : Ports γ) : (a.tick p).Matched (b.tick p) :=
  (tickClock_agrees p a b h).1

theorem Matched.disconnect [IContinuousRecorder ρ] {a b : Device ρ γ} (h : a.Matched b) (p : Ports γ) :
    (a.disconnect p).Matched (b.disconnect p) := by
  rw [disconnect_eq, disconnect_eq, h.session]
  split
  · exact h
  · exact
      { h with
        session := rfl
        recording := congrArg (fun r => (RecordingService.stop p.thumbnailWritten r).1) h.recording
        streaming := congrArg (fun s => (SessionCleanup.stopStreaming { a with streaming := s }).streaming) h.streaming
        wifi := rfl
        dhcp := rfl }

variable [IContinuousRecorder ρ] [IPlatformStreamer γ]

theorem Matched.response {a b : Device ρ γ} (h : a.Matched b) (p : Ports γ) (cmd : Command) :
    a.response p cmd = b.response p cmd := (dispatch_agrees p cmd a b h).2

theorem Matched.step (a b : Device ρ γ) (e : DeviceEvent γ) (h : a.Matched b) : (a.step e).Matched (b.step e) := by
  cases e with
  | connect => exact h.connect
  | disconnect p => exact h.disconnect p
  | command p cmd => exact (dispatch_agrees p cmd a b h).1
  | tick p => exact h.tick p
  | frame f =>
    exact { h with
      recording := congrArg (RecordingService.push f) h.recording
      streaming := congrArg (StreamingService.push f) h.streaming }

end Device

/-! ## What a later session sees -/

/-- What a session does: its phase, its match, where its stream goes, what is drawn onto its frames
and whether it captures raw. -/
structure SessionEffects where
  phase : SessionPhase
  liveMatch : LiveMatch
  destination : Option String
  overlay : List DrawnElement
  rawCapturing : Bool
  deriving DecidableEq, Repr

def Device.effects (d : Device ρ StreamerPort) : SessionEffects where
  phase := d.session.phase
  liveMatch := d.session.liveMatch
  destination := ((d.streaming.platformStreams.lookup StreamingHandler.egressStreamId).bind (·.streaming)).map (·.url)
  overlay := d.overlay.drawn
  rawCapturing := d.rawCapture.capturing.isSome

theorem Device.Matched.effects {a b : Device ρ StreamerPort} (h : a.Matched b) : a.effects = b.effects := by
  simp only [Device.effects, h.session, h.streaming, h.overlay.drawn, h.rawCapture]

namespace Link

structure Matched (l m : Link ρ γ) : Prop where
  centralPresent : l.centralPresent = m.centralPresent
  device : l.device.Matched m.device

section
variable [IContinuousRecorder ρ] [IPlatformStreamer γ]

/-- The answer to a write, where it completes a command. -/
def response (l : Link ρ γ) : LinkEvent γ → Option CommandResponse
  | .write p cmd => cmd.map ((if l.centralPresent then l.device else l.device.connect).response p)
  | _ => none

theorem Matched.step (l m : Link ρ γ) (e : LinkEvent γ) (h : l.Matched m) : (l.step e).Matched (m.step e) where
  centralPresent := congrArg (present · e) h.centralPresent
  device := by
    rw [Link.step, Link.step, h.centralPresent]
    exact Runs.foldl_rel Device.Matched.step h.device _

theorem Matched.response {l m : Link ρ γ} (h : l.Matched m) (e : LinkEvent γ) : l.response e = m.response e := by
  cases e with
  | write p cmd =>
    have same : ∀ cmd, (if l.centralPresent then l.device else l.device.connect).response p cmd =
        (if m.centralPresent then m.device else m.device.connect).response p cmd := by
      intro cmd
      rw [h.centralPresent]
      split
      · exact h.device.response p cmd
      · exact h.device.connect.response p cmd
    exact congrArg (cmd.map ·) (funext same)
  | _ => rfl

end

/-- What a step of a later session answers and does. -/
def observe [IContinuousRecorder ρ] (l : Link ρ StreamerPort) (e : LinkEvent StreamerPort) :
    Option CommandResponse × SessionEffects :=
  (l.response e, (l.step e).device.effects)

/-- A later session goes the same way after both. -/
theorem Matched.outputs [IContinuousRecorder ρ] {l m : Link ρ StreamerPort} (h : l.Matched m)
    (later : List (LinkEvent StreamerPort)) :
    Runs.outputs Link.step observe l later = Runs.outputs Link.step observe m later :=
  Runs.outputs_eq Matched.step (fun l m e h => congrArg₂ Prod.mk (h.response e) (h.step l m e).device.effects) h later

end Link

/-! ## What a disconnect leaves -/

theorem Device.disconnect_left [IContinuousRecorder ρ] (p : Ports γ) (d : Device ρ γ) :
    (d.disconnect p).configuredRtmpUrl = d.configuredRtmpUrl ∧ (d.disconnect p).overlay = d.overlay ∧
      (d.disconnect p).rawCapture = d.rawCapture := by
  rw [disconnect_eq]
  split <;> exact ⟨rfl, rfl, rfl⟩

/-- An idle recording service keeps nothing of the recordings it made. -/
def RecordingService.Rested (r : RecordingService RecorderPort) : Prop := r.state = .idle → r = { recorder := {} }

namespace RecordingService

variable {r : RecordingService RecorderPort}

theorem Rested.startRecording (h : r.Rested) (video thumbnail : String) (enoughSpace comesUp : Bool) :
    (startRecording video thumbnail enoughSpace comesUp r).1.Rested := by
  by_cases idle : r.state = .idle
  · rw [h idle]
    cases comesUp with
    | false => simp [RecordingService.startRecording, IContinuousRecorder.start, Rested]
    | true =>
      simp only [RecordingService.startRecording, IContinuousRecorder.start]
      split_ifs <;> simp [Rested]
  · have refused : RecordingService.startRecording video thumbnail enoughSpace comesUp r = (r, false) := if_pos idle
    rwa [refused]

theorem Rested.pause (h : r.Rested) : r.pause.1.Rested := by
  unfold RecordingService.pause
  split
  · exact h
  · exact fun idle => by cases idle

theorem Rested.resume (h : r.Rested) : r.resume.1.Rested := by
  unfold RecordingService.resume
  split
  · exact h
  · exact fun idle => by cases idle

theorem Rested.stop (h : r.Rested) (written : Bool) : (r.stop written).1.Rested := by
  unfold RecordingService.stop
  split
  · exact h
  · exact fun _ => rfl

theorem Rested.push (h : r.Rested) (frame : Frame) : (r.push frame).Rested := by
  unfold RecordingService.push
  split
  · exact h
  case isFalse active => exact fun idle => absurd idle active

end RecordingService

section
variable [IPlatformStreamer γ]

theorem Device.command_rested (p : Ports γ) (cmd : Command) {d : Device RecorderPort γ} (h : d.recording.Rested) :
    (d.command p cmd).recording.Rested := by
  cases payload : cmd.payload with
  | none => rwa [command_none p cmd d payload]
  | some payload' =>
    have touched := exec_touches (handlerFor_touches p cmd payload') d
    rw [command_eq p cmd d payload]
    cases payload' with
    | recordingControl action =>
      have run := recordingControlled p cmd d
      show ((RecordingHandler.handle p cmd).exec d).1.recording.Rested
      generalize (RecordingHandler.handle p cmd).exec d = out at run
      cases run with
      | refused => exact h
      | notStarted config | started config => exact h.startRecording _ _ _ _
      | stopped => exact h.stop p.thumbnailWritten
      | paused => exact h.pause
      | resumed => exact h.resume
    | _ =>
      have same : ((handlerFor p cmd _).exec d).1.recording = d.recording :=
        touched .recording (by simp [CommandPayload.parts])
      rwa [same]

theorem Device.step_rested (d : Device RecorderPort γ) (e : DeviceEvent γ) (h : d.recording.Rested) :
    (d.step e).recording.Rested := by
  cases e with
  | connect => exact h
  | disconnect p =>
    show (d.disconnect p).recording.Rested
    rw [disconnect_eq]
    split
    · exact h
    · exact h.stop p.thumbnailWritten
  | command p cmd => exact command_rested p cmd h
  | tick p => exact (tick_touches p d .recording (by decide)) ▸ h
  | frame f => exact h.push f

theorem Link.rested_of_run (es : List (LinkEvent γ)) : (es.foldl Link.step (Link.start {})).device.recording.Rested :=
  Runs.foldl_inv' (I := fun l : Link RecorderPort γ => l.device.recording.Rested)
    (fun l e h => Runs.foldl_inv' Device.step_rested (Link.events l.centralPresent e) h) es fun _ => rfl

end

/-- A fresh device with the URL, the overlay and the raw capture of this one. -/
def Device.leftover (d : Device RecorderPort γ) : Device RecorderPort γ :=
  { Device.start {} with
    configuredRtmpUrl := d.configuredRtmpUrl
    overlay := d.overlay
    rawCapture := d.rawCapture }

/-- A quiet device with a clear session is what it left over. -/
theorem Device.Quiet.eq_leftover {d : Device RecorderPort γ} (quiet : d.Quiet) (clear : d.session = {})
    (rested : d.recording.Rested) (inStep : d.streaming.InStep) : d = d.leftover := by
  have recording := rested quiet.recording
  have names : d.streaming.activeNames = ∅ :=
    StreamingService.alist_eq_empty fun id mem => by simpa [quiet.platform] using (inStep id).1 mem
  obtain ⟨_, _, ⟨⟨_⟩, _, _⟩, ⟨_⟩, ⟨_⟩, _, _, _⟩ := d
  obtain ⟨-, rfl, rfl, rfl, rfl⟩ := quiet
  cases clear
  cases recording
  cases names
  rfl

section
variable [IPlatformStreamer γ]

/-- Nobody is connected, and of the device before only the URL, the overlay and the raw capture
are left. -/
theorem Link.stop_leaves (p : Ports γ) {l : Link RecorderPort γ} (owned : l.Owned) (rested : l.device.recording.Rested) :
    l.step (.stop p) = { device := l.device.leftover } := by
  have torn := stop_tornDown p owned
  have kept : (l.step (.stop p)).device.recording.Rested :=
    Runs.foldl_inv' Device.step_rested (events l.centralPresent (.stop p)) rested
  have fresh := torn.quiet.eq_leftover torn.session kept (step_owned l (.stop p) owned).inStep
  have left : (l.step (.stop p)).device.configuredRtmpUrl = l.device.configuredRtmpUrl ∧
      (l.step (.stop p)).device.overlay = l.device.overlay ∧
      (l.step (.stop p)).device.rawCapture = l.device.rawCapture := by
    cases present : l.centralPresent with
    | false => simp [step, events, present]
    | true =>
      simp only [step, events, present, if_true, List.foldl_cons, List.foldl_nil, Device.step]
      exact Device.disconnect_left p l.device
  rw [Device.leftover, left.1, left.2.1, left.2.2] at fresh
  exact congrArg (Link.mk false) fresh

end

namespace Link

/-- The device after a history and the disconnect that ends it. -/
def disconnected (history : List (LinkEvent StreamerPort)) (p : Ports StreamerPort) : Link RecorderPort StreamerPort :=
  (history.foldl step (start {})).step (.stop p)

theorem disconnected_eq (history : List (LinkEvent StreamerPort)) (p : Ports StreamerPort) :
    disconnected history p = { device := (disconnected history p).device.leftover } := by
  have leaves := stop_leaves p (owned_of_run {} history) (rested_of_run history)
  rw [disconnected, leaves]
  rfl

theorem disconnected_matched (history : List (LinkEvent StreamerPort)) (p : Ports StreamerPort) :
    (disconnected history p).Matched (disconnected history p) := by
  have fresh : (start (γ := StreamerPort) ({} : RecorderPort)).Matched (start {}) :=
    ⟨rfl, rfl, rfl, rfl, rfl, rfl, rfl, OverlayController.Pushed.matched rfl, rfl⟩
  exact (Runs.foldl_rel Matched.step fresh history).step _ _ (.stop p)

/-- What two sessions left is alike: the URL, whether a raw capture runs, and the overlay. -/
structure LeftAlike (a b : Device ρ γ) : Prop where
  url : a.configuredRtmpUrl = b.configuredRtmpUrl
  rawCapture : a.rawCapture.capturing.isSome = b.rawCapture.capturing.isSome
  overlay : a.overlay.Alike b.overlay

theorem LeftAlike.matched {h₁ h₂ : List (LinkEvent StreamerPort)} {p₁ p₂ : Ports StreamerPort}
    (left : LeftAlike (disconnected h₁ p₁).device (disconnected h₂ p₂).device) :
    (disconnected h₁ p₁).Matched (disconnected h₂ p₂) := by
  have pushed₁ := (disconnected_matched h₁ p₁).device.overlay.left
  have pushed₂ := (disconnected_matched h₂ p₂).device.overlay.left
  have eq₁ := disconnected_eq h₁ p₁
  have eq₂ := disconnected_eq h₂ p₂
  generalize disconnected h₁ p₁ = l at *
  generalize disconnected h₂ p₂ = m at *
  rw [eq₁, eq₂]
  exact ⟨rfl, rfl, rfl, rfl, rfl, rfl, left.url, ⟨left.overlay, pushed₁, pushed₂⟩, left.rawCapture⟩

/-- A START without a destination, as the first command of a session. -/
def startConfigured : LinkEvent StreamerPort :=
  .write Device.fieldPorts (some { payload := some (.streamingControl { action := .start }) })

/-- Such a START goes to the URL that was left. -/
theorem startConfigured_destination (d : Device RecorderPort StreamerPort) :
    (step { device := d.leftover } startConfigured).device.effects.destination =
      if d.configuredRtmpUrl = "" then none else some d.configuredRtmpUrl := by
  have start := command_eq Device.fieldPorts { payload := some (.streamingControl { action := .start }) }
    d.leftover.connect rfl
  show Option.map _ (Option.bind (AList.lookup _ (Device.command _ _ d.leftover.connect).streaming.platformStreams) _) = _
  rw [start]
  by_cases unset : d.configuredRtmpUrl = ""
  · simp [handlerFor, StreamingHandler.handleControl, StreamingHandler.startStream, unset, Device.leftover,
      Device.connect, Device.start]
  · simp only [handlerFor, StreamingHandler.handleControl, StreamingHandler.startStream, unset, Device.leftover,
      Device.connect, Device.start, if_true, if_false, Prog.exec_bind, exec_callUrl, exec_callStreaming]
    rfl

/-- **Isolation.** Where two histories left the same URL, both or neither a raw capture, and overlays
that are alike, every later session answers and does the same after both; and where every later
session does, the URLs, the raw captures and what is drawn agree. -/
theorem sessions_isolated (h₁ h₂ : List (LinkEvent StreamerPort)) (p₁ p₂ : Ports StreamerPort) :
    (LeftAlike (disconnected h₁ p₁).device (disconnected h₂ p₂).device → ∀ later,
      Runs.outputs step observe (disconnected h₁ p₁) later = Runs.outputs step observe (disconnected h₂ p₂) later) ∧
    ((∀ later,
      Runs.outputs step observe (disconnected h₁ p₁) later = Runs.outputs step observe (disconnected h₂ p₂) later) →
      (disconnected h₁ p₁).device.configuredRtmpUrl = (disconnected h₂ p₂).device.configuredRtmpUrl ∧
      (disconnected h₁ p₁).device.rawCapture.capturing.isSome = (disconnected h₂ p₂).device.rawCapture.capturing.isSome ∧
      (disconnected h₁ p₁).device.overlay.drawn = (disconnected h₂ p₂).device.overlay.drawn) := by
  refine ⟨fun left later => left.matched.outputs later, fun same => ?_⟩
  have seen : ∀ e, ((disconnected h₁ p₁).step e).device.effects = ((disconnected h₂ p₂).step e).device.effects :=
    fun e => congrArg Prod.snd (List.cons_eq_cons.1 (same [e])).1
  have connected := seen (.write {} none)
  have started := congrArg SessionEffects.destination (seen startConfigured)
  rw [disconnected_eq h₁, disconnected_eq h₂, startConfigured_destination, startConfigured_destination] at started
  refine ⟨?_, congrArg SessionEffects.rawCapturing connected, congrArg SessionEffects.overlay connected⟩
  split_ifs at started with unset₁ unset₂
  · rw [unset₁, unset₂]
  · exact Option.some.inj started

/-- A session that configured a custom RTMP URL: the next one streams there, where it has none of
its own after another history. -/
theorem configured_url_leaks :
    ¬∀ (h₁ h₂ : List (LinkEvent StreamerPort)) (p₁ p₂ : Ports StreamerPort) (later : List (LinkEvent StreamerPort)),
      Runs.outputs step observe (disconnected h₁ p₁) later = Runs.outputs step observe (disconnected h₂ p₂) later := by
  intro all
  have same := all [.write {} (some { payload := some (.setStreamingConfig "rtmp://live/key") })] [.write {} none] {} {}
    [startConfigured]
  exact absurd same (by decide)

end Link

end SstCam
