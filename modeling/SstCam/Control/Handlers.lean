import SstCam.Control.Device

/-!
# Command handlers

The handlers behind the dispatcher (`app/control/services/handlers`). Each is a program of the
locked calls it makes, in the source's order; `p` is what the ports answer.
-/

namespace SstCam
set_option autoImplicit false

open Atomic Device

variable {ρ γ : Type}

/-- `ICommandHandler`. A handler that throws answers with the exception's text. -/
structure ICommandHandler (ρ γ : Type) where
  handledCases : List PayloadCase
  handle : Ports γ → Command → Prog Call (Device ρ γ) (Except String CommandResponse)

/-! ## RecordingHandler -/

section
variable [IContinuousRecorder ρ]

def RecordingHandler.handle (p : Ports γ) (cmd : Command) : Prog Call (Device ρ γ) CommandResponse :=
  match cmd.recordingControl with
  | .start => do
    let state ← snapshot
    match state.config with
    | none => return .error "recording start with no active session config"
    | some config =>
      if state.phase ≠ .ready then return .error "recording start rejected: session not ready"
      else do
        let started ← callRecording .startRecording
          (RecordingService.startRecording config.videoOutputPath config.thumbnailOutputPath
            p.enoughSpace p.recorderStarts)
        if !started then return .error "recorder failed to start (disk full or already running)"
        else do
          let accepted ← callSession .onRecordingStart SessionManager.onRecordingStart
          if !accepted then do
            -- The session manager rejects: roll the recorder back.
            let _ ← callRecording .stopRecording (RecordingService.stop p.thumbnailWritten)
            return .error "recording start rejected: session not ready"
          else return .okay
  | .stop => do
    let result ← callRecording .stopRecording (RecordingService.stop p.thumbnailWritten)
    let _ ← callSession .onRecordingStop SessionManager.onRecordingStop
    return if result.1.success then .okay else .error "no active recording to stop"
  | .pause => do
    let paused ← callRecording .pauseRecording RecordingService.pause
    return if paused then .okay else .error "cannot pause: not recording"
  | .resume => do
    let resumed ← callRecording .resumeRecording RecordingService.resume
    return if resumed then .okay else .error "cannot resume: not paused"
  | .unrecognized _ => return .error "unknown recording action"

def recordingHandler : ICommandHandler ρ γ where
  handledCases := [.recordingControl]
  handle p cmd := Except.ok <$> RecordingHandler.handle p cmd

end

/-! ## SessionHandler -/

def sessionConfigOf (msg : PushSessionConfigCommand) : SessionConfig where
  matchUuid := msg.matchUuid
  userUuid := msg.userUuid
  sport := msg.sport
  numPeriods := msg.numPeriods
  periodLengthSeconds := msg.periodLengthSeconds
  rtmpUrl := msg.rtmpUrl.getD ""
  streamKey := msg.streamKey.getD ""
  videoOutputPath := msg.videoOutputPath
  thumbnailOutputPath := msg.thumbnailOutputPath
  teamAId := msg.teamAId
  teamBId := msg.teamBId
  teamAName := msg.teamAName
  teamBName := msg.teamBName
  teamAColorHex := msg.teamAColorHex
  teamBColorHex := msg.teamBColorHex

def SessionHandler.handle (p : Ports γ) (cmd : Command) : Prog Call (Device ρ γ) CommandResponse := do
  let applied ← callSession .applySessionConfig
    (SessionManager.applySessionConfig p.mkdir (sessionConfigOf cmd.pushSessionConfig))
  return if applied then .okay
    else .error "session config rejected: WiFi Direct group must be up first (out of order)"

def sessionHandler : ICommandHandler ρ γ where
  handledCases := [.pushSessionConfig]
  handle p cmd := Except.ok <$> SessionHandler.handle p cmd

/-! ## WifiDirectHandler -/

/-- `runtime_defaults::kPreviewPort`. -/
def previewPort : Nat := 8554

/-- `runtime_defaults::kDownloadPort`. -/
def downloadPort : Nat := 8080

/-- `runtime_defaults::kGroupOwnerIp`. -/
def groupOwnerIp : String := "192.168.49.1"

namespace WifiDirectHandler

section
variable [IPlatformStreamer γ]

def groupResponse (group : WifiDirectGroup) : CommandResponse :=
  .reply (.wifiDirectGroup
    { ssid := group.ssid
      psk := group.psk
      groupOwnerIp := group.groupOwnerIp
      previewPort := previewPort
      downloadPort := downloadPort
      role := group.role })

def handleStart (p : Ports γ) : Prog Call (Device ρ γ) CommandResponse := do
  let formed ← callWifi .startP2pGroupOwner (WpaWifiManager.startP2pGroupOwner p.group)
  match formed with
  | none => return .error "failed to form WiFi Direct group owner"
  | some group => do
    let serving ← callDhcp .dhcpStart (DnsmasqDhcpServer.start group.groupInterface p.dhcpLaunched)
    if !serving then do
      -- The group is up but DHCP failed: tear the group down again.
      callWifi .wifiStop fun w => (w.stop, ())
      return .error "failed to start DHCP on the WiFi Direct group"
    else do
      let ready ← callSession .onWifiReady SessionManager.onWifiReady
      if !ready then do
        callDhcp .dhcpStop fun d => (d.stop, ())
        callWifi .wifiStop fun w => (w.stop, ())
        return .error "WiFi Direct group up but session not ready to accept it"
      else do
        -- A preview that fails to start is only logged.
        let _ ← callStreaming .startAppStream
          (StreamingService.startAppStream
            { address := group.groupOwnerIp, port := previewPort % 2 ^ 16 } p.attaches)
        return groupResponse group

def handleStop : Prog Call (Device ρ γ) CommandResponse := do
  callDhcp .dhcpStop fun d => (d.stop, ())
  callWifi .wifiStop fun w => (w.stop, ())
  let _ ← callSession .onWifiStopped SessionManager.onWifiStopped
  return .okay

def handle (p : Ports γ) (cmd : Command) : Prog Call (Device ρ γ) CommandResponse :=
  if cmd.payloadCase = some .stopWifiDirect then handleStop else handleStart p

end

end WifiDirectHandler

def wifiDirectHandler [IPlatformStreamer γ] : ICommandHandler ρ γ where
  handledCases := [.startWifiDirect, .stopWifiDirect]
  handle p cmd := Except.ok <$> WifiDirectHandler.handle p cmd

/-! ## OverlayHandler and MatchHandler -/

def OverlayHandler.handle (p : Ports γ) (cmd : Command) : Prog Call (Device ρ γ) CommandResponse := do
  let accepted ← callSession .onOverlayConfigured SessionManager.onOverlayConfigured
  if !accepted then
    return .error "overlay layout rejected: a session config must be applied first (out of order)"
  else do
    callOverlay .setLayout fun c => (c.setLayout (mapLayoutFromProto cmd.pushOverlayLayout), ())
    let state ← snapshot
    callOverlay .setBindingData fun c => (c.setBindingData (buildBindingData state), ())
    let _ ← callOverlay .refresh (OverlayController.refresh p.nowMs)
    return .okay

def overlayHandler : ICommandHandler ρ γ where
  handledCases := [.pushOverlayLayout]
  handle p cmd := Except.ok <$> OverlayHandler.handle p cmd

namespace MatchHandler

def syncOverlay (p : Ports γ) : Prog Call (Device ρ γ) Unit := do
  let state ← snapshot
  callOverlay .setBindingData fun c => (c.setBindingData (buildBindingData state), ())
  let _ ← callOverlay .refresh (OverlayController.refresh p.nowMs)
  return ()

/-- The new score, on `uint32`: `-delta` and the sum are cast back to 32 bits. -/
def addScore (delta : Int) (score : Nat) : Nat :=
  if delta < 0 ∧ ((-delta) % 2 ^ 32).toNat > score then 0 else ((score + delta) % 2 ^ 32).toNat

/-- `is_home` is the team the snapshot's configuration calls A. -/
def scoreUpdate (isHome : Bool) (delta : Int) (m : LiveMatch) : LiveMatch :=
  if isHome then { m with scoreA := addScore delta m.scoreA }
  else { m with scoreB := addScore delta m.scoreB }

def matchControl (action : MatchAction) (period : Nat) (m : LiveMatch) : LiveMatch :=
  match action with
  | .kickoff =>
    { m with
      period := if period > 0 then period else 1
      clockSeconds := 0
      clockRunning := true
      segment := .inPlay }
  | .periodStart =>
    { m with period := if period > 0 then period else m.period, clockRunning := true, segment := .inPlay }
  | .periodEnd => { m with clockRunning := false, segment := .halfTime }
  | .finalWhistle => { m with clockRunning := false, segment := .fullTime }
  | .clockPause => { m with clockRunning := false }
  | .clockResume => { m with clockRunning := true }
  | .unrecognized _ => m

def advanceClock (m : LiveMatch) : LiveMatch :=
  if m.clockRunning then { m with clockSeconds := (m.clockSeconds + 1) % 2 ^ 32 } else m

def handleScoreUpdate (p : Ports γ) (cmd : ScoreUpdateCommand) : Prog Call (Device ρ γ) CommandResponse := do
  let state ← snapshot
  match state.config with
  | none => return .error "score update with no active session"
  | some config =>
    let isHome : Bool := cmd.teamId = config.teamAId
    let isAway : Bool := cmd.teamId = config.teamBId
    if !isHome && !isAway then return .error "score update: unknown team_id"
    else do
      let applied ← callSession .applyMatchUpdate (SessionManager.applyMatchUpdate (scoreUpdate isHome cmd.delta))
      if !applied then return .error "score update rejected: no active session"
      else do
        syncOverlay p
        return .okay

def handleMatchControl (p : Ports γ) (cmd : MatchControlCommand) : Prog Call (Device ρ γ) CommandResponse := do
  let applied ← callSession .applyMatchUpdate
    (SessionManager.applyMatchUpdate (matchControl cmd.action cmd.period))
  if !applied then return .error "match control rejected: no active session"
  else do
    syncOverlay p
    return .okay

/-- An unknown template is a no-op, still a success. -/
def handleBannerEvent (p : Ports γ) (cmd : BannerEventCommand) : Prog Call (Device ρ γ) CommandResponse := do
  let _ ← callOverlay .activateBanner
    (OverlayController.activateBanner cmd.templateId cmd.params cmd.durationS p.nowMs)
  let _ ← callOverlay .refresh (OverlayController.refresh p.nowMs)
  return .okay

def handle (p : Ports γ) (cmd : Command) : Prog Call (Device ρ γ) CommandResponse :=
  match cmd.payloadCase with
  | some .scoreUpdate => handleScoreUpdate p cmd.scoreUpdate
  | some .matchControl => handleMatchControl p cmd.matchControl
  | some .bannerEvent => handleBannerEvent p cmd.bannerEvent
  | _ => return .error "match handler: unexpected command"

/-- What the clock thread calls once a second. -/
def tickClock (p : Ports γ) : Prog Call (Device ρ γ) Unit := do
  let advanced ← callSession .applyMatchUpdate (SessionManager.applyMatchUpdate advanceClock)
  if advanced then syncOverlay p else return ()

end MatchHandler

def matchHandler : ICommandHandler ρ γ where
  handledCases := [.matchControl, .scoreUpdate, .bannerEvent]
  handle p cmd := Except.ok <$> MatchHandler.handle p cmd

/-! ## MatchStateHandler -/

namespace MatchStateHandler

def deriveStatus (state : SessionState) : MatchStatus :=
  if state.config.isNone then .notStarted
  else
    match state.liveMatch.segment with
    | .halfTime => .halfTime
    | .fullTime => .finished
    | .inPlay =>
      if state.liveMatch.period = 0 then .notStarted
      else if state.liveMatch.clockRunning then .active
      else .paused

/-- Remaining seconds of the period, clamped at zero. -/
def deriveTimeRemaining (state : SessionState) : Nat :=
  match state.config with
  | none => 0
  | some config =>
    if config.periodLengthSeconds ≤ 0 then 0
    else
      let length := (config.periodLengthSeconds % 2 ^ 32).toNat
      if state.liveMatch.clockSeconds ≥ length then 0 else length - state.liveMatch.clockSeconds

def handle (p : Ports γ) (_ : Command) : Prog Call (Device ρ γ) CommandResponse := do
  let state ← snapshot
  return .reply (.matchState
    { status := deriveStatus state
      currentPeriod := state.liveMatch.period
      timeRemainingS := deriveTimeRemaining state
      scoreA := state.liveMatch.scoreA
      scoreB := state.liveMatch.scoreB
      teamAId := (state.config.map (·.teamAId)).getD ""
      teamBId := (state.config.map (·.teamBId)).getD ""
      updatedAt := p.nowEpochMs })

end MatchStateHandler

def matchStateHandler : ICommandHandler ρ γ where
  handledCases := [.getMatchState]
  handle p cmd := Except.ok <$> MatchStateHandler.handle p cmd

/-! ## StreamingHandler -/

namespace StreamingHandler

def egressStreamId : Int := 1

section
variable [IPlatformStreamer γ]

/-- The destination goes into `url` whole; the stream key stays empty. -/
def egressConfig (destination : String) : PlatformStreamConfig where
  streamId := egressStreamId
  name := "egress"
  type := .rtmp
  url := destination

def startStream (p : Ports γ) (destination : String) : Prog Call (Device ρ γ) CommandResponse :=
  if destination = "" then return .error "streaming start: no destination provided or configured"
  else do
    let started ← callStreaming .startPlatformStream
      (StreamingService.startPlatformStream (egressConfig destination) p.made p.accepts)
    return if started then .okay
      else .error "streaming start failed (already streaming or bad destination)"

def handleControl (p : Ports γ) (cmd : StreamingControlCommand) : Prog Call (Device ρ γ) CommandResponse :=
  match cmd.action with
  | .start =>
    if cmd.destination = "" then do
      let configured ← callUrl .configuredUrl fun url => (url, url)
      startStream p configured
    else startStream p cmd.destination
  | .stop => do
    let stopped ← callStreaming .stopPlatformStream (StreamingService.stopPlatformStream egressStreamId)
    return if stopped then .okay else .error "no active stream to stop"
  | .unrecognized _ => return .error "unknown streaming action"

def handleSetConfig (customRtmpUrl : String) : Prog Call (Device ρ γ) CommandResponse := do
  callUrl .setConfiguredUrl fun _ => (customRtmpUrl, ())
  return .okay

def handle (p : Ports γ) (cmd : Command) : Prog Call (Device ρ γ) CommandResponse :=
  if cmd.payloadCase = some .setStreamingConfig then handleSetConfig cmd.setStreamingConfig
  else handleControl p cmd.streamingControl

end

end StreamingHandler

def streamingHandler [IPlatformStreamer γ] : ICommandHandler ρ γ where
  handledCases := [.streamingControl, .setStreamingConfig]
  handle p cmd := Except.ok <$> StreamingHandler.handle p cmd

/-! ## RawCaptureHandler -/

def RawCaptureHandler.handle (p : Ports γ) (cmd : Command) : Prog Call (Device ρ γ) CommandResponse :=
  match cmd.rawCapture.action with
  | none => return .error "raw capture: action not set"
  | some .start =>
    match cmd.rawCapture.captureGroupId with
    | none => return .error "raw capture start: missing capture_group_id"
    | some captureGroupId =>
      if captureGroupId = "" then return .error "raw capture start: missing capture_group_id"
      else do
        let started ← callRawCapture .startRawCapture (RawCaptureSink.start captureGroupId p.rawOpens)
        return if started then .okay
          else .error "raw capture failed to start (already capturing or I/O)"
  | some .stop => do
    let stopped ← callRawCapture .stopRawCapture RawCaptureSink.stop
    return if stopped then .okay else .error "raw capture stop: no active raw capture"
  | some .pause => return .unsupported "raw capture does not support pause/resume"
  | some .resume => return .unsupported "raw capture does not support pause/resume"
  | some (.unrecognized _) => return .error "raw capture: unsupported action"

def rawCaptureHandler : ICommandHandler ρ γ where
  handledCases := [.rawCapture]
  handle p cmd := Except.ok <$> RawCaptureHandler.handle p cmd

/-! ## The handlers that only report -/

namespace DeviceHandler

def handleDeviceInfo (p : Ports γ) : CommandResponse :=
  .reply (.deviceInfo
    { deviceId := p.device.serialNumber.getD ""
      name := p.device.name.getD ""
      firmwareVersion := p.device.version.getD ""
      model := p.device.model.getD ""
      protocolVersion := 1 })

def handleTelemetry (p : Ports γ) : Prog Call (Device ρ γ) CommandResponse := do
  let state ← callRecording .currentState fun r => (r, r.state)
  let active ← callStreaming .listActivePlatformStreams fun s => (s, s.listActivePlatformStreams)
  let capturing ← callRawCapture .isCapturing fun r => (r, r.capturing.isSome)
  return .reply (.telemetry
    { stats := p.stats
      isRecording := state ≠ .idle
      isStreaming := !active.isEmpty
      isRawCapturing := capturing })

def handle (p : Ports γ) (cmd : Command) : Prog Call (Device ρ γ) CommandResponse :=
  if cmd.payloadCase = some .getDeviceInfo then return handleDeviceInfo p else handleTelemetry p

end DeviceHandler

def deviceHandler : ICommandHandler ρ γ where
  handledCases := [.getDeviceInfo, .getTelemetry]
  handle p cmd := Except.ok <$> DeviceHandler.handle p cmd

namespace DownloadHandler

def handleDownloadRequest (p : Ports γ) (recordingId : String) : CommandResponse :=
  match p.minted recordingId with
  | none => .error ("recording not found: " ++ recordingId)
  | some token =>
    .reply (.downloadToken
      { recordingId := token.recordingId
        httpUrl := "http://" ++ groupOwnerIp ++ ":" ++ toString downloadPort ++ "/recordings/" ++ token.recordingId
        authToken := token.token
        expiresAt := token.expiresAtUnix })

def handle (p : Ports γ) (cmd : Command) : CommandResponse :=
  if cmd.payloadCase = some .downloadRequest then handleDownloadRequest p cmd.downloadRequest
  else .reply (.recordingList p.recordings)

end DownloadHandler

def downloadHandler : ICommandHandler ρ γ where
  handledCases := [.listRecordings, .downloadRequest]
  handle p cmd := pure (.ok (DownloadHandler.handle p cmd))

def ThumbnailHandler.handle (p : Ports γ) (cmd : Command) : CommandResponse :=
  match p.latestFrame with
  | none => .error "no frame available for thumbnail"
  | some frame =>
    match p.encode frame cmd.thumbnail with
    | none => .error "thumbnail JPEG encode failed"
    | some jpeg =>
      if jpeg = [] then .error "thumbnail JPEG encode failed"
      else .reply (.thumbnail { jpegBytes := jpeg, captureTimestamp := p.nowEpochMs })

def thumbnailHandler : ICommandHandler ρ γ where
  handledCases := [.thumbnail]
  handle p cmd := pure (.ok (ThumbnailHandler.handle p cmd))

end SstCam
