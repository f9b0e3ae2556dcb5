import SstCam.Control.Handlers

/-!
# The dispatcher

Commands routed by payload case to the handlers `main.cpp` registers
(`app/control/services/dispatcher`), and what the routing comes to for each payload.
-/

namespace SstCam
set_option autoImplicit false

open Atomic Device

variable {ρ γ : Type}

/-- The routes, in registration order. -/
structure CommandDispatcher (ρ γ : Type) where
  handlers : List (PayloadCase × ICommandHandler ρ γ) := []

namespace CommandDispatcher

/-- The first handler registered for a payload case keeps it. -/
def register (d : CommandDispatcher ρ γ) (handler : ICommandHandler ρ γ) : CommandDispatcher ρ γ where
  handlers := handler.handledCases.foldl (fun handlers payloadCase =>
    if handlers.any (·.1 = payloadCase) then handlers else handlers ++ [(payloadCase, handler)]) d.handlers

/-- The answer carries the command's correlation id, whatever the handler set. -/
def answer (cmd : Command) : Except String CommandResponse → CommandResponse
  | .ok resp => { resp with correlationId := cmd.correlationId }
  | .error what => { CommandResponse.error what with correlationId := cmd.correlationId }

def dispatch (d : CommandDispatcher ρ γ) (p : Ports γ) (cmd : Command) : Prog Call (Device ρ γ) CommandResponse :=
  match cmd.payloadCase with
  | none => return { CommandResponse.unsupported "empty command: no payload set" with correlationId := cmd.correlationId }
  | some payloadCase =>
    match d.handlers.find? (·.1 = payloadCase) with
    | none =>
      return { CommandResponse.unsupported "command not supported on this firmware" with
        correlationId := cmd.correlationId }
    | some (_, handler) => answer cmd <$> handler.handle p cmd

/-- **Echo.** Every answer carries the command's correlation id. -/
theorem dispatch_correlationId (d : CommandDispatcher ρ γ) (p : Ports γ) (cmd : Command) (dev : Device ρ γ) :
    ((d.dispatch p cmd).exec dev).2.correlationId = cmd.correlationId := by
  unfold dispatch
  split
  · rfl
  · split
    · rfl
    · rw [Prog.exec_map]
      unfold answer
      split <;> rfl

end CommandDispatcher

section
variable [IContinuousRecorder ρ] [IPlatformStreamer γ]

/-- The registrations of `main.cpp`, in its order. -/
def firmwareDispatcher : CommandDispatcher ρ γ :=
  [deviceHandler, sessionHandler, wifiDirectHandler, overlayHandler, matchHandler, matchStateHandler,
    recordingHandler, streamingHandler, downloadHandler, rawCaptureHandler, thumbnailHandler].foldl
      CommandDispatcher.register {}

/-- `dispatcher.Dispatch`. -/
def dispatch (p : Ports γ) (cmd : Command) : Prog Call (Device ρ γ) CommandResponse :=
  firmwareDispatcher.dispatch p cmd

/-- The program the dispatcher routes a payload to. -/
def handlerFor (p : Ports γ) (cmd : Command) : CommandPayload → Prog Call (Device ρ γ) CommandResponse
  | .getDeviceInfo => DeviceHandler.handle p cmd
  | .getTelemetry => DeviceHandler.handle p cmd
  | .startWifiDirect => WifiDirectHandler.handleStart p
  | .stopWifiDirect => WifiDirectHandler.handleStop
  | .pushSessionConfig _ => SessionHandler.handle p cmd
  | .pushOverlayLayout _ => OverlayHandler.handle p cmd
  | .matchControl msg => MatchHandler.handleMatchControl p msg
  | .scoreUpdate msg => MatchHandler.handleScoreUpdate p msg
  | .bannerEvent msg => MatchHandler.handleBannerEvent p msg
  | .getMatchState => MatchStateHandler.handle p cmd
  | .recordingControl _ => RecordingHandler.handle p cmd
  | .streamingControl msg => StreamingHandler.handleControl p msg
  | .setStreamingConfig url => StreamingHandler.handleSetConfig url
  | .listRecordings => return DownloadHandler.handle p cmd
  | .downloadRequest _ => return DownloadHandler.handle p cmd
  | .rawCapture _ => RawCaptureHandler.handle p cmd
  | .thumbnail _ => return ThumbnailHandler.handle p cmd
  | .unwired _ => return .unsupported "command not supported on this firmware"

/-- The answer to a command: the routed handler's, under the command's correlation id. -/
def echo (cmd : Command) (resp : CommandResponse) : CommandResponse :=
  { resp with correlationId := cmd.correlationId }

/-- The routes of the firmware: no case is registered twice. -/
theorem firmwareDispatcher_handlers : (firmwareDispatcher (ρ := ρ) (γ := γ)).handlers =
    [(.getDeviceInfo, deviceHandler), (.getTelemetry, deviceHandler), (.pushSessionConfig, sessionHandler),
      (.startWifiDirect, wifiDirectHandler), (.stopWifiDirect, wifiDirectHandler),
      (.pushOverlayLayout, overlayHandler), (.matchControl, matchHandler), (.scoreUpdate, matchHandler),
      (.bannerEvent, matchHandler), (.getMatchState, matchStateHandler), (.recordingControl, recordingHandler),
      (.streamingControl, streamingHandler), (.setStreamingConfig, streamingHandler),
      (.listRecordings, downloadHandler), (.downloadRequest, downloadHandler),
      (.rawCapture, rawCaptureHandler), (.thumbnail, thumbnailHandler)] := by
  simp [firmwareDispatcher, CommandDispatcher.register, deviceHandler, sessionHandler, wifiDirectHandler,
    overlayHandler, matchHandler, matchStateHandler, recordingHandler, streamingHandler, downloadHandler,
    rawCaptureHandler, thumbnailHandler]

/-- **Routing.** A command with a payload is its handler's program and the echo. -/
theorem dispatch_eq (p : Ports γ) (cmd : Command) {payload : CommandPayload} (h : cmd.payload = some payload) :
    dispatch (ρ := ρ) p cmd = echo cmd <$> handlerFor p cmd payload := by
  have route : cmd.payloadCase = some payload.case := by rw [Command.payloadCase, h, Option.map_some]
  have echoes : ∀ q : Prog Call (Device ρ γ) CommandResponse,
      CommandDispatcher.answer cmd <$> Except.ok <$> q = echo cmd <$> q := fun q => (comp_map _ _ q).symm
  simp only [dispatch, CommandDispatcher.dispatch, route, firmwareDispatcher_handlers]
  cases payload <;>
    simp [CommandPayload.case, handlerFor, deviceHandler, sessionHandler, wifiDirectHandler, overlayHandler,
      matchHandler, matchStateHandler, recordingHandler, streamingHandler, downloadHandler, rawCaptureHandler,
      thumbnailHandler, WifiDirectHandler.handle, MatchHandler.handle, StreamingHandler.handle, echoes, route,
      Command.matchControl, Command.scoreUpdate, Command.bannerEvent, Command.streamingControl,
      Command.setStreamingConfig, h, CommandDispatcher.answer, echo]

/-- A command without a payload reaches no handler. -/
theorem dispatch_none (p : Ports γ) (cmd : Command) (h : cmd.payload = none) :
    dispatch (ρ := ρ) p cmd =
      pure (echo cmd (.unsupported "empty command: no payload set")) := by
  obtain ⟨id, _⟩ := cmd
  cases h
  rfl

end

end SstCam
