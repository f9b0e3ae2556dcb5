import SstCam.Control.Teardown
import SstCam.Streaming.GstRtmpStreamer

/-!
# RTMP egress

A streaming command through all three layers: the handler, which puts the destination into
`url` and leaves the stream key empty; the service, which makes a fresh streamer; and the
streamer, which rejects an empty key. Each is as its own tests have it, and together no START
ever succeeds.
-/

namespace SstCam
set_option autoImplicit false

open Atomic

variable {ρ : Type}

/-- Ports whose factory makes a fresh streamer and whose media framework accepts every
pipeline description. -/
def gstPorts (p : Ports GstRtmpStreamer) : Ports GstRtmpStreamer :=
  { p with made := some {}, accepts := true }

def gstEvent : DeviceEvent GstRtmpStreamer → DeviceEvent GstRtmpStreamer
  | .command p cmd => .command (gstPorts p) cmd
  | e => e

/-- A run of the device with what the streaming commands so far ask for: the custom RTMP URL
last configured, and whether the last successful START is still unanswered by a STOP or a
disconnect. -/
structure Egress (ρ : Type) where
  device : Device ρ GstRtmpStreamer
  configured : String := ""
  live : Bool := false

namespace Egress

/-- The destination a START is to use: its own, or else the configured one. -/
def destination (configured : String) : DeviceEvent GstRtmpStreamer → Option String
  | .command _ cmd =>
    match cmd.payload with
    | some (.streamingControl msg) =>
      if msg.action = .start then some (if msg.destination = "" then configured else msg.destination) else none
    | _ => none
  | _ => none

def isStop : DeviceEvent GstRtmpStreamer → Bool
  | .command _ cmd =>
    match cmd.payload with
    | some (.streamingControl msg) => msg.action = .stop
    | _ => false
  | _ => false

def isDisconnect : DeviceEvent GstRtmpStreamer → Bool
  | .disconnect _ => true
  | _ => false

/-- The custom RTMP URL a payload configures, or the one there was. -/
def configuredBy (configured : String) : Option CommandPayload → String
  | some (.setStreamingConfig url) => url
  | _ => configured

def configure (configured : String) : DeviceEvent GstRtmpStreamer → String
  | .command _ cmd => configuredBy configured cmd.payload
  | _ => configured

section
variable [IContinuousRecorder ρ]

/-- The status of the answer, where the event is a command. -/
def status (d : Device ρ GstRtmpStreamer) : DeviceEvent GstRtmpStreamer → Option ResponseStatus
  | .command p cmd => some (d.response p cmd).status
  | _ => none

def step (s : Egress ρ) (e : DeviceEvent GstRtmpStreamer) : Egress ρ where
  device := s.device.step (gstEvent e)
  configured := configure s.configured e
  live :=
    if isStop e || isDisconnect e then false
    else if (destination s.configured e).isSome && status s.device (gstEvent e) = some .ok then true
    else s.live

end

/-- A platform stream is active. -/
def active (d : Device ρ GstRtmpStreamer) : Bool := !d.streaming.platformStreams.entries.isEmpty

/-- The location of the RTMP sink of the egress stream. -/
def location (d : Device ρ GstRtmpStreamer) : Option String :=
  (d.streaming.platformStreams.lookup StreamingHandler.egressStreamId).bind GstRtmpStreamer.location

/-- The service law: a START with a destination while nothing streams is answered OK and the sink
goes there exactly, a STOP of a live stream is answered OK, and a stream is active exactly while
one is live. -/
structure Works [IContinuousRecorder ρ] (s : Egress ρ) (e : DeviceEvent GstRtmpStreamer) : Prop where
  start : ∀ dest, destination s.configured e = some dest → dest ≠ "" → active s.device = false →
    status s.device (gstEvent e) = some .ok ∧ location (s.step e).device = some dest
  stop : isStop e = true → s.live = true → status s.device (gstEvent e) = some .ok
  active_iff : active (s.step e).device = (s.step e).live

/-- The event is a START that has a destination to go to. -/
def StartsSomewhere (s : Egress ρ) (e : DeviceEvent GstRtmpStreamer) : Prop :=
  ∃ dest, destination s.configured e = some dest ∧ dest ≠ ""

/-- No stream has ever come up. -/
structure Dark (s : Egress ρ) : Prop where
  configured : s.configured = s.device.configuredRtmpUrl
  platform : s.device.streaming.platformStreams = ∅
  inStep : s.device.streaming.InStep
  live : s.live = false

theorem start_dark (recorder : ρ) : Dark ({ device := .start recorder } : Egress ρ) :=
  ⟨rfl, rfl, fun _ => Iff.rfl, rfl⟩

/-! ## No START succeeds -/

/-- The fresh streamer turns the egress configuration down: it has no stream key. -/
theorem startPlatformStream_rejected {α : Type} (destination : String) (s : StreamingService α GstRtmpStreamer) :
    StreamingService.startPlatformStream (StreamingHandler.egressConfig destination) (some {}) true s = (s, false) := by
  have rejected : IPlatformStreamer.start ({} : GstRtmpStreamer) (StreamingHandler.egressConfig destination) true =
      ({}, false) := GstRtmpStreamer.start_without_key _ _ rfl
  simp [StreamingService.startPlatformStream, rejected]

theorem startStream_rejected (p : Ports GstRtmpStreamer) (destination : String) (d : Device ρ GstRtmpStreamer) :
    ((StreamingHandler.startStream (gstPorts p) destination).exec d).1 = d ∧
      ((StreamingHandler.startStream (gstPorts p) destination).exec d).2.status = .error := by
  unfold StreamingHandler.startStream
  split
  · exact ⟨rfl, rfl⟩
  · simp [gstPorts, startPlatformStream_rejected]

/-- With no stream up, a streaming command changes nothing and answers ERROR. -/
theorem handleControl_dark (p : Ports GstRtmpStreamer) (msg : StreamingControlCommand) {d : Device ρ GstRtmpStreamer}
    (platform : d.streaming.platformStreams = ∅) :
    ((StreamingHandler.handleControl (gstPorts p) msg).exec d).1 = d ∧
      ((StreamingHandler.handleControl (gstPorts p) msg).exec d).2.status = .error := by
  have noStop : StreamingService.stopPlatformStream StreamingHandler.egressStreamId d.streaming = (d.streaming, false) := by
    simp [StreamingService.stopPlatformStream, platform]
  unfold StreamingHandler.handleControl
  split
  · split
    · exact startStream_rejected p d.configuredRtmpUrl d
    · exact startStream_rejected p msg.destination d
  · simp [noStop]
  · exact ⟨rfl, rfl⟩

variable [IContinuousRecorder ρ]

theorem command_platform (p : Ports GstRtmpStreamer) (cmd : Command) {d : Device ρ GstRtmpStreamer}
    (platform : d.streaming.platformStreams = ∅) :
    (d.command (gstPorts p) cmd).streaming.platformStreams = ∅ := by
  have move := command_streaming (gstPorts p) cmd d
  generalize (d.command (gstPorts p) cmd).streaming = after at move
  generalize cmd.payload = payload at move
  cases move with
  | stay => exact platform
  | preview => simpa using platform
  | start msg destination => simpa [gstPorts, startPlatformStream_rejected] using platform
  | stop => simp [StreamingService.stopPlatformStream, platform]

theorem command_configured (p : Ports GstRtmpStreamer) (cmd : Command) (d : Device ρ GstRtmpStreamer) :
    (d.command (gstPorts p) cmd).configuredRtmpUrl = configure d.configuredRtmpUrl (.command p cmd) := by
  show _ = configuredBy d.configuredRtmpUrl cmd.payload
  cases h : cmd.payload with
  | none =>
    rw [command_none _ cmd d h]
    rfl
  | some payload =>
    have touched := exec_touches (handlerFor_touches (gstPorts p) cmd payload) d
    rw [command_eq _ cmd d h]
    cases payload with
    | setStreamingConfig url => rfl
    | _ => exact touched .url (by simp [CommandPayload.parts])

theorem step_platform (d : Device ρ GstRtmpStreamer) (e : DeviceEvent GstRtmpStreamer)
    (inStep : d.streaming.InStep) (platform : d.streaming.platformStreams = ∅) :
    (d.step (gstEvent e)).streaming.platformStreams = ∅ := by
  cases e with
  | connect => exact platform
  | disconnect p =>
    by_cases idle : d.session.phase = .idle
    · show (d.disconnect p).streaming.platformStreams = ∅
      rwa [Device.disconnect_eq, if_pos idle]
    · exact (Device.disconnect_tornDown p inStep idle).quiet.platform
  | command p cmd => exact command_platform p cmd platform
  | tick p => exact (tick_touches p d .streaming (by decide)) ▸ platform
  | frame f => exact StreamingService.push_empty f platform

theorem step_configured (d : Device ρ GstRtmpStreamer) (e : DeviceEvent GstRtmpStreamer) :
    (d.step (gstEvent e)).configuredRtmpUrl = configure d.configuredRtmpUrl e := by
  cases e with
  | connect => rfl
  | disconnect p =>
    show (d.disconnect p).configuredRtmpUrl = d.configuredRtmpUrl
    rw [Device.disconnect_eq]
    split <;> rfl
  | command p cmd => exact command_configured p cmd d
  | tick p => exact tick_touches p d .url (by decide)
  | frame f => rfl

theorem gstEvent_status_start {s : Egress ρ} (h : s.Dark) (e : DeviceEvent GstRtmpStreamer) {dest : String}
    (start : destination s.configured e = some dest) : status s.device (gstEvent e) = some .error := by
  unfold destination at start
  split at start
  case h_2 => cases start
  case h_1 p cmd =>
    split at start
    case h_2 => cases start
    case h_1 msg payload =>
      show some (s.device.response (gstPorts p) cmd).status = some .error
      rw [response_eq _ cmd s.device payload]
      exact congrArg some (handleControl_dark p msg h.platform).2

theorem dark_step (s : Egress ρ) (e : DeviceEvent GstRtmpStreamer) (h : s.Dark) : (s.step e).Dark where
  configured := by
    show configure s.configured e = _
    rw [h.configured]
    exact (step_configured s.device e).symm
  platform := step_platform s.device e h.inStep h.platform
  inStep := Device.step_inStep s.device (gstEvent e) h.inStep
  live := by
    show (if _ then false else if _ then true else s.live) = false
    split
    · rfl
    · cases start : destination s.configured e with
      | none => simpa using h.live
      | some dest => simpa [gstEvent_status_start h e start] using h.live

/-- While no stream has come up, a step meets the service law exactly when it is not a START with a
destination. -/
theorem works_iff (s : Egress ρ) (e : DeviceEvent GstRtmpStreamer) (h : s.Dark) :
    s.Works e ↔ ¬s.StartsSomewhere e := by
  have after := dark_step s e h
  have dark : active s.device = false := by simp [active, h.platform]
  constructor
  · rintro works ⟨dest, start, somewhere⟩
    have ok := (works.start dest start somewhere dark).1
    rw [gstEvent_status_start h e start] at ok
    cases ok
  · intro nowhere
    exact
      { start := fun dest start somewhere _ => absurd ⟨dest, start, somewhere⟩ nowhere
        stop := fun _ live => by simp [h.live] at live
        active_iff := by simp [active, after.platform, after.live] }

/-- **RTMP egress.** A run meets the service law throughout exactly when it never issues a START
that has a destination: every such START fails. -/
theorem egress_works_iff (recorder : ρ) (es : List (DeviceEvent GstRtmpStreamer)) :
    Runs.Along step Works ({ device := .start recorder } : Egress ρ) es ↔
      Runs.Along step (fun s e => ¬s.StartsSomewhere e) ({ device := .start recorder } : Egress ρ) es :=
  Runs.along_iff works_iff (fun s e h _ => dark_step s e h) (start_dark recorder) es

/-- A START to an explicit destination, first thing, is answered ERROR. -/
theorem egress_start_fails :
    ¬∀ es : List (DeviceEvent GstRtmpStreamer),
      Runs.Along step Works ({ device := .start {} } : Egress RecorderPort) es := by
  intro all
  have start := (all [.command {} { payload := some (.streamingControl { action := .start, destination := "rtmp://live/key" }) }]).1
  exact absurd (start.start "rtmp://live/key" rfl (by decide) rfl).1 (by decide)

end Egress

end SstCam
