import SstCam.Control.Dispatcher
import SstCam.Session.SessionInvariant

/-!
# The firmware as a machine

The disconnect path of the session manager, and the two machines it closes. `Device.step` takes
connects, disconnects, commands, ticks of the clock thread and frames, one after the other.
`Link` is the device behind its transport, which surfaces a connect before the first command of
a central, and a disconnect only while a central is present.
-/

namespace SstCam
set_option autoImplicit false

open Atomic

variable {ρ γ : Type}

/-! ## SessionCleanup -/

namespace SessionCleanup

def finalizeRecording [IContinuousRecorder ρ] (p : Ports γ) (d : Device ρ γ) : Device ρ γ :=
  { d with recording := (RecordingService.stop p.thumbnailWritten d.recording).1 }

def stopStreaming (d : Device ρ γ) : Device ρ γ :=
  let stopped := (StreamingService.stopAppStream d.streaming).1
  { d with
    streaming := stopped.listActivePlatformStreams.foldl (fun s active =>
      (StreamingService.stopPlatformStream active.streamId s).1) stopped }

def teardownWifiDirect (d : Device ρ γ) : Device ρ γ :=
  { d with dhcp := d.dhcp.stop, wifi := d.wifi.stop }

/-- The streams are stopped: no preview is served. -/
theorem stopStreaming_serving (d : Device ρ γ) : (stopStreaming d).streaming.appStreamServer.serving = none := by
  show AppStreamPort.serving (StreamingService.appStreamServer (List.foldl _ _ _)) = none
  rw [StreamingService.foldl_stop_appStreamServer, StreamingService.stopAppStream_serving]

end SessionCleanup

/-- `SessionManager::OnDisconnect`: the phase check, the three cleanup steps outside the lock,
the reset. -/
def onDisconnect [IContinuousRecorder ρ] (p : Ports γ) : Prog Call (Device ρ γ) Unit := do
  let idle ← Device.callSession .checkPhase fun s => (s, decide (s.phase = .idle))
  if idle then return ()
  else do
    .atomically .finalizeRecording fun d => (SessionCleanup.finalizeRecording p d, ())
    .atomically .stopStreaming fun d => (SessionCleanup.stopStreaming d, ())
    .atomically .teardownWifiDirect fun d => (SessionCleanup.teardownWifiDirect d, ())
    Device.callSession .clearSession fun _ => ({}, ())

/-! ## The sequential device -/

/-- What happens to the device, each to its end before the next. -/
inductive DeviceEvent (γ : Type) where
  | connect
  | disconnect (p : Ports γ)
  | command (p : Ports γ) (cmd : Command)
  | tick (p : Ports γ)
  | frame (f : Frame)

namespace Device

/-- The device as it starts, around a recorder. -/
def start (recorder : ρ) : Device ρ γ := { recording := { recorder } }

def connect (d : Device ρ γ) : Device ρ γ :=
  { d with session := (SessionManager.onConnect d.session).1 }

def tick (p : Ports γ) (d : Device ρ γ) : Device ρ γ :=
  ((MatchHandler.tickClock p).exec d).1

section
variable [IContinuousRecorder ρ]

def disconnect (p : Ports γ) (d : Device ρ γ) : Device ρ γ :=
  ((onDisconnect p).exec d).1

/-- Idle has nothing to clean up; from any other phase everything is stopped and cleared. -/
theorem disconnect_eq (p : Ports γ) (d : Device ρ γ) : d.disconnect p =
    if d.session.phase = .idle then d
    else { SessionCleanup.teardownWifiDirect
        (SessionCleanup.stopStreaming (SessionCleanup.finalizeRecording p d)) with session := {} } := by
  unfold disconnect onDisconnect
  by_cases h : d.session.phase = .idle <;> simp [callSession, h]

/-- The cleanup the device gives the session manager; its steps do not throw. -/
def cleanup (p : Ports γ) : ISessionCleanup (Device ρ γ) where
  finalizeRecording d := (SessionCleanup.finalizeRecording p d, none)
  stopStreaming d := (SessionCleanup.stopStreaming d, none)
  teardownWifiDirect d := (SessionCleanup.teardownWifiDirect d, none)

/-- Undisturbed, a disconnect is the session manager's over this cleanup. -/
theorem disconnect_eq_onDisconnect (p : Ports γ) (d : Device ρ γ) : d.disconnect p =
    { (SessionManager.onDisconnect (cleanup p) d d.session).2.subsystems with
      session := (SessionManager.onDisconnect (cleanup p) d d.session).1 } := by
  rw [disconnect_eq, SessionManager.onDisconnect]
  split <;> rfl

variable [IPlatformStreamer γ]

/-- The device after a command. -/
def command (p : Ports γ) (cmd : Command) (d : Device ρ γ) : Device ρ γ :=
  ((dispatch p cmd).exec d).1

/-- The answer to a command. -/
def response (p : Ports γ) (cmd : Command) (d : Device ρ γ) : CommandResponse :=
  ((dispatch p cmd).exec d).2

/-- The fan-out of a final frame to recording and streaming. -/
def pushFrame (f : Frame) (d : Device ρ γ) : Device ρ γ :=
  { d with recording := d.recording.push f, streaming := d.streaming.push f }

def step (d : Device ρ γ) : DeviceEvent γ → Device ρ γ
  | .connect => d.connect
  | .disconnect p => d.disconnect p
  | .command p cmd => d.command p cmd
  | .tick p => d.tick p
  | .frame f => d.pushFrame f

end

end Device

/-! ## The device behind its transport -/

structure Link (ρ γ : Type) where
  centralPresent : Bool := false
  device : Device ρ γ

/-- A write with the command it completes, if any; the end of the connection; the clock thread
and the pipeline. -/
inductive LinkEvent (γ : Type) where
  | write (p : Ports γ) (cmd : Option Command)
  | stop (p : Ports γ)
  | tick (p : Ports γ)
  | frame (f : Frame)

namespace Link

/-- The device events a transport event comes to. -/
def events (centralPresent : Bool) : LinkEvent γ → List (DeviceEvent γ)
  | .write p cmd => (if centralPresent then [] else [.connect]) ++ (cmd.map (.command p)).toList
  | .stop p => if centralPresent then [.disconnect p] else []
  | .tick p => [.tick p]
  | .frame f => [.frame f]

def present (centralPresent : Bool) : LinkEvent γ → Bool
  | .write _ _ => true
  | .stop _ => false
  | .tick _ => centralPresent
  | .frame _ => centralPresent

def step [IContinuousRecorder ρ] [IPlatformStreamer γ] (l : Link ρ γ) (e : LinkEvent γ) : Link ρ γ where
  centralPresent := present l.centralPresent e
  device := (events l.centralPresent e).foldl Device.step l.device

/-- The link as it starts, with nobody connected. -/
def start (recorder : ρ) : Link ρ γ := { device := .start recorder }

end Link

end SstCam
