import SstCam.Lib.Atomic
import SstCam.Network.DownloadServer
import SstCam.Overlay.OverlayController
import SstCam.Overlay.OverlayProtoMapper
import SstCam.Proto.Messages
import SstCam.Session.SessionManager
import SstCam.Storage.RecordingService
import SstCam.Streaming.StreamingService

/-!
# The device the handlers act on

Everything a command can reach: the session, the services behind it and the ports. Each object
has its own lock, so a handler is a program of atomic calls (`Atomic.Prog`), one per call of a
method; `Call` names them. `Ports` is what the outside answers while one command is handled.
-/

namespace SstCam
set_option autoImplicit false

open Atomic

structure WifiDirectGroup where
  ssid : String := ""
  psk : String := ""
  groupInterface : String := ""
  groupOwnerIp : String := ""
  role : String := ""
  deriving DecidableEq, Repr

/-- `IWifiManager` by its contract: a formed group stands until the next stop. -/
structure WpaWifiManager where
  group : Option WifiDirectGroup := none
  deriving DecidableEq, Repr

namespace WpaWifiManager

def startP2pGroupOwner (formed : Option WifiDirectGroup) (w : WpaWifiManager) :
    WpaWifiManager × Option WifiDirectGroup :=
  match formed with
  | none => (w, none)
  | some group => ({ group := some group }, some group)

def stop (_ : WpaWifiManager) : WpaWifiManager := {}

end WpaWifiManager

/-- The `dnsmasq` child process, by its pid. -/
structure DnsmasqDhcpServer where
  pid : Option Nat := none
  deriving DecidableEq, Repr

namespace DnsmasqDhcpServer

/-- `launched` is the child that was still alive at the check, if any. -/
def start (groupInterface : String) (launched : Option Nat) (d : DnsmasqDhcpServer) : DnsmasqDhcpServer × Bool :=
  if d.pid.isSome then (d, false)
  else if groupInterface = "" then (d, false)
  else
    match launched with
    | none => ({ pid := none }, false)
    | some pid => ({ pid := some pid }, true)

def stop (_ : DnsmasqDhcpServer) : DnsmasqDhcpServer := {}

/-- A running server refuses and runs on. -/
theorem start_running (groupInterface : String) (launched : Option Nat) {d : DnsmasqDhcpServer}
    (running : d.pid.isSome) : start groupInterface launched d = (d, false) := if_pos running

/-- A server that is not running answers whether it runs afterwards. -/
theorem start_stopped (groupInterface : String) (launched : Option Nat) {d : DnsmasqDhcpServer}
    (stopped : d.pid = none) :
    (start groupInterface launched d).1.pid.isSome = (start groupInterface launched d).2 := by
  unfold start
  rw [if_neg (by simp [stopped])]
  split
  · simp [stopped]
  · split <;> rfl

end DnsmasqDhcpServer

/-- `IRawCaptureSink` by its contract: the capture group of the running capture. -/
structure RawCaptureSink where
  capturing : Option String := none
  deriving DecidableEq, Repr

namespace RawCaptureSink

/-- `opens` tells whether every per-camera file opens. -/
def start (captureGroupId : String) (opens : Bool) (r : RawCaptureSink) : RawCaptureSink × Bool :=
  if r.capturing.isSome then (r, false)
  else if !opens then (r, false)
  else ({ capturing := some captureGroupId }, true)

def stop (r : RawCaptureSink) : RawCaptureSink × Bool :=
  if r.capturing.isNone then (r, false) else ({}, true)

end RawCaptureSink

/-- The state behind the dispatcher. `configuredRtmpUrl` is the streaming handler's own. -/
structure Device (ρ γ : Type) where
  session : SessionState := {}
  recording : RecordingService ρ
  streaming : StreamingService AppStreamPort γ := { appStreamServer := {} }
  wifi : WpaWifiManager := {}
  dhcp : DnsmasqDhcpServer := {}
  overlay : OverlayController := {}
  configuredRtmpUrl : String := ""
  rawCapture : RawCaptureSink := {}
  deriving DecidableEq

/-- The locked calls. The three of `SessionCleanup` are one section each; the last four are the
transport's. -/
inductive Call where
  | snapshot
  | onConnect
  | onWifiReady
  | onWifiStopped
  | applySessionConfig
  | onOverlayConfigured
  | onRecordingStart
  | onRecordingStop
  | applyMatchUpdate
  | checkPhase
  | finalizeRecording
  | stopStreaming
  | teardownWifiDirect
  | clearSession
  | startRecording
  | pauseRecording
  | resumeRecording
  | stopRecording
  | currentState
  | startAppStream
  | startPlatformStream
  | stopPlatformStream
  | listActivePlatformStreams
  | startP2pGroupOwner
  | wifiStop
  | dhcpStart
  | dhcpStop
  | setLayout
  | setBindingData
  | activateBanner
  | refresh
  | setConfiguredUrl
  | configuredUrl
  | startRawCapture
  | stopRawCapture
  | isCapturing
  | receive
  | sendResponse
  | takeCentral
  | resetAssembler
  deriving DecidableEq, Repr

/-- Device identity from the loaded configuration. -/
structure DeviceData where
  name : Option String := none
  model : Option String := none
  version : Option String := none
  serialNumber : Option String := none
  deriving DecidableEq, Repr

/-- What the outside answers while one command is handled: the outcome of each port, the
readings of the clocks and of the file system, and the configuration loaded at start. -/
structure Ports (γ : Type) where
  mkdir : String → Bool := fun _ => true
  enoughSpace : Bool := true
  recorderStarts : Bool := true
  thumbnailWritten : Bool := true
  group : Option WifiDirectGroup := none
  dhcpLaunched : Option Nat := none
  attaches : Bool := true
  made : Option γ := none
  accepts : Bool := true
  rawOpens : Bool := true
  nowMs : Nat := 0
  nowEpochMs : Nat := 0
  device : DeviceData := {}
  stats : SystemStats := {}
  recordings : List RecordingMetadata := []
  minted : String → Option DownloadToken := fun _ => none
  latestFrame : Option Frame := none
  encode : Frame → ThumbnailRequest → Option Bytes := fun _ _ => none

namespace Device

variable {ρ γ α : Type}

def callSession (name : Call) (f : SessionState → SessionState × α) : Prog Call (Device ρ γ) α :=
  .atomically name fun d => ({ d with session := (f d.session).1 }, (f d.session).2)

def callRecording (name : Call) (f : RecordingService ρ → RecordingService ρ × α) : Prog Call (Device ρ γ) α :=
  .atomically name fun d => ({ d with recording := (f d.recording).1 }, (f d.recording).2)

def callStreaming (name : Call)
    (f : StreamingService AppStreamPort γ → StreamingService AppStreamPort γ × α) : Prog Call (Device ρ γ) α :=
  .atomically name fun d => ({ d with streaming := (f d.streaming).1 }, (f d.streaming).2)

def callWifi (name : Call) (f : WpaWifiManager → WpaWifiManager × α) : Prog Call (Device ρ γ) α :=
  .atomically name fun d => ({ d with wifi := (f d.wifi).1 }, (f d.wifi).2)

def callDhcp (name : Call) (f : DnsmasqDhcpServer → DnsmasqDhcpServer × α) : Prog Call (Device ρ γ) α :=
  .atomically name fun d => ({ d with dhcp := (f d.dhcp).1 }, (f d.dhcp).2)

def callOverlay (name : Call) (f : OverlayController → OverlayController × α) : Prog Call (Device ρ γ) α :=
  .atomically name fun d => ({ d with overlay := (f d.overlay).1 }, (f d.overlay).2)

def callRawCapture (name : Call) (f : RawCaptureSink → RawCaptureSink × α) : Prog Call (Device ρ γ) α :=
  .atomically name fun d => ({ d with rawCapture := (f d.rawCapture).1 }, (f d.rawCapture).2)

def callUrl (name : Call) (f : String → String × α) : Prog Call (Device ρ γ) α :=
  .atomically name fun d => ({ d with configuredRtmpUrl := (f d.configuredRtmpUrl).1 }, (f d.configuredRtmpUrl).2)

/-- `SessionManager::Snapshot`. -/
def snapshot : Prog Call (Device ρ γ) SessionState :=
  callSession .snapshot fun s => (s, s)

/-! A call run by itself. -/

section
variable {name : Call} (d : Device ρ γ)

@[simp] theorem exec_snapshot : snapshot.exec d = (d, d.session) := rfl

@[simp] theorem exec_callSession {f : SessionState → SessionState × α} :
    (callSession name f).exec d = ({ d with session := (f d.session).1 }, (f d.session).2) := rfl

@[simp] theorem exec_callRecording {f : RecordingService ρ → RecordingService ρ × α} :
    (callRecording name f).exec d = ({ d with recording := (f d.recording).1 }, (f d.recording).2) := rfl

@[simp] theorem exec_callStreaming {f : StreamingService AppStreamPort γ → StreamingService AppStreamPort γ × α} :
    (callStreaming name f).exec d = ({ d with streaming := (f d.streaming).1 }, (f d.streaming).2) := rfl

@[simp] theorem exec_callWifi {f : WpaWifiManager → WpaWifiManager × α} :
    (callWifi name f).exec d = ({ d with wifi := (f d.wifi).1 }, (f d.wifi).2) := rfl

@[simp] theorem exec_callDhcp {f : DnsmasqDhcpServer → DnsmasqDhcpServer × α} :
    (callDhcp name f).exec d = ({ d with dhcp := (f d.dhcp).1 }, (f d.dhcp).2) := rfl

@[simp] theorem exec_callOverlay {f : OverlayController → OverlayController × α} :
    (callOverlay name f).exec d = ({ d with overlay := (f d.overlay).1 }, (f d.overlay).2) := rfl

@[simp] theorem exec_callRawCapture {f : RawCaptureSink → RawCaptureSink × α} :
    (callRawCapture name f).exec d = ({ d with rawCapture := (f d.rawCapture).1 }, (f d.rawCapture).2) := rfl

@[simp] theorem exec_callUrl {f : String → String × α} :
    (callUrl name f).exec d = ({ d with configuredRtmpUrl := (f d.configuredRtmpUrl).1 },
      (f d.configuredRtmpUrl).2) := rfl

end

end Device

end SstCam
