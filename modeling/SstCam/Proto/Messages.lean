import SstCam.Domain.Session
import SstCam.Domain.Overlay

/-!
# Wire messages

The `sst_cam` protobuf messages the firmware handles, with the fields its code reads or
writes. A proto3 enumeration is open: a value without a name of its own is `unrecognized`. A
proto3 `optional` field is an `Option`. The generated parsers and serialisers are not part of
the repository; `Codec` stands for the ones the transport calls.
-/

namespace SstCam
set_option autoImplicit false

abbrev Bytes := List UInt8

/-- One framed chunk of a message; also the shape a `ChunkAck` decodes to, with
`totalChunks = 0`. The two numbers are `uint32` fields. -/
structure ChunkedPayload where
  correlationId : String := ""
  chunkIndex : Nat := 0
  totalChunks : Nat := 0
  data : Bytes := []
  deriving DecidableEq, Repr

structure ChunkAck where
  correlationId : String := ""
  chunkIndex : Nat := 0
  deriving DecidableEq, Repr

/-! ## Commands -/

inductive RecordingAction where
  | start
  | stop
  | pause
  | resume
  | unrecognized (value : Int)
  deriving DecidableEq, Repr

inductive StreamingAction where
  | start
  | stop
  | unrecognized (value : Int)
  deriving DecidableEq, Repr

inductive MatchAction where
  | kickoff
  | periodStart
  | periodEnd
  | finalWhistle
  | clockPause
  | clockResume
  | unrecognized (value : Int)
  deriving DecidableEq, Repr

structure PushSessionConfigCommand where
  matchUuid : String := ""
  userUuid : String := ""
  sport : String := ""
  numPeriods : Int := 0
  periodLengthSeconds : Int := 0
  rtmpUrl : Option String := none
  streamKey : Option String := none
  videoOutputPath : String := ""
  thumbnailOutputPath : String := ""
  teamAId : String := ""
  teamBId : String := ""
  teamAName : String := ""
  teamBName : String := ""
  teamAColorHex : String := ""
  teamBColorHex : String := ""
  deriving DecidableEq, Repr

namespace Proto

inductive OverlayShape where
  | rect
  | text
  | circle
  | unrecognized (value : Int)
  deriving DecidableEq, Repr

inductive OverlayBinding where
  | scoreA
  | scoreB
  | scoreVs
  | teamAName
  | teamBName
  | matchClock
  | periodLabel
  | unrecognized (value : Int)
  deriving DecidableEq, Repr

inductive TextAlign where
  | center
  | right
  | unrecognized (value : Int)
  deriving DecidableEq, Repr

inductive FontWeight where
  | bold
  | unrecognized (value : Int)
  deriving DecidableEq, Repr

structure OverlayStyle where
  fillColor : String := ""
  textColor : String := ""
  opacity : Option ℚ := none
  cornerRadius : ℚ := 0
  fontFamily : String := ""
  fontSize : ℚ := 0
  textAlign : TextAlign := .unrecognized 0
  fontWeight : FontWeight := .unrecognized 0
  staticText : String := ""
  deriving DecidableEq, Repr

structure OverlayElement where
  id : String := ""
  shape : OverlayShape := .unrecognized 0
  bounds : OverlayRect := {}
  style : OverlayStyle := {}
  binding : OverlayBinding := .unrecognized 0
  visible : Option Bool := none
  deriving DecidableEq, Repr

structure OverlayTemplate where
  eventType : String := ""
  durationMs : Nat := 0
  elements : List OverlayElement := []
  deriving DecidableEq, Repr

structure OverlayLayout where
  canvasWidth : Nat := 0
  canvasHeight : Nat := 0
  elements : List OverlayElement := []
  templates : List OverlayTemplate := []
  deriving DecidableEq, Repr

end Proto

structure MatchControlCommand where
  action : MatchAction
  period : Nat := 0
  deriving DecidableEq, Repr

/-- `delta` is an `int32` field. -/
structure ScoreUpdateCommand where
  teamId : String := ""
  delta : Int := 0
  deriving DecidableEq, Repr

structure BannerEventCommand where
  templateId : String := ""
  params : List (String × String) := []
  durationS : Nat := 0
  deriving DecidableEq, Repr

structure StreamingControlCommand where
  action : StreamingAction
  destination : String := ""
  deriving DecidableEq, Repr

structure RawCaptureControlCommand where
  action : Option RecordingAction := none
  captureGroupId : Option String := none
  deriving DecidableEq, Repr

structure ThumbnailRequest where
  width : Nat := 0
  height : Nat := 0
  quality : Nat := 0
  deriving DecidableEq, Repr

/-- The payload `oneof` of a command. `unwired` is a payload case of the schema that no
handler of this firmware owns. -/
inductive CommandPayload where
  | getDeviceInfo
  | getTelemetry
  | startWifiDirect
  | stopWifiDirect
  | pushSessionConfig (msg : PushSessionConfigCommand)
  | pushOverlayLayout (layout : Proto.OverlayLayout)
  | matchControl (msg : MatchControlCommand)
  | scoreUpdate (msg : ScoreUpdateCommand)
  | bannerEvent (msg : BannerEventCommand)
  | getMatchState
  | recordingControl (action : RecordingAction)
  | streamingControl (msg : StreamingControlCommand)
  | setStreamingConfig (customRtmpUrl : String)
  | listRecordings
  | downloadRequest (recordingId : String)
  | rawCapture (msg : RawCaptureControlCommand)
  | thumbnail (msg : ThumbnailRequest)
  | unwired (payloadCase : Nat)
  deriving DecidableEq, Repr

/-- `Command::PayloadCase`, by which the dispatcher routes. -/
inductive PayloadCase where
  | getDeviceInfo
  | getTelemetry
  | startWifiDirect
  | stopWifiDirect
  | pushSessionConfig
  | pushOverlayLayout
  | matchControl
  | scoreUpdate
  | bannerEvent
  | getMatchState
  | recordingControl
  | streamingControl
  | setStreamingConfig
  | listRecordings
  | downloadRequest
  | rawCapture
  | thumbnail
  | unwired (payloadCase : Nat)
  deriving DecidableEq, Repr

def CommandPayload.case : CommandPayload → PayloadCase
  | .getDeviceInfo => .getDeviceInfo
  | .getTelemetry => .getTelemetry
  | .startWifiDirect => .startWifiDirect
  | .stopWifiDirect => .stopWifiDirect
  | .pushSessionConfig _ => .pushSessionConfig
  | .pushOverlayLayout _ => .pushOverlayLayout
  | .matchControl _ => .matchControl
  | .scoreUpdate _ => .scoreUpdate
  | .bannerEvent _ => .bannerEvent
  | .getMatchState => .getMatchState
  | .recordingControl _ => .recordingControl
  | .streamingControl _ => .streamingControl
  | .setStreamingConfig _ => .setStreamingConfig
  | .listRecordings => .listRecordings
  | .downloadRequest _ => .downloadRequest
  | .rawCapture _ => .rawCapture
  | .thumbnail _ => .thumbnail
  | .unwired n => .unwired n

/-- A command; `none` is `PAYLOAD_NOT_SET`. -/
structure Command where
  correlationId : String := ""
  payload : Option CommandPayload := none
  deriving DecidableEq, Repr

/-! The generated accessors: a message that is not the one set reads as its default. -/

namespace Command

def payloadCase (c : Command) : Option PayloadCase := c.payload.map CommandPayload.case

def pushSessionConfig (c : Command) : PushSessionConfigCommand :=
  match c.payload with
  | some (.pushSessionConfig msg) => msg
  | _ => {}

def pushOverlayLayout (c : Command) : Proto.OverlayLayout :=
  match c.payload with
  | some (.pushOverlayLayout layout) => layout
  | _ => {}

def matchControl (c : Command) : MatchControlCommand :=
  match c.payload with
  | some (.matchControl msg) => msg
  | _ => { action := .unrecognized 0 }

def scoreUpdate (c : Command) : ScoreUpdateCommand :=
  match c.payload with
  | some (.scoreUpdate msg) => msg
  | _ => {}

def bannerEvent (c : Command) : BannerEventCommand :=
  match c.payload with
  | some (.bannerEvent msg) => msg
  | _ => {}

def recordingControl (c : Command) : RecordingAction :=
  match c.payload with
  | some (.recordingControl action) => action
  | _ => .unrecognized 0

def streamingControl (c : Command) : StreamingControlCommand :=
  match c.payload with
  | some (.streamingControl msg) => msg
  | _ => { action := .unrecognized 0 }

/-- `set_streaming_config().config().custom_rtmp_url()`. -/
def setStreamingConfig (c : Command) : String :=
  match c.payload with
  | some (.setStreamingConfig customRtmpUrl) => customRtmpUrl
  | _ => ""

def downloadRequest (c : Command) : String :=
  match c.payload with
  | some (.downloadRequest recordingId) => recordingId
  | _ => ""

def rawCapture (c : Command) : RawCaptureControlCommand :=
  match c.payload with
  | some (.rawCapture msg) => msg
  | _ => {}

def thumbnail (c : Command) : ThumbnailRequest :=
  match c.payload with
  | some (.thumbnail msg) => msg
  | _ => {}

end Command

/-! ## Responses -/

inductive ResponseStatus where
  | ok
  | error
  | unsupported
  deriving DecidableEq, Repr

structure DeviceInfo where
  deviceId : String := ""
  name : String := ""
  firmwareVersion : String := ""
  model : String := ""
  protocolVersion : Nat := 0
  deriving DecidableEq, Repr

/-- Device health as the OS and the sensors report it. -/
structure SystemStats where
  storageFreeBytes : Nat := 0
  storageTotalBytes : Nat := 0
  tempCelsius : ℚ := 0
  ramUsedPct : ℚ := 0
  cpuUsedPct : ℚ := 0
  uptimeSeconds : Nat := 0
  batteryLevelPct : Nat := 0
  deriving DecidableEq, Repr

/-- `wifi_state` is always `WIFI_UNKNOWN` and `internet_reachable` always false. -/
structure DeviceTelemetry where
  stats : SystemStats := {}
  isRecording : Bool := false
  isStreaming : Bool := false
  isRawCapturing : Bool := false
  deriving DecidableEq, Repr

inductive MatchStatus where
  | notStarted
  | active
  | paused
  | halfTime
  | finished
  deriving DecidableEq, Repr

structure MatchStateMsg where
  status : MatchStatus
  currentPeriod : Nat := 0
  timeRemainingS : Nat := 0
  scoreA : Nat := 0
  scoreB : Nat := 0
  teamAId : String := ""
  teamBId : String := ""
  updatedAt : Nat := 0
  deriving DecidableEq, Repr

structure WifiDirectGroupMsg where
  ssid : String := ""
  psk : String := ""
  groupOwnerIp : String := ""
  previewPort : Nat := 0
  downloadPort : Nat := 0
  role : String := ""
  deriving DecidableEq, Repr

/-- `raw` carries the camera index and the capture group of a raw dual-camera file. -/
structure RecordingMetadata where
  id : String := ""
  sizeBytes : Nat := 0
  startedAt : Nat := 0
  durationS : Nat := 0
  thumbnailId : String := ""
  sport : String := ""
  teams : String := ""
  raw : Option (Nat × String) := none
  deriving DecidableEq, Repr

structure DownloadTokenMsg where
  recordingId : String := ""
  httpUrl : String := ""
  authToken : String := ""
  expiresAt : Nat := 0
  deriving DecidableEq, Repr

structure ThumbnailResponse where
  jpegBytes : Bytes := []
  captureTimestamp : Nat := 0
  deriving DecidableEq, Repr

inductive ResponsePayload where
  | deviceInfo (msg : DeviceInfo)
  | telemetry (msg : DeviceTelemetry)
  | matchState (msg : MatchStateMsg)
  | wifiDirectGroup (msg : WifiDirectGroupMsg)
  | recordingList (recordings : List RecordingMetadata)
  | downloadToken (msg : DownloadTokenMsg)
  | thumbnail (msg : ThumbnailResponse)
  deriving DecidableEq, Repr

structure CommandResponse where
  correlationId : String := ""
  status : ResponseStatus
  errorMessage : String := ""
  payload : Option ResponsePayload := none
  deriving DecidableEq, Repr

namespace CommandResponse

/-- A handler's plain success. -/
def okay : CommandResponse := { status := .ok }

/-- A handler's success with a payload. -/
def reply (payload : ResponsePayload) : CommandResponse := { status := .ok, payload := some payload }

/-- A handler's error. -/
def error (message : String) : CommandResponse := { status := .error, errorMessage := message }

/-- A capability that is not wired. -/
def unsupported (message : String) : CommandResponse := { status := .unsupported, errorMessage := message }

@[simp] theorem okay_status : okay.status = .ok := rfl
@[simp] theorem reply_status (p : ResponsePayload) : (reply p).status = .ok := rfl
@[simp] theorem error_status (m : String) : (error m).status = .error := rfl
@[simp] theorem unsupported_status (m : String) : (unsupported m).status = .unsupported := rfl

end CommandResponse

/-- The generated protobuf code the transport calls: `none` is a failed parse. -/
structure Codec where
  parseChunk : Bytes → Option ChunkedPayload
  parseCommand : Bytes → Option Command
  serializeChunk : ChunkedPayload → Bytes
  serializeAck : ChunkAck → Bytes
  serializeResponse : CommandResponse → Bytes

end SstCam
