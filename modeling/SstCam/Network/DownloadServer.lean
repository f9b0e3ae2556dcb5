import SstCam.Network.DirectoryTree

/-!
# DownloadServer

The catalogue of the recordings and the tokens to download them with
(`app/network/services/download_server/download-server.cpp`). The directory tree, the clock and the
token that the generator makes are inputs of a call.
-/

namespace SstCam
set_option autoImplicit false

def kMp4Extension : List Char := ['.', 'm', 'p', '4']

def kRawExtension : List Char := ['.', 'n', 'v', '1', '2']

structure RecordingSummary where
  recordingId : String := ""
  sizeBytes : Nat := 0
  startedAtUnix : Nat := 0
  durationS : Nat := 0
  thumbnailId : String := ""
  sport : String := ""
  teams : String := ""
  isRaw : Bool := false
  cameraIndex : Nat := 0
  captureGroupId : String := ""
  deriving DecidableEq, Repr

structure DownloadToken where
  recordingId : String := ""
  token : String := ""
  expiresAtUnix : Nat := 0
  deriving DecidableEq, Repr

/-- What a token authorises. -/
structure TokenEntry where
  path : Path
  expiresAtUnix : Nat := 0
  deriving DecidableEq, Repr

structure DownloadServer where
  tokens : String → Option TokenEntry := fun _ => none

namespace DownloadServer

/-- What `Enumerate` makes of an entry: nothing of what is not a recording, nor of a `.nv12` file
with a name that is not ours. -/
def summarize (e : DirectoryEntry) : Option RecordingSummary :=
  if !e.isRegularFile then none
  else if extension e.fileName = kMp4Extension then
    some
      { recordingId := String.ofList (stem e.fileName)
        thumbnailId := String.ofList (stem e.fileName)
        sizeBytes := e.sizeBytes
        startedAtUnix := e.lastWriteUnix }
  else if extension e.fileName = kRawExtension then
    match RawCaptureNaming.parseFileName e.fileName with
    | none => none
    | some identity =>
      some
        { recordingId := String.ofList (stem e.fileName)
          isRaw := true
          cameraIndex := identity.cameraIndex
          captureGroupId := String.ofList identity.captureGroupId
          sizeBytes := e.sizeBytes
          startedAtUnix := e.lastWriteUnix }
  else none

def enumerate (root : Option (List FileNode)) : List RecordingSummary := (recursiveDirectory root).filterMap summarize

/-- An entry that a token can be minted for. -/
def isRecording (e : DirectoryEntry) : Bool :=
  e.isRegularFile && (extension e.fileName == kMp4Extension || extension e.fileName == kRawExtension)

def resolveRecordingPath (recordingId : String) (root : Option (List FileNode)) : Option Path :=
  if recordingId = "" then none
  else
    match (recursiveDirectory root).find? fun e => isRecording e && String.ofList (stem e.fileName) == recordingId with
    | none => none
    | some e => some e.path

/-- `generated` is what `MakeSecureToken` returns; the sum is a `uint64`. -/
def mintToken (recordingId : String) (ttlSeconds : Nat) (root : Option (List FileNode)) (generated : String) (now : Nat)
    (s : DownloadServer) : DownloadServer × Option DownloadToken :=
  match resolveRecordingPath recordingId root with
  | none => (s, none)
  | some path =>
    let expiresAtUnix := (now + ttlSeconds) % 2 ^ 64
    ({ s with tokens := fun token => if token = generated then some { path, expiresAtUnix } else s.tokens token },
      some { recordingId, token := generated, expiresAtUnix })

/-- A token that is found expired is forgotten. -/
def validateToken (token : String) (now : Nat) (s : DownloadServer) : DownloadServer × Option Path :=
  match s.tokens token with
  | none => (s, none)
  | some entry =>
    if entry.expiresAtUnix ≤ now then
      ({ s with tokens := fun other => if other = token then none else s.tokens other }, none)
    else (s, some entry.path)

end DownloadServer

end SstCam
