import SstCam.Domain.Session

/-!
# SessionManager

The session lifecycle state machine (`app/session/services/session_manager`). Each method runs
under the manager's lock on the one `SessionState` it owns; a transition returns whether the
phase allowed it. `create_directories` is the file system's: its outcome for a path is a
parameter.

`OnDisconnect` is three sections. It checks the phase, fans out the cleanup with the lock
released, and clears the state; the sections are put together in `SstCam.Control.Firmware`.
-/

namespace SstCam.SessionManager
set_option autoImplicit false

def onConnect (s : SessionState) : SessionState × Bool :=
  if s.phase ≠ .idle then (s, false)
  else ({ s with phase := .connected }, true)

def onWifiReady (s : SessionState) : SessionState × Bool :=
  if s.phase < .connected then (s, false)
  else if s.phase = .connected then ({ s with phase := .wifiReady }, true)
  else (s, true)

/-- Drops back to Connected and discards what was built on the group. -/
def onWifiStopped (s : SessionState) : SessionState × Bool :=
  if s.phase = .idle then (s, false)
  else ({ s with phase := .connected, config := none, liveMatch := {} }, true)

/-- `std::filesystem::path::parent_path` of a POSIX path. -/
def parentPath (path : String) : String :=
  let front := (path.toList.reverse.dropWhile (· ≠ '/')).dropWhile (· = '/')
  if front.isEmpty then (if path.toList.head? = some '/' then "/" else "")
  else String.ofList front.reverse

/-- The parent directories of both output paths exist or could be created. -/
def prepareOutputDirs (mkdir : String → Bool) (config : SessionConfig) : Bool :=
  let makeParent (filePath : String) : Bool :=
    if filePath = "" then true
    else if parentPath filePath = "" then true
    else mkdir (parentPath filePath)
  makeParent config.videoOutputPath && makeParent config.thumbnailOutputPath

def applySessionConfig (mkdir : String → Bool) (config : SessionConfig) (s : SessionState) :
    SessionState × Bool :=
  if s.phase < .wifiReady ∨ s.phase = .recording then (s, false)
  else if !prepareOutputDirs mkdir config then (s, false)
  else
    ({ s with
        config := some config
        phase := if s.phase = .wifiReady then .configured else s.phase }, true)

def onOverlayConfigured (s : SessionState) : SessionState × Bool :=
  if s.phase < .configured then (s, false)
  else if s.phase = .configured then ({ s with phase := .ready }, true)
  else (s, true)

def onRecordingStart (s : SessionState) : SessionState × Bool :=
  if s.phase ≠ .ready then (s, false)
  else ({ s with phase := .recording }, true)

def onRecordingStop (s : SessionState) : SessionState × Bool :=
  if s.phase ≠ .recording then (s, false)
  else ({ s with phase := .ready }, true)

def applyMatchUpdate (mutate : LiveMatch → LiveMatch) (s : SessionState) : SessionState × Bool :=
  if s.phase < .configured then (s, false)
  else ({ s with liveMatch := mutate s.liveMatch }, true)

/-! ## What a transition does to the phase -/

@[simp] theorem onConnect_phase (s : SessionState) :
    (onConnect s).1.phase = if s.phase = .idle then .connected else s.phase := by
  unfold onConnect
  split <;> simp_all

/-- Only an idle session rejects the group. -/
theorem onWifiReady_snd (s : SessionState) : (onWifiReady s).2 = decide (s.phase ≠ .idle) := by
  unfold onWifiReady
  cases h : s.phase <;> simp

@[simp] theorem onWifiReady_phase (s : SessionState) :
    (onWifiReady s).1.phase = if s.phase = .connected then .wifiReady else s.phase := by
  unfold onWifiReady
  cases h : s.phase <;> simp [h]

@[simp] theorem onWifiStopped_phase (s : SessionState) :
    (onWifiStopped s).1.phase = if s.phase = .idle then .idle else .connected := by
  unfold onWifiStopped
  split <;> simp_all

@[simp] theorem onRecordingStart_phase (s : SessionState) :
    (onRecordingStart s).1.phase = if s.phase = .ready then .recording else s.phase := by
  unfold onRecordingStart
  split <;> simp_all

@[simp] theorem onRecordingStop_phase (s : SessionState) :
    (onRecordingStop s).1.phase = if s.phase = .recording then .ready else s.phase := by
  unfold onRecordingStop
  split <;> simp_all

/-- A match update leaves the phase and the configuration alone. -/
@[simp] theorem applyMatchUpdate_phase (mutate : LiveMatch → LiveMatch) (s : SessionState) :
    (applyMatchUpdate mutate s).1.phase = s.phase := by
  unfold applyMatchUpdate
  split <;> rfl

/-- The configuration moves the phase at most from WifiReady to Configured. -/
theorem applySessionConfig_phase (mkdir : String → Bool) (config : SessionConfig) (s : SessionState) :
    (applySessionConfig mkdir config s).1.phase = s.phase ∨
      s.phase = .wifiReady ∧ (applySessionConfig mkdir config s).1.phase = .configured := by
  unfold applySessionConfig
  repeat' split
  all_goals simp_all

/-- The overlay moves the phase at most from Configured to Ready. -/
theorem onOverlayConfigured_phase (s : SessionState) :
    (onOverlayConfigured s).1.phase = s.phase ∨
      s.phase = .configured ∧ (onOverlayConfigured s).1.phase = .ready := by
  unfold onOverlayConfigured
  repeat' split
  all_goals simp_all

end SstCam.SessionManager
