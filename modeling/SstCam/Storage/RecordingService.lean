import SstCam.Domain.Frame

/-!
# RecordingService

The recording state machine over a single continuous recorder
(`app/storage/services/recording_service`). The recorder is a port: a class over the adapter's
own state, with the adapter's outcome as an input where the hardware decides it. `RecorderPort`
is the port by its contract alone.
-/

namespace SstCam
set_option autoImplicit false

/-- `IContinuousRecorder`. `start` is told whether the muxer pipeline comes up. -/
class IContinuousRecorder (ρ : Type) where
  start : ρ → String → Bool → ρ × Bool
  pause : ρ → ρ
  resume : ρ → ρ
  stop : ρ → ρ × Bool
  isRunning : ρ → Bool
  push : ρ → Frame → ρ

inductive RecordingState where
  | idle
  | recording
  | paused
  deriving DecidableEq, Repr

/-- A recording is active while it is not idle, be it paused. -/
def RecordingState.isActive : RecordingState → Bool
  | .idle => false
  | .recording => true
  | .paused => true

@[simp] theorem RecordingState.isActive_iff (s : RecordingState) : s.isActive = true ↔ s ≠ .idle := by
  cases s <;> decide

@[simp] theorem RecordingState.isActive_eq_false_iff (s : RecordingState) : s.isActive = false ↔ s = .idle := by
  cases s <;> decide

structure StopRecordingResult where
  success : Bool := false
  filePath : String := ""
  thumbnailWritten : Bool := false
  deriving DecidableEq, Repr

structure RecordingService (ρ : Type) where
  recorder : ρ
  state : RecordingState := .idle
  videoPath : String := ""
  thumbnailPath : String := ""
  lastFrame : Option Frame := none
  deriving DecidableEq, Repr

namespace RecordingService

variable {ρ : Type} [IContinuousRecorder ρ]

/-- `enoughSpace` is the disk guard's answer and `comesUp` the recorder's. -/
def startRecording (videoOutputPath thumbnailOutputPath : String) (enoughSpace comesUp : Bool)
    (r : RecordingService ρ) : RecordingService ρ × Bool :=
  if r.state ≠ .idle then (r, false)
  else if videoOutputPath = "" then (r, false)
  else if !enoughSpace then (r, false)
  else
    match IContinuousRecorder.start r.recorder videoOutputPath comesUp with
    | (recorder, false) => ({ r with recorder, videoPath := "", thumbnailPath := "" }, false)
    | (recorder, true) =>
      ({ r with
          recorder
          state := .recording
          videoPath := videoOutputPath
          thumbnailPath := thumbnailOutputPath }, true)

def pause (r : RecordingService ρ) : RecordingService ρ × Bool :=
  if r.state ≠ .recording then (r, false)
  else ({ r with recorder := IContinuousRecorder.pause r.recorder, state := .paused }, true)

def resume (r : RecordingService ρ) : RecordingService ρ × Bool :=
  if r.state ≠ .paused then (r, false)
  else ({ r with recorder := IContinuousRecorder.resume r.recorder, state := .recording }, true)

/-- What `Stop` has the thumbnail writer write, and where. -/
abbrev ThumbnailWrite := Frame × String

/-- `written` is the thumbnail writer's answer, asked for only when there is a frame and a path. -/
def stop (written : Bool) (r : RecordingService ρ) : RecordingService ρ × StopRecordingResult × Option ThumbnailWrite :=
  if r.state = .idle then (r, {}, none)
  else
    let write := if r.thumbnailPath = "" then none else r.lastFrame.map (·, r.thumbnailPath)
    ({ recorder := (IContinuousRecorder.stop r.recorder).1 },
      { success := (IContinuousRecorder.stop r.recorder).2
        filePath := r.videoPath
        thumbnailWritten := write.isSome && written },
      write)

def push (frame : Frame) (r : RecordingService ρ) : RecordingService ρ :=
  if r.state = .idle then r
  else { r with lastFrame := some frame, recorder := IContinuousRecorder.push r.recorder frame }

/-! ## What a call does to the state -/

theorem startRecording_state (video thumbnail : String) (enoughSpace comesUp : Bool) (r : RecordingService ρ) :
    (startRecording video thumbnail enoughSpace comesUp r).2 = true ∧ r.state = .idle ∧
        (startRecording video thumbnail enoughSpace comesUp r).1.state = .recording ∨
      (startRecording video thumbnail enoughSpace comesUp r).2 = false ∧
        (startRecording video thumbnail enoughSpace comesUp r).1.state = r.state := by
  unfold startRecording
  repeat' split
  all_goals simp_all

/-- Pausing never leaves or enters Idle. -/
theorem pause_isActive (r : RecordingService ρ) : (pause r).1.state.isActive = r.state.isActive := by
  unfold pause
  split
  · rfl
  · simp_all [RecordingState.isActive]

/-- Resuming never leaves or enters Idle. -/
theorem resume_isActive (r : RecordingService ρ) : (resume r).1.state.isActive = r.state.isActive := by
  unfold resume
  split
  · rfl
  · simp_all [RecordingState.isActive]

@[simp] theorem stop_state (written : Bool) (r : RecordingService ρ) : (stop written r).1.state = .idle := by
  unfold stop
  split <;> simp_all

@[simp] theorem push_state (frame : Frame) (r : RecordingService ρ) : (push frame r).state = r.state := by
  unfold push
  split <;> rfl

end RecordingService

/-- A recorder by its contract: it runs from a successful start to the next stop. -/
structure RecorderPort where
  running : Bool := false
  paused : Bool := false
  deriving DecidableEq, Repr

instance : IContinuousRecorder RecorderPort where
  start r _ comesUp := if r.running then (r, false) else if comesUp then ({ running := true }, true) else (r, false)
  pause r := { r with paused := true }
  resume r := if r.running then { r with paused := false } else r
  stop r := ({}, r.running)
  isRunning r := r.running
  push r _ := r

end SstCam
