import SstCam.Lib.Runs
import SstCam.Storage.GstContinuousRecorder

/-!
# What a recording holds

`RecordingService` over `GstContinuousRecorder`, along any history of calls. `Take` notes what was
asked for at the last successful start and the frames pushed since, each with the state the service
was in. The recorder's file is what the take says (`Agrees`), so the file a stop finalises holds the
first planes of the frames pushed while recording, and its thumbnail is of the last frame pushed.
-/

namespace SstCam
set_option autoImplicit false

/-- What was recorded since the last successful start. -/
structure Take where
  videoPath : String := ""
  thumbnailPath : String := ""
  pushed : List (RecordingState × Frame) := []
  deriving DecidableEq, Repr

namespace Take

/-- The first planes of the frames that came while recording and have any. -/
def recorded (t : Take) : List FramePlane :=
  ((t.pushed.filter fun p => p.1 = .recording).map Prod.snd).filterMap fun frame => frame.planes.head?

/-- The frame pushed last, be it while paused. -/
def lastFrame (t : Take) : Option Frame := t.pushed.getLast?.map Prod.snd

def file (t : Take) : RecordedFile where
  location := t.videoPath
  buffers := t.recorded

/-- The thumbnail that is due: of the last frame, if there is one and a path for it. -/
def thumbnail (t : Take) : Option RecordingService.ThumbnailWrite :=
  if t.thumbnailPath = "" then none else t.lastFrame.map (·, t.thumbnailPath)

def push (state : RecordingState) (frame : Frame) (t : Take) : Take :=
  { t with pushed := t.pushed ++ [(state, frame)] }

theorem recorded_push (state : RecordingState) (frame : Frame) (t : Take) : (t.push state frame).recorded =
    t.recorded ++ if state = .recording then frame.planes.head?.toList else [] := by
  unfold recorded push
  rw [List.filter_append, List.map_append, List.filterMap_append]
  by_cases recording : state = .recording
  · cases planes : frame.planes <;> simp [recording, planes]
  · simp [recording]

@[simp] theorem lastFrame_push (state : RecordingState) (frame : Frame) (t : Take) :
    (t.push state frame).lastFrame = some frame := by
  simp [lastFrame, push]

end Take

/-! ## Calls -/

/-- A call, with the outcomes that the disk guard, GStreamer and the thumbnail writer decide. -/
inductive RecordingCall where
  | startRecording (videoOutputPath thumbnailOutputPath : String) (enoughSpace comesUp : Bool)
  | pause
  | resume
  | stop (written : Bool)
  | push (frame : Frame)
  deriving DecidableEq, Repr

namespace RecordingService

/-- A start that the service attempts is up to the recorder. -/
theorem startRecording_attempt {ρ : Type} [IContinuousRecorder ρ] {r : RecordingService ρ} {video : String}
    (idle : r.state = .idle) (named : video ≠ "") (thumbnail : String) (comesUp : Bool) :
    startRecording video thumbnail true comesUp r =
      if (IContinuousRecorder.start r.recorder video comesUp).2 then
        ({ r with
            recorder := (IContinuousRecorder.start r.recorder video comesUp).1
            state := .recording
            videoPath := video
            thumbnailPath := thumbnail }, true)
      else
        ({ r with recorder := (IContinuousRecorder.start r.recorder video comesUp).1, videoPath := "", thumbnailPath := "" },
          false) := by
  rw [startRecording, if_neg (by simp [idle]), if_neg named]
  obtain ⟨recorder, _ | _⟩ := IContinuousRecorder.start r.recorder video comesUp <;> rfl

end RecordingService

/-- The service with the take in progress. -/
structure RecordingRun where
  service : RecordingService GstContinuousRecorder := { recorder := {} }
  take : Take := {}
  deriving DecidableEq, Repr

namespace RecordingRun

open RecordingService

def step (r : RecordingRun) : RecordingCall → RecordingRun
  | .startRecording video thumbnail enoughSpace comesUp =>
    { service := (startRecording video thumbnail enoughSpace comesUp r.service).1
      take := if (startRecording video thumbnail enoughSpace comesUp r.service).2 then
          { videoPath := video, thumbnailPath := thumbnail }
        else r.take }
  | .pause => { r with service := (pause r.service).1 }
  | .resume => { r with service := (resume r.service).1 }
  | .stop written => { r with service := (stop written r.service).1 }
  | .push frame => { service := push frame r.service, take := r.take.push r.service.state frame }

/-- Idle, nothing is left of the last recording. -/
structure Idle (r : RecordingRun) : Prop where
  state : r.service.state = .idle
  recorder : r.service.recorder.AtRest
  videoPath : r.service.videoPath = ""
  thumbnailPath : r.service.thumbnailPath = ""
  lastFrame : r.service.lastFrame = none

/-- Otherwise the recorder runs, paused with the service, on the file of the take. -/
structure Active (r : RecordingRun) : Prop where
  state : r.service.state ≠ .idle
  recorder : r.service.recorder.Recording (decide (r.service.state = .paused)) r.take.file
  videoPath : r.service.videoPath = r.take.videoPath
  thumbnailPath : r.service.thumbnailPath = r.take.thumbnailPath
  lastFrame : r.service.lastFrame = r.take.lastFrame

/-- The two state machines and the take agree. -/
def Agrees (r : RecordingRun) : Prop := r.Idle ∨ r.Active

variable {r : RecordingRun}

/-- Idle, the paths are empty already. -/
theorem Idle.clearPaths (h : r.Idle) : { r.service with videoPath := "", thumbnailPath := "" } = r.service := by
  obtain ⟨⟨_, _, _, _, _⟩, _⟩ := r
  obtain ⟨_, _, rfl, rfl, _⟩ := h
  rfl

/-- A start that begins an empty take. -/
structure Begun (r : RecordingRun) (video thumbnail : String) (enoughSpace comesUp : Bool) : Prop where
  up : (startRecording video thumbnail enoughSpace comesUp r.service).2 = true
  state : (startRecording video thumbnail enoughSpace comesUp r.service).1.state = .recording
  recorder : (startRecording video thumbnail enoughSpace comesUp r.service).1.recorder.Recording false
    { location := video, buffers := [] }
  files : (startRecording video thumbnail enoughSpace comesUp r.service).1.recorder.files = r.service.recorder.files
  active : (r.step (.startRecording video thumbnail enoughSpace comesUp)).Active

/-- An idle service that does not start stays as it was. -/
theorem Idle.start (h : r.Idle) (video thumbnail : String) (enoughSpace comesUp : Bool) :
    ¬ (video ≠ "" ∧ enoughSpace = true ∧ comesUp = true) ∧
        startRecording video thumbnail enoughSpace comesUp r.service = (r.service, false) ∨
      (video ≠ "" ∧ enoughSpace = true ∧ comesUp = true) ∧ r.Begun video thumbnail enoughSpace comesUp := by
  by_cases refused : video = "" ∨ enoughSpace = false
  · refine .inl ⟨by rcases refused with refused | refused <;> simp [refused], ?_⟩
    unfold startRecording
    obtain rfl | rfl := refused <;> simp [h.state]
  · obtain ⟨named, rfl⟩ : video ≠ "" ∧ enoughSpace = true := by simpa using refused
    have attempt := startRecording_attempt h.state named thumbnail comesUp
    cases comesUp with
    | false =>
      have started : IContinuousRecorder.start r.service.recorder video false = (r.service.recorder, false) :=
        h.recorder.start_false video
      rw [started] at attempt
      exact .inl ⟨by simp, attempt.trans (congrArg (·, false) h.clearPaths)⟩
    | true =>
      obtain ⟨up, files, recording⟩ := h.recorder.start_true video
      have started : IContinuousRecorder.start r.service.recorder video true = ((r.service.recorder.start video true).1, true) :=
        Prod.ext rfl up
      rw [started, if_pos rfl] at attempt
      refine .inr ⟨⟨named, rfl, rfl⟩, ?_, ?_, ?_, ?_, ?_⟩
      · rw [attempt]
      · rw [attempt]
      · rw [attempt]
        exact recording
      · rw [attempt]
        exact files
      · rw [RecordingRun.step, attempt]
        exact ⟨by simp, recording, rfl, rfl, h.lastFrame⟩

/-- An active service does not start again. -/
theorem Active.start (h : r.Active) (video thumbnail : String) (enoughSpace comesUp : Bool) :
    startRecording video thumbnail enoughSpace comesUp r.service = (r.service, false) := by
  rw [startRecording, if_pos h.state]

theorem Active.pause (h : r.Active) :
    (r.step .pause).Active ∧ (r.step .pause).service.recorder.files = r.service.recorder.files := by
  rw [RecordingRun.step, RecordingService.pause]
  split
  · exact ⟨h, rfl⟩
  · exact ⟨⟨by simp, h.recorder.pause, h.videoPath, h.thumbnailPath, h.lastFrame⟩, rfl⟩

theorem Active.resume (h : r.Active) :
    (r.step .resume).Active ∧ (r.step .resume).service.recorder.files = r.service.recorder.files := by
  rw [RecordingRun.step, RecordingService.resume]
  split
  · exact ⟨h, rfl⟩
  · have same : r.service.recorder.resume.files = r.service.recorder.files := by
      unfold GstContinuousRecorder.resume
      split <;> rfl
    exact ⟨⟨by simp, h.recorder.resume, h.videoPath, h.thumbnailPath, h.lastFrame⟩, same⟩

/-- Stopping finalises the file of the take, with its thumbnail. -/
theorem Active.stop (h : r.Active) (written : Bool) : (r.step (.stop written)).Idle ∧
    (r.step (.stop written)).service.recorder.files = r.service.recorder.files ++ [r.take.file] ∧
    (RecordingService.stop written r.service).2.2 = r.take.thumbnail := by
  obtain ⟨-, rest, files⟩ := h.recorder.stop
  have stopped : (RecordingService.stop written r.service).1 = { recorder := r.service.recorder.stop.1 } := by
    rw [RecordingService.stop, if_neg h.state]
    rfl
  rw [RecordingRun.step, stopped]
  refine ⟨⟨rfl, rest, rfl, rfl, rfl⟩, files, ?_⟩
  rw [RecordingService.stop, if_neg h.state, Take.thumbnail, h.thumbnailPath, h.lastFrame]

theorem Active.push (h : r.Active) (frame : Frame) :
    (r.step (.push frame)).Active ∧ (r.step (.push frame)).service.recorder.files = r.service.recorder.files := by
  have pushed : RecordingService.push frame r.service =
      { r.service with lastFrame := some frame, recorder := r.service.recorder.push frame } := by
    rw [RecordingService.push, if_neg h.state]
    rfl
  rw [RecordingRun.step, pushed]
  refine ⟨⟨h.state, ?_, h.videoPath, h.thumbnailPath, by simp⟩, r.service.recorder.push_files frame⟩
  have recorder := h.recorder
  cases state : r.service.state with
  | idle => exact absurd state h.state
  | recording =>
    rw [state] at recorder
    have grown : (r.take.push .recording frame).file =
        { r.take.file with buffers := r.take.file.buffers ++ frame.planes.head?.toList } := by
      rw [Take.file, Take.recorded_push]
      rfl
    rw [grown]
    exact GstContinuousRecorder.Recording.push recorder frame
  | paused =>
    rw [state] at recorder
    have kept : (r.take.push .paused frame).file = r.take.file := by
      rw [Take.file, Take.recorded_push]
      simp [Take.file, Take.push]
    rw [kept, GstContinuousRecorder.Recording.push_paused recorder]
    exact recorder

/-! ## Runs -/

/-- What a call does, besides keeping the machines in agreement: a start that succeeds records into an empty
file, one that is refused leaves no trace, a stop of an active recording finalises one file and has the
thumbnail of the take written, and nothing else touches the finalised files. -/
def Lawful (r : RecordingRun) : RecordingCall → Prop
  | .startRecording video thumbnail enoughSpace comesUp =>
    ((startRecording video thumbnail enoughSpace comesUp r.service).2 = true ↔
        r.service.state = .idle ∧ video ≠ "" ∧ enoughSpace = true ∧ comesUp = true) ∧
      ((startRecording video thumbnail enoughSpace comesUp r.service).2 = true →
        (startRecording video thumbnail enoughSpace comesUp r.service).1.state = .recording ∧
          (startRecording video thumbnail enoughSpace comesUp r.service).1.recorder.Recording false
            { location := video, buffers := [] }) ∧
      ((startRecording video thumbnail enoughSpace comesUp r.service).2 = false →
        (startRecording video thumbnail enoughSpace comesUp r.service).1 = r.service) ∧
      (startRecording video thumbnail enoughSpace comesUp r.service).1.recorder.files = r.service.recorder.files
  | .stop written =>
    if r.service.state = .idle then RecordingService.stop written r.service = (r.service, {}, none)
    else
      (RecordingService.stop written r.service).1.recorder.files = r.service.recorder.files ++ [r.take.file] ∧
        (RecordingService.stop written r.service).2.2 = r.take.thumbnail
  | call => (r.step call).service.recorder.files = r.service.recorder.files

/-- The service is idle exactly while the recorder does not run, and paused exactly while the
running recorder is. -/
structure Consistent (r : RecordingRun) : Prop where
  idle : r.service.state = .idle ↔ r.service.recorder.running = false
  paused : r.service.state = .paused ↔ r.service.recorder.running = true ∧ r.service.recorder.paused = true

theorem Agrees.consistent (h : r.Agrees) : r.Consistent := by
  obtain idle | active := h
  · constructor <;> simp [idle.state, idle.recorder.1]
  · constructor
    · simp [active.state, active.recorder.running]
    · simp [active.recorder.running, active.recorder.paused]

theorem Agrees.step (h : r.Agrees) (call : RecordingCall) : (r.step call).Agrees ∧ r.Lawful call := by
  obtain idle | active := h
  · cases call with
    | startRecording video thumbnail enoughSpace comesUp =>
      obtain ⟨missing, refused⟩ | ⟨all, begun⟩ := idle.start video thumbnail enoughSpace comesUp
      · rw [Lawful, RecordingRun.step, refused]
        exact ⟨.inl idle, iff_of_false Bool.false_ne_true fun met => missing met.2, nofun, fun _ => rfl, rfl⟩
      · refine ⟨.inr begun.active, iff_of_true begun.up ⟨idle.state, all⟩, fun _ => ⟨begun.state, begun.recorder⟩,
          fun refused => ?_, begun.files⟩
        rw [begun.up] at refused
        exact absurd refused (by decide)
    | pause =>
      rw [Lawful, RecordingRun.step, RecordingService.pause, if_pos (by simp [idle.state])]
      · exact ⟨.inl idle, rfl⟩
      all_goals simp
    | resume =>
      rw [Lawful, RecordingRun.step, RecordingService.resume, if_pos (by simp [idle.state])]
      · exact ⟨.inl idle, rfl⟩
      all_goals simp
    | stop written =>
      rw [Lawful, RecordingRun.step, RecordingService.stop, if_pos idle.state, if_pos idle.state]
      exact ⟨.inl idle, rfl⟩
    | push frame =>
      have ignored : RecordingService.push frame r.service = r.service := if_pos idle.state
      rw [Lawful, RecordingRun.step, ignored]
      · exact ⟨.inl ⟨idle.state, idle.recorder, idle.videoPath, idle.thumbnailPath, idle.lastFrame⟩, rfl⟩
      all_goals simp
  · cases call with
    | startRecording video thumbnail enoughSpace comesUp =>
      rw [Lawful, RecordingRun.step, active.start]
      exact ⟨.inr active, iff_of_false Bool.false_ne_true fun met => active.state met.1, nofun, fun _ => rfl, rfl⟩
    | pause => exact ⟨.inr active.pause.1, active.pause.2⟩
    | resume => exact ⟨.inr active.resume.1, active.resume.2⟩
    | stop written =>
      obtain ⟨idle, files, thumbnail⟩ := active.stop written
      refine ⟨.inl idle, ?_⟩
      rw [Lawful, if_neg active.state]
      exact ⟨files, thumbnail⟩
    | push frame => exact ⟨.inr (active.push frame).1, (active.push frame).2⟩

theorem start_agrees : Agrees {} := .inl ⟨rfl, ⟨rfl, rfl, rfl, rfl⟩, rfl, rfl, rfl⟩

/-- **The recording trace law.** After every sequence of calls the service and the recorder are in
step, and every call of it did what the take so far says. -/
theorem recording_trace (calls : List RecordingCall) :
    Consistent (calls.foldl RecordingRun.step {}) ∧ Runs.Along RecordingRun.step Lawful {} calls := by
  constructor
  · apply Agrees.consistent
    exact Runs.foldl_inv' (I := Agrees) (fun r call h => (Agrees.step h call).1) calls start_agrees
  · apply Runs.along_of_inv (I := Agrees)
    · exact fun r call h => (Agrees.step h call).1
    · exact fun r call h => (Agrees.step h call).2
    · exact start_agrees

end RecordingRun

end SstCam
