import Mathlib.Algebra.Group.Nat.Defs
import SstCam.Storage.RecordingService

/-!
# GstContinuousRecorder

The recorder behind `RecordingService` (`adapters/storage/gstreamer/gst-continuous-recorder`): an
appsrc that leads through the encoder and the muxer into one file. What is pushed to the appsrc is
what GStreamer writes. A buffer is a copy of the plane it was filled from, and is known by it.
-/

namespace SstCam
set_option autoImplicit false

def gstFormatFor : PixelFormat → String
  | .bgr8 => "BGR"
  | .rgb8 => "RGB"
  | .bgra8 => "BGRA"
  | .rgba8 => "RGBA"
  | .gray8 => "GRAY8"
  | .nv12 => "NV12"
  | .i420 => "I420"
  | .yuyv => "YUY2"

/-- The `video/x-raw` caps of an appsrc; GStreamer's integers are signed. -/
structure GstCaps where
  format : String
  width : Int
  height : Int
  framerate : Nat
  deriving DecidableEq, Repr

/-- A recording pipeline, by its filesink and its appsrc. -/
structure RecordingPipeline where
  location : String
  caps : Option GstCaps := none
  buffers : List FramePlane := []
  deriving DecidableEq, Repr

structure RecordedFile where
  location : String
  buffers : List FramePlane
  deriving DecidableEq, Repr

/-- `files` are the files the muxer finalised, the last one at the end. -/
structure GstContinuousRecorder where
  pipeline : Option RecordingPipeline := none
  running : Bool := false
  paused : Bool := false
  capsSet : Bool := false
  files : List RecordedFile := []
  deriving DecidableEq, Repr

namespace GstContinuousRecorder

def teardown (r : GstContinuousRecorder) : GstContinuousRecorder :=
  { r with pipeline := none, running := false, paused := false, capsSet := false }

/-- `comesUp`: the description parses, the appsrc is found and the pipeline takes the state
PLAYING. -/
def start (outputMp4 : String) (comesUp : Bool) (r : GstContinuousRecorder) : GstContinuousRecorder × Bool :=
  if r.running then (r, false)
  else if !comesUp then (r.teardown, false)
  else
    ({ r with pipeline := some { location := outputMp4 }, capsSet := false, paused := false, running := true }, true)

def pause (r : GstContinuousRecorder) : GstContinuousRecorder :=
  { r with paused := true }

/-- The key unit that is forced here changes how the frames are encoded, not which. -/
def resume (r : GstContinuousRecorder) : GstContinuousRecorder :=
  if !r.running then r
  else { r with paused := false }

/-- The end of the stream makes the muxer finalise the file. -/
def stop (r : GstContinuousRecorder) : GstContinuousRecorder × Bool :=
  if !r.running then (r, false)
  else
    ({ r.teardown with
        files := r.files ++ (r.pipeline.map fun p => { location := p.location, buffers := p.buffers }).toList }, true)

def capsOf (frame : Frame) : GstCaps where
  format := gstFormatFor frame.format
  width := (frame.geometry.width : Int).bmod (2 ^ 32)
  height := (frame.geometry.height : Int).bmod (2 ^ 32)
  framerate := 30

/-- A frame sets the caps if none did before, and leaves its first plane. -/
def push (frame : Frame) (r : GstContinuousRecorder) : GstContinuousRecorder :=
  match frame.planes with
  | [] => r
  | plane :: _ =>
    match r.pipeline with
    | none => r
    | some pipeline =>
      if !r.running ∨ r.paused then r
      else
        { r with
          capsSet := true
          pipeline := some
            { pipeline with
              caps := if r.capsSet then pipeline.caps else some (capsOf frame)
              buffers := pipeline.buffers ++ [plane] } }

instance : IContinuousRecorder GstContinuousRecorder where
  start r outputMp4 comesUp := r.start outputMp4 comesUp
  pause r := r.pause
  resume r := r.resume
  stop r := r.stop
  isRunning r := r.running
  push r frame := r.push frame

/-! ## Recorders in order -/

/-- Nothing is left of a recorder that does not run. -/
def AtRest (r : GstContinuousRecorder) : Prop :=
  r.running = false ∧ r.pipeline = none ∧ r.paused = false ∧ r.capsSet = false

theorem AtRest.teardown {r : GstContinuousRecorder} (h : r.AtRest) : r.teardown = r := by
  obtain ⟨pipeline, running, paused, capsSet, files⟩ := r
  obtain ⟨rfl, rfl, rfl, rfl⟩ := h
  rfl

/-- A recorder at rest that does not come up stays as it was. -/
theorem AtRest.start_false {r : GstContinuousRecorder} (h : r.AtRest) (outputMp4 : String) :
    r.start outputMp4 false = (r, false) := by
  rw [start, h.1, h.teardown]
  rfl

/-- The recorder runs, is paused or not, and has this for its file so far. -/
structure Recording (r : GstContinuousRecorder) (paused : Bool) (file : RecordedFile) : Prop where
  running : r.running = true
  paused : r.paused = paused
  pipeline : r.pipeline.map (fun p => ({ location := p.location, buffers := p.buffers } : RecordedFile)) = some file

theorem AtRest.start_true {r : GstContinuousRecorder} (h : r.AtRest) (outputMp4 : String) :
    (r.start outputMp4 true).2 = true ∧ (r.start outputMp4 true).1.files = r.files ∧
      (r.start outputMp4 true).1.Recording false { location := outputMp4, buffers := [] } := by
  rw [start, h.1]
  exact ⟨rfl, rfl, rfl, rfl, rfl⟩

variable {r : GstContinuousRecorder} {paused : Bool} {file : RecordedFile}

theorem Recording.pause (h : r.Recording paused file) : r.pause.Recording true file := ⟨h.running, rfl, h.pipeline⟩

theorem Recording.resume (h : r.Recording paused file) : r.resume.Recording false file := by
  unfold GstContinuousRecorder.resume
  rw [h.running]
  exact ⟨rfl, rfl, h.pipeline⟩

theorem Recording.stop (h : r.Recording paused file) :
    r.stop.2 = true ∧ r.stop.1.AtRest ∧ r.stop.1.files = r.files ++ [file] := by
  unfold GstContinuousRecorder.stop
  rw [h.running, h.pipeline]
  exact ⟨rfl, ⟨rfl, rfl, rfl, rfl⟩, rfl⟩

/-- Paused, a frame is dropped. -/
theorem Recording.push_paused (h : r.Recording true file) (frame : Frame) : r.push frame = r := by
  unfold GstContinuousRecorder.push
  split
  · rfl
  · split
    · rfl
    · rw [if_pos (.inr h.paused)]

/-- Otherwise the file grows by the frame's first plane, if it has one. -/
theorem Recording.push (h : r.Recording false file) (frame : Frame) :
    (r.push frame).Recording false { file with buffers := file.buffers ++ frame.planes.head?.toList } := by
  obtain ⟨pipeline, piped, rfl⟩ := Option.map_eq_some_iff.1 h.pipeline
  unfold GstContinuousRecorder.push
  rw [piped]
  cases frame.planes with
  | nil => exact ⟨h.running, h.paused, by simp [piped]⟩
  | cons plane planes =>
    dsimp only
    rw [h.running, h.paused]
    exact ⟨rfl, rfl, rfl⟩

theorem push_files (frame : Frame) (r : GstContinuousRecorder) : (r.push frame).files = r.files := by
  unfold push
  repeat' split
  all_goals rfl

end GstContinuousRecorder

end SstCam
